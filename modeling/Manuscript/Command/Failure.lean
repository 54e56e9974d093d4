import Manuscript.Draft.Reading
import Manuscript.Index.Identifiers
import Manuscript.Number.Segment

/-!
# Failures

Why a command that was understood has no result: a file cannot be used, its
text is no draft, two elements claim one identifier, or what is asked for is
not in the document.

## Main definitions

* `FileFault`: Why a file cannot be used.
* `Failure`: Why a command has no result.
* `Failure.message`: The failure as a sentence.
-/

namespace Manuscript

/-- Why something cannot be done to a file. -/
inductive FileFault where
  | notFound
  /-- A file stands where the path asks for a folder. -/
  | notFolder
  /-- A folder stands where a file is asked for. -/
  | isFolder
  /-- A folder that is in use stands where a file is asked for. -/
  | inUse
  /-- A name in the path, or the path itself, is longer than the system allows. -/
  | nameTooLong
  /-- The path holds a character that no path can hold. -/
  | nulInPath
  /-- The bytes of the file are not text in UTF-8. -/
  | notText
  /-- Anything else, in the words of the system. -/
  | other (message : String)
deriving DecidableEq, Repr

/-- The fault as the system puts it. -/
def FileFault.message : FileFault → String
  | notFound => "No such file or directory (os error 2)"
  | inUse => "Device or resource busy (os error 16)"
  | notFolder => "Not a directory (os error 20)"
  | isFolder => "Is a directory (os error 21)"
  | nameTooLong => "File name too long (os error 36)"
  | nulInPath => "file name contained an unexpected NUL byte"
  | notText => "stream did not contain valid UTF-8"
  | other message => message

/-- The sentence for a text or a number that names no segment of the document. -/
def invalidSegmentMessage (text : String) : String :=
  "Invalid segment: '" ++ text ++ "'. Expected N or P.S (e.g., 3 or 2.1)"

/-- The error as a sentence. -/
def SegmentError.message : SegmentError → String
  | malformed text => invalidSegmentMessage text
  | zero e => "Invalid structural number: " ++ e.message

/-- The error as a sentence; there is none for text that is not YAML. -/
def YamlError.message? : YamlError → Option String
  | malformed => none
  | failure f => some ("YAML error: " ++ f.message)

/-- The error as a sentence; there is none for text that is not YAML. -/
def Draft.ReadError.message? : Draft.ReadError → Option String
  | tooLarge size => some ("Document too large: " ++ toString size ++ " bytes (limit " ++
      toString sizeLimit ++ ")")
  | yaml e => e.message?
  | empty e => some e.message

/-- Why a command has no result. -/
inductive Failure where
  | file (fault : FileFault)
  | draft (error : Draft.ReadError)
  | duplicate (error : DuplicateIdentifier)
  /-- No element carries the identifier. -/
  | unknownIdentifier (id : String)
  | segment (error : SegmentError)
  /-- The document has no segment of this number. -/
  | noSegment (number : SegmentNumber)
deriving DecidableEq, Repr

/-- The failure as a sentence; there is none for text that is not YAML. -/
def Failure.message? : Failure → Option String
  | file fault => some ("IO error: " ++ fault.message)
  | draft e => e.message?
  | duplicate e => some e.message
  | unknownIdentifier id => some ("Unknown identifier: '" ++ id ++ "'")
  | segment e => some e.message
  | noSegment n => some (invalidSegmentMessage n.text)

end Manuscript
