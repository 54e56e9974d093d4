import Manuscript.Command
import Manuscript.Command.Listing
import Manuscript.Command.Path
import Manuscript.Numbering
import Manuscript.Report

/-!
# Running Commands

Carrying out a command. The document is loaded from its file: the size of the
file is looked at before it is read, then the text is read as a draft, and the
draft is numbered. What the command shows is printed at the end, when nothing
can fail any more.

A report is saved in three steps, so that the file holds the old content or the
new and never a part of it: a temporary file is created beside the file, the
report is written to it, and it takes the place of the file.

What a command needs from around it is a parameter, `Surroundings`. The program
gives it the files and the terminal; `Workspace` is a model to reason with.

## Main definitions

* `Surroundings`: Files and a terminal.
* `Surroundings.load`: Loads and numbers a document.
* `Surroundings.save`: Saves a report.
* `Surroundings.run`: Carries out a command.
-/

namespace Manuscript

/-- What can be done to files and to a terminal. Paths are texts. -/
structure Surroundings (m : Type → Type) where
  /-- The size of a file in bytes. -/
  size : String → m (Except FileFault Nat)
  /-- The bytes of a file. -/
  read : String → m (Except FileFault ByteArray)
  /-- Creates an empty file, or empties the file that is there. -/
  create : String → m (Except FileFault Unit)
  /-- Writes text to an empty file and makes sure that it stays there. -/
  write : String → String → m (Except FileFault Unit)
  /-- Moves a file to where another may be, whose place it takes. -/
  rename : String → String → m (Except FileFault Unit)
  /-- Prints the result of a command. -/
  print : String → m Unit
  /-- Prints on the side what is no result. -/
  printAside : String → m Unit

namespace Surroundings

variable {m : Type → Type} [Monad m]

/-- Does something to a file, and fails if there is a fault. -/
def attempt {α : Type} (operation : m (Except FileFault α)) : ExceptT Failure m α :=
  ExceptT.mk (do return (← operation).mapError .file)

/-- Goes on with a result, or fails if there is none. -/
def conclude {α : Type} (result : Except Failure α) : ExceptT Failure m α :=
  ExceptT.mk (pure result)

/-- The text of a file's bytes. -/
def decode (bytes : ByteArray) : Except Failure String :=
  match String.fromUTF8? bytes with
  | some text => .ok text
  | none => .error (.file .notText)

/-- The numbered document of a text. -/
def documentOf (text : String) : Except Failure Document := do
  let draft ← (Draft.Document.read text).mapError .draft
  (draft.enumerate).mapError .duplicate

/-- Loads and numbers the document of a file. -/
def load (s : Surroundings m) (file : String) : ExceptT Failure m Document := do
  let size ← attempt (s.size file)
  conclude ((Draft.checkSize size).mapError .draft)
  let bytes ← attempt (s.read file)
  let text ← conclude (decode bytes)
  conclude (documentOf text)

/-- Saves a text to a file by way of a temporary one. -/
def save (s : Surroundings m) (path text : String) : ExceptT Failure m Unit := do
  attempt (s.create (Path.temporary path))
  attempt (s.write (Path.temporary path) text)
  attempt (s.rename (Path.temporary path) path)

/-- The report of a document as text. -/
def reportText (format : ReportFormat) (d : Document) : String :=
  match format with
  | .yaml => (Report.ofDocument d).yaml
  | .json => (Report.ofDocument d).json

/-- The text that an action prints. -/
def textOf (colored : Bool) (d : Document) : Action → Except Failure String
  | .outline => .ok (d.outlineListing colored)
  | .formals kind? => .ok (d.formalItemListing colored kind?)
  | .footnotes => .ok d.footnoteListing
  | .lookup id => d.elementListing colored id
  | .navigate segment? => d.neighbourListing colored segment?
  | .report format _ => .ok (reportText format d)

/-- The line that tells where a report was saved. -/
def savedLine (colored : Bool) (path : String) : String :=
  Text.Style.boldGreen.paint colored "Saved to:" ++ " " ++ path ++ "\n"

/-- Carries out a command, on a terminal with or without colours. -/
def run (s : Surroundings m) (colored : Bool) (c : Command) : ExceptT Failure m Unit := do
  let d ← s.load c.file
  let text ← conclude (textOf colored d c.action)
  match c.action with
  | .report _ (some path) => do
    s.save path text
    s.printAside (savedLine colored path)
  | _ => s.print text

end Surroundings

end Manuscript
