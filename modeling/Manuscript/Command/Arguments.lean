import Manuscript.Command
import Manuscript.Command.Usage

/-!
# Arguments

Reading a command from the arguments of a command line. The first word is the
name of a command. What follows are its parameters: some are given by position,
others as options, `--kind figure`, `--kind=figure`, `-k figure`, `-k=figure` or
`-kfigure`. Flags have no value. They can stand before and after the name, and
several short ones can share a dash. After `--` everything is a word.

Arguments are read from the front, and the first mistake decides. The value of
an option can come with the next argument, so a parameter is only looked at
when the next known option, flag or word is met, or the arguments end. This is
why an unknown option is reported before a bad value in front of it.

## Main definitions

* `Argument`: The form of an argument.
* `CommandName`, `Parameter`: The commands and what they are given.
* `Command.ofArguments`: The command of a command line.
-/

namespace Manuscript

/-- The form of an argument. -/
inductive Argument where
  /-- A word, which is all that does not start with a dash. A lone dash is a word too. -/
  | word
  /-- Two dashes, after which there are only words. -/
  | separator
  /-- A long name, and a value after an equals sign. -/
  | long (name : List Char) (value? : Option String)
  /-- Short names that share a dash. -/
  | short (letters : List Char)
deriving DecidableEq, Repr

namespace Argument

/-- A long name and the value after the first equals sign. -/
def splitLong (cs : List Char) : Argument :=
  match cs.span (· ≠ '=') with
  | (name, []) => long name none
  | (name, _ :: value) => long name (some (String.ofList value))

/-- The form of an argument. -/
def classify (argument : String) : Argument :=
  match argument.toList with
  | ['-', '-'] => separator
  | '-' :: '-' :: cs => splitLong cs
  | '-' :: c :: cs => short (c :: cs)
  | _ => word

end Argument

/-- The commands. -/
inductive CommandName where
  | outline
  | formals
  | footnotes
  | lookup
  | navigate
  | report
deriving DecidableEq, Repr

/-- What commands are given. -/
inductive Parameter where
  | file
  | id
  | segment
  | kind
  | format
  | output
deriving DecidableEq, Repr

namespace Parameter

/-- Whether a text can be a value of the parameter. Paths are not empty. -/
def accepts : Parameter → String → Bool
  | file, value => !value.isEmpty
  | output, value => !value.isEmpty
  | format, value => value == "yaml" || value == "json"
  | id, _ => true
  | segment, _ => true
  | kind, _ => true

/-- The long name as an option. -/
def longName : Parameter → List Char
  | file => "file".toList
  | id => "id".toList
  | segment => "segment".toList
  | kind => "kind".toList
  | format => "format".toList
  | output => "output".toList

/-- The short name as an option. -/
def shortName (p : Parameter) : Option Char := p.longName.head?

end Parameter

namespace CommandName

/-- The command of a name. -/
def ofText? : String → Option CommandName
  | "outline" => some outline
  | "formals" => some formals
  | "footnotes" => some footnotes
  | "lookup" => some lookup
  | "navigate" => some navigate
  | "report" => some report
  | _ => none

/-- The parameters given by position. -/
def positionals : CommandName → List Parameter
  | outline => [.file]
  | formals => [.file]
  | footnotes => [.file]
  | lookup => [.file, .id]
  | navigate => [.file, .segment]
  | report => [.file]

/-- The parameters given as options. -/
def options : CommandName → List Parameter
  | formals => [.kind]
  | report => [.format, .output]
  | outline => []
  | footnotes => []
  | lookup => []
  | navigate => []

end CommandName

namespace Arguments

/-- What was read so far of a command's arguments. -/
structure Progress where
  /-- Whether the flag was set that asks for more to be told. -/
  verbose : Bool
  /-- The parameters that are settled. -/
  values : List (Parameter × String)
  /-- The parameter read last. The value of an option may still be missing. -/
  pending? : Option (Parameter × Option String)
  /-- The parameters that the next words give. -/
  expected : List Parameter

namespace Progress

/-- Settles a parameter, which needs a value that it accepts and may be given once. -/
def give (s : Progress) (p : Parameter) (value : String) : Except Usage Progress :=
  if (s.values.lookup p).isSome then .error .repeated
  else if p.accepts value then .ok { s with values := s.values ++ [(p, value)] }
  else .error .invalidValue

/-- Settles the parameter read last. -/
def settle (s : Progress) : Except Usage Progress :=
  match s.pending? with
  | none => .ok s
  | some (_, none) => .error .invalidValue
  | some (p, some value) => { s with pending? := none }.give p value

/-- Reads the flag that asks for more to be told. -/
def setVerbose (s : Progress) : Except Usage Progress := do
  let s ← s.settle
  if s.verbose then throw .repeated
  return { s with verbose := true }

/-- Reads the flag that asks for help. -/
def askHelp (s : Progress) : Except Usage Progress := do
  let _ ← s.settle
  throw .help

/-- Reads an option. A value that comes with it is settled at once. -/
def takeOption (s : Progress) (p : Parameter) (value? : Option String) :
    Except Usage Progress := do
  let s ← s.settle
  match value? with
  | some value => s.give p value
  | none => return { s with pending? := some (p, none) }

/-- Reads a word by its position. -/
def takePositional (s : Progress) (word : String) : Except Usage Progress :=
  match s.expected with
  | [] => .error .unknownArgument
  | p :: rest => do
    let s ← s.settle
    return { s with pending? := some (p, some word), expected := rest }

/-- Reads a word: the value of an option, or else a parameter by position. -/
def takeWord (s : Progress) (word : String) : Except Usage Progress :=
  match s.pending? with
  | some (p, none) => .ok { s with pending? := some (p, some word) }
  | _ => s.takePositional word

/-- Reads a long name, one of a flag or of an option. -/
def takeLong (options : List Parameter) (s : Progress) (name : List Char)
    (value? : Option String) : Except Usage Progress :=
  match options.find? (·.longName = name) with
  | some p => s.takeOption p value?
  | none =>
    if name = "verbose".toList then
      if value?.isSome then .error .flagWithValue else s.setVerbose
    else if name = "help".toList then
      if value?.isSome then .error .flagWithValue else s.askHelp
    else .error .unknownArgument

/-- Reads short names. What follows the name of an option is its value, without the equals sign
    that it may start with. -/
def takeShort (options : List Parameter) (s : Progress) : List Char → Except Usage Progress
  | [] => .ok s
  | c :: cs =>
    match options.find? (·.shortName = some c) with
    | some p =>
      match cs with
      | [] => s.takeOption p none
      | '=' :: value => s.takeOption p (some (String.ofList value))
      | value => s.takeOption p (some (String.ofList value))
    | none =>
      if c = 'v' then do
        let s ← s.setVerbose
        s.takeShort options cs
      else if c = 'h' then s.askHelp
      else .error .unknownArgument

/-- Reads the arguments of a command. -/
def take (options : List Parameter) (s : Progress) : List String → Except Usage Progress
  | [] => s.settle
  | argument :: rest =>
    match Argument.classify argument with
    | .separator => do
      let s ← rest.foldlM takePositional s
      s.settle
    | .long name value? => do
      let s ← s.takeLong options name value?
      s.take options rest
    | .short letters => do
      let s ← s.takeShort options letters
      s.take options rest
    | .word => do
      let s ← s.takeWord argument
      s.take options rest

/-- The value of a parameter that has to be given. -/
def need (s : Progress) (p : Parameter) : Except Usage String :=
  match s.values.lookup p with
  | some value => .ok value
  | none => .error .missingParameter

/-- What the command shows, as the parameters have it. -/
def action (s : Progress) : CommandName → Except Usage Action
  | .outline => .ok .outline
  | .formals => .ok (.formals (s.values.lookup .kind))
  | .footnotes => .ok .footnotes
  | .lookup => (s.need .id).map .lookup
  | .navigate => .ok (.navigate (s.values.lookup .segment))
  | .report =>
    let format := if s.values.lookup .format = some "json" then ReportFormat.json else .yaml
    .ok (.report format (s.values.lookup .output))

end Progress

/-- Reads a command of known name. -/
def readCommand (name : CommandName) (verbose : Bool) (arguments : List String) :
    Except Usage Command := do
  let s ← Progress.take name.options ⟨false, [], none, name.positionals⟩ arguments
  let file ← s.need .file
  let action ← s.action name
  return ⟨file, action, verbose || s.verbose⟩

/-- Whether the word stands where a command can be named. The command that shows help is one. -/
def isCommand (word : String) : Bool := word = "help" || (CommandName.ofText? word).isSome

/-- Reads the command that shows help, at most for one command. -/
def readHelp : List String → Usage
  | [] => .help
  | [name] => if isCommand name then .help else .unknownCommand
  | _ => .unknownCommand

/-- Reads short flags in front of the command. -/
def readFlags (verbose : Bool) : List Char → Except Usage Bool
  | [] => .ok verbose
  | 'v' :: rest => if verbose then .error .repeated else readFlags true rest
  | 'h' :: _ => .error .help
  | 'V' :: _ => .error .version
  | _ => .error .unknownArgument

/-- Reads a long flag in front of the command. -/
def readLongFlag (verbose : Bool) (name : List Char) (value? : Option String) :
    Except Usage Bool :=
  if name = "verbose".toList ∨ name = "help".toList ∨ name = "version".toList then
    if value?.isSome then .error .flagWithValue
    else if name = "help".toList then .error .help
    else if name = "version".toList then .error .version
    else if verbose then .error .repeated
    else .ok true
  else .error .unknownArgument

/-- Why there is no command at the end of the arguments. -/
def withoutCommand (verbose : Bool) : Usage := if verbose then .missingCommand else .helpForNothing

/-- Reads what follows `--` in front of a command. No command can be named there. -/
def readSeparated (verbose : Bool) : List String → Usage
  | [] => withoutCommand verbose
  | word :: _ => if isCommand word then .unknownArgument else .unknownCommand

/-- Reads flags up to the name of a command, and then the command. -/
def read (verbose : Bool) : List String → Except Usage Command
  | [] => .error (withoutCommand verbose)
  | argument :: rest =>
    match Argument.classify argument with
    | .separator => .error (readSeparated verbose rest)
    | .long name value? => do
      let verbose ← readLongFlag verbose name value?
      read verbose rest
    | .short letters => do
      let verbose ← readFlags verbose letters
      read verbose rest
    | .word =>
      match CommandName.ofText? argument with
      | some name => readCommand name verbose rest
      | none => .error (if argument = "help" then readHelp rest else .unknownCommand)

end Arguments

/-- The command of a command line, without the name of the program. -/
def Command.ofArguments (arguments : List String) : Except Usage Command :=
  Arguments.read false arguments

end Manuscript
