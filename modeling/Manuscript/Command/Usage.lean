/-!
# Usage

Why a command line is no command. Either help is asked for, or there is a
mistake in the arguments. In both cases it is shown how the program is used,
and only help that was asked for is no failure.

## Main definitions

* `Usage`: Why a command line is no command.
* `Usage.exitStatus`: What the program ends with.
* `Usage.text`: How the program is used.
-/

namespace Manuscript

/-- Why a command line is no command: help is asked for, or there is a mistake. -/
inductive Usage where
  | help
  | version
  /-- There are no arguments, so help is shown. -/
  | helpForNothing
  /-- There are flags but no command. -/
  | missingCommand
  | unknownCommand
  | unknownArgument
  | missingParameter
  /-- A parameter has no value, or one that it cannot have. -/
  | invalidValue
  /-- A flag has a value. -/
  | flagWithValue
  /-- A flag or a parameter is given twice. -/
  | repeated
deriving DecidableEq, Repr

namespace Usage

/-- The exit status. Help that was asked for is no failure. -/
def exitStatus : Usage → Nat
  | help => 0
  | version => 0
  | _ => 2

/-- How the program is used. -/
def text : String :=
  "Usage: manuscript [-v] COMMAND FILE [ARGUMENTS]\n\n" ++
  "  outline FILE                 print the numbered outline\n" ++
  "  formals FILE [-k KIND]       list the formal items\n" ++
  "  footnotes FILE               list the footnotes\n" ++
  "  lookup FILE ID               find the element with an identifier\n" ++
  "  navigate FILE [SEGMENT]      show the neighbours of a segment\n" ++
  "  report FILE [-f yaml|json] [-o OUTPUT]\n" ++
  "                               write a report\n"

/-- The name and version of the program. -/
def versionLine : String := "manuscript 0.1.0\n"

/-- What is wrong with a command line, on a line of its own; nothing for help. -/
def comment : Usage → String
  | help => ""
  | version => ""
  | helpForNothing => ""
  | missingCommand => "A command is missing.\n"
  | unknownCommand => "There is no such command.\n"
  | unknownArgument => "An argument is not known.\n"
  | missingParameter => "An argument is missing.\n"
  | invalidValue => "A value is missing or not possible.\n"
  | flagWithValue => "A flag has a value.\n"
  | repeated => "An argument is given twice.\n"

end Usage

end Manuscript
