/-!
# Commands

What the program can be asked for. Every command reads one document and shows
something of it: the outline, the formal items, the footnotes, the element that
an identifier stands for, the neighbours of a segment, or the report, which can
also be saved to a file.

## Main definitions

* `Action`: What to show.
* `Command`: What to show of which document.
-/

namespace Manuscript

/-- The form a report is written in. -/
inductive ReportFormat where
  | yaml
  | json
deriving DecidableEq, Repr

/-- What to show of a document. -/
inductive Action where
  | outline
  /-- The formal items of one kind, or of all kinds. -/
  | formals (kind? : Option String)
  | footnotes
  | lookup (id : String)
  /-- The neighbours of a segment given in text, or else of the first one. -/
  | navigate (segment? : Option String)
  /-- The report, to a file or to the terminal. -/
  | report (format : ReportFormat) (target? : Option String)
deriving DecidableEq, Repr

/-- What to show of which document. -/
structure Command where
  /-- The path of the document. -/
  file : String
  action : Action
  /-- Whether to tell on the side what is done to files. -/
  verbose : Bool
deriving DecidableEq, Repr

end Manuscript
