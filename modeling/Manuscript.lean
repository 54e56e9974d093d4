import Manuscript.Number.Order
import Manuscript.Number.Segment
import Manuscript.Number.Depth
import Manuscript.Draft.WellFormed
import Manuscript.Draft.Reading
import Manuscript.Numbering
import Manuscript.Numbered.PlainText
import Manuscript.Numbered.Navigation
import Manuscript.Json.Printer
import Manuscript.Json.Reader
import Manuscript.Report
import Manuscript.Command.Arguments
import Manuscript.Command.Workspace
import Manuscript.Main
import Manuscript.Proofs.Draft.WellFormed
import Manuscript.Proofs.Text.Numeral
import Manuscript.Proofs.Yaml.Nesting
import Manuscript.Proofs.Yaml.Records
import Manuscript.Proofs.Yaml.Words
import Manuscript.Proofs.Draft.Writing
import Manuscript.Proofs.Draft.RoundTrip
import Manuscript.Proofs.Content.Notes
import Manuscript.Proofs.Content.Numbered
import Manuscript.Proofs.Content.Renumbered
import Manuscript.Proofs.Numbering.Listing
import Manuscript.Proofs.Numbering.Place
import Manuscript.Proofs.Numbering.Structure
import Manuscript.Proofs.Numbering.Gathering
import Manuscript.Proofs.Numbering.Positions
import Manuscript.Proofs.Numbering.Footnotes
import Manuscript.Proofs.Index.Identifiers
import Manuscript.Proofs.Numbering.Identifiers
import Manuscript.Proofs.Text.ByteOrder
import Manuscript.Proofs.Number.Comparison
import Manuscript.Proofs.Number.Printed
import Manuscript.Proofs.Numbering.Order
import Manuscript.Proofs.Numbering.Resolution
import Manuscript.Proofs.Index.Kinds
import Manuscript.Proofs.Numbering.Erasure
import Manuscript.Proofs.Numbering.Kinds
import Manuscript.Proofs.Numbering.Lookup
import Manuscript.Proofs.Numbering.Families
import Manuscript.Proofs.Numbering.Descriptions
import Manuscript.Proofs.Numbering.SectionFootnotes
import Manuscript.Proofs.Navigation.Linked
import Manuscript.Proofs.Navigation.Lookup
import Manuscript.Proofs.Navigation.ReadingOrder
import Manuscript.Proofs.Report.Outline
import Manuscript.Proofs.Report.Consistency
import Manuscript.Proofs.Numbering.ReadingOrder
import Manuscript.Proofs.Numbering.Renumbered
import Manuscript.Proofs.Index.Growth
import Manuscript.Proofs.Numbering.Context
import Manuscript.Proofs.Text.Lines
import Manuscript.Proofs.Yaml.Tidy
import Manuscript.Proofs.Yaml.Cursor
import Manuscript.Proofs.Yaml.Scalar.Escape
import Manuscript.Proofs.Yaml.Scalar.Quoted
import Manuscript.Proofs.Yaml.Scalar.Plain
import Manuscript.Proofs.Yaml.Scalar.Literal
import Manuscript.Proofs.Yaml.Printed
import Manuscript.Proofs.Yaml.Token.Scanning
import Manuscript.Proofs.Yaml.Token.Scalars
import Manuscript.Proofs.Yaml.Token.Printed
import Manuscript.Proofs.Yaml.Readable
import Manuscript.Proofs.Yaml.Node.Composing
import Manuscript.Proofs.Report.ReadBack
import Manuscript.Proofs.Command.Disk
import Manuscript.Proofs.Command.Running
import Manuscript.Proofs.Command.Listing
import Manuscript.Proofs.Json.ReadBack
import Manuscript.Proofs.Report.Json
import Manuscript.Proofs.Yaml.Entries
import Manuscript.Proofs.Yaml.Variation
import Manuscript.Proofs.Yaml.Carrying
import Manuscript.Proofs.Draft.Variation
import Manuscript.Proofs.Yaml.Orderly
import Manuscript.Proofs.Number.Composition
import Manuscript.Proofs.Text.Blank
import Manuscript.Proofs.Number.Segment
import Manuscript.Proofs.Numbering.SegmentNames
import Manuscript.Proofs.Content.PlainText
import Manuscript.Proofs.Command.Footnotes
import Manuscript.Proofs.Index.AnyOrder
import Manuscript.Proofs.Index.FirstCome
import Manuscript.Proofs.Number.Spelling
import Manuscript.Proofs.Number.Hierarchy
