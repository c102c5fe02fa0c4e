import ErDiagram.Text.Basic
import ErDiagram.Text.Blank
import ErDiagram.Text.Search
import ErDiagram.Text.Alphanumeric
import ErDiagram.Text.Numeral
import ErDiagram.Text.Binary64
import ErDiagram.Text.UpperCase
import ErDiagram.Text.Quoted
import ErDiagram.Text.Utf8
import ErDiagram.Line
import ErDiagram.Edit
import ErDiagram.Token
import ErDiagram.Comment
import ErDiagram.Name
import ErDiagram.Label
import ErDiagram.Grammar.Basic
import ErDiagram.Grammar.Builder
import ErDiagram.Reading
import ErDiagram.Report
import ErDiagram.Repair.Decision
import ErDiagram.Repair.Run
import ErDiagram.Log.Event
import ErDiagram.Log.Format
import ErDiagram.Log.Pattern.Setting
import ErDiagram.Log.Pattern.MemberSet
import ErDiagram.Log.Pattern
import ErDiagram.Log.Rule
import ErDiagram.Log.Filter
import ErDiagram.Log.Record
import ErDiagram.Repair.Trace
import ErDiagram.Detection
import ErDiagram.Difference
import ErDiagram.Command.Files
import ErDiagram.Command.Options
import ErDiagram.Command.Session
import ErDiagram.Main
import ErDiagram.Proofs.Text.Cut
import ErDiagram.Proofs.Text.Trim
import ErDiagram.Proofs.Edit
import ErDiagram.Proofs.Comment
import ErDiagram.Proofs.Gap
import ErDiagram.Proofs.Token
import ErDiagram.Proofs.Grammar
import ErDiagram.Proofs.Name
import ErDiagram.Proofs.Label
import ErDiagram.Proofs.Line
import ErDiagram.Proofs.Ending
import ErDiagram.Proofs.Reading.Relationship
import ErDiagram.Proofs.Reading.Header
import ErDiagram.Proofs.Repair.Effect
import ErDiagram.Proofs.Repair.Ending
import ErDiagram.Proofs.Repair.Seam
import ErDiagram.Proofs.Repair.Recovery
import ErDiagram.Proofs.Repair.LeftSide
import ErDiagram.Proofs.Repair.TrailingComment
import ErDiagram.Proofs.Repair.Transparent
import ErDiagram.Proofs.Repair.Modifier
import ErDiagram.Proofs.Repair.Twice
import ErDiagram.Proofs.Repair.Splice
import ErDiagram.Proofs.Repair.Trace
import ErDiagram.Proofs.Repair.Account
import ErDiagram.Proofs.Repair.Block
import ErDiagram.Proofs.NormalForm
import ErDiagram.Proofs.Document.Attribute
import ErDiagram.Proofs.Document.Run
import ErDiagram.Proofs.Difference
import ErDiagram.Proofs.Command.Session
import ErDiagram.Proofs.Grammar.Order
import ErDiagram.Proofs.Command.Confined
import ErDiagram.Proofs.Grammar.Canonical
import ErDiagram.Proofs.Token.Gaps
import ErDiagram.Proofs.Comment.Position
import ErDiagram.Proofs.Grammar.Modifier
import ErDiagram.Proofs.Detection
import ErDiagram.Proofs.Repair.Detection
import ErDiagram.Proofs.Edit.Simultaneous
import ErDiagram.Proofs.Label.Stages
import ErDiagram.Proofs.Repair.Joining
