import ZoneKeeper.Main
import ZoneKeeper.Proofs.Serial.Line
import ZoneKeeper.Proofs.Text.Numeral
import ZoneKeeper.Proofs.Text.Utf8
import ZoneKeeper.Proofs.Zone.Render
import ZoneKeeper.Proofs.Zone.SerialLine
import ZoneKeeper.Plan.Synchronized
import ZoneKeeper.Proofs.FileTree
import ZoneKeeper.Proofs.Outcome
import ZoneKeeper.Proofs.Plan.Decision
import ZoneKeeper.Proofs.Zone.Lines
import ZoneKeeper.Proofs.Plan.Detection
import ZoneKeeper.Proofs.Plan.Writing
import ZoneKeeper.Proofs.Plan.Convergence
import ZoneKeeper.Proofs.Plan.History
import ZoneKeeper.Proofs.Plan.Foreign
import ZoneKeeper.Proofs.Zone.Published
import ZoneKeeper.Proofs.Plan.Update
import ZoneKeeper.Proofs.Declaration.Element
import ZoneKeeper.Proofs.Declaration.Loading
import ZoneKeeper.Proofs.MasterFile.Name
import ZoneKeeper.Proofs.MasterFile.Token
import ZoneKeeper.Proofs.MasterFile.Data
import ZoneKeeper.Proofs.MasterFile.Format
import ZoneKeeper.Proofs.MasterFile.Contract
import ZoneKeeper.Proofs.MasterFile.Reading
import ZoneKeeper.Proofs.MasterFile.Line
import ZoneKeeper.Proofs.MasterFile.Field
import ZoneKeeper.Proofs.MasterFile.Literal
import ZoneKeeper.Proofs.MasterFile.Entry
import ZoneKeeper.Proofs.MasterFile.Written
import ZoneKeeper.Proofs.MasterFile.Conformance
import ZoneKeeper.Proofs.MasterFile.Rendered
import ZoneKeeper.Proofs.MasterFile.Revision
import ZoneKeeper.Proofs.Text.Trim
import ZoneKeeper.Proofs.Declaration.Call
import ZoneKeeper.Proofs.Declaration.Declarable
import ZoneKeeper.Proofs.Zone.Order
import ZoneKeeper.Proofs.Zone.LineFeeds
import ZoneKeeper.Proofs.Plan.Placement
import ZoneKeeper.Proofs.Command.Arguments
import ZoneKeeper.Proofs.Command.DryRun
import ZoneKeeper.Proofs.Plan.Applied
import ZoneKeeper.Proofs.Plan.Partition
import ZoneKeeper.Proofs.Declaration.Session
import ZoneKeeper.Proofs.Declaration.Growth
import ZoneKeeper.Proofs.Spf.Reading
import ZoneKeeper.Proofs.Spf.Canonical
import ZoneKeeper.Proofs.Declaration.Refusal
import ZoneKeeper.Proofs.Spf.Form
import ZoneKeeper.Proofs.Serial.Cutting
import ZoneKeeper.Proofs.Plan.Successor
import ZoneKeeper.Proofs.Plan.Reordering
import ZoneKeeper.Proofs.Declaration.TextRecord
import ZoneKeeper.Proofs.Zone.Alignment
