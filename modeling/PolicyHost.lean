import PolicyHost.Text.Utf8
import PolicyHost.Number.Decimal
import PolicyHost.Text.CellWidth
import PolicyHost.Binding
import PolicyHost.Main
import PolicyHost.Bundle
import PolicyHost.Configuration.File
import PolicyHost.Evaluation.Session
import PolicyHost.Guest.Engine
import PolicyHost.Guest.Address
import PolicyHost.Guest.Behaviour
import PolicyHost.Guest.Image
import PolicyHost.Logging
import PolicyHost.Payload
import PolicyHost.Json.Read
import PolicyHost.Json.Write
import PolicyHost.Remote.Script
import PolicyHost.Report
import PolicyHost.Schema.Strict
import PolicyHost.Value.Literal
import PolicyHost.Proofs.Ownership
import PolicyHost.Proofs.Checkpoints
import PolicyHost.Proofs.Equivalence
import PolicyHost.Proofs.Exclusion
import PolicyHost.Proofs.Footprint
import PolicyHost.Proofs.Finality
import PolicyHost.Proofs.Replacement
import PolicyHost.Proofs.Containment
import PolicyHost.Proofs.Blame
import PolicyHost.Proofs.Entrypoints
import PolicyHost.Proofs.Addressing
import PolicyHost.Proofs.Parity
import PolicyHost.Proofs.RoundTrip
import PolicyHost.Proofs.Echo
import PolicyHost.Proofs.Growth
import PolicyHost.Proofs.Steady
import PolicyHost.Proofs.Linkage
import PolicyHost.Proofs.Unopened
import PolicyHost.Proofs.Selection
import PolicyHost.Proofs.Datasets
import PolicyHost.Proofs.Loading
import PolicyHost.Proofs.Building
import PolicyHost.Proofs.Extent
import PolicyHost.Proofs.Reports
import PolicyHost.Proofs.ResultSets
import PolicyHost.Proofs.Exchanges
import PolicyHost.Proofs.Views
import PolicyHost.Proofs.Texts
