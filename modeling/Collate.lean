import Collate.Host.Snapshot
import Collate.Main
import Collate.Proofs.CommandLine.Criteria
import Collate.Proofs.CommandLine.Execute
import Collate.Proofs.CommandLine.Numeral
import Collate.Proofs.Config.Format
import Collate.Proofs.Document
import Collate.Proofs.Document.Natural
import Collate.Proofs.Inspect
import Collate.Proofs.Json.Natural
import Collate.Proofs.Number.Numeral
import Collate.Proofs.Path.Cuts
import Collate.Proofs.Path.Display
import Collate.Proofs.Path.Evaluate
import Collate.Proofs.Session
import Collate.Proofs.Sort.Cycle
import Collate.Proofs.Sort.Existential
import Collate.Proofs.Sort.Extraction
import Collate.Proofs.Sort.Inversion
import Collate.Proofs.Sort.Missing
import Collate.Proofs.Sort.Sorting
import Collate.Proofs.Toml.Header
import Collate.Proofs.Value.Missing
