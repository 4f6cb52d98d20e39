import ChangeApply.DryRun
import ChangeApply.Log.Line
import ChangeApply.Proofs.Accounting
import ChangeApply.Proofs.Addressing
import ChangeApply.Proofs.Batches
import ChangeApply.Proofs.Correlation
import ChangeApply.Proofs.DeclaredColumns
import ChangeApply.Proofs.Deletion
import ChangeApply.Proofs.Encodings
import ChangeApply.Proofs.ExactlyOnce
import ChangeApply.Proofs.InsertPolicies
import ChangeApply.Proofs.Ledger
import ChangeApply.Proofs.Polling
import ChangeApply.Proofs.Protocol
import ChangeApply.Proofs.SettingsForms
import ChangeApply.Proofs.Updating
import ChangeApply.Proofs.WholeBlocks
