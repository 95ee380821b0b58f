import FrameworkLint.Dialect
import FrameworkLint.Distribution
import FrameworkLint.Field.Attempts
import FrameworkLint.ImportScope
import FrameworkLint.Linter
import FrameworkLint.Main
import FrameworkLint.SkipList
import FrameworkLint.Stub.Catalog
import FrameworkLint.Proofs.Field.Relation
import FrameworkLint.Proofs.Hierarchy.Termination
import FrameworkLint.Proofs.ImportScope.Exemption
import FrameworkLint.Proofs.Interchange
import FrameworkLint.Proofs.Member.Ownership
import FrameworkLint.Proofs.Model.Abstract
import FrameworkLint.Proofs.Recovery
import FrameworkLint.Proofs.Repetition
import FrameworkLint.Proofs.Role.NearestScope
import FrameworkLint.Proofs.Rule.ModuleConstants
import FrameworkLint.Proofs.Rule.PublicMethods
import FrameworkLint.Proofs.Rule.RelatedSets
import FrameworkLint.Proofs.SkipList
import FrameworkLint.Proofs.Stub.Append
