import ScriptTree.Catalog.Standard
import ScriptTree.Editor.History
import ScriptTree.Form.Catalog
import ScriptTree.Form.View
import ScriptTree.Form.Script
import ScriptTree.Json.Reader
import ScriptTree.Main
import ScriptTree.Proofs.Arena.Insertions
import ScriptTree.Proofs.Catalog.Agreement
import ScriptTree.Proofs.Editor.Determined
import ScriptTree.Proofs.Editor.Paths
import ScriptTree.Proofs.Editor.Persistence
import ScriptTree.Proofs.Editor.RoundTrip
import ScriptTree.Proofs.Editor.Selecting
import ScriptTree.Proofs.Editor.Updating
import ScriptTree.Proofs.Editor.Verdict
import ScriptTree.Proofs.Form.Catalog
import ScriptTree.Proofs.Form.Lossless
import ScriptTree.Proofs.Catalog.Acceptance
import ScriptTree.Proofs.Tree.Grammar
import ScriptTree.Proofs.Editor.Numbering
import ScriptTree.Proofs.Tree.Endless
import ScriptTree.Proofs.Editor.Commuting
import ScriptTree.Proofs.Form.Fingerprint
import ScriptTree.Proofs.Tree.FirstFault
import ScriptTree.Proofs.Tree.ViewLowering
import ScriptTree.Proofs.Catalog.Extension
import ScriptTree.Proofs.Catalog.Reordering
import ScriptTree.Proofs.Tree.Normalization
import ScriptTree.Proofs.Tree.Descending
