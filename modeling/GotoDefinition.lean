import GotoDefinition.Main
import GotoDefinition.LogFilter
import GotoDefinition.Proofs.Hierarchy.Collects
import GotoDefinition.Proofs.Hierarchy.Reachable
import GotoDefinition.Proofs.Hierarchy.PlainLookup
import GotoDefinition.Proofs.Hierarchy.Interfaces
import GotoDefinition.Proofs.Hierarchy.Locality
import GotoDefinition.Proofs.Occurrences
import GotoDefinition.Proofs.Rendering
import GotoDefinition.Proofs.TypeDefinition
import GotoDefinition.Proofs.Run
import GotoDefinition.Proofs.Modes
import GotoDefinition.Proofs.Targets
import GotoDefinition.Proofs.Receiver
import GotoDefinition.Proofs.Consultation
import GotoDefinition.Proofs.ClosureCalls
import GotoDefinition.Proofs.Beginning
import GotoDefinition.Proofs.Composition
import GotoDefinition.Proofs.Relevance
import GotoDefinition.Proofs.Spelling.Names
import GotoDefinition.Proofs.Spelling.Nodes
import GotoDefinition.Proofs.UnionReceiver
import GotoDefinition.Proofs.Naming.Aliases
import GotoDefinition.Proofs.Naming.Paths
import GotoDefinition.Proofs.Naming.Classes
import GotoDefinition.Proofs.Naming.ReservedWords
import GotoDefinition.Proofs.Naming.Globals
import GotoDefinition.Proofs.Naming.Rooted
import GotoDefinition.Proofs.Provenance
import GotoDefinition.Proofs.RoundTrip.Types
import GotoDefinition.Proofs.FirstDeclaration
import GotoDefinition.Proofs.RoundTrip.Tokens
import GotoDefinition.Proofs.RoundTrip.Values
import GotoDefinition.Proofs.RoundTrip.Structures
import GotoDefinition.Proofs.Scopes
import GotoDefinition.Proofs.RoundTrip.Contexts
import GotoDefinition.Proofs.RoundTrip.Nodes
import GotoDefinition.Proofs.UnionText.Grammar
import GotoDefinition.Proofs.UnionText.Reading
import GotoDefinition.Proofs.UnionText.Merging
import GotoDefinition.Proofs.VariableTable
import GotoDefinition.Proofs.Repetition
import GotoDefinition.Proofs.Naming.ByteOrder
import GotoDefinition.Proofs.Naming.ImportOrder
import GotoDefinition.Proofs.UnionLaws
import GotoDefinition.Proofs.MissingNames
import GotoDefinition.Proofs.Naming.Canonical
