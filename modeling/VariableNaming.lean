import VariableNaming.Derivation.Inquiry
import VariableNaming.Digraph.Reach
import VariableNaming.LogFormat
import VariableNaming.Proofs.Adapter.Nearest
import VariableNaming.Proofs.Derivation.Declaration
import VariableNaming.Proofs.Derivation.Failure
import VariableNaming.Proofs.Derivation.Plural
import VariableNaming.Proofs.Derivation.Separators
import VariableNaming.Proofs.Derivation.Stability
import VariableNaming.Proofs.ElementType.Borrowed
import VariableNaming.Proofs.ElementType.Coherent
import VariableNaming.Proofs.ElementType.Lost
import VariableNaming.Proofs.Identifier.FirstLetter
import VariableNaming.Proofs.Identifier.Words
import VariableNaming.Proofs.Letter.CaseImage
import VariableNaming.Proofs.TypeStore.Bookkeeping
import VariableNaming.Proofs.TypeStore.Closed
import VariableNaming.Proofs.TypeStore.CollectionLike
import VariableNaming.Proofs.TypeStore.Grown
import VariableNaming.Proofs.TypeStore.ShortName
import VariableNaming.Proofs.Value.ArrayClass
import VariableNaming.Proofs.Value.Normalization
import VariableNaming.RegistryConfig.Build
import VariableNaming.Proofs.Derivation.Fallback
import VariableNaming.Proofs.Derivation.Typed
import VariableNaming.Proofs.Json.StringSpelling
import VariableNaming.Proofs.Json.TextSpelling
import VariableNaming.Proofs.RegistryConfig.Spelling
import VariableNaming.Proofs.RegistryConfig.RoundTrip
import VariableNaming.Proofs.RegistryConfig.Registration
import VariableNaming.Proofs.Derivation.Interning
import VariableNaming.Proofs.Derivation.Unwrapping
import VariableNaming.Proofs.TypeRef.Substitution
import VariableNaming.Proofs.TypeStore.Classification
import VariableNaming.Proofs.Derivation.FirstElement
import VariableNaming.Proofs.Derivation.Mismatch
import VariableNaming.Proofs.Derivation.Sources
import VariableNaming.Proofs.ElementType.Parameters
import VariableNaming.Proofs.TypeStore.HierarchySearch
