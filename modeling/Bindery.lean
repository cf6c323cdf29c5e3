import Bindery.Description.Encode
import Bindery.Main
import Bindery.Native.Flags
import Bindery.Native.Handle
import Bindery.Native.Inline
import Bindery.Native.Input
import Bindery.Native.View
import Bindery.Proofs.Lifetime
import Bindery.Proofs.Resolution
import Bindery.Proofs.Blueprint
import Bindery.Proofs.Reference
import Bindery.Proofs.Termination
import Bindery.Proofs.Analysis
import Bindery.Proofs.Spelling
import Bindery.Proofs.Layout
import Bindery.Proofs.Zeroing
import Bindery.Proofs.Arguments
import Bindery.Proofs.History
import Bindery.Proofs.Flagged
import Bindery.Proofs.RawSplit
import Bindery.Proofs.Borrowing
import Bindery.Proofs.ShapeLifetime
import Bindery.Proofs.Ownership
import Bindery.Proofs.Linkage
import Bindery.Proofs.Pairing
import Bindery.Proofs.Freshness
import Bindery.Proofs.Redeclaration
import Bindery.Proofs.Reordering
import Bindery.Proofs.Naming
import Bindery.Proofs.Spelled
import Bindery.Proofs.Closure
import Bindery.Proofs.FunctionPointer
import Bindery.Proofs.Lowering
import Bindery.Proofs.Saving
import Bindery.Proofs.Counting
import Bindery.Proofs.Selection
import Bindery.Proofs.Callback
import Bindery.Proofs.Emission
import Bindery.Proofs.Initializer
import Bindery.Proofs.Mutability
import Bindery.Proofs.Scoping
import Bindery.Proofs.Forwarding
import Bindery.Proofs.Transparency
import Bindery.Proofs.Enumeration
import Bindery.Proofs.Representation
import Bindery.Proofs.Lifecycle
import Bindery.Proofs.Sweeping
import Bindery.Proofs.Casing
import Bindery.Proofs.Dispatch
import Bindery.Proofs.Identifier
import Bindery.Proofs.Definition
import Bindery.Proofs.PascalCase
import Bindery.Proofs.FlagText
import Bindery.Proofs.Nesting
import Bindery.Proofs.InlineText
import Bindery.Proofs.Grouping
