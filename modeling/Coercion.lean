import Coercion.Column.Named
import Coercion.Cast.Making
import Coercion.Law
import Coercion.Registry.Session
import Coercion.Registry.Stock
import Coercion.Settings.Session
import Coercion.Settings.Standard
import Coercion.Settings.Stock
import Coercion.Value.Read
import Coercion.VectorType.Field
import Coercion.Proofs.Binary.Order
import Coercion.Proofs.VectorType.Standard
import Coercion.Proofs.Registry.Tables
import Coercion.Proofs.Registry.Session
import Coercion.Proofs.Registry.Entered
import Coercion.Proofs.Unify.Common
import Coercion.Proofs.Unify.Protocol
import Coercion.Proofs.Binary.Rounding
import Coercion.Proofs.Unify.Fold
import Coercion.Proofs.Unify.Kindred
import Coercion.Proofs.Vector.WellFormed
import Coercion.Proofs.Traversal
import Coercion.Proofs.Vector.Construct
import Coercion.Proofs.Column.Size
import Coercion.Proofs.Cast.Routes
import Coercion.Proofs.Cast.Search
import Coercion.Proofs.Cast.Contract
import Coercion.Proofs.Cast.Number
import Coercion.Proofs.Cast.Exact
import Coercion.Proofs.Cast.Fitting
import Coercion.Proofs.Combine.Agreement
import Coercion.Proofs.Combine.Missing
import Coercion.Proofs.Unify.Order
import Coercion.Proofs.Combine.Permutation
import Coercion.Proofs.Vector.Detect
import Coercion.Proofs.Vector.Read
import Coercion.Proofs.Vector.Sound
import Coercion.Proofs.Value.Identity
import Coercion.Proofs.Column.Level
import Coercion.Proofs.Column.Stored
import Coercion.Proofs.Column.Reordered
import Coercion.Proofs.Cast.Decomposed
import Coercion.Proofs.Cast.RoundTrip
import Coercion.Proofs.Zone.Instants
import Coercion.Proofs.Cast.Kept
import Coercion.Proofs.Combine.Kept
import Coercion.Proofs.Combine.Obtained
import Coercion.Proofs.Combine.Structure
import Coercion.Proofs.Unify.Finer
import Coercion.Proofs.Cast.Pointwise
import Coercion.Proofs.Cast.Detour
import Coercion.Proofs.Cast.Missing
import Coercion.Proofs.Cast.Zones
import Coercion.Proofs.Cast.Sound
import Coercion.Proofs.Zone.Normal
import Coercion.Proofs.VectorType.Specifier
import Coercion.Proofs.VectorType.Reordered
import Coercion.Proofs.Column.Reordered
import Coercion.Proofs.Cast.Reordered
import Coercion.Proofs.Combine.Reordered
import Coercion.Proofs.Vector.Recovered
import Coercion.Proofs.Combine.Regrouped
import Coercion.Proofs.Settings.History
import Coercion.Proofs.Settings.Isolated
import Coercion.Proofs.Cast.Texts
import Coercion.Proofs.Cast.Opened
import Coercion.Proofs.Cast.Layers
import Coercion.Proofs.Cast.Rounds
import Coercion.Proofs.Cast.Recoded
import Coercion.Proofs.Cast.Unfit
import Coercion.Proofs.Cast.Unstorable
import Coercion.Proofs.Cast.Refused
import Coercion.Proofs.Cast.Unwrapped
import Coercion.Proofs.VectorType.Quoted
import Coercion.Proofs.Zone.Sources
import Coercion.Proofs.Cast.WallTime
import Coercion.Proofs.Unify.Refusal
import Coercion.Proofs.Combine.Refusal
import Coercion.Proofs.Vector.Found
import Coercion.Proofs.Vector.Built
import Coercion.Proofs.Cast.Agreed
import Coercion.Proofs.Settings.Governed
import Coercion.Proofs.Settings.Deleted
import Coercion.Proofs.Settings.Binding
import Coercion.Proofs.Settings.Passed
import Coercion.Proofs.Settings.Validated
import Coercion.Proofs.Settings.Chosen
import Coercion.Proofs.Law.Instances
import Coercion.Proofs.Law.Trials
import Coercion.Proofs.Law.Violations
import Coercion.Proofs.Law.SelfCast
import Coercion.Proofs.VectorType.Table
import Coercion.Proofs.Combine.Binned
