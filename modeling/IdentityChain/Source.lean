import IdentityChain.Fault
import IdentityChain.User

/-!
# Identity sources

A source verifies credentials, resolves users by name, or does both. It is
built from the configuration of one item by the factory of its declared kind.
Sources are functions: what one answers depends on the question alone. The
calls that a chain makes to its sources are recorded as `Call`s.
-/

namespace IdentityChain

/-- What a lookup service says about a username. -/
inductive LookupAnswer where
  | found (profile : Profile)
  | notFound
  | failed (reason : String)
  deriving DecidableEq

/-- How long an answer takes. -/
inductive Latency where
  | millis (n : Nat)
  | never
  deriving DecidableEq, Repr

/-- Whether an answer comes within a number of milliseconds. -/
def Latency.within : Latency → Nat → Bool
  | .millis n, timeout => decide (n ≤ timeout)
  | .never, _ => false

/-- An answer and the time it takes. -/
structure LookupReply where
  outcome : LookupAnswer
  latency : Latency
  deriving DecidableEq

/-- The outcome that a caller sees who waits for `timeout` milliseconds. -/
def LookupReply.inTime (reply : LookupReply) (timeout : Nat) : LookupAnswer :=
  if reply.latency.within timeout then reply.outcome
  else .failed ("timed out after " ++ toString timeout ++ " ms")

/-- Verifies credentials. -/
structure Provider where
  /-- Whether the provider can handle the credentials at all. -/
  supports : Credentials → Bool
  /-- The sign-in, an abstention, or a fault. -/
  verify : Credentials → Except AuthenticationFault (Option Authentication)
  /-- Whether calls to the provider count; those to a directory in memory do not. -/
  metered : Bool

/-- Resolves users by name. -/
structure LookupService where
  reply : String → LookupReply
  /-- Whether calls to the service count; those to a directory in memory do not. -/
  metered : Bool

/-- What a factory builds from one item. -/
inductive Source where
  | provider (provider : Provider)
  | lookup (service : LookupService)
  | both (provider : Provider) (service : LookupService)

namespace Source

/-- The provider of a source. -/
def provider? : Source → Option Provider
  | .provider p => some p
  | .lookup _ => none
  | .both p _ => some p

/-- The lookup service of a source. -/
def lookup? : Source → Option LookupService
  | .provider _ => none
  | .lookup l => some l
  | .both _ l => some l

/-- The source for a log. -/
def describe (source : Source) : String :=
  let kind := match source with
    | .provider _ => "Provider"
    | .lookup _ => "LookupService"
    | .both _ _ => "Both"
  "IdentitySource \x7b kind: " ++ Text.quoted kind ++ ", .. \x7d"

end Source

/-- Builds the sources of one kind. -/
structure Factory where
  kind : String
  /-- The source of an item from its name and its whole bag, or why there is none. -/
  build : String → Bag → Except String Source

/-- The factories by kind; of two for one kind the later is kept. -/
def Factory.byKind (factories : List Factory) : Table Factory :=
  Table.ofList (factories.map fun factory => (factory.kind, factory))

/-- A call to a source. -/
structure Call where
  capability : Capability
  item : String
  metered : Bool
  deriving DecidableEq, Repr

end IdentityChain
