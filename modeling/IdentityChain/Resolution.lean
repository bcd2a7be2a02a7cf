import IdentityChain.Catalog.Snapshot
import IdentityChain.UserCache

/-!
# Resolution of usernames

A fresh record in the cache answers at once. Otherwise the enabled lookup
services are asked in priority order, each once and for a limited time, and the
first one that finds the user has its answer cached. A service that fails or is
late counts as one that does not know the user. If no service knows the user,
the cached record is evicted.
-/

namespace IdentityChain

namespace Snapshot

/-- The call that a walk makes to a lookup service. -/
def lookupCall (entry : Entry LookupService) : Call := ⟨.lookup, entry.name, entry.service.metered⟩

/-- Walks a chain of lookup services to the first that finds the user in time, and reports its name
and answer, and the calls. -/
def findAlong (username : String) (timeout : Nat) : List (Entry LookupService) →
    Option (String × Profile) × List Call
  | [] => (none, [])
  | entry :: rest =>
    match (entry.service.reply username).inTime timeout with
    | .found profile => (some (entry.name, profile), [lookupCall entry])
    | .notFound | .failed _ =>
      let (found, calls) := findAlong username timeout rest
      (found, lookupCall entry :: calls)

end Snapshot

/-- How long records are fresh, and how many milliseconds one lookup may take. -/
structure ResolutionLimits where
  ttl : Duration
  timeout : Nat
  deriving DecidableEq, Repr

/-- What a resolution leaves behind. -/
structure Resolution where
  result : Except Fault UserRecord
  cache : UserCache
  calls : List Call

namespace Snapshot

/-- Resolves a username. -/
def resolve (snapshot : Snapshot) (limits : ResolutionLimits) (now : Instant) (cache : UserCache)
    (username : String) : Resolution :=
  match cache.freshAt? now limits.ttl username with
  | some record => ⟨.ok record, cache, []⟩
  | none =>
    match findAlong username limits.timeout snapshot.enabledLookups with
    | (some (sourceId, profile), calls) =>
      let (record, cache) := cache.store sourceId now profile
      ⟨.ok record, cache, calls⟩
    | (none, calls) => ⟨.error (.userNotResolvable username), (cache.evict username).2, calls⟩

end Snapshot

end IdentityChain
