import IdentityChain.Table.Lemmas
import IdentityChain.User

/-!
# The user cache

A record that came from a lookup service is trusted for a limited time after
its last update; a locally managed one always is. The cache keeps one record
for each username.
-/

namespace IdentityChain

/-- Whether a record may be served at `now` without asking its source. If the end of its time
cannot be represented, it never ends. -/
def UserRecord.isFreshAt (record : UserRecord) (now : Instant) (ttl : Duration) : Bool :=
  if record.hasSource && ttl.addable then
    match record.lastUpdate.plus? ttl with
    | some expiry => now.before expiry
    | none => true
  else true

/-- Records by username. -/
abbrev UserCache := Table UserRecord

namespace UserCache

/-- The cache without records. -/
def empty : UserCache := Table.empty

/-- The record of a user. -/
def find? (cache : UserCache) (username : String) : Option UserRecord := cache.get? username

/-- The record of a user, if it is fresh. -/
def freshAt? (cache : UserCache) (now : Instant) (ttl : Duration) (username : String) :
    Option UserRecord :=
  (cache.find? username).filter (·.isFreshAt now ttl)

/-- Keeps a record in place of the one for the same user. -/
def upsert (cache : UserCache) (record : UserRecord) : UserCache :=
  cache.insert record.username record

/-- The record of a profile that a source gave at some time. -/
def recordOf (sourceId : String) (now : Instant) (profile : Profile) : UserRecord :=
  ⟨profile.username, sourceId, now, profile⟩

/-- Keeps what a source said about a user, and reports the record. -/
def store (cache : UserCache) (sourceId : String) (now : Instant) (profile : Profile) :
    UserRecord × UserCache :=
  (recordOf sourceId now profile, cache.upsert (recordOf sourceId now profile))

/-- Keeps a locally managed user: a record without a source. -/
def storeManaged (cache : UserCache) (now : Instant) (profile : Profile) :
    UserRecord × UserCache :=
  cache.store "" now profile

/-- Removes the record of a user, and reports whether there was one. -/
def evict (cache : UserCache) (username : String) : Bool × UserCache :=
  (cache.contains username, cache.erase username)

end UserCache

end IdentityChain
