import IdentityChain.Json.Record
import IdentityChain.Resolution

/-!
# Settings of the registry

Two numbers: for how many seconds a record from a lookup service is trusted,
and for how many milliseconds a lookup is waited for. Both have defaults.
-/

namespace IdentityChain

/-- The settings of a registry. -/
structure RegistrySettings where
  cacheSeconds : Nat
  timeoutMillis : Nat
  deriving DecidableEq, Repr

namespace RegistrySettings

/-- The key of the trusted time. -/
def cacheKey : String := "external_users_cache_seconds"

/-- The key of the waiting time. -/
def timeoutKey : String := "lookup_timeout_ms"

/-- Five minutes of trust, five seconds of waiting. -/
def default : RegistrySettings := ⟨300, 5000⟩

/-- The JSON forms of the settings. -/
def format : RecordFormat RegistrySettings where
  name := "AuthRegistryConfig"
  strict := true
  fields := Fields.make RegistrySettings.mk
    |>.andThen (.defaulted cacheKey Decoder.word64 default.cacheSeconds)
    |>.andThen (.defaulted timeoutKey Decoder.word64 default.timeoutMillis)

/-- The settings as JSON. -/
def toJson (settings : RegistrySettings) : Json :=
  .ofFields [(cacheKey, .int settings.cacheSeconds), (timeoutKey, .int settings.timeoutMillis)]

/-- The time for which a record is trusted. -/
def ttl (settings : RegistrySettings) : Duration := ⟨settings.cacheSeconds, 0⟩

/-- The time for which a lookup is waited for. -/
def timeout (settings : RegistrySettings) : Duration := .ofMillis settings.timeoutMillis

/-- The limits that the settings put on resolution. -/
def limits (settings : RegistrySettings) : ResolutionLimits :=
  ⟨settings.ttl, settings.timeoutMillis⟩

end RegistrySettings

end IdentityChain
