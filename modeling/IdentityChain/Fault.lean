/-!
# Faults

Why an operation of the registry did not succeed. A `Fault` is what the
registry itself reports; a `PublicFault` is what its clients see, where a
provider's failure and an internal one are no longer told apart.
-/

namespace IdentityChain

/-- Why a provider did not authenticate. -/
inductive AuthenticationFault where
  /-- The user is unknown or the password is wrong; the next provider is asked. -/
  | badCredentials (reason : String)
  /-- The account may not sign in; the chain stops. -/
  | accountStatus (reason : String)
  /-- The provider itself failed; the chain stops. -/
  | internal (reason : String)
  deriving DecidableEq, Repr

/-- The text of a provider's fault. -/
def AuthenticationFault.message : AuthenticationFault → String
  | .badCredentials reason => "bad credentials: " ++ reason
  | .accountStatus reason => "account unavailable: " ++ reason
  | .internal reason => "provider failure: " ++ reason

/-- Why the registry did not do what it was asked. -/
inductive Fault where
  | configurationInvalid (item reason : String)
  | commitRejected (reason : String)
  | userNotResolvable (username : String)
  | configurationRead (reason : String)
  | notConfigured
  | authentication (cause : AuthenticationFault)
  | internal (reason : String)
  deriving DecidableEq, Repr

/-- The text of a fault. -/
def Fault.message : Fault → String
  | .configurationInvalid item reason =>
    "invalid authentication configuration for [" ++ item ++ "]: " ++ reason
  | .commitRejected reason => "configuration change rejected: " ++ reason
  | .userNotResolvable username => "user not found: " ++ username
  | .configurationRead reason => "failed to read authentication configuration: " ++ reason
  | .notConfigured => "authentication is not configured"
  | .authentication cause => cause.message
  | .internal reason => "internal error: " ++ reason

/-- What a client of the registry sees of a fault. -/
inductive PublicFault where
  | configurationInvalid (item reason : String)
  | commitRejected (reason : String)
  | userNotResolvable (username : String)
  | configurationRead (reason : String)
  | notConfigured
  | badCredentials (reason : String)
  | accountStatus (reason : String)
  | internal (reason : String)
  deriving DecidableEq, Repr

/-- A public fault inside the registry. -/
def Fault.ofPublic : PublicFault → Fault
  | .configurationInvalid item reason => .configurationInvalid item reason
  | .commitRejected reason => .commitRejected reason
  | .userNotResolvable username => .userNotResolvable username
  | .configurationRead reason => .configurationRead reason
  | .notConfigured => .notConfigured
  | .badCredentials reason => .authentication (.badCredentials reason)
  | .accountStatus reason => .authentication (.accountStatus reason)
  | .internal reason => .internal reason

/-- The text of a public fault. -/
def PublicFault.message : PublicFault → String
  | .configurationInvalid item reason => (Fault.configurationInvalid item reason).message
  | .commitRejected reason => (Fault.commitRejected reason).message
  | .userNotResolvable username => (Fault.userNotResolvable username).message
  | .configurationRead reason => (Fault.configurationRead reason).message
  | .notConfigured => Fault.notConfigured.message
  | .badCredentials reason => (AuthenticationFault.badCredentials reason).message
  | .accountStatus reason => (AuthenticationFault.accountStatus reason).message
  | .internal reason => (Fault.internal reason).message

/-- What a client sees of a fault. -/
def Fault.toPublic : Fault → PublicFault
  | .configurationInvalid item reason => .configurationInvalid item reason
  | .commitRejected reason => .commitRejected reason
  | .userNotResolvable username => .userNotResolvable username
  | .configurationRead reason => .configurationRead reason
  | .notConfigured => .notConfigured
  | .authentication (.badCredentials reason) => .badCredentials reason
  | .authentication (.accountStatus reason) => .accountStatus reason
  | .authentication (.internal reason) => .internal reason
  | .internal reason => .internal reason

/-- Nothing is lost when a public fault passes through the registry. -/
theorem Fault.toPublic_ofPublic (fault : PublicFault) :
    (Fault.ofPublic fault).toPublic = fault := by
  cases fault <;> rfl

/-! ## Results that may be faults -/

section Results

variable {ε α β : Type} {result : Except ε α} {b : β}

/-- A success is made of a success. -/
theorem Except.map_eq_ok {f : α → β} (h : result.map f = .ok b) :
    ∃ a, result = .ok a ∧ f a = b := by
  cases result with
  | error fault => cases h
  | ok a => exact ⟨a, rfl, Except.ok.inj h⟩

/-- To report a fault in other words does not make it a success. -/
theorem Except.mapError_eq_ok {ε' : Type} {f : ε → ε'} {result : Except ε β}
    (h : result.mapError f = .ok b) : result = .ok b := by
  cases result with
  | error fault => cases h
  | ok a =>
    cases h
    rfl

/-- Two steps succeed if both do. -/
theorem Except.bind_eq_ok {next : α → Except ε β} (h : result >>= next = .ok b) :
    ∃ a, result = .ok a ∧ next a = .ok b := by
  cases result with
  | error fault => cases h
  | ok a => exact ⟨a, rfl, h⟩

end Results

end IdentityChain
