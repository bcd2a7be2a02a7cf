import IdentityChain.Catalog.Snapshot

/-!
# Sign-in

Credentials are shown to the enabled providers in priority order, those that do
not support them left out. A provider that signs the user in ends the walk, and
so does one whose account may not sign in or that fails. If none does, the last
refusal of the credentials is the answer.
-/

namespace IdentityChain.Snapshot

/-- The call that a walk makes to a provider. -/
def signInCall (entry : Entry Provider) : Call := ⟨.signIn, entry.name, entry.service.metered⟩

/-- Walks a chain of providers after a last refusal, and reports the answer and the calls. -/
def signInAlong (credentials : Credentials) : List (Entry Provider) → Option String →
    Except Fault Authentication × List Call
  | [], refusal =>
    (.error (.authentication (.badCredentials (refusal.getD credentials.username))), [])
  | entry :: rest, refusal =>
    if entry.service.supports credentials then
      let onward (refusal : Option String) :=
        let (answer, calls) := signInAlong credentials rest refusal
        (answer, signInCall entry :: calls)
      match entry.service.verify credentials with
      | .ok (some authentication) =>
        (.ok { authentication with provider := entry.name }, [signInCall entry])
      | .ok none => onward refusal
      | .error (.badCredentials reason) => onward (some reason)
      | .error cause => (.error (.authentication cause), [signInCall entry])
    else signInAlong credentials rest refusal

/-- Signs a user in. -/
def signIn (snapshot : Snapshot) (credentials : Credentials) :
    Except Fault Authentication × List Call :=
  if snapshot.enabledProviders.isEmpty then (.error .notConfigured, [])
  else signInAlong credentials snapshot.enabledProviders none

end IdentityChain.Snapshot
