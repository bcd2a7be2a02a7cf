import IdentityChain.Catalog.Snapshot

/-!
# Configurations that build

Whether a configuration builds does not depend on the version that the
snapshot is to carry: `Snapshot.build` at two versions gives the same chains or
the same fault. So a trial at version zero decides what every later reload of
the same items will do.
-/

namespace IdentityChain.Snapshot

variable {factories : Table Factory} {items : Configuration} {snapshot : Snapshot}

/-- The same chains under another version. -/
def atVersion (snapshot : Snapshot) (version : Nat) : Snapshot :=
  { snapshot with version := version }

/-- Some snapshot describes the configuration. -/
def Buildable (factories : Table Factory) (items : Configuration) : Prop :=
  ∃ snapshot, build factories 0 items = .ok snapshot

theorem build_eq_ok {version : Nat} (h : build factories version items = .ok snapshot) :
    ∃ entries, sources factories items.entries = .ok entries ∧
      snapshot = ofSources version entries := by
  obtain ⟨entries, built, same⟩ := Except.map_eq_ok h
  exact ⟨entries, built, same.symm⟩

@[simp] theorem ofSources_atVersion (version other : Nat) (entries : List (Entry Source)) :
    (ofSources version entries).atVersion other = ofSources other entries := rfl

/-- The version is the one that was asked for. -/
theorem version_of_build {version : Nat} (h : build factories version items = .ok snapshot) :
    snapshot.version = version := by
  obtain ⟨entries, -, rfl⟩ := build_eq_ok h
  rfl

/-- The version decides nothing else. -/
theorem build_atVersion {version : Nat} (h : build factories version items = .ok snapshot)
    (other : Nat) : build factories other items = .ok (snapshot.atVersion other) := by
  obtain ⟨entries, built, rfl⟩ := build_eq_ok h
  rw [build, built, ofSources_atVersion]
  rfl

theorem Buildable.of_build {version : Nat} (h : build factories version items = .ok snapshot) :
    Buildable factories items :=
  ⟨_, build_atVersion h 0⟩

/-- Items that build once build at every version. -/
theorem Buildable.build (h : Buildable factories items) (version : Nat) :
    ∃ snapshot, build factories version items = .ok snapshot := by
  obtain ⟨trial, built⟩ := h
  exact ⟨_, build_atVersion built version⟩

end IdentityChain.Snapshot
