import IdentityChain.Proofs.Catalog.Membership
import IdentityChain.Proofs.Text.Bytes

/-!
# Configurations that do not build

An item is refused if it declares a kind for which there is no factory, or if
the factory of its kind refuses the bag (`Bag.Refused`). Nothing else keeps a
configuration from building. Building goes through the items by name and stops
at the first that is refused, so of all refused items the least by name is
reported (`Snapshot.build_eq_error_iff`), whatever its switch says.
-/

namespace IdentityChain

variable {factories : Table Factory} {name : String} {bag : Bag} {fault : Fault}

/-- The item cannot be built, for this reason. -/
inductive Bag.Refused (factories : Table Factory) (name : String) (bag : Bag) : String → Prop
  | unknownKind {kind : String} (declared : bag.kind? = some kind)
      (unknown : factories.get? kind = none) :
      Refused factories name bag ("unknown type `" ++ kind ++ "`")
  | byFactory {kind : String} {factory : Factory} {reason : String}
      (declared : bag.kind? = some kind) (known : factories.get? kind = some factory)
      (refused : factory.build name bag = .error reason) :
      Refused factories name bag reason

/-- The item is refused for this reason, and every refused item has this name or one whose bytes
come later. -/
structure Configuration.FirstRefused (factories : Table Factory) (items : Configuration)
    (name reason : String) : Prop where
  refused : ∃ bag, items.get? name = some bag ∧ bag.Refused factories name reason
  least : ∀ other bag why, items.get? other = some bag → bag.Refused factories other why →
    Text.bytes name ≤ Text.bytes other

/-! ## One item -/

namespace Snapshot

/-- The only fault of an item is that it is refused. -/
theorem sourceOf?_eq_error_iff : sourceOf? factories name bag = .error fault ↔
    ∃ reason, bag.Refused factories name reason ∧ fault = .configurationInvalid name reason := by
  constructor
  · intro failed
    unfold sourceOf? at failed
    split at failed
    · cases failed
    · rename_i kind declared
      split at failed
      · rename_i unknown
        cases failed
        exact ⟨_, .unknownKind declared unknown, rfl⟩
      · rename_i factory known
        split at failed
        · rename_i reason refused
          cases failed
          exact ⟨reason, .byFactory declared known refused, rfl⟩
        · cases failed
  · rintro ⟨reason, refused, rfl⟩
    cases refused with
    | unknownKind declared unknown => rw [sourceOf?, declared]; dsimp only; rw [unknown]
    | byFactory declared known refused =>
      rw [sourceOf?, declared]; dsimp only; rw [known]; dsimp only; rw [refused]

/-- An item is refused for one reason only. -/
theorem refused_unique {reason why : String} (refused : bag.Refused factories name reason)
    (also : bag.Refused factories name why) : reason = why := by
  have fault := sourceOf?_eq_error_iff.2 ⟨reason, refused, rfl⟩
  have fault' := sourceOf?_eq_error_iff.2 ⟨why, also, rfl⟩
  cases fault.symm.trans fault'
  rfl

/-- An item that is not refused can be built or is no source. -/
theorem exists_sourceOf?_iff : (∃ source, sourceOf? factories name bag = .ok source) ↔
    ∀ reason, ¬ bag.Refused factories name reason := by
  constructor
  · rintro ⟨source, found⟩ reason refused
    cases found.symm.trans (sourceOf?_eq_error_iff.2 ⟨reason, refused, rfl⟩)
  · intro accepted
    cases found : sourceOf? factories name bag with
    | ok source => exact ⟨source, rfl⟩
    | error fault =>
      obtain ⟨reason, refused, -⟩ := sourceOf?_eq_error_iff.1 found
      exact (accepted reason refused).elim

/-! ## All items -/

variable {items : Configuration} {version : Nat}

/-- The fault of some items in ascending order is that of a refused item, and no item before it is
refused. -/
theorem refused_of_sources {items : List (String × Bag)}
    (ascending : items.Pairwise fun a b => a.1 < b.1)
    (failed : sources factories items = .error fault) :
    ∃ name bag reason, (name, bag) ∈ items ∧ bag.Refused factories name reason ∧
      fault = .configurationInvalid name reason ∧
      ∀ other ∈ items, other.1 < name →
        ∃ source, sourceOf? factories other.1 other.2 = .ok source := by
  induction items with
  | nil => cases failed
  | cons item rest ih =>
    obtain ⟨name, bag⟩ := item
    obtain ⟨below, ascending⟩ := List.pairwise_cons.1 ascending
    unfold sources at failed
    cases found : sourceOf? factories name bag with
    | error reported =>
      rw [found] at failed
      cases failed
      obtain ⟨reason, refused, rfl⟩ := sourceOf?_eq_error_iff.1 found
      refine ⟨name, bag, reason, List.mem_cons_self, refused, rfl, fun other member lt => ?_⟩
      rcases List.mem_cons.1 member with rfl | member
      · exact (String.lt_irrefl _ lt).elim
      · exact (String.lt_irrefl _ (String.lt_trans (below other member) lt)).elim
    | ok source =>
      cases built : sources factories rest with
      | ok entries => rw [found, built] at failed; cases failed
      | error reported =>
        rw [found, built] at failed
        cases failed
        obtain ⟨least, its, reason, listed, refused, rfl, earlier⟩ := ih ascending built
        refine ⟨least, its, reason, List.mem_cons_of_mem _ listed, refused, rfl, ?_⟩
        intro other member lt
        rcases List.mem_cons.1 member with rfl | member
        · exact ⟨source, found⟩
        · exact earlier other member lt

/-- A configuration builds exactly if none of its items is refused. -/
theorem buildable_iff_none_refused : Buildable factories items ↔
    ∀ name bag reason, items.get? name = some bag → ¬ bag.Refused factories name reason := by
  rw [buildable_iff]
  constructor
  · intro each name bag reason present
    exact exists_sourceOf?_iff.1 (each name bag present) reason
  · intro none name bag present
    exact exists_sourceOf?_iff.2 fun reason => none name bag reason present

/-- A fault of building reports the refused item of the least name. -/
theorem firstRefused_of_build (failed : build factories version items = .error fault) :
    ∃ name reason, items.FirstRefused factories name reason ∧
      fault = .configurationInvalid name reason := by
  unfold build at failed
  cases built : sources factories items.entries with
  | ok entries => rw [built] at failed; cases failed
  | error reported =>
    rw [built] at failed
    cases failed
    obtain ⟨name, bag, reason, member, refused, rfl, earlier⟩ :=
      refused_of_sources items.ascending built
    refine ⟨name, reason, ⟨⟨bag, Table.mem_entries_iff.1 member, refused⟩, ?_⟩, rfl⟩
    intro other its why present also
    refine List.not_lt.1 fun less => ?_
    have accepted := earlier (other, its) (Table.mem_entries_iff.2 present)
      (Text.lt_iff_bytes_lt.2 less)
    exact exists_sourceOf?_iff.1 accepted why also

/-- A configuration with a refused item does not build, and the fault is that of the first. -/
theorem build_of_firstRefused {reason : String}
    (first : items.FirstRefused factories name reason) :
    build factories version items = .error (.configurationInvalid name reason) := by
  obtain ⟨bag, present, refused⟩ := first.refused
  cases built : build factories version items with
  | ok snapshot =>
    have accepted := buildable_iff_none_refused.1 (Buildable.of_build built)
    exact (accepted name bag reason present refused).elim
  | error reported =>
    -- The item that is reported is no other: each of the two names is the least.
    obtain ⟨other, why, ⟨⟨its, found, also⟩, least⟩, rfl⟩ := firstRefused_of_build built
    have same : name = other := String.le_antisymm
      (Text.le_iff_bytes_le.2 (first.least other its why found also))
      (Text.le_iff_bytes_le.2 (least name bag reason present refused))
    subst same
    obtain rfl : its = bag := Option.some.inj (found.symm.trans present)
    rw [refused_unique refused also]

/-- The faults of building are those of the first refused item. -/
theorem build_eq_error_iff : build factories version items = .error fault ↔
    ∃ name reason, items.FirstRefused factories name reason ∧
      fault = .configurationInvalid name reason := by
  constructor
  · exact firstRefused_of_build
  · rintro ⟨name, reason, first, rfl⟩
    exact build_of_firstRefused first

end Snapshot

end IdentityChain
