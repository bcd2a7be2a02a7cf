/-!
# The priority sequence

Items with an order come first, by ascending order; items without one follow.
Among equals the name decides. `Rank.Before` is that strict order, and
`sortByRank` sorts a list by it.
-/

namespace IdentityChain

/-- What decides an item's place in the priority sequence. -/
structure Rank where
  order : Option Int64
  name : String
  deriving DecidableEq, Repr

namespace Rank

/-- Whether `a` stands before `b`. -/
def Before (a b : Rank) : Prop :=
  match a.order, b.order with
  | some x, some y => x < y ∨ (x = y ∧ a.name < b.name)
  | some _, none => True
  | none, some _ => False
  | none, none => a.name < b.name

instance (a b : Rank) : Decidable (a.Before b) := by
  unfold Before
  split <;> infer_instance

theorem Before.irrefl (a : Rank) : ¬ a.Before a := by
  unfold Before
  split <;> grind [String.lt_irrefl, Int64.lt_irrefl]

theorem Before.trans {a b c : Rank} (ab : a.Before b) (bc : b.Before c) : a.Before c := by
  obtain ⟨x, n⟩ := a
  obtain ⟨y, m⟩ := b
  obtain ⟨z, l⟩ := c
  cases x <;> cases y <;> cases z <;> simp only [Before] at ab bc ⊢
  · exact String.lt_trans ab bc
  · rename_i x y z
    rcases ab with ab | ⟨rfl, ab⟩ <;> rcases bc with bc | ⟨rfl, bc⟩
    · exact .inl (Int64.lt_trans ab bc)
    · exact .inl ab
    · exact .inl bc
    · exact .inr ⟨rfl, String.lt_trans ab bc⟩

/-- Of two different ranks one stands before the other. -/
theorem Before.total (a b : Rank) : a.Before b ∨ a = b ∨ b.Before a := by
  obtain ⟨x, n⟩ := a
  obtain ⟨y, m⟩ := b
  have names : n < m ∨ n = m ∨ m < n := by
    by_cases lt : n < m
    · exact .inl lt
    · by_cases gt : m < n
      · exact .inr (.inr gt)
      · exact .inr (.inl (String.le_antisymm (String.not_lt.1 gt) (String.not_lt.1 lt)))
  cases x <;> cases y <;> simp only [Before, mk.injEq, Option.some.injEq, reduceCtorEq,
    false_and, or_true, or_false, true_and]
  · exact names
  · rename_i x y
    have orders : x < y ∨ x = y ∨ y < x := by
      simp only [Int64.lt_iff_toInt_lt, ← Int64.toInt_inj]; omega
    rcases orders with lt | rfl | gt
    · exact .inl (.inl lt)
    · rcases names with lt | rfl | gt
      · exact .inl (.inr ⟨rfl, lt⟩)
      · exact .inr (.inl ⟨rfl, rfl⟩)
      · exact .inr (.inr (.inr ⟨rfl, gt⟩))
    · exact .inr (.inr (.inl gt))

end Rank

section Sorting

variable {α : Type}

/-- Places `x` before the first element that does not come before it. -/
def insertSorted (before : α → α → Bool) (x : α) : List α → List α
  | [] => [x]
  | y :: rest => if before y x then y :: insertSorted before x rest else x :: y :: rest

/-- Sorts a list; elements of which neither comes before the other keep their order. -/
def sortBy (before : α → α → Bool) : List α → List α
  | [] => []
  | x :: rest => insertSorted before x (sortBy before rest)

theorem insertSorted_perm (before : α → α → Bool) (x : α) (xs : List α) :
    (insertSorted before x xs).Perm (x :: xs) := by
  induction xs with
  | nil => exact .refl _
  | cons y rest ih =>
    rw [insertSorted]
    split
    · exact (ih.cons y).trans (.swap x y rest)
    · exact .refl _

theorem sortBy_perm (before : α → α → Bool) (xs : List α) : (sortBy before xs).Perm xs := by
  induction xs with
  | nil => exact .refl _
  | cons x rest ih => exact (insertSorted_perm before x _).trans (ih.cons x)

/-- What sorting asks of an order: that it is strict, and that of two elements in order one is in
order with any third. -/
structure StrictWeak (before : α → α → Bool) : Prop where
  asymm : ∀ {a b}, before a b = true → before b a = false
  split : ∀ {a b} c, before a b = true → before a c = true ∨ before c b = true

variable {before : α → α → Bool}

theorem insertSorted_pairwise (order : StrictWeak before) (x : α) {xs : List α}
    (h : xs.Pairwise fun a b => before b a = false) :
    (insertSorted before x xs).Pairwise fun a b => before b a = false := by
  induction xs with
  | nil => exact List.pairwise_singleton _ x
  | cons y rest ih =>
    obtain ⟨head, tail⟩ := List.pairwise_cons.1 h
    rw [insertSorted]
    split
    · rename_i first
      refine List.pairwise_cons.2 ⟨fun z hz => ?_, ih tail⟩
      rcases List.mem_cons.1 ((insertSorted_perm _ x rest).mem_iff.1 hz) with rfl | hz
      · exact order.asymm first
      · exact head z hz
    · rename_i notFirst
      refine List.pairwise_cons.2 ⟨fun z hz => ?_, h⟩
      rcases List.mem_cons.1 hz with rfl | hz
      · exact eq_false_of_ne_true notFirst
      · refine eq_false_of_ne_true fun ahead => ?_
        rcases order.split y ahead with early | late
        · exact Bool.false_ne_true ((head z hz).symm.trans early)
        · exact notFirst late

/-- In the sorted list no element stands after one that comes after it. -/
theorem sortBy_pairwise (order : StrictWeak before) (xs : List α) :
    (sortBy before xs).Pairwise fun a b => before b a = false := by
  induction xs with
  | nil => exact .nil
  | cons x rest ih => exact insertSorted_pairwise order x ih

/-- Elements with different keys are put in strict order, if the order decides between any two
keys. -/
theorem sortBy_strict {β : Type} {key : α → β} (order : StrictWeak before)
    (total : ∀ {a b}, key a ≠ key b → before a b = true ∨ before b a = true) {xs : List α}
    (distinct : (xs.map key).Nodup) :
    (sortBy before xs).Pairwise fun a b => before a b = true := by
  have perm := (sortBy_perm before xs).map key
  have different : (sortBy before xs).Pairwise fun a b => key a ≠ key b :=
    List.pairwise_map.1 (perm.nodup_iff.2 distinct)
  refine (different.and (sortBy_pairwise order xs)).imp ?_
  rintro a b ⟨ne, notAfter⟩
  exact (total ne).resolve_right fun after => Bool.false_ne_true (notAfter.symm.trans after)

end Sorting

/-- Sorts a list by the ranks of its elements. -/
def sortByRank {α : Type} (rank : α → Rank) : List α → List α :=
  sortBy fun a b => decide ((rank a).Before (rank b))

theorem sortByRank_perm {α : Type} (rank : α → Rank) (xs : List α) :
    (sortByRank rank xs).Perm xs := sortBy_perm _ _

/-- Of two ranks in order, one is in order with any third. -/
theorem Rank.Before.split {a b : Rank} (ab : a.Before b) (c : Rank) : a.Before c ∨ c.Before b := by
  rcases Before.total a c with ac | rfl | ca
  · exact .inl ac
  · exact .inr ab
  · exact .inr (ca.trans ab)

theorem strictWeak_rank {α : Type} (rank : α → Rank) :
    StrictWeak fun a b => decide ((rank a).Before (rank b)) where
  asymm ab := decide_eq_false fun ba => Rank.Before.irrefl _ ((of_decide_eq_true ab).trans ba)
  split c ab := ((of_decide_eq_true ab).split (rank c)).imp decide_eq_true decide_eq_true

/-- Elements of different names are sorted into strictly ascending ranks. -/
theorem sortByRank_strict {α : Type} {rank : α → Rank} {xs : List α}
    (distinct : (xs.map fun x => (rank x).name).Nodup) :
    (sortByRank rank xs).Pairwise fun a b => (rank a).Before (rank b) := by
  refine (sortBy_strict (strictWeak_rank rank) ?_ distinct).imp of_decide_eq_true
  intro a b ne
  rcases Rank.Before.total (rank a) (rank b) with before | same | after
  · exact .inl (decide_eq_true before)
  · exact (ne (congrArg Rank.name same)).elim
  · exact .inr (decide_eq_true after)

end IdentityChain
