import IdentityChain.Table.Basic

/-!
# Tables by their look-ups

What each operation on a table does to `Table.get?`, and `Table.ext_get?`: two
tables with the same look-ups are equal.
-/

namespace IdentityChain.Table

variable {α : Type}

theorem lookup_cons_ite (k j : String) (v : α) (es : List (String × α)) :
    ((j, v) :: es).lookup k = if k = j then some v else es.lookup k := by
  rw [List.lookup_cons]
  by_cases eq : k = j
  · simp [eq]
  · simp [eq, beq_false_of_ne eq]

theorem lookup_put (k j : String) (v : α) {es : List (String × α)}
    (h : es.Pairwise (fun a b => a.1 < b.1)) :
    (put k v es).lookup j = if j = k then some v else es.lookup j := by
  fun_induction put k v es with
  | case1 => by_cases e : j = k <;> simp [lookup_cons_ite, e]
  | case2 l w rest lt =>
    rw [lookup_cons_ite]
  | case3 w rest _ =>
    simp only [lookup_cons_ite]
    by_cases e : j = k <;> simp only [e, if_true, if_false]
  | case4 l w rest ge ne ih =>
    simp only [lookup_cons_ite, ih (List.pairwise_cons.1 h).2]
    by_cases e : j = l
    · have : ¬ l = k := fun h => ne h.symm
      simp [e, this]
    · simp [e]

@[simp] theorem get?_empty (k : String) : (empty : Table α).get? k = none := rfl

@[simp] theorem get?_insert (t : Table α) (k j : String) (v : α) :
    (t.insert k v).get? j = if j = k then some v else t.get? j :=
  lookup_put k j v t.ascending

theorem get?_insert_self (t : Table α) (k : String) (v : α) : (t.insert k v).get? k = some v := by
  simp

theorem get?_alter (t : Table α) (k j : String) (f : Option α → α) :
    (t.alter k f).get? j = if j = k then some (f (t.get? k)) else t.get? j := by
  simp [alter]

theorem lookup_eq_none_of_lt {es : List (String × α)} {k : String} (h : ∀ e ∈ es, k < e.1) :
    es.lookup k = none := by
  induction es with
  | nil => rfl
  | cons e rest ih =>
    have ne : k ≠ e.1 := fun eq => String.lt_irrefl e.1 (eq ▸ h e (by simp))
    obtain ⟨j, w⟩ := e
    rw [lookup_cons_ite]
    rw [if_neg ne]
    exact ih fun e he => h e (by simp [he])

/-- An entry is what its key looks up. -/
theorem mem_entries_iff {t : Table α} {k : String} {v : α} :
    (k, v) ∈ t.entries ↔ t.get? k = some v := by
  obtain ⟨es, asc⟩ := t
  simp only [get?]
  induction es with
  | nil => simp
  | cons e rest ih =>
    obtain ⟨j, w⟩ := e
    obtain ⟨head, tail⟩ := List.pairwise_cons.1 asc
    rw [List.mem_cons, ih tail, lookup_cons_ite]
    by_cases eq : k = j
    · subst eq
      have none : rest.lookup k = none := lookup_eq_none_of_lt head
      simp only [none, if_true]
      grind
    · simp [eq]

theorem mem_keys_iff {t : Table α} {k : String} : k ∈ t.keys ↔ (t.get? k).isSome = true := by
  constructor
  · intro h
    obtain ⟨⟨j, v⟩, mem, rfl⟩ := List.mem_map.1 h
    rw [mem_entries_iff.1 mem]; rfl
  · intro h
    obtain ⟨v, hv⟩ := Option.isSome_iff_exists.1 h
    exact List.mem_map.2 ⟨(k, v), mem_entries_iff.2 hv, rfl⟩

theorem keys_ascending (t : Table α) : t.keys.Pairwise (· < ·) :=
  List.pairwise_map.2 t.ascending

theorem keys_nodup (t : Table α) : t.keys.Nodup := by
  refine t.keys_ascending.imp fun {key other} lt => ?_
  rintro rfl
  exact String.lt_irrefl _ lt

/-- Tables with the same look-ups are equal. -/
theorem ext_get? {a b : Table α} (h : ∀ k, a.get? k = b.get? k) : a = b := by
  obtain ⟨as, asc⟩ := a
  obtain ⟨bs, bsc⟩ := b
  have same : ∀ k, as.lookup k = bs.lookup k := h
  clear h
  apply eq_of_entries
  induction as generalizing bs with
  | nil =>
    cases bs with
    | nil => rfl
    | cons e rest => obtain ⟨l, w⟩ := e; have := same l; simp at this
  | cons e as ih =>
    obtain ⟨j, v⟩ := e
    cases bs with
    | nil => have := same j; simp at this
    | cons e bs =>
      obtain ⟨l, w⟩ := e
      obtain ⟨headA, tailA⟩ := List.pairwise_cons.1 asc
      obtain ⟨headB, tailB⟩ := List.pairwise_cons.1 bsc
      have noneA : as.lookup j = none := lookup_eq_none_of_lt headA
      have noneB : bs.lookup l = none := lookup_eq_none_of_lt headB
      have key : j = l := by
        apply String.le_antisymm
        · refine String.not_lt.1 fun lt => ?_
          have := same l
          have far : as.lookup l = none :=
            lookup_eq_none_of_lt fun e he => String.lt_trans lt (headA e he)
          have ne : ¬ l = j := fun e => String.lt_irrefl l (e ▸ lt)
          simp [lookup_cons_ite, far, ne] at this
        · refine String.not_lt.1 fun lt => ?_
          have := same j
          have far : bs.lookup j = none :=
            lookup_eq_none_of_lt fun e he => String.lt_trans lt (headB e he)
          have ne : ¬ j = l := fun e => String.lt_irrefl j (e ▸ lt)
          simp [lookup_cons_ite, far, ne] at this
      subst key
      have value : v = w := by simpa [lookup_cons_ite] using same j
      subst value
      have rest : as = bs := ih tailA bs tailB fun k => by
        by_cases eq : k = j
        · rw [eq, noneA, noneB]
        · have := same k
          simpa [lookup_cons_ite, eq] using this
      subst rest
      rfl

/-- The last pair of `es` under `k`. -/
def lastOf (es : List (String × α)) (k : String) : Option α := es.reverse.lookup k

theorem get?_insertMany (t : Table α) (es : List (String × α)) (k : String) :
    (t.insertMany es).get? k = (lastOf es k).or (t.get? k) := by
  unfold insertMany lastOf
  induction es generalizing t with
  | nil => simp
  | cons e rest ih =>
    obtain ⟨j, v⟩ := e
    rw [List.foldl_cons, ih, get?_insert, List.reverse_cons, List.lookup_append, Option.or_assoc]
    congr 1
    by_cases eq : k = j <;> simp [lookup_cons_ite, eq]

theorem get?_ofList (es : List (String × α)) (k : String) : (ofList es).get? k = lastOf es k := by
  simp [ofList, get?_insertMany]

/-- Of pairs under different keys each is in their table. -/
theorem get?_ofList_of_mem {es : List (String × α)} (distinct : (es.map (·.1)).Nodup)
    {key : String} {value : α} (member : (key, value) ∈ es) :
    (ofList es).get? key = some value := by
  rw [get?_ofList, lastOf]
  have listed : (key, value) ∈ es.reverse := List.mem_reverse.2 member
  have distinct : es.reverse.Pairwise fun a b => a.1 ≠ b.1 :=
    List.pairwise_reverse.2 ((List.pairwise_map.1 distinct).imp Ne.symm)
  generalize es.reverse = es at listed distinct
  induction es with
  | nil => cases listed
  | cons entry rest ih =>
    obtain ⟨other, first⟩ := entry
    obtain ⟨fresh, distinct⟩ := List.pairwise_cons.1 distinct
    rw [lookup_cons_ite]
    rcases List.mem_cons.1 listed with here | later
    · cases here
      rw [if_pos rfl]
    · rw [if_neg (fresh _ later).symm]
      exact ih later distinct

/-- What is in a table of pairs is one of them. -/
theorem mem_of_get?_ofList {es : List (String × α)} {key : String} {value : α}
    (found : (ofList es).get? key = some value) : (key, value) ∈ es := by
  rw [get?_ofList, lastOf, List.lookup_eq_some_iff] at found
  obtain ⟨front, rest, split, -⟩ := found
  have listed : (key, value) ∈ es.reverse := by
    rw [split]
    exact List.mem_append_right _ List.mem_cons_self
  exact List.mem_reverse.1 listed

theorem lookup_reverse {es : List (String × α)} (h : es.Pairwise (fun a b => a.1 < b.1))
    (k : String) : es.reverse.lookup k = es.lookup k := by
  induction es with
  | nil => rfl
  | cons e rest ih =>
    obtain ⟨j, v⟩ := e
    obtain ⟨head, tail⟩ := List.pairwise_cons.1 h
    rw [List.reverse_cons, List.lookup_append, ih tail, lookup_cons_ite, lookup_cons_ite]
    by_cases eq : k = j
    · subst eq
      rw [lookup_eq_none_of_lt head]
      simp
    · simp [eq]

/-- A key of the second table takes its value from there, any other from the first. -/
@[simp] theorem get?_merge (a b : Table α) (k : String) :
    (a.merge b).get? k = (b.get? k).or (a.get? k) := by
  rw [merge, get?_insertMany, lastOf, lookup_reverse b.ascending]; rfl

theorem ofList_entries (t : Table α) : ofList t.entries = t :=
  ext_get? fun k => by rw [get?_ofList, lastOf, lookup_reverse t.ascending]; rfl

theorem get?_filterKeys (t : Table α) (keep : String → Bool) (k : String) :
    (t.filterKeys keep).get? k = if keep k then t.get? k else none := by
  obtain ⟨es, asc⟩ := t
  simp only [get?, filterKeys]
  clear asc
  induction es with
  | nil => simp
  | cons e rest ih =>
    obtain ⟨j, v⟩ := e
    by_cases kept : keep j
    · rw [List.filter_cons_of_pos (by simpa using kept), lookup_cons_ite, lookup_cons_ite, ih]
      by_cases eq : k = j
      · subst eq; simp [kept]
      · simp [eq]
    · rw [List.filter_cons_of_neg (by simpa using kept), ih, lookup_cons_ite]
      by_cases eq : k = j
      · subst eq; simp [kept]
      · simp [eq]

@[simp] theorem get?_erase (t : Table α) (k j : String) :
    (t.erase k).get? j = if j = k then none else t.get? j := by
  rw [erase, get?_filterKeys]
  by_cases eq : j = k <;> simp [eq]

end IdentityChain.Table
