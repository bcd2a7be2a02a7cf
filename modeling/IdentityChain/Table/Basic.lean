/-!
# Tables

A `Table α` holds values under string keys. Its entries stand in strictly
ascending key order (by code point), so a table is determined by its look-ups
and equality of tables is plain equality. Everything the registry keeps by name
(the keys of one configuration item, the items of a configuration, the records
of a cache) is a table.
-/

namespace IdentityChain

/-- Values under strictly ascending string keys. -/
structure Table (α : Type) where
  entries : List (String × α)
  ascending : entries.Pairwise (fun a b => a.1 < b.1)

namespace Table

variable {α β : Type}

theorem eq_of_entries {a b : Table α} (h : a.entries = b.entries) : a = b := by
  cases a; cases b; cases h; rfl

instance [DecidableEq α] : DecidableEq (Table α) := fun a b =>
  decidable_of_iff (a.entries = b.entries) ⟨eq_of_entries, fun h => h ▸ rfl⟩

/-- The table without entries. -/
def empty : Table α := ⟨[], .nil⟩

instance : Inhabited (Table α) := ⟨empty⟩

/-- Places `v` under `k` in an ascending list of entries, over what `k` held. -/
def put (k : String) (v : α) : List (String × α) → List (String × α)
  | [] => [(k, v)]
  | (j, w) :: rest =>
    if k < j then (k, v) :: (j, w) :: rest
    else if k = j then (k, v) :: rest
    else (j, w) :: put k v rest

theorem fst_mem_put {k : String} {v : α} {es : List (String × α)} {e : String × α}
    (h : e ∈ put k v es) : e = (k, v) ∨ e ∈ es := by
  fun_induction put k v es with
  | case1 => simpa using h
  | case2 => simpa using h
  | case3 w rest _ => grind
  | case4 j w rest _ _ ih => grind

theorem put_ascending {k : String} {v : α} {es : List (String × α)}
    (h : es.Pairwise (fun a b => a.1 < b.1)) : (put k v es).Pairwise (fun a b => a.1 < b.1) := by
  fun_induction put k v es with
  | case1 => simp
  | case2 j w rest lt =>
    obtain ⟨head, _⟩ := List.pairwise_cons.1 h
    refine List.pairwise_cons.2 ⟨fun e he => ?_, h⟩
    rcases List.mem_cons.1 he with rfl | he
    · exact lt
    · exact String.lt_trans lt (head e he)
  | case3 w rest _ =>
    obtain ⟨head, tail⟩ := List.pairwise_cons.1 h
    exact List.pairwise_cons.2 ⟨head, tail⟩
  | case4 j w rest ge ne ih =>
    obtain ⟨head, tail⟩ := List.pairwise_cons.1 h
    refine List.pairwise_cons.2 ⟨fun e he => ?_, ih tail⟩
    rcases fst_mem_put he with rfl | he
    · exact Classical.byContradiction fun no =>
        ne (String.le_antisymm (String.not_lt.1 no) (String.not_lt.1 ge))
    · exact head e he

/-- The table with `v` under `k`. -/
def insert (t : Table α) (k : String) (v : α) : Table α :=
  ⟨put k v t.entries, put_ascending t.ascending⟩

/-- The value under `k`. -/
def get? (t : Table α) (k : String) : Option α := t.entries.lookup k

/-- Whether some value stands under `k`. -/
def contains (t : Table α) (k : String) : Bool := (t.get? k).isSome

/-- The keys, ascending. -/
def keys (t : Table α) : List String := t.entries.map (·.1)

/-- The number of entries. -/
def size (t : Table α) : Nat := t.entries.length

/-- The entries whose key passes `keep`. -/
def filterKeys (t : Table α) (keep : String → Bool) : Table α :=
  ⟨t.entries.filter (fun e => keep e.1), t.ascending.filter _⟩

/-- The table without `k`. -/
def erase (t : Table α) (k : String) : Table α := t.filterKeys (· ≠ k)

/-- The pairs of a list inserted one after the other, so that a later pair wins. -/
def insertMany (t : Table α) (es : List (String × α)) : Table α :=
  es.foldl (fun t e => t.insert e.1 e.2) t

/-- The table of a list of pairs; of two pairs with one key the later wins. -/
def ofList (es : List (String × α)) : Table α := empty.insertMany es

/-- The entries of `b` written over those of `a`. -/
def merge (a b : Table α) : Table α := a.insertMany b.entries

/-- Puts `f` of what `k` holds under `k`. -/
def alter (t : Table α) (k : String) (f : Option α → α) : Table α := t.insert k (f (t.get? k))

end Table

end IdentityChain
