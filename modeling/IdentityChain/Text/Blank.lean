/-!
# Blank characters

The 25 characters of the Unicode property `White_Space`, and trimming by them.
-/

namespace IdentityChain.Text

/-- Whether `c` is white space. -/
def isBlank (c : Char) : Bool :=
  let n := c.toNat
  (9 ≤ n && n ≤ 13) || n == 0x20 || n == 0x85 || n == 0xa0 || n == 0x1680 ||
    (0x2000 ≤ n && n ≤ 0x200a) || n == 0x2028 || n == 0x2029 || n == 0x202f || n == 0x205f ||
    n == 0x3000

/-- The text without the blanks at both ends. -/
def trimmed (text : List Char) : List Char :=
  ((text.dropWhile isBlank).reverse.dropWhile isBlank).reverse

/-- Whether nothing but blanks stands in `s`. -/
def blank (s : String) : Bool := s.toList.all isBlank

theorem dropWhile_eq_nil_iff {p : Char → Bool} {text : List Char} :
    text.dropWhile p = [] ↔ text.all p = true := by
  induction text with
  | nil => simp
  | cons c rest ih =>
    by_cases h : p c = true
    · simp only [List.dropWhile_cons_of_pos h, ih, List.all_cons, h, Bool.true_and]
    · simp [List.dropWhile_cons_of_neg h, h]

theorem all_dropWhile {p : Char → Bool} (text : List Char) :
    (text.dropWhile p).all p = text.all p := by
  induction text with
  | nil => rfl
  | cons c rest ih =>
    by_cases h : p c = true
    · simp [List.dropWhile_cons_of_pos h, ih, h]
    · simp [List.dropWhile_cons_of_neg h]

/-- A text is blank exactly when trimming leaves nothing. -/
theorem blank_iff (s : String) : blank s = true ↔ trimmed s.toList = [] := by
  unfold blank trimmed
  rw [List.reverse_eq_nil_iff, dropWhile_eq_nil_iff, List.all_reverse, all_dropWhile]

end IdentityChain.Text
