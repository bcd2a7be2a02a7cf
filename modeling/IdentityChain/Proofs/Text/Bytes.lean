/-!
# Texts by their bytes

Texts are compared character by character. Their UTF-8 encodings, compared byte
by byte, stand in the same order (`lt_iff_bytes_lt`): of two characters the
lesser has the lesser encoding already where the encodings first differ
(`encode_lt_encode`), which is before either of them ends.
-/

namespace IdentityChain.Text

/-- The bytes of a text. -/
def bytes (s : String) : List UInt8 := s.toByteArray.data.toList

theorem bytes_eq_flatMap (s : String) : bytes s = s.toList.flatMap String.utf8EncodeChar := by
  rw [bytes, ← String.utf8Encode_toList, List.utf8Encode, List.toList_data_toByteArray]

/-- The encoding of a lesser character is less, whatever follows. -/
theorem encode_lt_encode {c d : Char} (lt : c < d) (xs ys : List UInt8) :
    String.utf8EncodeChar c ++ xs < String.utf8EncodeChar d ++ ys := by
  have less : c.val.toNat < d.val.toNat := lt
  have greatest : d.val.toNat < 0x110000 := by
    rcases d.valid with low | high
    · exact Nat.lt_trans low (by decide)
    · exact high.2
  -- Six bits to a continuation byte: the quotients as iterated ones, so that they can be compared.
  have twelve (n : Nat) : n / 4096 = n / 64 / 64 := by rw [Nat.div_div_eq_div_mul]
  have eighteen (n : Nat) : n / 262144 = n / 64 / 64 / 64 := by
    rw [Nat.div_div_eq_div_mul, Nat.div_div_eq_div_mul]
  -- One case for each pair of lengths; of different lengths the first bytes decide.
  fun_cases String.utf8EncodeChar c <;> fun_cases String.utf8EncodeChar d
  all_goals
    simp only [List.cons_append, List.nil_append, List.cons_lt_cons_iff, UInt8.lt_iff_toNat_lt,
      ← UInt8.toNat_inj, UInt8.toNat_ofNat', twelve, eighteen]
    omega

theorem flatMap_encode_lt {cs ds : List Char} (lt : cs < ds) :
    cs.flatMap String.utf8EncodeChar < ds.flatMap String.utf8EncodeChar := by
  induction cs generalizing ds with
  | nil =>
    cases ds with
    | nil => exact (List.not_lt_nil _ lt).elim
    | cons d ds =>
      have written : String.utf8EncodeChar d ≠ [] := String.utf8EncodeChar_ne_nil
      obtain ⟨first, rest, encoded⟩ := List.exists_cons_of_ne_nil written
      rw [List.flatMap_cons, encoded]
      exact List.nil_lt_cons _ _
  | cons c cs ih =>
    cases ds with
    | nil => exact (List.not_lt_nil _ lt).elim
    | cons d ds =>
      rw [List.flatMap_cons, List.flatMap_cons]
      rcases List.cons_lt_cons_iff.1 lt with less | ⟨rfl, rest⟩
      · exact encode_lt_encode less _ _
      · exact List.append_left_lt (ih rest)

theorem bytes_lt_of_lt {s t : String} (lt : s < t) : bytes s < bytes t := by
  rw [bytes_eq_flatMap, bytes_eq_flatMap]
  exact flatMap_encode_lt lt

/-- The order of texts is that of their bytes. -/
theorem lt_iff_bytes_lt {s t : String} : s < t ↔ bytes s < bytes t := by
  refine ⟨bytes_lt_of_lt, fun less => ?_⟩
  by_cases lt : s < t
  · exact lt
  · by_cases gt : t < s
    · exact (List.lt_asymm less (bytes_lt_of_lt gt)).elim
    · have same : s = t := String.le_antisymm (String.not_lt.1 gt) (String.not_lt.1 lt)
      subst same
      exact (List.lt_irrefl _ less).elim

theorem le_iff_bytes_le {s t : String} : s ≤ t ↔ bytes s ≤ bytes t := by
  rw [← String.not_lt, ← List.not_lt, lt_iff_bytes_lt]

end IdentityChain.Text
