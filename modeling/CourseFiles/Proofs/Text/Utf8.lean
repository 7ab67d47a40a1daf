import CourseFiles.Text.Utf8
import Mathlib.Tactic.IntervalCases

namespace CourseFiles
namespace Utf8

variable {c : Char} {n t bits : Nat} {low high : UInt8} {rest : List UInt8}

theorem toNat_ofNat (small : n < 256) : (UInt8.ofNat n).toNat = n := by
  rw [UInt8.toNat_ofNat']
  exact Nat.mod_eq_of_lt small

theorem takeTails_cons (small : t < 64) (above : low.toNat ≤ t + 128) (below : t + 128 ≤ high.toNat) :
    takeTails (n + 1) bits low high (UInt8.ofNat (t + 128) :: rest) = takeTails n (bits * 64 + t) 0x80 0xBF rest := by
  have same : (UInt8.ofNat (t + 128)).toNat = t + 128 := toNat_ofNat (by omega)
  have fits : low ≤ UInt8.ofNat (t + 128) ∧ UInt8.ofNat (t + 128) ≤ high := by
    rw [UInt8.le_iff_toNat_le, UInt8.le_iff_toNat_le, same]
    exact ⟨above, below⟩
  have carried : tailBits (UInt8.ofNat (t + 128)) = t := by
    unfold tailBits
    omega
  rw [takeTails, if_pos (by simpa using fits), carried]

theorem lead?_one (small : n < 128) : lead? (UInt8.ofNat n) = some ⟨0, n, 0x80, 0xBF⟩ := by
  have same : (UInt8.ofNat n).toNat = n := toNat_ofNat (by omega)
  have first : UInt8.ofNat n < 0x80 := UInt8.lt_iff_toNat_lt.mpr (same.symm ▸ small)
  rw [lead?, if_pos first, same]

theorem lead?_two (many : 2 ≤ n) (small : n < 32) :
    lead? (UInt8.ofNat (n + 192)) = some ⟨1, n, 0x80, 0xBF⟩ := by
  interval_cases n <;> rfl

theorem lead?_three (small : n < 16) : lead? (UInt8.ofNat (n + 224)) =
    some ⟨2, n, if n = 0 then 0xA0 else 0x80, if n = 13 then 0x9F else 0xBF⟩ := by
  interval_cases n <;> rfl

theorem lead?_four (small : n < 5) : lead? (UInt8.ofNat (n + 240)) =
    some ⟨3, n, if n = 0 then 0x90 else 0x80, if n = 4 then 0x8F else 0xBF⟩ := by
  interval_cases n <;> rfl

theorem next_lead (lead : lead? b = some l)
    (taken : takeTails l.tails l.bits l.low l.high tails = (some c.toNat, rest)) :
    next b tails = (some c, rest) := by
  rw [next, lead]
  simp only [taken, Option.map_some, Char.ofNat_toNat]

-- The first character of what was written is read back, by the length of what is written of it.
theorem next_encoded (c : Char) (rest : List UInt8) :
    ∃ b tails, String.utf8EncodeChar c = b :: tails ∧ next b (tails ++ rest) = (some c, rest) := by
  have valid : c.toNat < 0xD800 ∨ 0xDFFF < c.toNat ∧ c.toNat < 0x110000 := c.valid
  unfold String.utf8EncodeChar
  rw [show c.val.toNat = c.toNat from rfl]
  generalize same : c.toNat = v at valid
  dsimp only
  split
  · refine ⟨_, _, rfl, next_lead (lead?_one (by omega)) ?_⟩
    rw [same]
    rfl
  · split
    · refine ⟨_, _, rfl, next_lead (lead?_two (by omega) (by omega)) ?_⟩
      rw [List.cons_append, takeTails_cons (by omega) (by simp) (by simp; omega), same]
      simp only [List.nil_append, takeTails, Prod.mk.injEq, Option.some.injEq, and_true]
      omega
    · split
      · refine ⟨_, _, rfl, next_lead (lead?_three (by omega)) ?_⟩
        simp only [List.cons_append]
        rw [takeTails_cons (by omega) (by split <;> simp; omega) (by split <;> simp <;> omega),
          takeTails_cons (by omega) (by simp) (by simp; omega), same]
        simp only [List.nil_append, takeTails, Prod.mk.injEq, Option.some.injEq, and_true]
        omega
      · refine ⟨_, _, rfl, next_lead (lead?_four (by omega)) ?_⟩
        simp only [List.cons_append]
        rw [takeTails_cons (by omega) (by split <;> simp; omega) (by split <;> simp <;> omega),
          takeTails_cons (by omega) (by simp) (by simp; omega),
          takeTails_cons (by omega) (by simp) (by simp; omega), same]
        simp only [List.nil_append, takeTails, Prod.mk.injEq, Option.some.injEq, and_true]
        omega

-- An ASCII character is one byte.
theorem encode_ascii (small : c.toNat < 128) (s : List Char) : encode (c :: s) = UInt8.ofNat c.toNat :: encode s := by
  have one : String.utf8EncodeChar c = [UInt8.ofNat c.toNat] := if_pos (Nat.le_of_lt_succ small)
  rw [encode, List.flatMap_cons, one, List.singleton_append, ← encode]

@[simp] theorem encode_append (s t : List Char) : encode (s ++ t) = encode s ++ encode t := List.flatMap_append

theorem decodeLossy_encode (s : List Char) : decodeLossy (encode s) = s := by
  induction s with
  | nil => rw [encode, List.flatMap_nil, decodeLossy]
  | cons c s ih =>
    obtain ⟨b, tails, written, read⟩ := next_encoded c (encode s)
    rw [encode, List.flatMap_cons, written, ← encode, List.cons_append, decodeLossy, read, Option.getD_some, ih]

end Utf8
end CourseFiles
