import CourseFiles.Proofs.Url.Addresses
import CourseFiles.Url.Domain

namespace CourseFiles

namespace Punycode

-- The characters that distances are written in.
def IsDigit (c : Char) : Prop := ∃ n < radix, c = digit n

variable {bias place distance ascii code next : Nat} {codes : List Nat} {s : List Char} {c : Char} {w : Written}

theorem threshold_le (bias place : Nat) : threshold bias place ≤ 26 := by
  unfold threshold
  omega

theorem mem_digits (here : c ∈ digits bias place distance) : IsDigit c := by
  have low := threshold_le bias place
  induction place, distance using digits.induct bias with
  | case1 place distance t last =>
    rw [digits, if_pos last] at here
    cases List.mem_singleton.mp here
    have small : distance < threshold bias place := last
    exact ⟨distance, by unfold radix; omega, rfl⟩
  | case2 place distance t more ih =>
    rw [digits, if_neg more] at here
    rcases List.mem_cons.mp here with rfl | later
    · have small := Nat.mod_lt (distance - threshold bias place) (show 0 < radix - threshold bias place by
        unfold radix
        omega)
      exact ⟨_, by omega, rfl⟩
    · exact ih later (threshold_le bias (place + radix))

theorem mem_pass (digits : ∀ c ∈ w.text, IsDigit c) (d : Char) (here : c ∈ (pass ascii code w d).text) :
    IsDigit c := by
  unfold pass at here
  split at here
  · exact digits c here
  · split at here
    · exact (List.mem_append.mp here).elim (digits c) mem_digits
    · exact digits c here

theorem mem_passed (digits : ∀ c ∈ w.text, IsDigit c) (here : c ∈ (s.foldl (pass ascii code) w).text) :
    IsDigit c := by
  induction s generalizing w with
  | nil => exact digits c here
  | cons d s ih => exact ih (fun _ there => mem_pass digits d there) here

theorem mem_writeCodes (digits : ∀ c ∈ w.text, IsDigit c) (here : c ∈ (writeCodes s ascii codes next w).text) :
    IsDigit c := by
  induction codes generalizing next w with
  | nil => exact digits c here
  | cons code codes ih =>
    refine ih (fun d there => ?_) here
    exact mem_passed (w := { w with distance := w.distance + (code - next) * (w.count + 1) }) digits there

theorem mem_encode (here : c ∈ encode s) : c ∈ s ∨ c = '-' ∨ IsDigit c := by
  unfold encode at here
  rcases List.mem_append.mp here with front | written
  · split at front
    · cases front
    · rcases List.mem_append.mp front with plain | mark
      · exact .inl (List.mem_filter.mp plain |>.1)
      · exact .inr (.inl (List.mem_singleton.mp mark))
  · exact .inr (.inr (mem_writeCodes (by simp) written))

end Punycode

namespace Domain

variable {s name : List Char} {l : Label} {c : Char} {bytes : List UInt8}

theorem digit_allowed (digit : Punycode.IsDigit c) : isForbidden c = false := by
  have every : ∀ n < Punycode.radix, isForbidden (Punycode.digit n) = false := by decide +kernel
  obtain ⟨n, small, rfl⟩ := digit
  exact every n small

theorem digitChar_allowed (below : n < 16) : isForbidden (Nat.digitChar n) = false := by
  have every : ∀ n < 16, isForbidden (Nat.digitChar n) = false := by decide
  exact every n below

theorem allowed_ne (allowed : isForbidden c = false) (forbidden : isForbidden d = true) : c ≠ d := by
  rintro rfl
  cases allowed.symm.trans forbidden

theorem any_allowed (none : s.any isForbidden = false) (here : c ∈ s) : isForbidden c = false :=
  Bool.eq_false_iff.mpr (List.any_eq_false.mp none c here)

theorem label?_allowed (allowed : ∀ c ∈ s, isForbidden c = false) (read : label? s = some l)
    (here : c ∈ l.written) : isForbidden c = false := by
  have marked : mark.any isForbidden = false := by decide
  unfold label? at read
  split at read
  · simp only [Option.bind_eq_bind, Option.bind_eq_some_iff, Option.ite_none_right_eq_some, Option.some.injEq] at read
    obtain ⟨shown, -, -, rfl⟩ := read
    exact allowed c here
  · split at read
    · cases read
      exact allowed c here
    · split at read
      · cases read
        rcases List.mem_append.mp here with front | encoded
        · exact any_allowed marked front
        · rcases Punycode.mem_encode encoded with plain | rfl | digit
          · exact allowed c plain
          · decide
          · exact digit_allowed digit
      · cases read

theorem toAscii?_allowed (read : toAscii? bytes = some name) (here : c ∈ name) : isForbidden c = false := by
  simp only [toAscii?, Option.bind_eq_bind, Option.bind_eq_some_iff, Option.ite_none_left_eq_some,
    Option.some.injEq] at read
  obtain ⟨decoded, -, parts, -, allowed, labels, split, -, rfl⟩ := read
  rcases Form.mem_joined here with rfl | ⟨part, there, inside⟩
  · decide
  · obtain ⟨l, label, rfl⟩ := List.mem_map.mp there
    obtain ⟨s, piece, read⟩ := mapM_each split label
    refine label?_allowed (fun d mine => ?_) read inside
    exact any_allowed (Bool.eq_false_iff.mpr allowed) (Form.mem_split piece mine)

end Domain
end CourseFiles
