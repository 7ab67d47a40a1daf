import CourseFiles.Url.Address
import Mathlib.Algebra.Group.Nat.Defs
import Mathlib.Data.List.Induction

namespace CourseFiles

theorem mapM_each {as : List α} {bs : List β} {f : α → Option β} (read : as.mapM f = some bs) (here : b ∈ bs) :
    ∃ a ∈ as, f a = some b := by
  induction as generalizing bs with
  | nil =>
    cases read
    cases here
  | cons a as ih =>
    simp only [List.mapM_cons, Option.bind_eq_bind, Option.bind_eq_some_iff, Option.pure_def, Option.some.injEq] at read
    obtain ⟨first, there, rest, later, rfl⟩ := read
    rcases List.mem_cons.mp here with rfl | here
    · exact ⟨a, List.mem_cons_self, there⟩
    · obtain ⟨a', inside, same⟩ := ih later here
      exact ⟨a', List.mem_cons_of_mem a inside, same⟩

namespace Form

variable {mark : Char} {s rest : List Char}

theorem split_splitOn (mark : Char) (s : List Char) : split mark s = s.splitOn mark := by
  induction s with
  | nil => rfl
  | cons c s ih =>
    rw [split, ih, List.splitOn_cons_eq_if_modifyHead]
    by_cases here : c = mark
    · simp [here]
    · obtain ⟨part, parts, more⟩ := List.exists_cons_of_ne_nil (List.splitOn_ne_nil mark s)
      simp [here, more]

-- Parts that are put together with the mark come apart again.
theorem split_joined {parts : List (List Char)} (plain : ∀ p ∈ parts, mark ∉ p) (any : parts ≠ []) :
    split mark ([mark].intercalate parts) = parts :=
  (split_splitOn mark _).trans (List.splitOn_intercalate mark plain any)

theorem mem_joined {parts : List (List Char)} (here : c ∈ [mark].intercalate parts) :
    c = mark ∨ ∃ p ∈ parts, c ∈ p := by
  induction parts with
  | nil => cases here
  | cons p more ih =>
    cases more with
    | nil => exact .inr ⟨p, List.mem_singleton_self p, by simpa using here⟩
    | cons q more =>
      rw [List.intercalate_cons_cons, List.append_assoc] at here
      rcases List.mem_append.mp here with first | here
      · exact .inr ⟨p, List.mem_cons_self, first⟩
      · rcases List.mem_cons.mp here with same | later
        · exact .inl same
        · exact (ih later).imp_right fun ⟨part, there, inside⟩ => ⟨part, List.mem_cons_of_mem p there, inside⟩

theorem mem_split (here : p ∈ split mark s) : p ⊆ s := by
  induction s generalizing p with
  | nil => simp_all [split]
  | cons c s ih =>
    unfold split at here
    split at here
    · rcases List.mem_cons.mp here with rfl | later
      · exact List.nil_subset _
      · exact List.subset_cons_of_subset c (ih later)
    · split at here
      · cases List.mem_singleton.mp here
        exact List.cons_subset_cons c (List.nil_subset s)
      · rename_i part parts split
        rcases List.mem_cons.mp here with rfl | later
        · exact List.cons_subset_cons c (ih (split ▸ List.mem_cons_self))
        · exact List.subset_cons_of_subset c (ih (split ▸ List.mem_cons_of_mem part later))

end Form

namespace Address

section Digits

variable {base n : Nat} {s : List Char}

theorem digits?_append (s : List Char) (c : Char) :
    digits? base (s ++ [c]) = (digits? base s).bind fun n => (digitBelow base c).map fun d => n * base + d := by
  simp [digits?, List.foldlM_append]

theorem digitBelow_lt (read : digitBelow base c = some d) : d < base := by
  unfold digitBelow at read
  simp only [Option.ite_none_right_eq_some, Option.some.injEq] at read
  exact read.2 ▸ read.1

theorem digitBelow_digitChar (small : base ≤ 16) (below : d < base) : digitBelow base (Nat.digitChar d) = some d := by
  have every : ∀ base ≤ 16, ∀ d < base, digitBelow base (Nat.digitChar d) = some d := by decide
  exact every base small d below

theorem digits?_toDigits (many : 1 < base) (small : base ≤ 16) (n : Nat) :
    digits? base (Nat.toDigits base n) = some n := by
  induction n using Nat.strongRecOn with
  | ind n ih =>
    by_cases single : n < base
    · rw [Nat.toDigits_of_lt_base single]
      simp [digits?, digitBelow_digitChar small single]
    · have last : n % base < base := Nat.mod_lt n (by omega)
      rw [Nat.toDigits_of_base_le many (by omega), digits?_append, ih (n / base) (Nat.div_lt_self (by omega) many)]
      simp [digitBelow_digitChar small last, Nat.div_add_mod']

theorem digits?_lt (read : digits? base s = some n) : n < base ^ s.length := by
  induction s using List.reverseRec generalizing n with
  | nil => cases read; exact Nat.one_pos
  | append_singleton s c ih =>
    rw [digits?_append] at read
    obtain ⟨m, front, last⟩ := Option.bind_eq_some_iff.mp read
    obtain ⟨d, digit, rfl⟩ := Option.map_eq_some_iff.mp last
    have small := digitBelow_lt digit
    have bound : (m + 1) * base ≤ base ^ s.length * base := Nat.mul_le_mul_right base (ih front)
    rw [List.length_append, List.length_singleton, Nat.pow_succ]
    rw [Nat.add_mul] at bound
    omega

theorem mem_toDigits (many : 1 < base) (here : c ∈ Nat.toDigits base n) : ∃ d < base, c = Nat.digitChar d := by
  induction n using Nat.strongRecOn with
  | ind n ih =>
    by_cases single : n < base
    · rw [Nat.toDigits_of_lt_base single] at here
      exact ⟨n, single, List.mem_singleton.mp here⟩
    · rw [Nat.toDigits_of_base_le many (by omega)] at here
      rcases List.mem_append.mp here with front | last
      · exact ih (n / base) (Nat.div_lt_self (by omega) many) front
      · exact ⟨n % base, Nat.mod_lt n (by omega), List.mem_singleton.mp last⟩

theorem not_mem_toDigits (many : 1 < base) (small : base ≤ 16) (other : ∀ d < 16, c ≠ Nat.digitChar d) :
    c ∉ Nat.toDigits base n := fun here =>
  have ⟨d, below, same⟩ := mem_toDigits many here
  other d (Nat.lt_of_lt_of_le below small) same

end Digits

section Version4

variable {n : Nat} {s : List Char}

-- The bytes, the highest first.
def bytes (n : Nat) : List Nat := [n / 256 ^ 3 % 256, n / 256 ^ 2 % 256, n / 256 % 256, n % 256]

theorem version4Text_joined (n : Nat) : version4Text n = ['.'].intercalate ((bytes n).map (Nat.toDigits 10)) := by
  simp [version4Text, bytes]

theorem parts_version4Text (n : Nat) : parts (version4Text n) = (bytes n).map (Nat.toDigits 10) := by
  have apart : Form.split '.' (version4Text n) = (bytes n).map (Nat.toDigits 10) := by
    rw [version4Text_joined]
    refine Form.split_joined (fun p here => ?_) (by simp [bytes])
    obtain ⟨b, -, rfl⟩ := List.mem_map.mp here
    exact not_mem_toDigits (by decide) (by decide) (by decide)
  simp [parts, apart, bytes]

theorem part?_toDigits (byte : b < 256) : part? (Nat.toDigits 10 b) = some b := by
  have every : ∀ b < 256, part? (Nat.toDigits 10 b) = some b := by decide +kernel
  exact every b byte

theorem version4?_text (small : n < 2 ^ 32) : version4? (version4Text n) = some n := by
  have numbers : (parts (version4Text n)).mapM part? = some (bytes n) := by
    rw [parts_version4Text]
    simp [bytes, part?_toDigits, Nat.mod_lt]
  have each (m : Nat) : ¬ 255 < m % 256 := by omega
  simp [version4?, numbers, bytes, each]
  omega

-- Written out, it is not taken for a name.
theorem endsInNumber_version4Text (n : Nat) : endsInNumber (version4Text n) = true := by
  have digits : ∀ c ∈ Nat.toDigits 10 (n % 256), c.isDigit = true := fun c here =>
    Nat.isDigit_of_mem_toDigits (by decide) (by decide) here
  simpa [endsInNumber, parts_version4Text, bytes, Nat.toDigits_ne_nil] using .inl digits

theorem mem_version4Text (here : c ∈ version4Text n) : c = '.' ∨ ∃ d < 16, c = Nat.digitChar d := by
  rw [version4Text_joined] at here
  refine (Form.mem_joined here).imp_right fun ⟨p, there, inside⟩ => ?_
  obtain ⟨b, -, rfl⟩ := List.mem_map.mp there
  obtain ⟨d, below, same⟩ := mem_toDigits (by decide) inside
  exact ⟨d, by omega, same⟩

theorem foldl_bytes_lt {bytes : List Nat} (each : ∀ b ∈ bytes, b < 256) :
    bytes.foldl (fun n b => n * 256 + b) 0 < 256 ^ bytes.length := by
  induction bytes using List.reverseRec with
  | nil => exact Nat.one_pos
  | append_singleton bytes b ih =>
    have front := ih fun c here => each c (List.mem_append_left [b] here)
    have last := each b (by simp)
    rw [List.foldl_append, List.length_append, List.length_singleton, Nat.pow_succ, List.foldl_cons, List.foldl_nil]
    omega

theorem version4?_lt (read : version4? s = some n) : n < 2 ^ 32 := by
  simp only [version4?, Option.bind_eq_bind, Option.bind_eq_some_iff] at read
  obtain ⟨numbers, -, last, -, read⟩ := read
  split at read
  · cases read
  · split at read
    · cases read
    · rename_i few each
      split at read
      · cases read
      · rename_i fits
        have front : numbers.dropLast.foldl (fun n b => n * 256 + b) 0 < 256 ^ numbers.dropLast.length := by
          refine foldl_bytes_lt fun b here => ?_
          simp only [List.any_eq_true, decide_eq_true_eq, not_exists, not_and] at each
          have := each b here
          omega
        generalize numbers.dropLast.foldl (fun n b => n * 256 + b) 0 = high at front read
        generalize numbers.dropLast.length = count at *
        have whole : 256 ^ count * 256 ^ (4 - count) = 2 ^ 32 := by
          rw [← Nat.pow_add, show count + (4 - count) = 4 by omega]
          rfl
        have bound : (high + 1) * 256 ^ (4 - count) ≤ 256 ^ count * 256 ^ (4 - count) := Nat.mul_le_mul_right _ front
        cases read
        rw [Nat.add_mul] at bound
        change high * 256 ^ (4 - count) + last < 2 ^ 32
        change ¬ 256 ^ (4 - count) ≤ last at fits
        omega

end Version4

section Version6

variable {groups : List Nat} {s t before after : List Char}

theorem colonless (g : Nat) : ':' ∉ Nat.toDigits 16 g := not_mem_toDigits (by decide) (by decide) (by decide)

theorem dotless (g : Nat) : '.' ∉ Nat.toDigits 16 g := not_mem_toDigits (by decide) (by decide) (by decide)

theorem joinGroups_cons (g h : Nat) (more : List Nat) :
    joinGroups (g :: h :: more) = Nat.toDigits 16 g ++ ':' :: joinGroups (h :: more) := by
  simp [joinGroups]

theorem joinGroups_starts (g : Nat) (more : List Nat) : ∃ c s, joinGroups (g :: more) = c :: s ∧ c ≠ ':' := by
  obtain ⟨c, s, written⟩ := List.exists_cons_of_ne_nil (Nat.toDigits_ne_nil (n := g) (b := 16))
  have other : c ≠ ':' := fun same => colonless g (written ▸ same ▸ List.mem_cons_self)
  cases more with
  | nil => exact ⟨c, s, by simpa [joinGroups] using written, other⟩
  | cons h more => exact ⟨c, _, by rw [joinGroups_cons, written, List.cons_append], other⟩

theorem mem_joinGroups (here : c ∈ joinGroups groups) : c = ':' ∨ ∃ d < 16, c = Nat.digitChar d := by
  refine (Form.mem_joined here).imp_right fun ⟨p, there, inside⟩ => ?_
  obtain ⟨g, -, rfl⟩ := List.mem_map.mp there
  exact mem_toDigits (by decide) inside

theorem joinGroups_dotless (groups : List Nat) : '.' ∉ joinGroups groups := fun here => by
  have other : ∀ d < 16, '.' ≠ Nat.digitChar d := by decide
  rcases mem_joinGroups here with same | ⟨d, below, same⟩
  · cases same
  · exact other d below same

theorem mem_version6Text (here : c ∈ version6Text groups) : c = ':' ∨ ∃ d < 16, c = Nat.digitChar d := by
  unfold version6Text at here
  split at here
  · exact mem_joinGroups here
  · rcases List.mem_append.mp here with front | here
    · exact mem_joinGroups front
    · rcases List.mem_cons.mp here with same | here
      · exact .inl same
      · rcases List.mem_cons.mp here with same | back
        · exact .inl same
        · exact mem_joinGroups back

theorem gap?_plain (plain : ':' ∉ s) : gap? (s ++ t) = (gap? t).map fun (before, after) => (s ++ before, after) := by
  induction s with
  | nil => simp
  | cons c s ih =>
    obtain ⟨other, plain⟩ := List.ne_and_not_mem_of_not_mem_cons plain
    rw [List.cons_append, gap?.eq_2 c _ fun rest same => absurd same.symm other, ih plain]
    simp [Function.comp_def]

theorem gap?_colon (other : c ≠ ':') :
    gap? (':' :: c :: t) = (gap? (c :: t)).map fun (before, after) => (':' :: before, after) :=
  gap?.eq_2 ':' _ fun _ _ same => other (List.cons.inj same).1

-- Groups that are put together hold no double colon, so it is found where the gap is.
theorem gap?_joinGroups (groups : List Nat) (t : List Char) :
    gap? (joinGroups groups ++ t) = (gap? t).map fun (before, after) => (joinGroups groups ++ before, after) := by
  induction groups with
  | nil => simp [joinGroups]
  | cons g more ih =>
    cases more with
    | nil => simpa [joinGroups] using gap?_plain (colonless g)
    | cons h more =>
      obtain ⟨c, s, starts, other⟩ := joinGroups_starts h more
      rw [joinGroups_cons, List.append_assoc, gap?_plain (colonless g), List.cons_append, starts, List.cons_append,
        gap?_colon other, ← List.cons_append, ← starts, ih]
      simp [Function.comp_def]

theorem groups?_toDigits (any : groups ≠ []) (small : ∀ g ∈ groups, g < 2 ^ 16) :
    groups? (groups.map (Nat.toDigits 16)) = some groups := by
  induction groups with
  | nil => exact absurd rfl any
  | cons g more ih =>
    have size : ¬ 4 < (Nat.toDigits 16 g).length :=
      Nat.not_lt.mpr ((Nat.length_toDigits_le_iff (by decide) (by decide)).mpr (small g List.mem_cons_self))
    have read : digits? 16 (Nat.toDigits 16 g) = some g := digits?_toDigits (by decide) (by decide) g
    cases more with
    | nil => simp [groups?, read, dotless, Nat.toDigits_ne_nil, size]
    | cons h more =>
      have later := ih (List.cons_ne_nil h more) fun g' there => small g' (List.mem_cons_of_mem g there)
      rw [List.map_cons] at later
      simp [groups?, read, Nat.toDigits_ne_nil, size, later]

theorem side?_joinGroups (small : ∀ g ∈ groups, g < 2 ^ 16) : side? (joinGroups groups) = some groups := by
  cases groups with
  | nil => rfl
  | cons g more =>
    obtain ⟨c, s, starts, -⟩ := joinGroups_starts g more
    have apart : Form.split ':' (joinGroups (g :: more)) = (g :: more).map (Nat.toDigits 16) := by
      refine Form.split_joined (fun p here => ?_) (by simp)
      obtain ⟨g', -, rfl⟩ := List.mem_map.mp here
      exact colonless g'
    rw [side?, apart, starts]
    exact groups?_toDigits (List.cons_ne_nil g more) small

-- What is left out is a run of zeros.
theorem longestGap_some (found : longestGap groups = some (start, count)) :
    2 ≤ count ∧ groups = groups.take start ++ List.replicate count 0 ++ groups.drop (start + count) := by
  unfold longestGap at found
  simp only [Option.ite_none_right_eq_some, Option.some.injEq, Prod.mk.injEq] at found
  obtain ⟨long, rfl, rfl⟩ := found
  refine ⟨long, ?_⟩
  generalize List.foldl _ 0 _ = start
  let run := (groups.drop start).takeWhile (· == 0)
  have zeros : run = List.replicate run.length 0 := by
    refine List.eq_replicate_iff.mpr ⟨rfl, fun g here => ?_⟩
    simpa using List.all_eq_true.mp List.all_takeWhile g here
  have rest : groups.drop start = run ++ groups.drop (start + run.length) := by
    rw [← List.drop_drop]
    exact (List.prefix_iff_eq_append.mp (List.takeWhile_prefix _)).symm
  calc
    groups = groups.take start ++ groups.drop start := (List.take_append_drop start groups).symm
    _ = groups.take start ++ (run ++ groups.drop (start + run.length)) := by rw [← rest]
    _ = groups.take start ++ List.replicate run.length 0 ++ groups.drop (start + run.length) := by
      rw [← zeros, List.append_assoc]

theorem version6?_text (eight : groups.length = 8) (small : ∀ g ∈ groups, g < 2 ^ 16) :
    version6? (version6Text groups) = some groups := by
  unfold version6Text
  cases found : longestGap groups with
  | none =>
    have ungapped : gap? (joinGroups groups) = none := by simpa [gap?] using gap?_joinGroups groups []
    simp [version6?, ungapped, side?_joinGroups small, eight]
  | some gap =>
    obtain ⟨start, count⟩ := gap
    obtain ⟨long, whole⟩ := longestGap_some found
    have front := side?_joinGroups fun g here => small g (List.mem_of_mem_take (i := start) here)
    have back := side?_joinGroups fun g here => small g (List.mem_of_mem_drop (i := start + count) here)
    have gapped : gap? (joinGroups (groups.take start) ++ ':' :: ':' :: joinGroups (groups.drop (start + count))) =
        some (joinGroups (groups.take start), joinGroups (groups.drop (start + count))) := by
      simp [gap?_joinGroups, gap?]
    have size := congrArg List.length whole
    rw [eight, List.length_append, List.length_append, List.length_replicate] at size
    have fits : (groups.take start).length + (groups.drop (start + count)).length < 8 := by omega
    have filled : 8 - (groups.take start).length - (groups.drop (start + count)).length = count := by omega
    simp only [version6?, gapped, List.contains_eq_mem, joinGroups_dotless, decide_false, Bool.false_eq_true, if_false,
      front, back, Option.bind_eq_bind, Option.bind_some, if_pos fits, filled, ← whole]

theorem tailByte?_lt (read : tailByte? s = some n) : n < 2 ^ 8 := by
  unfold tailByte? at read
  split at read
  · cases read
  · cases read
  · simp only [Option.filter_eq_some_iff, decide_eq_true_eq] at read
    omega

theorem tail?_lt (read : tail? s = some groups) : ∀ g ∈ groups, g < 2 ^ 16 := by
  unfold tail? at read
  simp only [Option.bind_eq_bind, Option.bind_eq_some_iff] at read
  obtain ⟨bytes, parts, read⟩ := read
  split at read
  · rename_i a b c d
    have each : ∀ n ∈ [a, b, c, d], n < 2 ^ 8 := fun n here =>
      have ⟨_, _, byte⟩ := mapM_each parts here
      tailByte?_lt byte
    simp only [List.mem_cons, List.not_mem_nil, or_false, forall_eq_or_imp, forall_eq] at each
    cases read
    simp
    omega
  · cases read

theorem group_lt (few : ¬ (s.isEmpty || 4 < s.length) = true) (read : digits? 16 s = some n) : n < 2 ^ 16 := by
  simp only [Bool.or_eq_true, decide_eq_true_eq, not_or, Nat.not_lt] at few
  exact Nat.lt_of_lt_of_le (digits?_lt read) (Nat.pow_le_pow_right (n := 16) (by decide) few.2)

theorem groups?_lt {parts : List (List Char)} (read : groups? parts = some groups) : ∀ g ∈ groups, g < 2 ^ 16 := by
  induction parts generalizing groups with
  | nil =>
    cases read
    simp
  | cons s more ih =>
    cases more with
    | nil =>
      rw [groups?] at read
      split at read
      · exact tail?_lt read
      · split at read
        · cases read
        · rename_i few
          obtain ⟨n, number, rfl⟩ := Option.map_eq_some_iff.mp read
          simpa using group_lt few number
    | cons t more =>
      rw [groups?.eq_3 _ _ (List.cons_ne_nil t more)] at read
      split at read
      · cases read
      · rename_i few
        simp only [Option.bind_eq_bind, Option.bind_eq_some_iff, Option.map_eq_map, Option.map_eq_some_iff] at read
        obtain ⟨n, number, rest, later, rfl⟩ := read
        exact List.forall_mem_cons.mpr ⟨group_lt few number, ih later⟩

theorem side?_lt (read : side? s = some groups) : ∀ g ∈ groups, g < 2 ^ 16 := by
  unfold side? at read
  split at read
  · cases read
    simp
  · exact groups?_lt read

theorem version6?_sized (read : version6? s = some groups) : groups.length = 8 ∧ ∀ g ∈ groups, g < 2 ^ 16 := by
  unfold version6? at read
  split at read
  · obtain ⟨sided, eight⟩ := Option.filter_eq_some_iff.mp read
    exact ⟨of_decide_eq_true eight, side?_lt sided⟩
  · split at read
    · cases read
    · simp only [Option.bind_eq_bind, Option.bind_eq_some_iff, Option.ite_none_right_eq_some,
        Option.some.injEq] at read
      obtain ⟨front, before, back, after, fits, rfl⟩ := read
      constructor
      · simp only [List.length_append, List.length_replicate]
        omega
      · intro g here
        simp only [List.mem_append, List.mem_replicate] at here
        rcases here with (here | ⟨-, rfl⟩) | here
        · exact side?_lt before g here
        · decide
        · exact side?_lt after g here

end Version6

end Address
end CourseFiles
