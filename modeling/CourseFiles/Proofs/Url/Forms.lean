import CourseFiles.Proofs.Text.Utf8
import CourseFiles.Proofs.Url.Addresses

namespace CourseFiles

namespace Percent

variable {b : UInt8} {c : Char} {n : Nat} {rest : List UInt8}

def digitByte (n : Nat) : UInt8 := UInt8.ofNat (digit n).toNat

theorem encode_escape (b : UInt8) :
    Utf8.encode (escape b) = [37, digitByte (b.toNat / 16), digitByte (b.toNat % 16)] := by
  have ascii : ∀ n < 16, (digit n).toNat < 128 := by decide
  have bound : b.toNat < 256 := b.toNat_lt
  rw [escape, Utf8.encode_ascii (by decide), Utf8.encode_ascii (ascii _ (by omega)),
    Utf8.encode_ascii (ascii _ (by omega))]
  rfl

theorem value?_digitByte (small : n < 16) : value? (digitByte n) = some (UInt8.ofNat n) := by
  interval_cases n <;> rfl

theorem decode_plain (plain : b ≠ 37) : decode (b :: rest) = b :: decode rest := by
  rw [decode.eq_3]
  intro _ _ _ same
  exact absurd same plain

theorem decode_escape (b : UInt8) (rest : List UInt8) :
    decode (Utf8.encode (escape b) ++ rest) = b :: decode rest := by
  have bound : b.toNat < 256 := b.toNat_lt
  have high := value?_digitByte (n := b.toNat / 16) (by omega)
  have low := value?_digitByte (n := b.toNat % 16) (by omega)
  have whole : UInt8.ofNat (b.toNat / 16) * 16 + UInt8.ofNat (b.toNat % 16) = b := by
    apply UInt8.toNat_inj.mp
    rw [UInt8.toNat_add, UInt8.toNat_mul, Utf8.toNat_ofNat (by omega), Utf8.toNat_ofNat (by omega)]
    simp
    omega
  rw [encode_escape, List.cons_append, List.cons_append, List.cons_append, List.nil_append, decode]
  simp only [high, low, whole]

theorem mem_escape (here : c ∈ escape b) : c = '%' ∨ ∃ n < 16, c = digit n := by
  have bound : b.toNat < 256 := b.toNat_lt
  simp only [escape, List.mem_cons, List.not_mem_nil, or_false] at here
  rcases here with same | same | same
  · exact .inl same
  · exact .inr ⟨_, by omega, same⟩
  · exact .inr ⟨_, by omega, same⟩

-- What neither is a percent sign nor writes a number is in no escape.
theorem escape_avoids (sign : c ≠ '%') (digits : ∀ n < 16, digit n ≠ c) : c ∉ escape b := by
  intro here
  rcases mem_escape here with same | ⟨n, small, same⟩
  · exact sign same
  · exact digits n small same.symm

theorem encode_colons (escaped : Char → Bool) (s : List Char) : (encode escaped s).count ':' ≤ s.count ':' := by
  induction s with
  | nil => exact Nat.le_refl _
  | cons c s ih =>
    have one : (encodeChar escaped c).count ':' ≤ [c].count ':' := by
      unfold encodeChar
      split
      · exact Nat.le_refl _
      · have none : ':' ∉ (Utf8.encode [c]).flatMap escape := by
          intro here
          obtain ⟨b, -, here⟩ := List.mem_flatMap.mp here
          exact escape_avoids (by decide) (by decide) here
        rw [List.count_eq_zero_of_not_mem none]
        exact Nat.zero_le _
    rw [encode, List.flatMap_cons, List.count_append, ← List.singleton_append, List.count_append]
    exact Nat.add_le_add one ih

end Percent

namespace Form

variable {q part : List Char} {c d : Char} {p : String × String} {b : UInt8} {bytes rest : List UInt8}

-- The bytes of a part of a form, a space in place of each plus sign.
def spaced (bytes : List UInt8) : List UInt8 := bytes.map fun b => if b == 43 then 32 else b

theorem spaced_append (bytes rest : List UInt8) :
    spaced (bytes ++ rest) = spaced bytes ++ spaced rest := List.map_append

theorem spaced_plain (plain : b ≠ 43) : spaced [b] = [b] := by
  rw [spaced, List.map_singleton, if_neg (by simpa using plain)]

theorem spaced_escape (b : UInt8) : spaced (Utf8.encode (Percent.escape b)) = Utf8.encode (Percent.escape b) := by
  have digits : ∀ n < 16, Percent.digitByte n ≠ 43 := by decide
  have bound : b.toNat < 256 := b.toNat_lt
  have high := digits (b.toNat / 16) (by omega)
  have low := digits (b.toNat % 16) (by omega)
  simp [Percent.encode_escape, spaced, high, low]

theorem decode_escapes (bytes rest : List UInt8) :
    Percent.decode (spaced (Utf8.encode (bytes.flatMap Percent.escape)) ++ rest) = bytes ++ Percent.decode rest := by
  induction bytes with
  | nil => rfl
  | cons b bytes ih =>
    rw [List.flatMap_cons, Utf8.encode_append, spaced_append, spaced_escape, List.append_assoc,
      Percent.decode_escape, ih, List.cons_append]

theorem kept_ne (kept : isKept c = true) (marked : isKept d = false) : c ≠ d := by
  rintro rfl
  cases kept.symm.trans marked

theorem byte_ne (small : c.toNat < 128) (small' : d.toNat < 128) (other : c ≠ d) :
    UInt8.ofNat c.toNat ≠ UInt8.ofNat d.toNat := by
  intro same
  have number := congrArg UInt8.toNat same
  rw [Utf8.toNat_ofNat (by omega), Utf8.toNat_ofNat (by omega)] at number
  exact other (Char.toNat_inj.mp number)

-- What is written of a character stands for its bytes.
theorem decode_encodeChar (c : Char) (rest : List UInt8) :
    Percent.decode (spaced (Utf8.encode (encodeChar c)) ++ rest) = Utf8.encode [c] ++ Percent.decode rest := by
  unfold encodeChar
  split
  · rename_i space
    subst space
    exact Percent.decode_plain (by decide)
  · unfold Percent.encodeChar
    split
    · rename_i kept
      obtain ⟨small, kept⟩ : c.toNat < 128 ∧ isKept c = true := by simpa using kept
      have plus : UInt8.ofNat c.toNat ≠ 43 := byte_ne small (d := '+') (by decide) (kept_ne kept (by decide))
      have percent : UInt8.ofNat c.toNat ≠ 37 := byte_ne small (d := '%') (by decide) (kept_ne kept (by decide))
      rw [Utf8.encode_ascii small]
      show Percent.decode (spaced [UInt8.ofNat c.toNat] ++ rest) = [UInt8.ofNat c.toNat] ++ Percent.decode rest
      rw [spaced_plain plus]
      exact Percent.decode_plain percent
    · exact decode_escapes _ rest

theorem decodeText_encodeText (s : String) : decodeText (encodeText s) = s := by
  have bytes (cs : List Char) : Percent.decode (spaced (Utf8.encode (cs.flatMap encodeChar))) = Utf8.encode cs := by
    induction cs with
    | nil => rw [List.flatMap_nil, Utf8.encode, List.flatMap_nil, spaced, List.map_nil, Percent.decode]
    | cons c cs ih =>
      rw [List.flatMap_cons, Utf8.encode_append, spaced_append, decode_encodeChar, ih, ← Utf8.encode_append]
      rfl
  show String.ofList (Utf8.decodeLossy (Percent.decode (spaced (Utf8.encode (s.toList.flatMap encodeChar))))) = s
  rw [bytes, Utf8.decodeLossy_encode, String.ofList_toList]

-- A mark that parts a form is not among what is written of a text.
theorem encodeText_avoids {s : String} (marked : isKept d = false) (plus : d ≠ '+') (sign : d ≠ '%')
    (digits : ∀ n < 16, Percent.digit n ≠ d) : d ∉ encodeText s := by
  intro here
  obtain ⟨c, -, here⟩ := List.mem_flatMap.mp here
  unfold encodeChar at here
  split at here
  · exact plus (List.mem_singleton.mp here)
  · unfold Percent.encodeChar at here
    split at here
    · rename_i kept
      cases List.mem_singleton.mp here
      exact kept_ne (by simpa using (Bool.and_eq_true_iff.mp kept).2) marked rfl
    · obtain ⟨b, -, here⟩ := List.mem_flatMap.mp here
      exact Percent.escape_avoids sign digits here

theorem encodePair_unparted (p : String × String) : '&' ∉ encodePair p := by
  have unmarked (s : String) : '&' ∉ encodeText s :=
    encodeText_avoids (by decide) (by decide) (by decide) (by decide)
  simp [encodePair, unmarked]

theorem decodePair_encodePair (p : String × String) : decodePair (encodePair p) = p := by
  have unmarked : '=' ∉ encodeText p.1 := encodeText_avoids (by decide) (by decide) (by decide) (by decide)
  have name : ∀ c ∈ encodeText p.1, (c != '=') = true := by
    intro c here
    rw [bne_iff_ne]
    rintro rfl
    exact unmarked here
  rw [decodePair, encodePair, List.takeWhile_append_of_pos name, List.dropWhile_append_of_pos name]
  simp [decodeText_encodeText]

theorem split_append (mark : Char) (q r : List Char) : split mark (q ++ mark :: r) = split mark q ++ split mark r := by
  induction q with
  | nil => simp [split]
  | cons c q ih =>
    rw [List.cons_append, split, split, ih]
    split
    · rfl
    · obtain ⟨part, parts, more⟩ := List.exists_cons_of_ne_nil (split_splitOn mark q ▸ List.splitOn_ne_nil mark q)
      rw [more]
      rfl

theorem split_unparted {mark : Char} (unparted : mark ∉ q) : split mark q = [q] := by
  have single : split mark ([mark].intercalate [q]) = [q] := split_joined (by simpa using unparted) (by simp)
  simpa using single

-- A pair that is put behind a query is the last of its pairs, whatever the query holds.
theorem decode_append (q : List Char) (p : String × String) :
    decode (String.ofList (append q p)) = decode (String.ofList q) ++ [p] := by
  have part : (encodePair p).isEmpty = false := by simp [encodePair]
  simp only [decode, String.toList_ofList, append]
  split
  · rename_i blank
    cases List.isEmpty_iff.mp blank
    rw [split_unparted (encodePair_unparted p)]
    simp [split, part, decodePair_encodePair]
  · rw [split_append, split_unparted (encodePair_unparted p), List.filter_append, List.map_append]
    simp [part, decodePair_encodePair]

theorem decode_appended (q : List Char) (pairs : List (String × String)) :
    decode (String.ofList (pairs.foldl append q)) = decode (String.ofList q) ++ pairs := by
  induction pairs generalizing q with
  | nil => simp
  | cons p pairs ih => rw [List.foldl_cons, ih, decode_append, List.append_assoc, List.singleton_append]

end Form
end CourseFiles
