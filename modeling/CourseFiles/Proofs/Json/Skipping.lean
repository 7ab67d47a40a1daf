import CourseFiles.Proofs.Json.Onward

namespace CourseFiles
namespace Reader

variable {c d e : Cursor} {r : Reader α}

theorem reads_pairMark : Reads (pairMark b) c u d ↔ c.next? = some b ∧ d = c.past 1 := by
  simp only [pairMark, reads_peek]
  split
  · simp_all
  · rename_i x here
    rw [here, reads_advance_bind]
    split
    · simp_all
    · simp_all

theorem asChar_toNat (b : UInt8) : (asChar b).toNat = b.toNat := by
  have small := b.toNat_lt
  have valid : b.toNat.isValidChar := .inl (by omega)
  rw [asChar, Char.ofNat, dif_pos valid]
  rfl

theorem stops_at (here : c.next? = some (asChar b)) (stops : isPlain b = false) : c.rest.takeWhile isPlain = [] := by
  unfold Cursor.next? at here
  cases bytes : c.rest with
  | nil => rfl
  | cons x rest =>
    rw [bytes] at here
    have same : x = b := by
      apply UInt8.toNat.inj
      rw [← asChar_toNat x, Option.some.inj here, asChar_toNat]
    simp [same, stops]

-- A pair of surrogates is two escapes to whoever skips it.
theorem Reads.skipEscape (read : Reads escape c bs d) : Reads skipEscape c () d ∨
    ∃ e, Reads skipEscape c () e ∧ e.next? = some '\\' ∧ Reads Reader.skipEscape (e.past 1) () d := by
  simp only [Reader.escape, reads_next] at read
  simp only [Reader.skipEscape, reads_next]
  split at read
  · simp at read
  · obtain ⟨n, e, hex, rest⟩ := reads_bind.mp read
    split at rest
    · simp at rest
    · split at rest
      · obtain ⟨_, f, first, after⟩ := reads_bind.mp rest
        obtain ⟨_, g, second, last⟩ := reads_bind.mp after
        obtain ⟨m, h, hex', low⟩ := reads_bind.mp last
        obtain ⟨escaped, rfl⟩ := reads_pairMark.mp first
        obtain ⟨letter, rfl⟩ := reads_pairMark.mp second
        refine .inr ⟨e, ?_, escaped, ?_⟩
        · rw [reads_after hex]
          simp
        · rw [letter]
          simp only
          rw [reads_after hex']
          split at low <;> simp at low
          simp [low]
      · left
        rw [reads_after hex]
        simp at rest
        simp [rest]
  · left
    split at read
    · simp at read
      simp [*]
    · simp at read

theorem onward_skipEscape : Onward skipEscape := by
  apply onward_next.bind
  intro x
  split
  · exact onward_fail
  · exact onward_hexEscape.bind fun _ => onward_pure
  · split <;> simp

theorem Reads.skipQuoted (read : Reads (quotedBytes rounds sofar) c bytes d) (enough : c.left < fuel) :
    Reads (skipQuoted fuel) c () (d.past 1) := by
  induction rounds generalizing sofar c fuel with
  | zero => simp [quotedBytes] at read
  | succ rounds ih =>
    cases fuel with
    | zero => omega
    | succ fuel =>
      simp only [quotedBytes, reads_place, reads_advance_bind, reads_peek] at read
      simp only [Reader.skipQuoted, reads_place, reads_advance_bind, reads_peek]
      split at read
      · simp at read
      · simp_all
      · rename_i here
        rw [reads_advance_bind] at read
        obtain ⟨bs, e, escape, rest⟩ := reads_bind.mp read
        have left := Cursor.left_pos here
        have last := escape.left onward_escape
        simp only [Cursor.past_left] at left last
        rw [reads_advance_bind]
        rcases escape.skipEscape with skip | ⟨f, skip, again, skip'⟩
        · rw [reads_after skip]
          exact ih rest (by omega)
        · rw [reads_after skip]
          have left' := Cursor.left_pos again
          have middle := skip.left onward_skipEscape
          have last' := skip'.left onward_skipEscape
          simp only [Cursor.past_left] at middle last'
          cases fuel with
          | zero => omega
          | succ fuel =>
            simp only [Reader.skipQuoted, reads_place, reads_advance_bind, reads_peek]
            rw [stops_at (b := 92) again rfl]
            simp only [List.length_nil, Cursor.past_zero, again, reads_advance_bind]
            rw [reads_after skip']
            exact ih rest (by omega)
      · simp at read

theorem Reads.skipQuotation (read : Reads quotation c s d) : Reads skipQuotation c () d := by
  simp only [quotation, reads_place] at read
  simp only [Reader.skipQuotation, reads_place]
  obtain ⟨bytes, e, quoted, rest⟩ := reads_bind.mp read
  split at rest
  · simp only [reads_advance_bind, reads_pure] at rest
    rw [rest.2]
    exact quoted.skipQuoted (Nat.lt_succ_self _)
  · simp at rest

theorem reads_ifPast {p : Prop} [Decidable p] : Reads (if p then do advance; r else r) c a d ↔
    Reads r (c.pastIf p) a d := by
  unfold Cursor.pastIf
  split
  · rw [reads_advance_bind]
  · rfl

theorem Reads.floatOf (read : Reads (floatOf negative n scale) c x d) : d = c := by
  unfold Reader.floatOf at read
  split at read
  · exact (reads_pure.mp read).2
  · simp at read

theorem Reads.endlessScale (read : Reads (endlessScale negative zero down extra) c x d) : d = c := by
  unfold Reader.endlessScale at read
  split at read
  · simp at read
  · exact (reads_pure.mp read).2

theorem Reads.skipExponent (read : Reads (exponentPart negative n scale) c x d) : Reads skipExponent c () d := by
  simp only [exponentPart, reads_advance_bind, reads_peek] at read
  simp only [Reader.skipExponent, reads_advance_bind, reads_peek]
  rw [reads_ifPast] at read ⊢
  simp only [reads_peek, reads_digitRun] at read ⊢
  split at read
  · simp at read
  · rw [reads_digitRun] at read
    split at read
    · simp at read
    · rename_i some
      rw [if_neg some, reads_pure]
      refine ⟨rfl, ?_⟩
      split at read
      · exact read.floatOf
      · exact read.endlessScale

theorem Reads.skipDecimal (read : Reads (decimalPart negative n scale) c x d) : Reads skipDecimal c () d := by
  simp only [decimalPart, reads_advance_bind, reads_digitRun] at read
  simp only [Reader.skipDecimal, reads_advance_bind, reads_digitRun]
  split at read
  · rw [reads_peek] at read
    split at read <;> simp at read
  · rename_i some
    rw [if_neg some]
    rw [reads_peek] at read ⊢
    split at read
    · rename_i mark
      rw [if_pos mark]
      exact read.skipExponent
    · rename_i mark
      rw [if_neg mark, reads_pure]
      exact ⟨rfl, read.floatOf⟩

theorem Reads.skipNumeral (read : Reads (numeral negative) c n d) : Reads skipNumeral c () d := by
  simp only [numeral, reads_peek, reads_digitRun] at read
  simp only [Reader.skipNumeral, reads_digitRun]
  split at read
  · simp at read
  · simp at read
  · simp at read
  · rename_i some alone
    split
    · exact absurd ‹_› some
    · exact absurd ‹_› (alone _ _)
    · rw [reads_peek] at read ⊢
      split at read
      · obtain ⟨x, part, -⟩ := reads_return.mp read
        exact part.skipDecimal
      · split at read
        · rename_i mark
          obtain ⟨x, part, -⟩ := reads_return.mp read
          rw [if_pos mark]
          exact part.skipExponent
        · rename_i mark
          rw [if_neg mark, reads_pure]
          refine ⟨rfl, ?_⟩
          split at read
          · obtain ⟨x, part, -⟩ := reads_return.mp read
            exact part.floatOf
          · split at read
            · exact (reads_pure.mp read).2
            · split at read
              · obtain ⟨x, part, -⟩ := reads_return.mp read
                exact part.floatOf
              · exact (reads_pure.mp read).2

theorem skipValue_pastBlanks : Reads (skipValue n) c.pastBlanks u d ↔ Reads (skipValue n) c u d := by
  cases n with
  | zero => simp [skipValue]
  | succ n => simp only [skipValue, reads_blanks, Cursor.pastBlanks_pastBlanks]

theorem skipEntries_goesOn {bracket : Bracket} (goes : Continues bracket.closing first c e)
    (entry : ∀ c', c'.pastBlanks = e → Reads (skipEntry bracket n) c' () d) :
    Reads (skipEntries bracket (n + 1) first) c () d := by
  obtain ⟨b, here, open', ⟨rfl, rfl⟩ | ⟨rfl, rfl, rfl⟩⟩ := goes
  · simp only [skipEntries, reads_blanks, here, if_neg open']
    exact entry _ Cursor.pastBlanks_pastBlanks
  · simp only [skipEntries, reads_blanks, here, if_neg open']
    simpa using entry _ rfl

-- So many rounds are enough to pass over what lies between two places.
def Enough (n : Nat) (c d : Cursor) : Prop := 2 * c.left ≤ n + 1 + 2 * d.left

-- What ends with a bracket has a byte for it.
theorem takes_bracket (here : c.pastBlanks.next? = some b) : (c.pastBlanks.past 1).left < c.left := by
  have some := Cursor.left_pos here
  have blanks : c.pastBlanks.left ≤ c.left := Cursor.pastBlanks_left
  rw [Cursor.past_left]
  omega

theorem skipEntries_ends {bracket : Bracket} (ends : c.pastBlanks.next? = some bracket.closing)
    (enough : Enough n c (c.pastBlanks.past 1)) : Reads (skipEntries bracket n first) c () (c.pastBlanks.past 1) := by
  have takes := takes_bracket ends
  unfold Enough at enough
  cases n with
  | zero => omega
  | succ n =>
    simp only [skipEntries, reads_blanks, ends]
    simp

theorem Reads.skipItems {item : Reader α} (shorter : ∀ {c a d}, Reads item c a d → d.left < c.left)
    (skips : ∀ {c a d n}, Reads item c a d → Enough n c d → Reads (skipValue n) c () d)
    (read : Reads (items item rounds first) c as e) (last : Reads listEnd e () d) (enough : Enough n c d) :
    Reads (skipEntries .ofList n first) c () d := by
  obtain ⟨ends, rfl⟩ := reads_listEnd.mp last
  induction rounds generalizing c n first as with
  | zero =>
    obtain ⟨-, rfl⟩ := reads_pure.mp read
    exact skipEntries_ends ends enough
  | succ rounds ih =>
    rcases reads_items.mp read with ⟨another, -⟩ | ⟨c₁, a, c₂, rest, another, one, read, -⟩
    · obtain ⟨-, rfl⟩ := reads_noItem.mp another
      rw [Cursor.pastBlanks_pastBlanks] at ends enough ⊢
      exact skipEntries_ends ends enough
    · have there := another.left onward_anotherItem
      have took := shorter one
      have onward := read.left (Onward.items (fun _ _ _ read => Nat.le_of_lt (shorter read)) _ _)
      have ended := takes_bracket ends
      unfold Enough at enough
      obtain ⟨k, rfl⟩ : ∃ k, n = k + 2 := ⟨n - 2, by omega⟩
      apply skipEntries_goesOn another.goesOn
      intro c' blanks
      have passed : Reads (skipValue k) c' () c₂ := by
        apply skipValue_pastBlanks.mp
        rw [blanks]
        apply skips one
        unfold Enough
        omega
      simp only [skipEntry, Bracket.ofList, pure_bind]
      rw [reads_after passed]
      apply ih read
      unfold Enough
      omega

theorem Reads.skipMembers {member : String → Reader α}
    (shorter : ∀ {name c a d}, Reads (member name) c a d → d.left < c.left)
    (skips : ∀ {name c a d n}, Reads (member name) c a d → Enough n c d → Reads (do colon; skipValue n) c () d)
    (read : Reads (members member rounds first) c as e) (last : Reads objectEnd e () d) (enough : Enough n c d) :
    Reads (skipEntries .ofObject n first) c () d := by
  obtain ⟨ends, rfl⟩ := reads_objectEnd.mp last
  induction rounds generalizing c n first as with
  | zero =>
    obtain ⟨-, rfl⟩ := reads_pure.mp read
    exact skipEntries_ends ends enough
  | succ rounds ih =>
    rcases reads_members.mp read with ⟨another, -⟩ | ⟨c₁, name, c₂, a, c₃, rest, another, quoted, one, read, -⟩
    · obtain ⟨-, rfl⟩ := reads_noMember.mp another
      rw [Cursor.pastBlanks_pastBlanks] at ends enough ⊢
      exact skipEntries_ends ends enough
    · have there := another.left onward_anotherMember
      have named := quoted.left onward_quotation
      rw [Cursor.past_left] at named
      have took := shorter one
      have onward := read.left (Onward.members (fun _ _ _ _ read => Nat.le_of_lt (shorter read)) _ _)
      have ended := takes_bracket ends
      unfold Enough at enough
      obtain ⟨k, rfl⟩ : ∃ k, n = k + 2 := ⟨n - 2, by omega⟩
      obtain ⟨goes, mark⟩ := another.goesOnNamed
      have enough' : Enough k c₂ c₃ := by
        unfold Enough
        omega
      obtain ⟨_, f, sign, passed⟩ := reads_bind.mp (skips one enough')
      apply skipEntries_goesOn goes
      intro c' blanks
      have name : Reads skipName c' () f := by
        simp only [skipName, reads_blanks, blanks, mark, reads_advance_bind]
        rw [reads_after quoted.skipQuotation]
        exact sign
      simp only [skipEntry, Bracket.ofObject]
      rw [reads_after name, reads_after passed]
      apply ih read
      unfold Enough
      omega

theorem Reads.skipValueOf (read : Reads (valueOf ofList ofObject) c j d) (shorter : d.left < c.left)
    (enough : Enough n c d)
    (list : ∀ {c j d n}, Reads ofList c j d → Enough (n + 1) c d →
      Reads (do advance; skipEntries .ofList n true) c () d)
    (object : ∀ {c j d n}, Reads ofObject c j d → Enough (n + 1) c d →
      Reads (do advance; skipEntries .ofObject n true) c () d) :
    Reads (skipValue n) c () d := by
  have blanks : c.pastBlanks.left ≤ c.left := Cursor.pastBlanks_left
  cases n with
  | zero =>
    unfold Enough at enough
    omega
  | succ n =>
    have enough' : Enough (n + 1) c.pastBlanks d := by
      unfold Enough at enough ⊢
      omega
    simp only [valueOf, reads_blanks] at read
    simp only [skipValue, reads_blanks]
    split at read
    · simp at read
    · obtain ⟨_, word, -⟩ := reads_return.mp read
      exact word
    · obtain ⟨_, word, -⟩ := reads_return.mp read
      exact word
    · obtain ⟨_, word, -⟩ := reads_return.mp read
      exact word
    · rw [reads_advance_bind] at read ⊢
      obtain ⟨s, quoted, -⟩ := reads_return.mp read
      exact quoted.skipQuotation
    · rw [reads_advance_bind] at read ⊢
      obtain ⟨x, number, -⟩ := reads_return.mp read
      exact number.skipNumeral
    · exact list (reads_located.mp read) enough'
    · exact object (reads_located.mp read) enough'
    · split at read
      · rename_i digit
        rw [if_pos digit]
        obtain ⟨x, number, -⟩ := reads_return.mp read
        exact number.skipNumeral
      · simp at read

-- Whatever is read as a value is passed over where values do not matter.
theorem Reads.skipValue (read : Reads (value levels) c j d) (enough : Enough n c d) :
    Reads (skipValue n) c () d := by
  induction levels generalizing c j d n with
  | zero =>
    apply read.skipValueOf read.shorter enough
    · simp
    · simp
  | succ levels ih =>
    apply read.skipValueOf read.shorter enough
    · intro c j d n read enough
      obtain ⟨js, read, -⟩ := reads_map.mp read
      obtain ⟨e, read, last⟩ := reads_list.mp read
      rw [reads_advance_bind]
      apply read.skipItems Reads.shorter ih last
      unfold Enough at enough ⊢
      rw [Cursor.past_left]
      omega
    · intro c j d n read enough
      obtain ⟨ms, read, -⟩ := reads_map.mp read
      obtain ⟨e, read, last⟩ := reads_object.mp read
      rw [reads_advance_bind]
      apply read.skipMembers _ _ last
      · unfold Enough at enough ⊢
        rw [Cursor.past_left]
        omega
      · intro name c m d read
        obtain ⟨_, f, sign, read⟩ := reads_bind.mp read
        obtain ⟨j, read, -⟩ := reads_return.mp read
        exact Nat.lt_of_lt_of_le read.shorter (sign.left onward_colon)
      · intro name c m d n read enough
        obtain ⟨_, f, sign, read⟩ := reads_bind.mp read
        obtain ⟨j, read, -⟩ := reads_return.mp read
        have there := sign.left onward_colon
        rw [reads_after sign]
        apply ih read
        unfold Enough at enough ⊢
        omega

theorem Reads.skip (read : Reads (value levels) c j d) : Reads skip c () d := by
  simp only [Reader.skip, reads_place]
  apply read.skipValue
  unfold Enough Cursor.left
  omega

end Reader
end CourseFiles
