import CourseFiles.Proofs.Json.Skipping

namespace CourseFiles

open Reader

variable {c d e : Cursor} {levels : Nat}

-- The first character that a value may have.
def Json.begins (b : Char) : Json → Bool
  | .null => b == 'n'
  | .bool true => b == 't'
  | .bool false => b == 'f'
  | .number _ => b == '-' || b.isDigit
  | .text _ => b == '"'
  | .list _ => b == '['
  | .object _ => b == '\x7b'

theorem bind_ok {x : Except ε α} {f : α → Except ε β} : x >>= f = .ok b ↔ ∃ a, x = .ok a ∧ f a = .ok b := by
  cases x <;> simp [Bind.bind, Except.bind]

theorem map_ok {x : Except ε α} {f : α → β} : f <$> x = .ok b ↔ ∃ a, x = .ok a ∧ f a = b := by
  cases x <;> simp [Functor.map, Except.map]

theorem toOption_ok {x : Except ε α} : x.toOption = some a ↔ x = .ok a := by
  cases x <;> simp [Except.toOption]

theorem text_ok : Decoder.text.ofJson j = .ok s ↔ j = .text s := by
  constructor
  · intro decoded
    cases j <;> cases decoded
    rfl
  · rintro rfl
    rfl

theorem natural_ok {expected : String} :
    (Decoder.natural bound expected).ofJson j = .ok n ↔ n < bound ∧ j = .whole n := by
  constructor
  · intro decoded
    cases j with
    | number x =>
      cases x with
      | whole k =>
        simp only [Decoder.natural, Decoder.naturalOf] at decoded
        split at decoded <;> cases decoded
        rename_i within
        exact ⟨by omega, congrArg Json.whole (Int.toNat_of_nonneg within.1).symm⟩
      | float x => cases decoded
    | _ => cases decoded
  · intro read
    obtain ⟨below, rfl⟩ := read
    exact if_pos ⟨Int.natCast_nonneg n, Int.ofNat_lt.mpr below⟩

namespace Reader

theorem value_pastBlanks : Reads (value levels) c.pastBlanks j d ↔ Reads (value levels) c j d := by
  cases levels <;> simp only [value, valueOf, reads_blanks, Cursor.pastBlanks_pastBlanks]

theorem reads_wrongKind : ¬ Reads (wrongKind expected : Reader α) c a d := by
  simp [wrongKind, reads_bind]

theorem Reads.begins_valueOf (read : Reads (valueOf ofList ofObject) c j d)
    (list : ∀ {c j d}, Reads ofList c j d → j.begins '[' = true)
    (object : ∀ {c j d}, Reads ofObject c j d → j.begins '\x7b' = true) :
    ∃ b, c.pastBlanks.next? = some b ∧ j.begins b = true := by
  simp only [valueOf, reads_blanks] at read
  split at read
  · simp at read
  · rename_i here
    obtain ⟨_, word, rfl⟩ := reads_return.mp read
    exact ⟨_, here, rfl⟩
  · rename_i here
    obtain ⟨_, word, rfl⟩ := reads_return.mp read
    exact ⟨_, here, rfl⟩
  · rename_i here
    obtain ⟨_, word, rfl⟩ := reads_return.mp read
    exact ⟨_, here, rfl⟩
  · rename_i here
    rw [reads_advance_bind] at read
    obtain ⟨s, quoted, rfl⟩ := reads_return.mp read
    exact ⟨_, here, rfl⟩
  · rename_i here
    rw [reads_advance_bind] at read
    obtain ⟨x, number, rfl⟩ := reads_return.mp read
    exact ⟨_, here, rfl⟩
  · rename_i here
    exact ⟨_, here, list (reads_located.mp read)⟩
  · rename_i here
    exact ⟨_, here, object (reads_located.mp read)⟩
  · rename_i here
    split at read
    · rename_i digit
      obtain ⟨x, number, rfl⟩ := reads_return.mp read
      refine ⟨_, here, ?_⟩
      simp [Json.begins, digit]
    · simp at read

-- The first character tells what a value is.
theorem Reads.begins (read : Reads (value levels) c j d) : ∃ b, c.pastBlanks.next? = some b ∧ j.begins b = true := by
  cases levels with
  | zero =>
    apply Reads.begins_valueOf read
    · simp
    · simp
  | succ levels =>
    apply Reads.begins_valueOf read
    · intro c j d read
      obtain ⟨js, -, rfl⟩ := reads_map.mp read
      rfl
    · intro c j d read
      obtain ⟨ms, -, rfl⟩ := reads_map.mp read
      rfl

theorem reads_text (here : c.pastBlanks.next? = some '"') :
    Reads (value levels) c j d ↔ ∃ s, Reads quotation (c.pastBlanks.past 1) s d ∧ j = .text s := by
  have opened (ofList ofObject : Reader Json) : Reads (valueOf ofList ofObject) c j d ↔
      ∃ s, Reads quotation (c.pastBlanks.past 1) s d ∧ j = .text s := by
    simp [valueOf, here]
  cases levels <;> exact opened _ _

theorem reads_null (here : c.pastBlanks.next? = some 'n') :
    Reads (value levels) c j d ↔ Reads (letters ['n', 'u', 'l', 'l']) c.pastBlanks () d ∧ j = .null := by
  have opened (ofList ofObject : Reader Json) : Reads (valueOf ofList ofObject) c j d ↔
      Reads (letters ['n', 'u', 'l', 'l']) c.pastBlanks () d ∧ j = .null := by
    simp only [valueOf, reads_blanks, here]
    constructor
    · intro read
      obtain ⟨_, word, rfl⟩ := reads_return.mp read
      exact ⟨word, rfl⟩
    · intro read
      obtain ⟨word, rfl⟩ := read
      rw [reads_after word, reads_pure]
      exact ⟨rfl, rfl⟩
  cases levels <;> exact opened _ _

theorem reads_negative (here : c.pastBlanks.next? = some '-') :
    Reads (value levels) c j d ↔ ∃ n, Reads (numeral true) (c.pastBlanks.past 1) n d ∧ j = .number n := by
  have opened (ofList ofObject : Reader Json) : Reads (valueOf ofList ofObject) c j d ↔
      ∃ n, Reads (numeral true) (c.pastBlanks.past 1) n d ∧ j = .number n := by
    simp [valueOf, here]
  cases levels <;> exact opened _ _

theorem reads_digits (here : c.pastBlanks.next? = some b) (digit : b.isDigit = true) :
    Reads (value levels) c j d ↔ ∃ n, Reads (numeral false) c.pastBlanks n d ∧ j = .number n := by
  have opened (ofList ofObject : Reader Json) : Reads (valueOf ofList ofObject) c j d ↔
      ∃ n, Reads (numeral false) c.pastBlanks n d ∧ j = .number n := by
    simp only [valueOf, reads_blanks, here]
    split
    all_goals
      rename_i same
      cases same
    -- a digit is none of the characters that other values begin with
    case h_9 => simp [digit]
    all_goals exact absurd digit (by decide)
  cases levels <;> exact opened _ _

end Reader

namespace Decoder

-- Reading a text is reading its value.
def Faithful (x : Decoder α) : Prop :=
  ∀ levels c a d, Reads (x.ofText levels) c a d ↔ ∃ j, Reads (value levels) c j d ∧ x.ofJson j = .ok a

theorem json_faithful : Faithful json := by
  intro levels c a d
  constructor
  · intro read
    exact ⟨a, read, rfl⟩
  · intro read
    obtain ⟨j, read, same⟩ := read
    cases same
    exact read

theorem Faithful.map {x : Decoder α} (faithful : x.Faithful) (f : α → β) : (x.map f).Faithful := by
  intro levels c b d
  simp only [Decoder.map, reads_map, faithful levels c]
  constructor
  · intro read
    obtain ⟨a, ⟨j, read, fits⟩, rfl⟩ := read
    exact ⟨j, read, map_ok.mpr ⟨a, fits, rfl⟩⟩
  · intro read
    obtain ⟨j, read, fits⟩ := read
    obtain ⟨a, decoded, rfl⟩ := map_ok.mp fits
    exact ⟨a, ⟨j, read, decoded⟩, rfl⟩

theorem textOf_faithful : Faithful (textOf expected accept : Decoder α) := by
  intro levels c a d
  simp only [textOf, reads_blanks]
  constructor
  · intro read
    split at read
    · simp at read
    · rename_i here
      simp only [reads_advance_bind, reads_located] at read
      obtain ⟨s, e, quoted, last⟩ := reads_bind.mp read
      split at last
      · rename_i fits
        obtain ⟨rfl, rfl⟩ := reads_pure.mp last
        exact ⟨.text s, (reads_text here).mpr ⟨s, quoted, rfl⟩, fits⟩
      · simp at last
    · exact absurd read reads_wrongKind
  · intro read
    obtain ⟨j, read, fits⟩ := read
    obtain ⟨b, here, begins⟩ := read.begins
    cases j with
    | text s =>
      cases beq_iff_eq.mp begins
      obtain ⟨_, quoted, same⟩ := (reads_text here).mp read
      cases same
      rw [here]
      simp only [reads_advance_bind, reads_located]
      rw [reads_after quoted]
      simp [fits]
    | _ => cases fits

theorem reads_naturalOf {n : Nat} (negative : Bool) : Reads (located do
    match naturalOf bound expected (← numeral negative) with
    | .ok n => return n
    | .error m => mismatch m) c n d ↔
      ∃ j, (∃ x, Reads (numeral negative) c x d ∧ j = .number x) ∧ (natural bound expected).ofJson j = .ok n := by
  rw [reads_located]
  constructor
  · intro read
    obtain ⟨x, e, digits, last⟩ := reads_bind.mp read
    split at last
    · rename_i fits
      obtain ⟨rfl, rfl⟩ := reads_pure.mp last
      exact ⟨_, ⟨x, digits, rfl⟩, fits⟩
    · exact absurd last reads_mismatch
  · intro read
    obtain ⟨j, ⟨x, digits, rfl⟩, fits⟩ := read
    have fits : naturalOf bound expected x = .ok n := fits
    rw [reads_after digits, fits]
    exact reads_pure.mpr ⟨rfl, rfl⟩

theorem natural_begins {j : Json} (read : Reads (value levels) c j d)
    (fits : (natural bound expected).ofJson j = .ok n) :
    ∃ b, c.pastBlanks.next? = some b ∧ (b = '-' ∨ b.isDigit = true) := by
  obtain ⟨b, here, begins⟩ := read.begins
  cases j with
  | number x => exact ⟨b, here, by simpa [Json.begins] using begins⟩
  | _ => cases fits

theorem natural_faithful : (natural bound expected).Faithful := by
  intro levels c n d
  simp only [natural, reads_blanks]
  split
  · rename_i nothing
    apply iff_of_false (by simp)
    intro read
    obtain ⟨j, read, fits⟩ := read
    obtain ⟨b, here, -⟩ := natural_begins read fits
    cases nothing.symm.trans here
  · rename_i here
    rw [reads_advance_bind]
    refine (reads_naturalOf true).trans ?_
    simp only [reads_negative here]
    rfl
  · rename_i b other here
    split
    · rename_i digit
      refine (reads_naturalOf false).trans ?_
      simp only [reads_digits here digit]
      rfl
    · rename_i digit
      apply iff_of_false reads_wrongKind
      intro read
      obtain ⟨j, read, fits⟩ := read
      obtain ⟨b', here', begins⟩ := natural_begins read fits
      cases here.symm.trans here'
      exact begins.elim other digit

theorem Faithful.option {x : Decoder α} (faithful : x.Faithful) : x.option.Faithful := by
  intro levels c a d
  simp only [Decoder.option, reads_blanks]
  have given (other : c.pastBlanks.next? ≠ some 'n') :
      Reads (some <$> x.ofText levels) c.pastBlanks a d ↔
        ∃ j, Reads (value levels) c j d ∧ x.option.ofJson j = .ok a := by
    simp only [reads_map, faithful levels c.pastBlanks, value_pastBlanks]
    constructor
    · intro read
      obtain ⟨v, ⟨j, read, fits⟩, rfl⟩ := read
      refine ⟨j, read, ?_⟩
      obtain ⟨b, here, begins⟩ := read.begins
      cases j with
      | null => exact absurd (beq_iff_eq.mp begins ▸ here) other
      | _ => simp [Decoder.option, fits]
    · intro read
      obtain ⟨j, read, fits⟩ := read
      obtain ⟨b, here, begins⟩ := read.begins
      have present : some <$> x.ofJson j = .ok a := by
        cases j with
        | null => exact absurd (beq_iff_eq.mp begins ▸ here) other
        | _ => exact fits
      obtain ⟨v, decoded, rfl⟩ := map_ok.mp present
      exact ⟨v, ⟨j, read, decoded⟩, rfl⟩
  split
  · rename_i here
    constructor
    · intro read
      obtain ⟨_, word, rfl⟩ := reads_return.mp read
      exact ⟨.null, (reads_null here).mpr ⟨word, rfl⟩, rfl⟩
    · intro read
      obtain ⟨j, read, fits⟩ := read
      obtain ⟨word, rfl⟩ := (reads_null here).mp read
      cases fits
      rw [reads_after word, reads_pure]
      exact ⟨rfl, rfl⟩
  · exact given ‹_›

end Decoder

end CourseFiles
