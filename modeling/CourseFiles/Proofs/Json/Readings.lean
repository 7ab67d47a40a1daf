import CourseFiles.Json.Decoder
import Mathlib.Data.List.TakeWhile

namespace CourseFiles

namespace Cursor

variable {c : Cursor}

def past (count : Nat) (c : Cursor) : Cursor := ⟨c.rest.drop count, c.offset + min count c.rest.length⟩

def next? (c : Cursor) : Option Char := c.rest.head?.map Reader.asChar

def pastBlanks (c : Cursor) : Cursor := c.past (c.rest.takeWhile Reader.isSpace).length

def pastIf (p : Prop) [Decidable p] (c : Cursor) : Cursor := if p then c.past 1 else c

def digits (c : Cursor) : List Nat := (c.rest.takeWhile Reader.isDigit).map fun b => b.toNat - 48

def left (c : Cursor) : Nat := c.rest.length

@[simp] theorem past_zero : c.past 0 = c := by simp [past]

@[simp] theorem past_left : (c.past k).left = c.left - k := List.length_drop

theorem pastBlanks_rest : c.pastBlanks.rest = c.rest.dropWhile Reader.isSpace := by
  have split : c.rest.takeWhile Reader.isSpace ++ c.rest.dropWhile Reader.isSpace = c.rest :=
    List.takeWhile_append_dropWhile
  calc c.rest.drop (c.rest.takeWhile Reader.isSpace).length
      = (c.rest.takeWhile Reader.isSpace ++ c.rest.dropWhile Reader.isSpace).drop
          (c.rest.takeWhile Reader.isSpace).length := by rw [split]
    _ = c.rest.dropWhile Reader.isSpace := List.drop_left

@[simp] theorem pastBlanks_pastBlanks : c.pastBlanks.pastBlanks = c.pastBlanks := by
  have none : c.pastBlanks.rest.takeWhile Reader.isSpace = [] := by
    rw [pastBlanks_rest]
    exact List.takeWhile_eq_nil_iff.mpr (List.dropWhile_get_zero_not _ _)
  rw [pastBlanks, none]
  simp [past]

theorem pastBlanks_left : c.pastBlanks.left ≤ c.left := by
  rw [pastBlanks, past_left]
  exact Nat.sub_le _ _

theorem left_pos (there : c.next? = some b) : 0 < c.left := by
  unfold next? at there
  unfold left
  cases h : c.rest with
  | nil => simp [h] at there
  | cons => simp

end Cursor

namespace Reader

variable {c d e : Cursor} {r : Reader α}

def resultAt (r : Reader α) (c : Cursor) : Except Fault α × Cursor := (ExceptT.run r).run c

def Reads (r : Reader α) (c : Cursor) (a : α) (d : Cursor) : Prop := resultAt r c = (.ok a, d)

theorem Reads.unique (one : Reads r c a d) (other : Reads r c b e) : a = b ∧ d = e := by
  cases one.symm.trans other
  exact ⟨rfl, rfl⟩

theorem resultAt_bind {f : α → Reader β} : resultAt (r >>= f) c =
    match resultAt r c with
    | (.ok a, e) => resultAt (f a) e
    | (.error g, e) => (.error g, e) := by
  show (ExceptT.run (ExceptT.bind r f)).run c = _
  simp only [resultAt, ExceptT.run, ExceptT.bind, ExceptT.mk, StateT.run, bind, StateT.bind, ExceptT.bindCont]
  rcases r c with ⟨_ | _, _⟩ <;> rfl

theorem resultAt_tryCatch {f : Fault → Reader α} : resultAt (tryCatch r f) c =
    match resultAt r c with
    | (.ok a, e) => (.ok a, e)
    | (.error g, e) => resultAt (f g) e := by
  show (ExceptT.run (ExceptT.tryCatch r f)).run c = _
  simp only [resultAt, ExceptT.run, ExceptT.tryCatch, ExceptT.mk, StateT.run, bind, StateT.bind]
  rcases r c with ⟨_ | _, _⟩ <;> rfl

theorem reads_bind {f : α → Reader β} :
    Reads (r >>= f) c b d ↔ ∃ a e, Reads r c a e ∧ Reads (f a) e b d := by
  unfold Reads
  rw [resultAt_bind]
  rcases resultAt r c with ⟨_ | a, e⟩
  · simp
  · constructor
    · intro read
      exact ⟨a, e, rfl, read⟩
    · intro read
      obtain ⟨_, _, first, read⟩ := read
      cases first
      exact read

theorem reads_after {f : α → Reader β} (first : Reads r c a e) : Reads (r >>= f) c b d ↔ Reads (f a) e b d := by
  rw [reads_bind]
  constructor
  · intro read
    obtain ⟨_, _, other, read⟩ := read
    obtain ⟨rfl, rfl⟩ := first.unique other
    exact read
  · intro read
    exact ⟨a, e, first, read⟩

@[simp] theorem reads_pure : Reads (pure a) c b d ↔ b = a ∧ d = c := by
  constructor
  · intro read
    cases read
    exact ⟨rfl, rfl⟩
  · intro same
    obtain ⟨rfl, rfl⟩ := same
    rfl

-- What is read last may still be put into another form.
theorem reads_return {f : α → β} : Reads (do return f (← r)) c b d ↔ ∃ a, Reads r c a d ∧ b = f a := by
  rw [reads_bind]
  constructor
  · intro read
    obtain ⟨a, e, read, last⟩ := read
    obtain ⟨rfl, rfl⟩ := reads_pure.mp last
    exact ⟨a, read, rfl⟩
  · intro read
    obtain ⟨a, read, rfl⟩ := read
    exact ⟨a, d, read, reads_pure.mpr ⟨rfl, rfl⟩⟩

@[simp] theorem reads_map {f : α → β} : Reads (f <$> r) c b d ↔ ∃ a, Reads r c a d ∧ b = f a := by
  rw [map_eq_pure_bind, reads_return]

@[simp] theorem reads_throw {f : Fault} : ¬ Reads (throw f : Reader α) c a d := by
  intro read
  cases read

-- What always succeeds is gone past.

@[simp] theorem reads_place {f : Cursor → Reader β} : Reads (place >>= f) c b d ↔ Reads (f c) c b d := reads_after rfl

@[simp] theorem reads_advance : Reads (advance k) c u d ↔ d = c.past k := by
  constructor
  · intro read
    cases read
    rfl
  · rintro rfl
    rfl

@[simp] theorem reads_advance_bind {f : Unit → Reader β} :
    Reads (advance k >>= f) c b d ↔ Reads (f ()) (c.past k) b d := reads_after rfl

@[simp] theorem reads_peek {f : Option Char → Reader β} :
    Reads (peek >>= f) c b d ↔ Reads (f c.next?) c b d := reads_after rfl

@[simp] theorem reads_next {f : Option Char → Reader β} :
    Reads (next >>= f) c b d ↔ Reads (f c.next?) (c.past 1) b d := reads_after rfl

@[simp] theorem reads_blanks {f : Option Char → Reader β} :
    Reads (blanks >>= f) c b d ↔ Reads (f c.pastBlanks.next?) c.pastBlanks b d := reads_after rfl

@[simp] theorem reads_digitRun {f : List Nat → Reader β} :
    Reads (digitRun >>= f) c b d ↔ Reads (f c.digits) (c.past c.digits.length) b d :=
  reads_after (by simp [Reads, digitRun, Cursor.digits]; rfl)

@[simp] theorem reads_fail {g : Grammar} : ¬ Reads (fail g : Reader α) c a d := by simp [fail]

@[simp] theorem reads_failNext {g : Grammar} : ¬ Reads (failNext g : Reader α) c a d := by simp [failNext]

@[simp] theorem reads_mismatch {m : Mismatch} : ¬ Reads (mismatch m : Reader α) c a d := by simp [mismatch]

@[simp] theorem reads_located : Reads (located r) c a d ↔ Reads r c a d := by
  unfold Reads located
  rw [resultAt_tryCatch]
  rcases resultAt r c with ⟨⟨cause, offset⟩ | a, e⟩
  · apply iff_of_false
    · intro read
      cases offset <;> cases read
    · simp
  · rfl

theorem reads_attempt {x : Except Fault α} : Reads (attempt r) c x d ↔ resultAt r c = (x, d) := by
  unfold Reads attempt
  rw [resultAt_tryCatch, map_eq_pure_bind, resultAt_bind]
  rcases resultAt r c with ⟨f | a, e⟩
  all_goals
    constructor
    all_goals
      intro read
      cases read
      rfl

@[simp] theorem reads_enclosed {ending : Reader Unit} :
    Reads (enclosed r ending) c a d ↔ ∃ e, Reads r c a e ∧ Reads ending e () d := by
  simp only [enclosed, reads_bind, reads_attempt]
  constructor
  · intro read
    obtain ⟨x, e, body, y, f, last, read⟩ := read
    rcases x with _ | b <;> rcases y with _ | u <;> simp at read
    obtain ⟨rfl, rfl⟩ := read
    exact ⟨e, body, last⟩
  · intro read
    obtain ⟨e, body, last⟩ := read
    exact ⟨_, _, body, _, _, last, by simp⟩

@[simp] theorem reads_listEnd : Reads listEnd c u d ↔ c.pastBlanks.next? = some ']' ∧ d = c.pastBlanks.past 1 := by
  simp only [listEnd, reads_blanks]
  split
  · simp_all
  · simp only [reads_advance_bind, reads_blanks]
    split <;> simp_all
  · simp_all
  · simp_all

@[simp] theorem reads_objectEnd :
    Reads objectEnd c u d ↔ c.pastBlanks.next? = some '\x7d' ∧ d = c.pastBlanks.past 1 := by
  simp only [objectEnd, reads_blanks]
  split <;> simp_all

@[simp] theorem reads_textEnd : Reads textEnd c u d ↔ c.pastBlanks.next? = none ∧ d = c.pastBlanks := by
  simp only [textEnd, reads_blanks]
  split <;> simp_all

theorem run_ok {text : List UInt8} : run r text = .ok a ↔ ∃ d, Reads r ⟨text, 0⟩ a d ∧ d.pastBlanks.next? = none := by
  have whole : run r text = .ok a ↔ ∃ d, Reads (do let a ← r; textEnd; return a) ⟨text, 0⟩ a d := by
    constructor
    · intro done
      exact ⟨_, Prod.ext done rfl⟩
    · intro read
      obtain ⟨d, read⟩ := read
      exact congrArg Prod.fst read
  rw [whole]
  constructor
  · intro read
    obtain ⟨d, read⟩ := read
    obtain ⟨b, e, first, last⟩ := reads_bind.mp read
    obtain ⟨_, f, atEnd, result⟩ := reads_bind.mp last
    obtain ⟨rfl, -⟩ := reads_pure.mp result
    exact ⟨e, first, (reads_textEnd.mp atEnd).1⟩
  · intro read
    obtain ⟨d, read, atEnd⟩ := read
    refine ⟨d.pastBlanks, ?_⟩
    rw [reads_after read, reads_after (a := ()) (reads_textEnd.mpr ⟨atEnd, rfl⟩), reads_pure]
    exact ⟨rfl, rfl⟩

-- Past the end of a list or an object, or on to what comes next in it.

theorem reads_noItem : Reads (anotherItem first) c false d ↔ c.pastBlanks.next? = some ']' ∧ d = c.pastBlanks := by
  simp only [anotherItem, reads_blanks]
  split
  · simp_all
  · simp_all
  · rename_i b other here
    split
    · simp_all
    · split
      · simp only [reads_advance_bind, reads_blanks]
        split <;> simp_all
      · simp_all

theorem reads_noMember :
    Reads (anotherMember first) c false d ↔ c.pastBlanks.next? = some '\x7d' ∧ d = c.pastBlanks := by
  simp only [anotherMember, reads_blanks]
  split
  · simp_all
  · simp_all
  · rename_i b other here
    split
    · split <;> simp_all
    · split
      · simp only [reads_advance_bind, reads_blanks]
        split <;> simp_all
      · simp_all

-- One round of either loop.

theorem reads_items {item : Reader α} : Reads (items item (rounds + 1) first) c as d ↔
    Reads (anotherItem first) c false d ∧ as = [] ∨
    ∃ c₁ a c₂ rest, Reads (anotherItem first) c true c₁ ∧ Reads item c₁ a c₂ ∧
      Reads (items item rounds false) c₂ rest d ∧ as = a :: rest := by
  rw [items, reads_bind]
  constructor
  · intro read
    obtain ⟨more, c₁, another, read⟩ := read
    cases more with
    | false =>
      obtain ⟨same, rfl⟩ := reads_pure.mp read
      exact .inl ⟨another, same⟩
    | true =>
      obtain ⟨a, c₂, one, read⟩ := reads_bind.mp read
      obtain ⟨rest, more, same⟩ := reads_return.mp read
      exact .inr ⟨c₁, a, c₂, rest, another, one, more, same⟩
  · intro read
    rcases read with ⟨another, same⟩ | ⟨c₁, a, c₂, rest, another, one, more, same⟩
    · exact ⟨false, d, another, reads_pure.mpr ⟨same, rfl⟩⟩
    · refine ⟨true, c₁, another, (reads_after one).mpr ?_⟩
      exact reads_return.mpr ⟨rest, more, same⟩

theorem reads_members {member : String → Reader α} : Reads (members member (rounds + 1) first) c as d ↔
    Reads (anotherMember first) c false d ∧ as = [] ∨
    ∃ c₁ name c₂ a c₃ rest, Reads (anotherMember first) c true c₁ ∧ Reads quotation (c₁.past 1) name c₂ ∧
      Reads (member name) c₂ a c₃ ∧ Reads (members member rounds false) c₃ rest d ∧ as = a :: rest := by
  rw [members, reads_bind]
  constructor
  · intro read
    obtain ⟨more, c₁, another, read⟩ := read
    cases more with
    | false =>
      obtain ⟨same, rfl⟩ := reads_pure.mp read
      exact .inl ⟨another, same⟩
    | true =>
      simp only [if_true, reads_advance_bind] at read
      obtain ⟨name, c₂, quoted, read⟩ := reads_bind.mp read
      obtain ⟨a, c₃, one, read⟩ := reads_bind.mp read
      obtain ⟨rest, more, same⟩ := reads_return.mp read
      exact .inr ⟨c₁, name, c₂, a, c₃, rest, another, quoted, one, more, same⟩
  · intro read
    rcases read with ⟨another, same⟩ | ⟨c₁, name, c₂, a, c₃, rest, another, quoted, one, more, same⟩
    · exact ⟨false, d, another, reads_pure.mpr ⟨same, rfl⟩⟩
    · refine ⟨true, c₁, another, ?_⟩
      simp only [if_true, reads_advance_bind]
      rw [reads_after quoted, reads_after one]
      exact reads_return.mpr ⟨rest, more, same⟩

def Continues (closing : Char) (first : Bool) (c d : Cursor) : Prop :=
  ∃ b, c.pastBlanks.next? = some b ∧ b ≠ closing ∧
    (first = true ∧ d = c.pastBlanks ∨ first = false ∧ b = ',' ∧ d = (c.pastBlanks.past 1).pastBlanks)

theorem Reads.goesOn (read : Reads (anotherItem first) c true d) : Continues ']' first c d := by
  simp only [anotherItem, reads_blanks] at read
  split at read
  · simp at read
  · simp at read
  · rename_i b other here
    refine ⟨b, here, ?_, ?_⟩
    · rintro rfl
      exact other rfl
    · split at read
      · simp_all
      · split at read
        · simp only [reads_advance_bind, reads_blanks] at read
          split at read <;> simp_all
        · simp at read

theorem Reads.goesOnNamed (read : Reads (anotherMember first) c true d) :
    Continues '\x7d' first c d ∧ d.next? = some '"' := by
  simp only [anotherMember, reads_blanks] at read
  split at read
  · simp at read
  · simp at read
  · rename_i b other here
    have notEnd : b ≠ '\x7d' := by
      rintro rfl
      exact other rfl
    split at read
    · split at read
      · simp_all [Continues]
      · simp at read
    · split at read
      · simp only [reads_advance_bind, reads_blanks] at read
        split at read <;> simp_all [Continues]
      · simp at read

end Reader
end CourseFiles
