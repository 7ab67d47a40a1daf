import CourseFiles.Proofs.Json.Readings

namespace CourseFiles
namespace Reader

variable {c d e : Cursor} {r : Reader α}

def Onward (r : Reader α) : Prop := ∀ c a d, Reads r c a d → d.left ≤ c.left

theorem Reads.left (read : Reads r c a d) (onward : Onward r) : d.left ≤ c.left := onward c a d read

theorem Onward.bind {f : α → Reader β} (first : Onward r) (last : ∀ a, Onward (f a)) : Onward (r >>= f) := by
  intro c b d read
  obtain ⟨a, e, read, read'⟩ := reads_bind.mp read
  exact Nat.le_trans (last a e b d read') (first c a e read)

@[simp] theorem onward_pure : Onward (pure a : Reader α) := by
  intro c b d read
  simp_all

@[simp] theorem onward_fail {g : Grammar} : Onward (fail g : Reader α) := by
  intro c a d read
  simp at read

@[simp] theorem onward_failNext {g : Grammar} : Onward (failNext g : Reader α) := by
  intro c a d read
  simp at read

@[simp] theorem onward_throw {g : Fault} : Onward (throw g : Reader α) := by
  intro c a d read
  simp at read

@[simp] theorem onward_advance : Onward (advance k) := by
  intro c a d read
  rw [reads_advance.mp read, Cursor.past_left]
  exact Nat.sub_le _ _

@[simp] theorem onward_place : Onward place := by
  intro c a d read
  cases read
  exact Nat.le_refl _

@[simp] theorem onward_peek : Onward peek := onward_place.bind fun _ => onward_pure

@[simp] theorem onward_next : Onward next := onward_peek.bind fun _ => onward_advance.bind fun _ => onward_pure

@[simp] theorem onward_blanks : Onward blanks := onward_place.bind fun _ => onward_advance.bind fun _ => onward_peek

@[simp] theorem onward_digitRun : Onward digitRun :=
  onward_place.bind fun _ => onward_advance.bind fun _ => onward_pure

theorem onward_hexEscape : Onward hexEscape := by
  apply onward_place.bind
  intro c
  split
  · apply onward_advance.bind
    intro _
    split <;> simp
  · exact onward_advance.bind fun _ => onward_fail

theorem onward_pairMark : Onward (pairMark b) := by
  apply onward_peek.bind
  intro x
  split
  · exact onward_fail
  · apply onward_advance.bind
    intro _
    split <;> simp

theorem onward_numericEscape : Onward numericEscape := by
  apply onward_hexEscape.bind
  intro n
  split
  · exact onward_fail
  · split
    · refine onward_pairMark.bind fun _ => onward_pairMark.bind fun _ => onward_hexEscape.bind fun m => ?_
      split <;> simp
    · exact onward_pure

theorem onward_escape : Onward escape := by
  apply onward_next.bind
  intro x
  split
  · exact onward_fail
  · exact onward_numericEscape
  · split <;> simp

theorem onward_quotedBytes (rounds : Nat) (sofar : List UInt8) : Onward (quotedBytes rounds sofar) := by
  induction rounds generalizing sofar with
  | zero => exact onward_fail
  | succ rounds ih =>
    refine onward_place.bind fun c => onward_advance.bind fun _ => onward_peek.bind fun x => ?_
    split
    · exact onward_fail
    · exact onward_pure
    · exact onward_advance.bind fun _ => onward_escape.bind fun _ => ih _
    · exact onward_advance.bind fun _ => onward_fail

theorem onward_quotation : Onward quotation := by
  refine onward_place.bind fun c => (onward_quotedBytes _ _).bind fun bytes => ?_
  split
  · exact onward_advance.bind fun _ => onward_pure
  · exact onward_fail

theorem onward_floatOf : Onward (floatOf negative n scale) := by
  unfold floatOf
  split <;> simp

theorem onward_endlessScale : Onward (endlessScale negative zero down left) := by
  unfold endlessScale
  split
  · exact onward_place.bind fun _ => onward_throw
  · exact onward_pure

theorem Onward.ifPast {p : Prop} [Decidable p] (last : Onward r) :
    Onward (if p then do advance; r else r) := by
  split
  · exact onward_advance.bind fun _ => last
  · exact last

theorem onward_exponentPart : Onward (exponentPart negative n scale) := by
  refine onward_advance.bind fun _ => onward_peek.bind fun mark => Onward.ifPast ?_
  apply onward_peek.bind
  intro x
  split
  · exact onward_fail
  · apply onward_digitRun.bind
    intro ds
    split
    · exact onward_advance.bind fun _ => onward_fail
    · dsimp only
      split
      · exact onward_floatOf
      · exact onward_endlessScale

theorem onward_decimalPart : Onward (decimalPart negative n scale) := by
  refine onward_advance.bind fun _ => onward_digitRun.bind fun ds => ?_
  split
  · apply onward_peek.bind
    intro x
    split <;> simp
  · dsimp only
    apply onward_peek.bind
    intro x
    split
    · exact onward_exponentPart
    · exact onward_floatOf

-- A numeral has a digit at least.
theorem Reads.someDigit (read : Reads (numeral negative) c n d) :
    c.digits ≠ [] ∧ d.left ≤ (c.past c.digits.length).left := by
  simp only [numeral, reads_peek, reads_digitRun] at read
  split at read
  · simp at read
  · simp at read
  · simp at read
  · rename_i some _
    refine ⟨some, read.left ?_⟩
    apply onward_peek.bind
    intro x
    split
    · exact onward_decimalPart.bind fun _ => onward_pure
    · split
      · exact onward_exponentPart.bind fun _ => onward_pure
      · split
        · exact onward_floatOf.bind fun _ => onward_pure
        · split
          · exact onward_pure
          · split
            · exact onward_floatOf.bind fun _ => onward_pure
            · exact onward_pure

theorem onward_numeral : Onward (numeral negative) := by
  intro c n d read
  obtain ⟨-, rest⟩ := read.someDigit
  rw [Cursor.past_left] at rest
  omega

theorem onward_letters (bs : List Char) : Onward (letters bs) := by
  induction bs with
  | nil => exact onward_pure
  | cons b bs ih =>
    apply onward_next.bind
    intro x
    split
    · exact onward_fail
    · split
      · exact ih
      · exact onward_fail

theorem onward_anotherItem : Onward (anotherItem first) := by
  apply onward_blanks.bind
  intro x
  split
  · exact onward_failNext
  · exact onward_pure
  · split
    · exact onward_pure
    · split
      · refine onward_advance.bind fun _ => onward_blanks.bind fun y => ?_
        split <;> simp
      · exact onward_failNext

theorem onward_anotherMember : Onward (anotherMember first) := by
  apply onward_blanks.bind
  intro x
  split
  · exact onward_failNext
  · exact onward_pure
  · split
    · split <;> simp
    · split
      · refine onward_advance.bind fun _ => onward_blanks.bind fun y => ?_
        split <;> simp
      · exact onward_failNext

theorem Onward.items {item : Reader α} (inner : Onward item) (rounds : Nat) (first : Bool) :
    Onward (items item rounds first) := by
  induction rounds generalizing first with
  | zero => exact onward_pure
  | succ rounds ih =>
    apply onward_anotherItem.bind
    intro more
    split
    · exact inner.bind fun _ => (ih false).bind fun _ => onward_pure
    · exact onward_pure

theorem Onward.members {member : String → Reader α} (inner : ∀ name, Onward (member name)) (rounds : Nat)
    (first : Bool) : Onward (members member rounds first) := by
  induction rounds generalizing first with
  | zero => exact onward_pure
  | succ rounds ih =>
    apply onward_anotherMember.bind
    intro more
    split
    · exact onward_advance.bind fun _ => onward_quotation.bind fun name =>
        (inner name).bind fun _ => (ih false).bind fun _ => onward_pure
    · exact onward_pure

theorem reads_list {item : Reader α} : Reads (list item) c as d ↔
    ∃ e, Reads (items item ((c.past 1).left + 1) true) (c.past 1) as e ∧ Reads listEnd e () d := by
  simp only [list, reads_advance_bind, reads_place, reads_enclosed]
  rfl

theorem reads_object {member : String → Reader α} : Reads (object member) c as d ↔
    ∃ e, Reads (members member ((c.past 1).left + 1) true) (c.past 1) as e ∧ Reads objectEnd e () d := by
  simp only [object, reads_advance_bind, reads_place, reads_enclosed]
  rfl

-- What takes a byte at least, if there is one.
def Takes (r : Reader α) : Prop := ∀ c a d b, c.next? = some b → Reads r c a d → d.left < c.left

theorem Takes.after {f : Unit → Reader α} (last : ∀ u, Onward (f u)) : Takes (advance >>= f) := by
  intro c a d b here read
  have some := Cursor.left_pos here
  have rest := last () _ _ _ (reads_advance_bind.mp read)
  rw [Cursor.past_left] at rest
  omega

theorem Takes.bind {f : α → Reader β} (first : Takes r) (last : ∀ a, Onward (f a)) : Takes (r >>= f) := by
  intro c b d x here read
  obtain ⟨a, e, read, read'⟩ := reads_bind.mp read
  exact Nat.lt_of_le_of_lt (read'.left (last a)) (first c a e x here read)

theorem Takes.map {f : α → β} (inner : Takes r) : Takes (f <$> r) := by
  intro c b d x here read
  obtain ⟨a, read, -⟩ := reads_map.mp read
  exact inner c a d x here read

theorem Takes.located (inner : Takes r) : Takes (located r) :=
  fun c a d b here read => inner c a d b here (reads_located.mp read)

theorem takes_letters : Takes (letters (b :: bs)) := by
  intro c u d x here read
  simp only [letters, reads_next, here] at read
  have some := Cursor.left_pos here
  split at read
  · have rest := onward_letters _ _ _ _ read
    rw [Cursor.past_left] at rest
    omega
  · simp at read

theorem takes_numeral : Takes (numeral negative) := by
  intro c a d b here read
  obtain ⟨run, rest⟩ := read.someDigit
  have some : 0 < c.digits.length := List.length_pos_iff.mpr run
  have left := Cursor.left_pos here
  rw [Cursor.past_left] at rest
  omega

theorem Onward.enclosed {ending : Reader Unit} (inner : Onward r) (last : Onward ending) :
    Onward (enclosed r ending) := by
  intro c a d read
  obtain ⟨e, body, atEnd⟩ := reads_enclosed.mp read
  exact Nat.le_trans (last e () d atEnd) (inner c a e body)

theorem onward_listEnd : Onward listEnd := by
  apply onward_blanks.bind
  intro x
  split
  · exact onward_advance
  · refine onward_advance.bind fun _ => onward_blanks.bind fun y => ?_
    split <;> simp
  · exact onward_failNext
  · exact onward_failNext

theorem onward_objectEnd : Onward objectEnd := by
  apply onward_blanks.bind
  intro x
  split <;> simp

theorem onward_colon : Onward colon := by
  apply onward_blanks.bind
  intro x
  split <;> simp

theorem takes_list {item : Reader α} (inner : Onward item) : Takes (list item) :=
  .after fun _ => onward_place.bind fun _ => (inner.items _ _).enclosed onward_listEnd

theorem takes_object {member : String → Reader α} (inner : ∀ name, Onward (member name)) : Takes (object member) :=
  .after fun _ => onward_place.bind fun _ => (Onward.members inner _ _).enclosed onward_objectEnd

-- A value has a byte at least.
theorem Reads.someByte (read : Reads (valueOf ofList ofObject) c j d) (list : Takes ofList) (object : Takes ofObject) :
    d.left < c.left := by
  refine Nat.lt_of_lt_of_le ?_ Cursor.pastBlanks_left
  simp only [valueOf, reads_blanks] at read
  split at read
  · simp at read
  · rename_i here
    exact takes_letters.bind (fun _ => onward_pure) _ _ _ _ here read
  · rename_i here
    exact takes_letters.bind (fun _ => onward_pure) _ _ _ _ here read
  · rename_i here
    exact takes_letters.bind (fun _ => onward_pure) _ _ _ _ here read
  · rename_i here
    exact Takes.after (fun _ => onward_quotation.bind fun _ => onward_pure) _ _ _ _ here read
  · rename_i here
    exact Takes.after (fun _ => onward_numeral.bind fun _ => onward_pure) _ _ _ _ here read
  · rename_i here
    exact list.located _ _ _ _ here read
  · rename_i here
    exact object.located _ _ _ _ here read
  · rename_i here
    split at read
    · exact takes_numeral.bind (fun _ => onward_pure) _ _ _ _ here read
    · simp at read

theorem Reads.shorter (read : Reads (value levels) c j d) : d.left < c.left := by
  induction levels generalizing c j d with
  | zero =>
    have never : Takes (failNext .tooDeep : Reader Json) := fun _ _ _ _ _ read => absurd read reads_failNext
    exact read.someByte never never
  | succ levels ih =>
    have onward : Onward (value levels) := fun _ _ _ read => Nat.le_of_lt (ih read)
    apply read.someByte
    · exact (takes_list onward).map
    · exact (takes_object fun name => onward_colon.bind fun _ => onward.bind fun _ => onward_pure).map

end Reader
end CourseFiles
