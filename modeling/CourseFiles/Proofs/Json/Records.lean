import CourseFiles.Proofs.Json.Agreement
import CourseFiles.Json.Record
import Mathlib.Data.List.ReduceOption

namespace CourseFiles

open Reader

variable {c d e : Cursor} {levels : Nat}

namespace Record

open Decoder

variable {r : Record α}

-- A member of an object, as far as the record knows its name.
def known (r : Record α) (levels : Nat) (name : String) : Reader (Option (String × Json)) := do
  colon
  match r.find? name with
  | some _ => return some (name, ← value levels)
  | none =>
    skip
    return none

theorem found_name {name : String} (found : r.find? name = some m) : m.name = name := by
  simpa using List.find?_some (show r.members.find? _ = some m from found)

structure Plain (r : Record α) : Prop where
  skips : r.others = .skipped
  faithful : ∀ m ∈ r.members, m.form.Faithful

theorem Plain.find {name : String} (plain : r.Plain) (found : r.find? name = some m) : m.form.Faithful :=
  plain.faithful m (List.mem_of_find?_eq_some found)

-- The names that come are apart from each other and from those before.
def Apart (seen : List String) (ms : Json.Members) : Prop :=
  (ms.map (·.1)).Nodup ∧ ∀ m ∈ ms, m.1 ∉ seen

theorem apart_cons : Apart seen (m :: ms) ↔ m.1 ∉ seen ∧ Apart (m.1 :: seen) ms := by
  simp only [Apart, List.map_cons, List.nodup_cons, List.mem_cons, List.mem_map, not_or]
  constructor
  · intro both
    obtain ⟨⟨fresh, apart⟩, new⟩ := both
    refine ⟨new m (.inl rfl), apart, ?_⟩
    intro k here
    exact ⟨fun same => fresh ⟨k, here, same⟩, new k (.inr here)⟩
  · intro both
    obtain ⟨new, apart, news⟩ := both
    refine ⟨⟨?_, apart⟩, ?_⟩
    · intro taken
      obtain ⟨k, here, same⟩ := taken
      exact (news k here).1 same
    · rintro k (rfl | here)
      · exact new
      · exact (news k here).2

theorem apart_nil : Apart seen [] := ⟨.nil, fun _ here => absurd here List.not_mem_nil⟩

def fill (r : Record α) (ms : Json.Members) (a : α) : Except Mismatch α :=
  ms.foldlM (fun a m => r.apply a m.1 m.2) a

theorem fill_cons : r.fill (m :: ms) a = .ok b ↔ ∃ a', r.apply a m.1 m.2 = .ok a' ∧ r.fill ms a' = .ok b := by
  rw [fill, List.foldlM_cons]
  exact bind_ok

theorem apply_found {name : String} (found : r.find? name = some m) :
    r.apply a name j = .ok b ↔ ∃ change, m.form.ofJson j = .ok change ∧ change a = b := by
  simp only [Record.apply, found]
  exact map_ok

theorem reads_known {name : String} (found : r.find? name = some m) :
    Reads (r.known levels name) c o d ↔
      ∃ e j, Reads colon c () e ∧ Reads (value levels) e j d ∧ o = some (name, j) := by
  unfold known
  simp only [found]
  constructor
  · intro read
    obtain ⟨_, e, sign, read⟩ := reads_bind.mp read
    obtain ⟨j, value, same⟩ := reads_return.mp read
    exact ⟨e, j, sign, value, same⟩
  · intro read
    obtain ⟨e, j, sign, value, same⟩ := read
    rw [reads_after sign]
    exact reads_return.mpr ⟨j, value, same⟩

theorem reads_unknown {name : String} (unknown : r.find? name = none) :
    Reads (r.known levels name) c o d ↔ ∃ e, Reads colon c () e ∧ Reads skip e () d ∧ o = none := by
  unfold known
  simp only [unknown]
  constructor
  · intro read
    obtain ⟨_, e, sign, read⟩ := reads_bind.mp read
    obtain ⟨_, passed, same⟩ := reads_return.mp read
    exact ⟨e, sign, passed, same⟩
  · intro read
    obtain ⟨e, sign, passed, same⟩ := read
    rw [reads_after sign]
    exact reads_return.mpr ⟨(), passed, same⟩

-- What a member does to a record that is being filled.
inductive Enters (r : Record α) (seen : List String) (a : α) : Option (String × Json) → List String → α → Prop where
  | known (new : m.1 ∉ seen) (applied : r.apply a m.1 m.2 = .ok b) : Enters r seen a (some m) (m.1 :: seen) b
  | unknown : Enters r seen a none seen a

theorem Plain.readMembers_step (plain : r.Plain) : Reads (r.readMembers levels (rounds + 1) first seen a) c p d ↔
    Reads (anotherMember first) c false d ∧ p = (seen, a) ∨
    ∃ c₁ name c₂ o c₃ seen' a', Reads (anotherMember first) c true c₁ ∧ Reads quotation (c₁.past 1) name c₂ ∧
      Reads (r.known levels name) c₂ o c₃ ∧ r.Enters seen a o seen' a' ∧
      Reads (r.readMembers levels rounds false seen' a') c₃ p d := by
  rw [Record.readMembers, reads_bind]
  constructor
  · intro read
    obtain ⟨more, c₁, another, read⟩ := read
    cases more with
    | false =>
      obtain ⟨same, rfl⟩ := reads_pure.mp read
      exact .inl ⟨another, same⟩
    | true =>
      right
      simp only [if_true, reads_advance_bind] at read
      obtain ⟨name, c₂, quoted, read⟩ := reads_bind.mp read
      cases found : r.find? name with
      | some m =>
        simp only [found] at read
        split at read
        · exact absurd read reads_mismatch
        · rename_i new
          obtain ⟨_, c₃, sign, read⟩ := reads_bind.mp read
          obtain ⟨change, c₄, formed, read⟩ := reads_bind.mp read
          obtain ⟨j, value, decoded⟩ := (plain.find found levels _ _ _).mp formed
          have one := (reads_known found).mpr ⟨c₃, j, sign, value, rfl⟩
          have applied : r.apply a name j = .ok (change a) := (apply_found found).mpr ⟨change, decoded, rfl⟩
          exact ⟨c₁, name, c₂, _, c₄, _, _, another, quoted, one, .known (by simpa using new) applied, read⟩
      | none =>
        simp only [found, plain.skips] at read
        obtain ⟨_, c₃, sign, read⟩ := reads_bind.mp read
        obtain ⟨_, c₄, passed, read⟩ := reads_bind.mp read
        have one : Reads (r.known levels name) c₂ none c₄ := (reads_unknown found).mpr ⟨c₃, sign, passed, rfl⟩
        exact ⟨c₁, name, c₂, _, c₄, _, _, another, quoted, one, .unknown, read⟩
  · intro read
    rcases read with ⟨another, same⟩ | ⟨c₁, name, c₂, o, c₃, seen', a', another, quoted, one, enters, read⟩
    · exact ⟨false, d, another, reads_pure.mpr ⟨same, rfl⟩⟩
    · refine ⟨true, c₁, another, ?_⟩
      simp only [if_true, reads_advance_bind]
      rw [reads_after quoted]
      cases found : r.find? name with
      | some m =>
        obtain ⟨c₄, j, sign, value, rfl⟩ := (reads_known found).mp one
        obtain ⟨new, applied⟩ := enters
        obtain ⟨change, decoded, rfl⟩ := (apply_found found).mp applied
        have formed := (plain.find found levels _ _ _).mpr ⟨j, value, decoded⟩
        simp only
        rw [if_neg (by simpa using new), reads_after sign, reads_after formed]
        exact read
      | none =>
        obtain ⟨c₄, sign, passed, rfl⟩ := (reads_unknown found).mp one
        cases enters
        simp only [plain.skips]
        rw [reads_after sign, reads_after passed]
        exact read

-- A record is filled member by member while its text is read; so it is with all that was read before.
theorem Plain.readMembers (plain : r.Plain) : Reads (r.readMembers levels rounds first seen a) c (seen', a') d ↔
    ∃ os, Reads (Reader.members (r.known levels) rounds first) c os d ∧ Apart seen os.reduceOption ∧
      seen' = (os.reduceOption.map (·.1)).reverse ++ seen ∧ r.fill os.reduceOption a = .ok a' := by
  induction rounds generalizing first seen a c with
  | zero =>
    simp only [Record.readMembers, Reader.members, reads_pure]
    constructor
    · intro read
      obtain ⟨same, rfl⟩ := read
      cases same
      exact ⟨[], ⟨rfl, rfl⟩, apart_nil, rfl, rfl⟩
    · intro read
      obtain ⟨os, ⟨rfl, rfl⟩, -, rfl, same⟩ := read
      cases same
      exact ⟨rfl, rfl⟩
  | succ rounds ih =>
    rw [plain.readMembers_step]
    constructor
    · intro read
      rcases read with ⟨another, same⟩ | ⟨c₁, name, c₂, o, c₃, seen₁, a₁, another, quoted, one, enters, read⟩
      · cases same
        exact ⟨[], reads_members.mpr (.inl ⟨another, rfl⟩), apart_nil, rfl, rfl⟩
      · obtain ⟨os, more, apart, same, filled⟩ := ih.mp read
        refine ⟨o :: os, reads_members.mpr (.inr ⟨c₁, name, c₂, o, c₃, os, another, quoted, one, more, rfl⟩), ?_⟩
        cases enters with
        | known new applied =>
          rw [List.reduceOption_cons_of_some]
          exact ⟨apart_cons.mpr ⟨new, apart⟩, by simp [same], fill_cons.mpr ⟨_, applied, filled⟩⟩
        | unknown => exact ⟨apart, same, filled⟩
    · intro read
      obtain ⟨os, read, apart, same, filled⟩ := read
      rcases reads_members.mp read with ⟨another, rfl⟩ | ⟨c₁, name, c₂, o, c₃, os, another, quoted, one, more, rfl⟩
      · cases filled
        exact .inl ⟨another, by rw [same]; rfl⟩
      · right
        cases o with
        | some m =>
          rw [List.reduceOption_cons_of_some] at apart same filled
          obtain ⟨new, apart⟩ := apart_cons.mp apart
          obtain ⟨a₁, applied, filled⟩ := fill_cons.mp filled
          have read := ih.mpr ⟨os, more, apart, by simp [same], filled⟩
          exact ⟨c₁, name, c₂, _, c₃, _, a₁, another, quoted, one, .known new applied, read⟩
        | none =>
          have read := ih.mpr ⟨os, more, apart, same, filled⟩
          exact ⟨c₁, name, c₂, _, c₃, _, _, another, quoted, one, .unknown, read⟩

-- The members of an object that the record knows.
def named (r : Record α) (levels : Nat) : Reader Json.Members := do
  match ← blanks with
  | some '\x7b' => nested levels fun deeper => List.reduceOption <$> object (r.known deeper)
  | _ => failNext .noValue

theorem complete_reverse : r.complete (seen.reverse ++ []) a = r.complete seen a := by
  simp [complete, lacking]

theorem ofMembers_ok : r.ofMembers ms = .ok a ↔
    ∃ b, r.fill ms r.blank = .ok b ∧ r.complete (ms.map (·.1)) b = .ok a := bind_ok

-- An object fills a record that needs none of its members, and that is all.
theorem ofMembers_fill (optional : ∀ m ∈ r.members, m.presence = .optional) :
    r.ofMembers ms = .ok a ↔ r.fill ms r.blank = .ok a := by
  have whole (seen : List String) (b : α) : r.complete seen b = .ok b := by
    have none : r.lacking seen = none := by
      refine Option.map_eq_none_iff.mpr (List.find?_eq_none.mpr fun m here => ?_)
      simp [optional m here]
    simp only [complete, none]
  simp only [ofMembers_ok, whole]
  constructor
  · intro decoded
    obtain ⟨b, filled, same⟩ := decoded
    cases same
    exact filled
  · intro filled
    exact ⟨a, filled, rfl⟩

theorem Plain.readObject (plain : r.Plain) : Reads (r.readObject levels) c a d ↔
    ∃ os, Reads (object (r.known levels)) c os d ∧ (os.reduceOption.map (·.1)).Nodup ∧
      r.ofMembers os.reduceOption = .ok a := by
  simp only [Record.readObject, reads_advance_bind, reads_enclosed, reads_object, reads_place]
  constructor
  · intro read
    obtain ⟨e, body, ends⟩ := read
    obtain ⟨⟨seen, b⟩, f, read, last⟩ := reads_bind.mp body
    obtain ⟨os, entries, apart, rfl, filled⟩ := plain.readMembers.mp read
    simp only [complete_reverse] at last
    split at last
    · rename_i whole
      obtain ⟨rfl, rfl⟩ := reads_pure.mp last
      exact ⟨os, ⟨e, entries, ends⟩, apart.1, ofMembers_ok.mpr ⟨b, filled, whole⟩⟩
    · exact absurd last reads_mismatch
  · intro read
    obtain ⟨os, ⟨e, entries, ends⟩, apart, decoded⟩ := read
    obtain ⟨b, filled, whole⟩ := ofMembers_ok.mp decoded
    have read := plain.readMembers.mpr ⟨os, entries, ⟨apart, fun _ _ => List.not_mem_nil⟩, rfl, filled⟩
    refine ⟨e, ?_, ends⟩
    refine (reads_after read).mpr ?_
    simp only [complete_reverse, whole]
    exact reads_pure.mpr ⟨rfl, rfl⟩

theorem listEnd_pastBlanks : Reads listEnd c.pastBlanks () d ↔ Reads listEnd c () d := by
  rw [reads_listEnd, Cursor.pastBlanks_pastBlanks, ← reads_listEnd]

-- A list that has no items left goes on with its end.
theorem items_nil {item : Reader α} :
    (∃ e, Reads (items item (rounds + 1) first) c [] e ∧ Reads listEnd e () d) ↔ Reads listEnd c () d := by
  constructor
  · intro read
    obtain ⟨e, read, ends⟩ := read
    rcases reads_items.mp read with ⟨another, -⟩ | ⟨_, _, _, _, _, _, _, some⟩
    · obtain ⟨-, rfl⟩ := reads_noItem.mp another
      exact listEnd_pastBlanks.mp ends
    · cases some
  · intro ends
    obtain ⟨here, -⟩ := reads_listEnd.mp ends
    have another : Reads (anotherItem first) c false c.pastBlanks := reads_noItem.mpr ⟨here, rfl⟩
    exact ⟨c.pastBlanks, reads_items.mpr (.inl ⟨another, rfl⟩), listEnd_pastBlanks.mpr ends⟩

theorem items_closed {item : Reader α} (closed : c.pastBlanks.next? = some ']')
    (read : Reads (items item (rounds + 1) first) c as d) : as = [] := by
  rcases reads_items.mp read with ⟨-, none⟩ | ⟨_, _, _, _, another, -⟩
  · exact none
  · obtain ⟨b, next, open', -⟩ := another.goesOn
    cases closed.symm.trans next
    exact absurd rfl open'

-- A round is left for what follows an item.
theorem fewer_rounds (another : Reads (anotherItem first) c true c₁) (value : Reads (value levels) c₁ j c₂)
    (enough : c.left < rounds + 1) : ∃ fewer, rounds = fewer + 1 ∧ c₂.left < fewer + 1 := by
  have there := another.left onward_anotherItem
  have took := value.shorter
  exact ⟨rounds - 1, by omega, by omega⟩

theorem readItems_cons {wanted : String} {m : Member α} : Reads (readItems wanted levels taken (m :: ms) a) c b d ↔
    (∃ c₁ change c₂, Reads (anotherItem (taken == 0)) c true c₁ ∧ Reads (m.form.ofText levels) c₁ change c₂ ∧
      Reads (readItems wanted levels (taken + 1) ms (change a)) c₂ b d) ∨
    ∃ c₁, Reads (anotherItem (taken == 0)) c false c₁ ∧ m.presence = .optional ∧
      Reads (readItems wanted levels taken ms a) c₁ b d := by
  rw [readItems, reads_bind]
  constructor
  · intro read
    obtain ⟨more, c₁, another, read⟩ := read
    cases more with
    | true =>
      obtain ⟨change, c₂, formed, read⟩ := reads_bind.mp read
      exact .inl ⟨c₁, change, c₂, another, formed, read⟩
    | false =>
      simp only [Bool.false_eq_true, if_false] at read
      split at read
      · exact .inr ⟨c₁, another, ‹_›, read⟩
      · exact absurd read reads_mismatch
  · intro read
    rcases read with ⟨c₁, change, c₂, another, formed, read⟩ | ⟨c₁, another, optional, read⟩
    · exact ⟨true, c₁, another, (reads_after formed).mpr read⟩
    · refine ⟨false, c₁, another, ?_⟩
      simpa only [Bool.false_eq_true, if_false, if_pos optional] using read

theorem ofItems_more {wanted : String} {m : Member α} : ofItems wanted taken (m :: ms) (j :: js) a = .ok b ↔
    ∃ change, m.form.ofJson j = .ok change ∧ ofItems wanted (taken + 1) ms js (change a) = .ok b := bind_ok

theorem ofItems_nil {wanted : String} {m : Member α} : ofItems wanted taken (m :: ms) [] a = .ok b ↔
    m.presence = .optional ∧ ofItems wanted taken ms [] a = .ok b := by
  rw [ofItems]
  split <;> simp [*]

-- The items of a list that fill a record, as far as there are any.
theorem readItems_items {wanted : String} {ms : List (Member α)} (taken rounds : Nat)
    (faithful : ∀ m ∈ ms, m.form.Faithful) (enough : c.left < rounds + 1) :
    (∃ e, Reads (readItems wanted levels taken ms a) c b e ∧ Reads listEnd e () d) ↔
      ∃ js, (∃ e, Reads (items (value levels) (rounds + 1) (taken == 0)) c js e ∧ Reads listEnd e () d) ∧
        ofItems wanted taken ms js a = .ok b := by
  induction ms generalizing taken a c rounds with
  | nil =>
    simp only [readItems, reads_pure]
    constructor
    · intro read
      obtain ⟨e, ⟨rfl, rfl⟩, ends⟩ := read
      exact ⟨[], items_nil.mpr ends, rfl⟩
    · intro read
      obtain ⟨js, read, decoded⟩ := read
      cases js with
      | cons => cases decoded
      | nil =>
        cases decoded
        exact ⟨c, ⟨rfl, rfl⟩, items_nil.mp read⟩
  | cons m ms ih =>
    have others : ∀ m ∈ ms, m.form.Faithful := fun m here => faithful m (List.mem_cons_of_mem _ here)
    have blanks : c.pastBlanks.left < rounds + 1 := Nat.lt_of_le_of_lt Cursor.pastBlanks_left enough
    constructor
    · intro read
      obtain ⟨e, read, ends⟩ := read
      rcases readItems_cons.mp read with ⟨c₁, change, c₂, another, formed, read⟩ | ⟨c₁, another, optional, read⟩
      · obtain ⟨j, value, decoded⟩ := (faithful m List.mem_cons_self levels _ _ _).mp formed
        obtain ⟨fewer, rfl, left⟩ := fewer_rounds another value enough
        obtain ⟨js, ⟨e, rest, ends⟩, filled⟩ := (ih (taken + 1) fewer others left).mp ⟨e, read, ends⟩
        have all := reads_items.mpr (.inr ⟨c₁, j, c₂, js, another, value, rest, rfl⟩)
        exact ⟨j :: js, ⟨e, all, ends⟩, ofItems_more.mpr ⟨change, decoded, filled⟩⟩
      · obtain ⟨here, rfl⟩ := reads_noItem.mp another
        obtain ⟨js, ⟨e, rest, ends⟩, filled⟩ := (ih taken rounds others blanks).mp ⟨e, read, ends⟩
        cases items_closed (by rwa [Cursor.pastBlanks_pastBlanks]) rest
        have closed := listEnd_pastBlanks.mp (items_nil.mp ⟨e, rest, ends⟩)
        exact ⟨[], items_nil.mpr closed, ofItems_nil.mpr ⟨optional, filled⟩⟩
    · intro read
      obtain ⟨js, ⟨e, read, ends⟩, filled⟩ := read
      rcases reads_items.mp read with ⟨another, rfl⟩ | ⟨c₁, j, c₂, rest, another, value, more, rfl⟩
      · obtain ⟨optional, filled⟩ := ofItems_nil.mp filled
        obtain ⟨-, rfl⟩ := reads_noItem.mp another
        obtain ⟨e, read, ends⟩ := (ih taken rounds others blanks).mpr ⟨[], items_nil.mpr ends, filled⟩
        exact ⟨e, readItems_cons.mpr (.inr ⟨_, another, optional, read⟩), ends⟩
      · obtain ⟨change, decoded, filled⟩ := ofItems_more.mp filled
        obtain ⟨fewer, rfl, left⟩ := fewer_rounds another value enough
        obtain ⟨e, read, ends⟩ := (ih (taken + 1) fewer others left).mpr ⟨rest, ⟨e, more, ends⟩, filled⟩
        have formed := (faithful m List.mem_cons_self levels _ _ _).mpr ⟨j, value, decoded⟩
        exact ⟨e, readItems_cons.mpr (.inl ⟨c₁, change, c₂, another, formed, read⟩), ends⟩

theorem Plain.readList (plain : r.Plain) : Reads (r.readList levels) c a d ↔
    ∃ js, Reads (list (value levels)) c js d ∧ ofItems r.listExpected 0 r.members js r.blank = .ok a := by
  simp only [Record.readList, reads_advance_bind, reads_enclosed, reads_list]
  exact readItems_items 0 _ plain.faithful (Nat.lt_succ_self _)

theorem reads_nested {inner : Nat → Reader α} :
    Reads (nested levels inner) c a d ↔ ∃ deeper, levels = deeper + 1 ∧ Reads (inner deeper) c a d := by
  cases levels with
  | zero => simp [nested]
  | succ deeper => simp [nested]

theorem reads_bracket (here : c.pastBlanks.next? = some '[') :
    Reads (value levels) c j d ↔
      ∃ deeper js, levels = deeper + 1 ∧ Reads (list (value deeper)) c.pastBlanks js d ∧ j = .list js := by
  cases levels <;> simp [value, valueOf, here]

theorem reads_named : Reads (r.named levels) c ms d ↔ c.pastBlanks.next? = some '\x7b' ∧
    ∃ deeper os, levels = deeper + 1 ∧ Reads (object (r.known deeper)) c.pastBlanks os d ∧ ms = os.reduceOption := by
  simp only [named, reads_blanks]
  split
  · rename_i here
    simp only [reads_nested, reads_map, here, true_and]
    constructor
    · intro read
      obtain ⟨deeper, same, os, read, named⟩ := read
      exact ⟨deeper, os, same, read, named⟩
    · intro read
      obtain ⟨deeper, os, same, read, named⟩ := read
      exact ⟨deeper, same, os, read, named⟩
  · rename_i other
    apply iff_of_false reads_failNext
    intro read
    exact other read.1

theorem reads_brace (here : c.pastBlanks.next? = some '\x7b') :
    Reads (value levels) c j d ↔ ∃ deeper ms, levels = deeper + 1 ∧
      Reads (object fun name => do colon; return (name, ← value deeper)) c.pastBlanks ms d ∧ j = .ofMembers ms := by
  cases levels <;> simp [value, valueOf, here]

-- A record is written as an object or as a list.
theorem Plain.reads (plain : r.Plain) : Reads (r.ofText levels) c a d ↔
    (∃ ms, Reads (r.named levels) c ms d ∧ (ms.map (·.1)).Nodup ∧ r.ofMembers ms = .ok a) ∨
    ∃ js, Reads (value levels) c (.list js) d ∧ r.ofJson (.list js) = .ok a := by
  have bracket {js : List Json} (read : Reads (value levels) c (.list js) d) : c.pastBlanks.next? = some '[' := by
    obtain ⟨b, here, begins⟩ := read.begins
    rw [here, beq_iff_eq.mp begins]
  simp only [Record.ofText, reads_blanks, plain.skips, reads_named]
  split
  · rename_i nothing
    apply iff_of_false
    · simp
    · intro read
      rcases read with ⟨ms, ⟨here, -⟩, -⟩ | ⟨js, read, -⟩
      · cases nothing.symm.trans here
      · cases nothing.symm.trans (bracket read)
  · rename_i brace
    simp only [reads_nested, plain.readObject]
    constructor
    · intro read
      obtain ⟨deeper, rfl, os, read, apart, decoded⟩ := read
      exact .inl ⟨_, ⟨brace, deeper, os, rfl, read, rfl⟩, apart, decoded⟩
    · intro read
      rcases read with ⟨ms, ⟨-, deeper, os, rfl, read, rfl⟩, apart, decoded⟩ | ⟨js, read, -⟩
      · exact ⟨deeper, rfl, os, read, apart, decoded⟩
      · cases brace.symm.trans (bracket read)
  · rename_i here
    simp only [reads_nested, plain.readList, reads_bracket here, ofJson, plain.skips]
    constructor
    · intro read
      obtain ⟨deeper, rfl, js, read, decoded⟩ := read
      exact .inr ⟨js, ⟨deeper, js, rfl, read, rfl⟩, decoded⟩
    · intro read
      rcases read with ⟨ms, ⟨brace, -⟩, -⟩ | ⟨js, ⟨deeper, _, rfl, read, same⟩, decoded⟩
      · cases here.symm.trans brace
      · cases same
        exact ⟨deeper, rfl, js, read, decoded⟩
  · rename_i b noBrace noBracket here
    apply iff_of_false reads_wrongKind
    intro read
    rcases read with ⟨ms, ⟨brace, -⟩, -⟩ | ⟨js, read, -⟩
    · exact noBrace (Option.some.inj (here.symm.trans brace))
    · exact noBracket (Option.some.inj (here.symm.trans (bracket read)))

theorem Plain.readText {bytes : List UInt8} (plain : r.Plain) : r.decoder.readText bytes = .ok a ↔
    (∃ ms, run (r.named deepest) bytes = .ok ms ∧ (ms.map (·.1)).Nodup ∧ r.ofMembers ms = .ok a) ∨
    ∃ js, Json.read bytes = .ok (.list js) ∧ r.ofJson (.list js) = .ok a := by
  simp only [Decoder.readText, Json.read, decoder, run_ok, plain.reads]
  constructor
  · intro read
    obtain ⟨d, ⟨ms, read, apart, decoded⟩ | ⟨js, read, decoded⟩, ends⟩ := read
    · exact .inl ⟨ms, ⟨d, read, ends⟩, apart, decoded⟩
    · exact .inr ⟨js, ⟨d, read, ends⟩, decoded⟩
  · intro read
    rcases read with ⟨ms, ⟨d, read, ends⟩, apart, decoded⟩ | ⟨js, ⟨d, read, ends⟩, decoded⟩
    · exact ⟨d, .inl ⟨ms, read, apart, decoded⟩, ends⟩
    · exact ⟨d, .inr ⟨js, read, decoded⟩, ends⟩

-- What the two forms of a record mean is what its text means.
theorem Plain.readText_means {bytes : List UInt8} {ofMembers : Json.Members → Prop} {ofItems : List Json → Prop}
    (plain : r.Plain) (object : ∀ ms, (ms.map (·.1)).Nodup → (r.ofMembers ms = .ok a ↔ ofMembers ms))
    (list : ∀ js, r.ofJson (.list js) = .ok a ↔ ofItems js) : r.decoder.readText bytes = .ok a ↔
      (∃ ms, run (r.named deepest) bytes = .ok ms ∧ (ms.map (·.1)).Nodup ∧ ofMembers ms) ∨
      ∃ js, Json.read bytes = .ok (.list js) ∧ ofItems js := by
  rw [plain.readText]
  constructor
  · intro read
    rcases read with ⟨ms, read, apart, decoded⟩ | ⟨js, read, decoded⟩
    · exact .inl ⟨ms, read, apart, (object ms apart).mp decoded⟩
    · exact .inr ⟨js, read, (list js).mp decoded⟩
  · intro means
    rcases means with ⟨ms, read, apart, means⟩ | ⟨js, read, means⟩
    · exact .inl ⟨ms, read, apart, (object ms apart).mpr means⟩
    · exact .inr ⟨js, read, (list js).mpr means⟩

-- Where the text is a JSON object, the members that the record knows are among those of the object.

def knows (r : Record α) (m : String × Json) : Bool := (r.find? m.1).isSome

theorem known_of_members
    (read : Reads (Reader.members (fun name => do colon; return (name, ← value levels)) rounds first) c ms d) :
    Reads (Reader.members (r.known levels) rounds first) c (ms.map (Option.guard r.knows)) d := by
  induction rounds generalizing first c ms with
  | zero =>
    obtain ⟨rfl, rfl⟩ := reads_pure.mp read
    exact reads_pure.mpr ⟨rfl, rfl⟩
  | succ rounds ih =>
    rcases reads_members.mp read with ⟨another, rfl⟩ | ⟨c₁, name, c₂, m, c₃, rest, another, quoted, one, more, rfl⟩
    · exact reads_members.mpr (.inl ⟨another, rfl⟩)
    · obtain ⟨_, c₄, sign, one⟩ := reads_bind.mp one
      obtain ⟨j, value, rfl⟩ := reads_return.mp one
      refine reads_members.mpr (.inr ⟨c₁, name, c₂, _, c₃, _, another, quoted, ?_, ih more, rfl⟩)
      cases found : r.find? name with
      | some m => exact (reads_known found).mpr ⟨c₄, j, sign, value, by simp [knows, found]⟩
      | none => exact (reads_unknown found).mpr ⟨c₄, sign, value.skip, by simp [knows, found]⟩

-- The members of an object in a text, in their order there and with those of one name.
def written (levels : Nat) : Reader Json.Members := do
  match ← blanks with
  | some '\x7b' => nested levels fun deeper => object fun name => do colon; return (name, ← value deeper)
  | _ => failNext .noValue

theorem reads_written : Reads (written levels) c ms d ↔ c.pastBlanks.next? = some '\x7b' ∧ ∃ deeper,
    levels = deeper + 1 ∧ Reads (object fun name => do colon; return (name, ← value deeper)) c.pastBlanks ms d := by
  simp only [written, reads_blanks]
  split
  · rename_i here
    rw [reads_nested]
    exact ⟨fun read => ⟨here, read⟩, fun read => read.2⟩
  · rename_i other
    apply iff_of_false reads_failNext
    intro read
    exact other read.1

-- A text that is read as an object has members, and of those with one name the object has the last.
theorem read_written {bytes : List UInt8} : Json.read bytes = .ok (.object os) ↔
    ∃ ms, run (written deepest) bytes = .ok ms ∧ Json.ofMembers ms = .object os := by
  simp only [Json.read, run_ok, reads_written]
  constructor
  · intro read
    obtain ⟨d, read, ends⟩ := read
    obtain ⟨b, here, begins⟩ := read.begins
    cases beq_iff_eq.mp begins
    obtain ⟨deeper, ms, levels, read, same⟩ := (reads_brace here).mp read
    exact ⟨ms, ⟨d, ⟨here, deeper, levels, read⟩, ends⟩, same.symm⟩
  · intro read
    obtain ⟨ms, ⟨d, ⟨here, deeper, levels, read⟩, ends⟩, same⟩ := read
    exact ⟨d, (reads_brace here).mpr ⟨deeper, ms, levels, read, same.symm⟩, ends⟩

theorem named_of_written {bytes : List UInt8} (read : run (written deepest) bytes = .ok ms) :
    run (r.named deepest) bytes = .ok (ms.filter r.knows) := by
  obtain ⟨d, read, ends⟩ := run_ok.mp read
  obtain ⟨here, deeper, levels, read⟩ := reads_written.mp read
  obtain ⟨e, read, last⟩ := reads_object.mp read
  refine run_ok.mpr ⟨d, ?_, ends⟩
  refine reads_named.mpr ⟨here, deeper, _, levels, reads_object.mpr ⟨e, known_of_members read, last⟩, ?_⟩
  rw [List.reduceOption, List.filterMap_map, Function.id_comp, List.filterMap_eq_filter]

theorem named_of_json {bytes : List UInt8} (read : Json.read bytes = .ok (.object os)) :
    ∃ ms, Json.ofMembers ms = .object os ∧ run (r.named deepest) bytes = .ok (ms.filter r.knows) := by
  obtain ⟨ms, written, same⟩ := read_written.mp read
  exact ⟨ms, same, named_of_written written⟩

end Record

end CourseFiles
