import CourseFiles.Proofs.Json.Records

namespace CourseFiles

open Reader

-- What comes of decoding, from a value or from a text.
def Decoder.Gives (x : Decoder α) (a : α) : Prop :=
  (∃ j, x.ofJson j = .ok a) ∨ ∃ levels c d, Reads (x.ofText levels) c a d

theorem Decoder.gives_map {x : Decoder α} {f : α → β} : (x.map f).Gives b ↔ ∃ a, x.Gives a ∧ f a = b := by
  constructor
  · intro given
    rcases given with ⟨j, decoded⟩ | ⟨levels, c, d, read⟩
    · obtain ⟨a, decoded, same⟩ := map_ok.mp decoded
      exact ⟨a, .inl ⟨j, decoded⟩, same⟩
    · obtain ⟨a, read, same⟩ := reads_map.mp read
      exact ⟨a, .inr ⟨levels, c, d, read⟩, same.symm⟩
  · intro given
    obtain ⟨a, ⟨j, decoded⟩ | ⟨levels, c, d, read⟩, same⟩ := given
    · exact .inl ⟨j, map_ok.mpr ⟨a, decoded, same⟩⟩
    · exact .inr ⟨levels, c, d, reads_map.mpr ⟨a, read, same.symm⟩⟩

namespace Record

variable {r : Record α} {P : α → Prop}

-- What holds of the blank record and of what any member makes of a record of which it held.
structure Keeps (r : Record α) (P : α → Prop) : Prop where
  blank : P r.blank
  changed : ∀ m ∈ r.members, ∀ change, m.form.Gives change → ∀ a, P a → P (change a)
  kept : ∀ put, r.others = .kept put → ∀ name j a, r.find? name = none → P a → P (put name j a)

theorem Keeps.found {name : String} (keeps : r.Keeps P) (found : r.find? name = some m) (given : m.form.Gives change)
    (holds : P a) : P (change a) :=
  keeps.changed m (List.mem_of_find?_eq_some found) change given a holds

theorem Keeps.apply {name : String} (keeps : r.Keeps P) (holds : P a) (applied : r.apply a name j = .ok b) : P b := by
  cases found : r.find? name with
  | some m =>
    obtain ⟨change, decoded, rfl⟩ := (apply_found found).mp applied
    exact keeps.found found (.inl ⟨j, decoded⟩) holds
  | none =>
    simp only [Record.apply, found] at applied
    split at applied <;> cases applied
    · exact holds
    · exact keeps.kept _ ‹_› name j a found holds

theorem Keeps.fill (keeps : r.Keeps P) (holds : P a) (filled : r.fill ms a = .ok b) : P b := by
  induction ms generalizing a with
  | nil =>
    cases filled
    exact holds
  | cons m rest ih =>
    obtain ⟨next, applied, filled⟩ := fill_cons.mp filled
    exact ih (keeps.apply holds applied) filled

theorem Keeps.ofItems {wanted : String} {ms : List (Member α)} (keeps : r.Keeps P) (own : ms ⊆ r.members) (holds : P a)
    (decoded : ofItems wanted taken ms js a = .ok b) : P b := by
  induction ms generalizing js a taken with
  | nil =>
    cases js <;> cases decoded
    exact holds
  | cons m ms ih =>
    obtain ⟨here, own⟩ := List.cons_subset.mp own
    cases js with
    | nil => exact ih own holds (ofItems_nil.mp decoded).2
    | cons j js =>
      obtain ⟨change, given, decoded⟩ := ofItems_more.mp decoded
      exact ih own (keeps.changed m here change (.inl ⟨j, given⟩) a holds) decoded

theorem Keeps.readMembers (keeps : r.Keeps P) (holds : P a)
    (read : Reads (r.readMembers levels rounds first seen a) c (seen', b) d) : P b := by
  induction rounds generalizing first seen a c with
  | zero =>
    obtain ⟨same, -⟩ := reads_pure.mp read
    cases same
    exact holds
  | succ rounds ih =>
    obtain ⟨more, e, -, read⟩ := reads_bind.mp read
    split at read
    · rw [reads_advance_bind] at read
      obtain ⟨name, e, -, read⟩ := reads_bind.mp read
      split at read
      · rename_i m found
        split at read
        · exact absurd read reads_mismatch
        · obtain ⟨_, e, -, read⟩ := reads_bind.mp read
          obtain ⟨change, f, formed, read⟩ := reads_bind.mp read
          exact ih (keeps.found found (.inr ⟨levels, e, f, formed⟩) holds) read
      · rename_i found
        obtain ⟨_, e, -, read⟩ := reads_bind.mp read
        split at read
        · obtain ⟨_, e, -, read⟩ := reads_bind.mp read
          exact ih holds read
        · obtain ⟨j, e, -, read⟩ := reads_bind.mp read
          exact ih (keeps.kept _ ‹_› name j a found holds) read
    · obtain ⟨same, -⟩ := reads_pure.mp read
      cases same
      exact holds

theorem Keeps.readItems {wanted : String} {ms : List (Member α)} (keeps : r.Keeps P) (own : ms ⊆ r.members)
    (holds : P a)
    (read : Reads (readItems wanted levels taken ms a) c b d) : P b := by
  induction ms generalizing a c taken with
  | nil =>
    obtain ⟨rfl, -⟩ := reads_pure.mp read
    exact holds
  | cons m ms ih =>
    obtain ⟨here, own⟩ := List.cons_subset.mp own
    rcases readItems_cons.mp read with ⟨e, change, f, -, formed, read⟩ | ⟨e, -, -, read⟩
    · exact ih own (keeps.changed m here change (.inr ⟨levels, e, f, formed⟩) a holds) read
    · exact ih own holds read

theorem complete_ok (complete : r.complete seen a = .ok b) : b = a := by
  unfold Record.complete at complete
  split at complete <;> cases complete
  rfl

-- It holds of every record that is decoded, however it was written.
theorem Keeps.gives (keeps : r.Keeps P) (given : r.decoder.Gives a) : P a := by
  rcases given with ⟨j, decoded⟩ | ⟨levels, c, d, read⟩
  · simp only [decoder, Record.ofJson] at decoded
    split at decoded
    · obtain ⟨b, filled, complete⟩ := ofMembers_ok.mp decoded
      exact complete_ok complete ▸ keeps.fill keeps.blank filled
    · split at decoded
      · exact keeps.ofItems (List.Subset.refl _) keeps.blank decoded
      · cases decoded
    · cases decoded
  · simp only [decoder, Record.ofText, reads_blanks] at read
    split at read
    · exact absurd read reads_failNext
    · obtain ⟨deeper, -, read⟩ := reads_nested.mp read
      simp only [Record.readObject, reads_advance_bind, reads_enclosed, reads_place] at read
      obtain ⟨e, body, -⟩ := read
      obtain ⟨⟨seen, b⟩, f, read, last⟩ := reads_bind.mp body
      have holds := keeps.readMembers keeps.blank read
      split at last
      · rename_i whole
        obtain ⟨rfl, -⟩ := reads_pure.mp last
        exact complete_ok whole ▸ holds
      · exact absurd last reads_mismatch
    · split at read
      · obtain ⟨deeper, -, read⟩ := reads_nested.mp read
        simp only [Record.readList, reads_advance_bind, reads_enclosed] at read
        obtain ⟨e, read, -⟩ := read
        exact keeps.readItems (List.Subset.refl _) keeps.blank read
      · exact absurd read reads_wrongKind
    · exact absurd read reads_wrongKind

end Record
end CourseFiles
