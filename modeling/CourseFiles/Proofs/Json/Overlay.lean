import CourseFiles.Proofs.Json.Records

namespace CourseFiles

namespace Json.Members

variable {name : String} {ms : Json.Members}

theorem find?_cons : find? name (m :: ms) = if m.1 = name then some m.2 else find? name ms := rfl

theorem find?_insert : find? name (insert k j ms) = if k = name then some j else find? name ms := by
  induction ms with
  | nil => rfl
  | cons m rest ih =>
    obtain ⟨l, v⟩ := m
    simp only [insert]
    split
    · rw [find?_cons]
    · split
      · rename_i same
        subst same
        simp only [find?_cons]
        split <;> rfl
      · rename_i other
        simp only [find?_cons, ih]
        split
        · rename_i here
          rw [if_neg fun same => other (same.trans here.symm)]
        · rfl

theorem find?_append : find? name (ms ++ ms') = (find? name ms).or (find? name ms') := by
  induction ms with
  | nil => rfl
  | cons m rest ih =>
    simp only [List.cons_append, find?_cons, ih]
    split <;> rfl

theorem find?_absent (absent : name ∉ ms.map (·.1)) : find? name ms = none := by
  induction ms with
  | nil => rfl
  | cons m rest ih =>
    simp only [List.map_cons, List.mem_cons, not_or] at absent
    rw [find?_cons, if_neg (Ne.symm absent.1), ih absent.2]

theorem find?_present (here : name ∈ ms.map (·.1)) : ∃ j, find? name ms = some j := by
  induction ms with
  | nil => cases here
  | cons m rest ih =>
    rw [find?_cons]
    split
    · exact ⟨_, rfl⟩
    · rename_i other
      exact ih ((List.mem_cons.mp here).resolve_left fun same => other same.symm)

theorem find?_mem (apart : (ms.map (·.1)).Nodup) (here : (name, j) ∈ ms) : find? name ms = some j := by
  induction ms with
  | nil => cases here
  | cons m rest ih =>
    obtain ⟨fresh, apart⟩ := List.nodup_cons.mp apart
    rw [find?_cons]
    rcases List.mem_cons.mp here with rfl | here
    · exact if_pos rfl
    · rw [if_neg, ih apart here]
      rintro rfl
      exact fresh (List.mem_map.mpr ⟨_, here, rfl⟩)

theorem find?_reverse (apart : (ms.map (·.1)).Nodup) : find? name ms.reverse = find? name ms := by
  induction ms with
  | nil => rfl
  | cons m rest ih =>
    obtain ⟨fresh, apart⟩ := List.nodup_cons.mp apart
    rw [List.reverse_cons, find?_append, ih apart, find?_cons, find?_cons]
    split
    · rename_i same
      rw [find?_absent (same ▸ fresh)]
      rfl
    · exact Option.or_none

theorem find?_filter (kept : ∀ j, p (name, j) = true) : find? name (ms.filter p) = find? name ms := by
  induction ms with
  | nil => rfl
  | cons m rest ih =>
    rw [List.filter_cons]
    split
    · rw [find?_cons, find?_cons, ih]
    · rename_i dropped
      rw [find?_cons, ih, if_neg]
      rintro rfl
      exact dropped (kept m.2)

theorem find?_foldl (acc : Json.Members) : find? name (ms.foldl (fun ms m => insert m.1 m.2 ms) acc) =
    (find? name ms.reverse).or (find? name acc) := by
  induction ms generalizing acc with
  | nil => rfl
  | cons m rest ih =>
    rw [List.foldl_cons, ih, find?_insert, List.reverse_cons, find?_append, Option.or_assoc, find?_cons]
    split <;> rfl

-- Of members with one name an object has the last.
theorem find?_ofMembers (same : ofMembers ms = .object os) : find? name os = find? name ms.reverse := by
  cases same
  rw [find?_foldl]
  exact Option.or_none

end Json.Members
namespace Record

variable {r : Record α} {ms : Json.Members}

-- The field that one member sets, and no other.
structure Field (r : Record α) (name : String) (x : Decoder β) (get : α → β) : Prop where
  own : ∀ j a b, r.apply a name j = .ok b → x.ofJson j = .ok (get b)
  others : ∀ other j a b, other ≠ name → r.apply a other j = .ok b → get b = get a

theorem apply_kept {name : String} (rest : r.others = .kept put) (unknown : r.find? name = none) :
    r.apply a name j = .ok (put name j a) := by
  simp only [Record.apply, unknown, rest]

-- What is done with members that the record does not know has to leave the field alone.
theorem Field.of {name : String} {x : Decoder β} {get : α → β}
    (aside : ∀ put, r.others = .kept put → ∀ other j a, get (put other j a) = get a)
    (mine : r.find? name = some (.of name presence x put)) (kept : ∀ v a, get (put v a) = v)
    (others : ∀ m ∈ r.members, m.name ≠ name → ∀ j change, m.form.ofJson j = .ok change → ∀ a, get (change a) = get a) :
    r.Field name x get := by
  constructor
  · intro j a b applied
    obtain ⟨change, decoded, rfl⟩ := (apply_found mine).mp applied
    obtain ⟨v, read, rfl⟩ := map_ok.mp decoded
    rw [kept, read]
  · intro other j a b different applied
    cases found : r.find? other with
    | some m =>
      obtain ⟨change, decoded, rfl⟩ := (apply_found found).mp applied
      have named : m.name = other := found_name found
      exact others m (List.mem_of_find?_eq_some found) (named ▸ different) j change decoded a
    | none =>
      cases rest : r.others with
      | skipped =>
        simp only [Record.apply, found, rest] at applied
        cases applied
        rfl
      | kept put =>
        cases (apply_kept rest found).symm.trans applied
        exact aside put rest _ _ _

-- What becomes of a field.
def Laid (x : Decoder β) (old new : β) : Option Json → Prop
  | none => new = old
  | some j => x.ofJson j = .ok new

theorem laid_unique {x : Decoder β} (one : Laid x old v given) (other : Laid x old w given) : v = w := by
  cases given with
  | none => exact Eq.trans one (Eq.symm other)
  | some j => exact Except.ok.inj (Eq.trans (Eq.symm one) other)

theorem fill_laid {name : String} {x : Decoder β} {get : α → β} (field : r.Field name x get)
    (apart : (ms.map (·.1)).Nodup) (filled : r.fill ms a = .ok b) :
    Laid x (get a) (get b) (Json.Members.find? name ms) := by
  induction ms generalizing a with
  | nil =>
    cases filled
    rfl
  | cons m rest ih =>
    obtain ⟨fresh, apart⟩ := List.nodup_cons.mp apart
    obtain ⟨a', first, filled⟩ := fill_cons.mp filled
    have laid := ih apart filled
    rw [Json.Members.find?_cons]
    split
    · rename_i same
      subst same
      rw [Json.Members.find?_absent fresh] at laid
      have kept : get b = get a' := laid
      exact (congrArg Except.ok kept ▸ field.own _ _ _ first : x.ofJson m.2 = .ok (get b))
    · rename_i other
      rwa [field.others _ _ _ _ other first] at laid

-- A member that a field was laid from is one that its decoder accepts.
theorem laid_accepted {name : String} {x : Decoder β} {put : β → α → α}
    (laid : Laid x old new (Json.Members.find? name ms))
    (apart : (ms.map (·.1)).Nodup) (here : (name, j) ∈ ms) :
    ∃ change, (Member.of name presence x put).form.ofJson j = .ok change := by
  rw [Json.Members.find?_mem apart here] at laid
  exact ⟨put new, map_ok.mpr ⟨new, laid, rfl⟩⟩

-- A member that the record does not know is of any form.
def Fits (r : Record α) (m : String × Json) : Prop :=
  ∀ k, r.find? m.1 = some k → ∃ change, k.form.ofJson m.2 = .ok change

theorem Fits.apply (fits : r.Fits m) (a : α) : ∃ b, r.apply a m.1 m.2 = .ok b := by
  cases found : r.find? m.1 with
  | some k =>
    obtain ⟨change, decoded⟩ := fits k found
    exact ⟨_, (apply_found found).mpr ⟨change, decoded, rfl⟩⟩
  | none =>
    simp only [Record.apply, found]
    split
    · exact ⟨_, rfl⟩
    · exact ⟨_, rfl⟩

theorem fill_fits (fits : ∀ m ∈ ms, r.Fits m) : ∃ b, r.fill ms a = .ok b := by
  induction ms generalizing a with
  | nil => exact ⟨a, rfl⟩
  | cons m rest ih =>
    obtain ⟨a', first⟩ := (fits m List.mem_cons_self).apply a
    obtain ⟨b, filled⟩ := ih (a := a') fun k here => fits k (List.mem_cons_of_mem _ here)
    exact ⟨b, fill_cons.mpr ⟨a', first, filled⟩⟩

-- A list fills a record as its items do when they have the names of the members in their order.
theorem ofItems_fill {wanted : String} {ms : List (Member α)} (own : ∀ m ∈ ms, r.find? m.name = some m)
    (optional : ∀ m ∈ ms, m.presence = .optional) : ofItems wanted taken ms js a = .ok b ↔
      js.length ≤ ms.length ∧ r.fill ((ms.map (·.name)).zip js) a = .ok b := by
  induction ms generalizing taken js a with
  | nil =>
    cases js with
    | nil => exact ⟨fun same => ⟨Nat.le_refl 0, same⟩, fun filled => filled.2⟩
    | cons j js =>
      apply iff_of_false
      · intro decoded
        cases decoded
      · intro filled
        exact Nat.not_succ_le_zero _ filled.1
  | cons m ms ih =>
    obtain ⟨mine, own⟩ := List.forall_mem_cons.mp own
    obtain ⟨here, optional⟩ := List.forall_mem_cons.mp optional
    cases js with
    | nil =>
      rw [ofItems_nil, ih own optional]
      simp [here]
    | cons j js =>
      rw [ofItems_more, List.map_cons, List.zip_cons_cons, fill_cons]
      simp only [ih own optional, apply_found mine, List.length_cons, Nat.add_le_add_iff_right]
      constructor
      · intro decoded
        obtain ⟨change, given, few, filled⟩ := decoded
        exact ⟨few, change a, ⟨change, given, rfl⟩, filled⟩
      · intro decoded
        obtain ⟨few, _, ⟨change, given, rfl⟩, filled⟩ := decoded
        exact ⟨change, given, few, filled⟩

end Record
end CourseFiles
