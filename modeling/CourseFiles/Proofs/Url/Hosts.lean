import CourseFiles.Proofs.Url.Domains
import CourseFiles.Url.Reading

namespace CourseFiles
namespace Host

-- What the host of a domain or an address has to be.
def Proper : Host → Prop
  | .name s => (∀ c ∈ s, Domain.isForbidden c = false) ∧ Address.endsInNumber s = false
  | .version4 n => n < 2 ^ 32
  | .version6 groups => groups.length = 8 ∧ ∀ g ∈ groups, g < 2 ^ 16

-- The host that a text shows.
def shown? : List Char → Option Host
  | '[' :: rest => (Address.version6? rest.dropLast).map .version6
  | s => if Address.endsInNumber s then (Address.version4? s).map .version4 else some (.name s)

variable {h g : Host} {s rest : List Char} {c : Char} {special inside : Bool} {n : Nat} {groups : List Nat}

theorem version4_allowed (here : c ∈ Address.version4Text n) : Domain.isForbidden c = false := by
  rcases Address.mem_version4Text here with rfl | ⟨d, below, rfl⟩
  · decide
  · exact Domain.digitChar_allowed below

theorem version6_allowed (here : c ∈ Address.version6Text groups) : c = ':' ∨ Domain.isForbidden c = false :=
  (Address.mem_version6Text here).imp_right fun ⟨_, below, same⟩ => same ▸ Domain.digitChar_allowed below

theorem shown?_unbracketed (allowed : ∀ c ∈ s, Domain.isForbidden c = false) :
    shown? s = if Address.endsInNumber s then (Address.version4? s).map .version4 else some (.name s) := by
  refine shown?.eq_2 s fun rest same => ?_
  exact Domain.allowed_ne (allowed '[' (same ▸ List.mem_cons_self)) (by decide) rfl

theorem Proper.shown? (proper : h.Proper) : shown? h.text = some h := by
  cases h with
  | name s => rw [text, shown?_unbracketed proper.1, proper.2, if_neg Bool.false_ne_true]
  | version4 n =>
    rw [text, shown?_unbracketed fun _ here => version4_allowed here, Address.endsInNumber_version4Text, if_pos rfl,
      Address.version4?_text proper, Option.map_some]
  | version6 groups =>
    simp [text, Host.shown?, Address.version6?_text proper.1 proper.2]

-- Reading a host passes over everything that a name may hold, and over colons between brackets.
theorem hostLength_passes (allowed : ∀ c ∈ s, c = ':' ∧ inside = true ∨ Domain.isForbidden c = false) :
    Url.hostLength special inside (s ++ rest) = s.length + Url.hostLength special inside rest := by
  induction s with
  | nil => simp
  | cons c s ih =>
    have later := ih fun c there => allowed c (List.mem_cons_of_mem _ there)
    have passed : ((c = ':' && !inside) || Url.endsAuthority special c) = false ∧
        (c = '[' || (inside && c != ']')) = inside := by
      rcases allowed c List.mem_cons_self with ⟨rfl, rfl⟩ | allowed
      · exact ⟨by cases special <;> rfl, rfl⟩
      · have other (d : Char) (forbidden : Domain.isForbidden d = true) : c ≠ d := Domain.allowed_ne allowed forbidden
        have slash := other '/' (by decide)
        have backslash := other '\\' (by decide)
        have question := other '?' (by decide)
        have hash := other '#' (by decide)
        have opening := other '[' (by decide)
        have closing := other ']' (by decide)
        have colon := other ':' (by decide)
        simp [Url.endsAuthority, Url.separates, Url.endsPath, *]
    rw [List.cons_append, Url.hostLength, if_neg (by simp [passed.1]), passed.2, later, List.length_cons]
    omega

-- Reading a host that was written out stops at its end.
theorem hostLength_text (special : Bool) (proper : h.Proper) (ends : rest.head?.all (· == ':') = true) :
    Url.hostLength special false (h.text ++ rest) = h.text.length := by
  have stops : Url.hostLength special false rest = 0 := by
    cases rest with
    | nil => rfl
    | cons c rest =>
      have colon : c = ':' := by simpa using ends
      simp [Url.hostLength, colon]
  have unbracketed (s : List Char) (allowed : ∀ c ∈ s, Domain.isForbidden c = false) :
      Url.hostLength special false (s ++ rest) = s.length := by
    rw [hostLength_passes fun c here => .inr (allowed c here), stops, Nat.add_zero]
  cases h with
  | name s => exact unbracketed s proper.1
  | version4 n => exact unbracketed _ fun _ here => version4_allowed here
  | version6 groups =>
    have opened : Url.hostLength special false ('[' :: (Address.version6Text groups ++ (']' :: rest))) =
        Url.hostLength special true (Address.version6Text groups ++ (']' :: rest)) + 1 := by
      cases special <;> rfl
    have inner : Url.hostLength special true (Address.version6Text groups ++ (']' :: rest)) =
        (Address.version6Text groups).length + Url.hostLength special true (']' :: rest) :=
      hostLength_passes fun c here => (version6_allowed here).imp_left fun colon => ⟨colon, rfl⟩
    have closed : Url.hostLength special true (']' :: rest) = Url.hostLength special false rest + 1 := by
      cases special <;> rfl
    simp [text, opened, inner, closed, stops]

-- Hosts that look alike are the same, even if a colon and more follow.
theorem text_injective (proper : h.Proper) (proper' : g.Proper) (ends : rest.head?.all (· == ':') = true)
    (ends' : rest'.head?.all (· == ':') = true) (same : h.text ++ rest = g.text ++ rest') :
    h = g ∧ rest = rest' := by
  have length : h.text.length = g.text.length := by
    rw [← hostLength_text false proper ends, ← hostLength_text false proper' ends', same]
  obtain ⟨text, rest⟩ := List.append_inj same length
  refine ⟨Option.some.inj ?_, rest⟩
  rw [← proper.shown?, ← proper'.shown?, text]

theorem bracketed_proper (read : bracketed s = .ok h) : h.Proper := by
  unfold bracketed at read
  split at read
  · rename_i groups _ address
    cases read
    exact Address.version6?_sized address
  · cases read

theorem ofDomain_proper (read : ofDomain s = .ok h) : h.Proper := by
  unfold ofDomain at read
  split at read
  · exact bracketed_proper read
  · split at read
    · cases read
    · cases read
    · rename_i domain _ ascii
      split at read
      · split at read
        · rename_i n address
          cases read
          exact Address.version4?_lt address
        · cases read
      · rename_i named
        cases read
        exact ⟨fun c here => Domain.toAscii?_allowed ascii here, Bool.eq_false_iff.mpr named⟩

end Host
end CourseFiles
