import CourseFiles.Listing.Trail
import Mathlib.Data.List.Induction
import Mathlib.Data.List.Nodup
import Mathlib.Data.List.TakeWhile

namespace CourseFiles
namespace Trail

inductive Step
  | push (c : Crumb)
  | reset

def step (t : Trail) : Step → Trail
  | .push c => t.push c
  | .reset => .root

def walk (steps : List Step) : Trail := steps.foldl step .root

def Step.visit (way : List Crumb) : Step → List Crumb
  | .push c => way ++ [c]
  | .reset => [.root]

-- What was gone to since the beginning or the last reset, the root first.
def visits (steps : List Step) : List Crumb := steps.foldl Step.visit [.root]

-- Where a way leads.
def through (way : List Crumb) : Trail := way.foldl push .root

def ids (t : Trail) : List String := t.crumbs.map (·.id)

-- One id stands before the other on the trail.
def Ahead (t : Trail) (former latter : String) : Prop := [former, latter].Sublist t.ids

-- On the way it is the last with its id.
def Latest (way : List Crumb) (c : Crumb) : Prop :=
  ∃ earlier later, way = earlier ++ c :: later ∧ ∀ d ∈ later, d.id ≠ c.id

-- Both are the last with their ids, the one before the other.
def Precedes (way : List Crumb) (c d : Crumb) : Prop :=
  ∃ earlier between later, way = earlier ++ c :: (between ++ d :: later) ∧
    (∀ x ∈ between ++ d :: later, x.id ≠ c.id) ∧ ∀ x ∈ later, x.id ≠ d.id

-- A trail that is told by the way.
structure Traces (way : List Crumb) (t : Trail) : Prop where
  first : t.ids.head? = some Crumb.rootId
  last : way.getLast? = some t.current
  latest : ∀ c ∈ t.crumbs, Latest way c
  ordered : t.crumbs.Pairwise (Precedes way)

variable {way : List Crumb} {t : Trail} {c d : Crumb} {k : Nat}

theorem current_push : (t.push c).current = c := by simp [current, push]

theorem push_ids : (t.push c).ids = t.ids.takeWhile (· != c.id) ++ [c.id] := by
  simp only [ids, push, List.map_append, List.map_cons, List.map_nil, List.takeWhile_map]
  rfl

-- What is left of the trail stood on it before, and has another id.
theorem kept_crumb (here : d ∈ t.crumbs.takeWhile (·.id != c.id)) : d ∈ t.crumbs ∧ d.id ≠ c.id :=
  ⟨(List.takeWhile_sublist _).subset here, by simpa using List.mem_takeWhile_imp here⟩

theorem Latest.later (latest : Latest way c) (other : d.id ≠ c.id) : Latest (way ++ [d]) c := by
  obtain ⟨earlier, later, rfl, last⟩ := latest
  refine ⟨earlier, later ++ [d], by simp, ?_⟩
  intro x here
  rcases List.mem_append.mp here with old | new
  · exact last x old
  · exact List.mem_singleton.mp new ▸ other

theorem Precedes.later {e : Crumb} (precedes : Precedes way c d) (former : e.id ≠ c.id) (latter : e.id ≠ d.id) :
    Precedes (way ++ [e]) c d := by
  obtain ⟨earlier, between, later, rfl, lastFormer, lastLatter⟩ := precedes
  refine ⟨earlier, between, later ++ [e], by simp, ?_, ?_⟩
  · intro x here
    rw [← List.cons_append, ← List.append_assoc] at here
    rcases List.mem_append.mp here with old | new
    · exact lastFormer x old
    · exact List.mem_singleton.mp new ▸ former
  · intro x here
    rcases List.mem_append.mp here with old | new
    · exact lastLatter x old
    · exact List.mem_singleton.mp new ▸ latter

-- The last visit of all comes after the last visit to any other.
theorem Latest.precedes (latest : Latest way c) (other : d.id ≠ c.id) : Precedes (way ++ [d]) c d := by
  obtain ⟨earlier, later, rfl, last⟩ := latest
  refine ⟨earlier, later, [], by simp, ?_, by simp⟩
  intro x here
  rcases List.mem_append.mp here with old | new
  · exact last x old
  · exact List.mem_singleton.mp new ▸ other

theorem Precedes.distinct (precedes : Precedes way c d) : c.id ≠ d.id := by
  obtain ⟨_, between, later, _, last, _⟩ := precedes
  exact (last d (by simp)).symm

theorem root_traces : Traces [.root] .root where
  first := rfl
  last := rfl
  latest c here := by
    cases List.mem_singleton.mp here
    exact ⟨[], [], rfl, by simp⟩
  ordered := List.pairwise_singleton _ _

theorem push_traces (traces : Traces way t) : Traces (way ++ [c]) (t.push c) := by
  have kept : (t.crumbs.takeWhile (·.id != c.id)).Pairwise (Precedes way) :=
    traces.ordered.sublist (List.takeWhile_sublist _)
  constructor
  · obtain ⟨rest, split⟩ := List.head?_eq_some_iff.mp traces.first
    rw [push_ids, split]
    by_cases back : Crumb.rootId = c.id <;> simp [back]
  · rw [current_push, List.getLast?_concat]
  · intro x here
    rcases List.mem_append.mp here with old | new
    · obtain ⟨before, other⟩ := kept_crumb old
      exact (traces.latest x before).later other.symm
    · cases List.mem_singleton.mp new
      exact ⟨way, [], rfl, by simp⟩
  · refine List.pairwise_append.mpr ⟨?_, List.pairwise_singleton _ _, ?_⟩
    · refine kept.imp_of_mem ?_
      intro x y here there precedes
      exact precedes.later (kept_crumb here).2.symm (kept_crumb there).2.symm
    · intro x here y new
      cases List.mem_singleton.mp new
      obtain ⟨before, other⟩ := kept_crumb here
      exact (traces.latest x before).precedes other.symm

theorem through_push : through (way ++ [c]) = (through way).push c := by simp [through]

theorem through_traces : Traces (.root :: way) (through (.root :: way)) := by
  induction way using List.reverseRecOn with
  | nil => exact root_traces
  | append_singleton way c ih =>
    rw [← List.cons_append, through_push]
    exact push_traces ih

theorem visits_begin (steps : List Step) : ∃ way, visits steps = .root :: way := by
  induction steps using List.reverseRecOn with
  | nil => exact ⟨[], rfl⟩
  | append_singleton steps s ih =>
    obtain ⟨way, begins⟩ := ih
    rw [visits, List.foldl_append, ← visits, begins]
    cases s with
    | push c => exact ⟨way ++ [c], rfl⟩
    | reset => exact ⟨[], rfl⟩

theorem walk_through (steps : List Step) : walk steps = through (visits steps) := by
  induction steps using List.reverseRecOn with
  | nil => rfl
  | append_singleton steps s ih =>
    rw [walk, visits, List.foldl_append, List.foldl_append, ← walk, ← visits, ih]
    cases s with
    | push c => exact through_push.symm
    | reset => rfl

theorem walk_traces (steps : List Step) : Traces (visits steps) (walk steps) := by
  obtain ⟨way, begins⟩ := visits_begin steps
  rw [walk_through, begins]
  exact through_traces

theorem Traces.distinct (traces : Traces way t) : t.ids.Nodup := by
  rw [ids, List.nodup_iff_pairwise_ne, List.pairwise_map]
  exact traces.ordered.imp Precedes.distinct

theorem push_distinct (distinct : t.ids.Nodup) : (t.push c).ids.Nodup := by
  rw [push_ids]
  refine List.nodup_append.mpr ⟨distinct.sublist (List.takeWhile_sublist _), List.nodup_singleton _, ?_⟩
  intro id here other new
  rw [List.mem_singleton.mp new]
  simpa using List.mem_takeWhile_imp here

theorem through_distinct (way : List Crumb) : (through way).ids.Nodup := by
  induction way using List.reverseRecOn with
  | nil => exact List.nodup_singleton _
  | append_singleton way c ih =>
    rw [through_push]
    exact push_distinct ih

-- What is cut off stood behind the id at which the cut is made.
theorem cut_off {ids : List String} {id cut : String} (distinct : ids.Nodup) (other : id ≠ cut) :
    id ∉ ids.takeWhile (· != cut) ↔ id ∉ ids ∨ [cut, id].Sublist ids := by
  induction ids with
  | nil => simp
  | cons head rest ih =>
    obtain ⟨fresh, distinct⟩ := List.nodup_cons.mp distinct
    by_cases here : head = cut
    · subst here
      by_cases behind : id ∈ rest <;> simp [other, behind]
    · have passed : [cut, id].Sublist (head :: rest) ↔ [cut, id].Sublist rest := by
        simp [List.cons_sublist_cons', Ne.symm here]
      rw [List.takeWhile_cons_of_pos (by simpa using here), List.mem_cons, List.mem_cons, not_or, not_or, passed,
        ih distinct]
      by_cases mine : id = head
      · have behind : ¬ [cut, id].Sublist rest := fun sub => fresh (mine ▸ sub.subset (by simp))
        simp [mine, mine ▸ behind]
      · simp [mine]

-- The first to go back to something before it takes an id off the trail, and nothing else does.
theorem missing {earlier later : List Crumb} (last : ∀ d ∈ later, d.id ≠ c.id) :
    c.id ∉ (through (earlier ++ c :: later)).ids ↔
      ∃ between d rest, later = between ++ d :: rest ∧ (through (earlier ++ c :: between)).Ahead d.id c.id := by
  induction later using List.reverseRecOn with
  | nil => simp [through_push, push_ids]
  | append_singleton later e ih =>
    have other : e.id ≠ c.id := last e (by simp)
    have split : earlier ++ c :: (later ++ [e]) = (earlier ++ c :: later) ++ [e] := by simp
    rw [split, through_push, push_ids, List.mem_append, not_or, List.mem_singleton,
      cut_off (through_distinct _) other.symm, ih fun d here => last d (List.mem_append_left _ here)]
    constructor
    · rintro ⟨⟨between, d, rest, rfl, ahead⟩ | ahead, -⟩
      · exact ⟨between, d, rest ++ [e], by simp, ahead⟩
      · exact ⟨later, e, [], rfl, ahead⟩
    · rintro ⟨between, d, rest, whole, ahead⟩
      refine ⟨?_, other.symm⟩
      rcases List.eq_nil_or_concat rest with rfl | ⟨rest, x, rfl⟩
      · obtain ⟨rfl, only⟩ := List.append_inj' whole rfl
        cases only
        exact .inr ahead
      · rw [List.concat_eq_append, ← List.cons_append, ← List.append_assoc] at whole
        exact .inl ⟨between, d, rest, (List.append_inj' whole rfl).1, ahead⟩

-- Going back to a folder on the trail leaves the trail up to it.
theorem push_back (distinct : t.ids.Nodup) (here : t.crumbs[k]? = some c) :
    (t.push c).crumbs = t.crumbs.take (k + 1) := by
  obtain ⟨inside, found⟩ := List.getElem?_eq_some_iff.mp here
  have split : t.crumbs = t.crumbs.take k ++ c :: t.crumbs.drop (k + 1) := by
    rw [← found, List.getElem_cons_drop, List.take_append_drop]
  have before : ∀ d ∈ t.crumbs.take k, (d.id != c.id) = true := by
    rw [ids, split, List.map_append, List.map_cons] at distinct
    intro d there
    have apart := (List.nodup_append.mp distinct).2.2 d.id (List.mem_map_of_mem there) c.id (by simp)
    simpa using apart
  have kept : t.crumbs.takeWhile (·.id != c.id) = t.crumbs.take k := by
    conv_lhs => rw [split]
    rw [List.takeWhile_append_of_pos before]
    simp
  calc (t.push c).crumbs = t.crumbs.takeWhile (·.id != c.id) ++ [c] := rfl
    _ = t.crumbs.take k ++ (t.crumbs[k]?).toList := by rw [kept, here]; rfl
    _ = t.crumbs.take (k + 1) := List.take_add_one.symm

-- The trail is the way less its loops. It begins at the root, has no id twice and ends at the last visit, and what is
-- on it are the last visits to their ids, in their order; an id is missing just when, after the last visit to it, one
-- that stood before it was visited again. Going back to the `k`-th folder leaves the trail up to it, and lists its
-- path again.
theorem loopless (steps : List Step) :
    (walk steps).crumbs ≠ [] ∧ (walk steps).crumbs.getLast? = some (walk steps).current ∧
      (walk steps).ids.head? = some Crumb.rootId ∧ (walk steps).ids.Nodup ∧
      (visits steps).getLast? = some (walk steps).current ∧
      (∀ c ∈ (walk steps).crumbs, Latest (visits steps) c) ∧
      (walk steps).crumbs.Pairwise (Precedes (visits steps)) ∧
      (∀ earlier c later, visits steps = earlier ++ c :: later → (∀ d ∈ later, d.id ≠ c.id) →
        (c.id ∉ (walk steps).ids ↔
          ∃ between d rest, later = between ++ d :: rest ∧ (through (earlier ++ c :: between)).Ahead d.id c.id)) ∧
      ∀ (k : Nat) (c : Crumb), (walk steps).crumbs[k]? = some c →
        ((walk steps).push c).crumbs = (walk steps).crumbs.take (k + 1) ∧ ((walk steps).push c).current = c ∧
          ∀ default, ((walk steps).push c).path default = c.path.getD default := by
  have traces := walk_traces steps
  refine ⟨(walk steps).nonempty, List.getLast?_eq_some_getLast _, traces.first, traces.distinct, traces.last,
    traces.latest, traces.ordered, ?_, ?_⟩
  · intro earlier c later split last
    rw [walk_through, split]
    exact missing last
  · intro k c here
    exact ⟨push_back traces.distinct here, current_push, fun default => by rw [path, current_push]⟩

end Trail
end CourseFiles
