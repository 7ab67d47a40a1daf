import CourseFiles.Proofs.Picker.Agreement
import CourseFiles.Proofs.Sitting.Within

namespace CourseFiles

namespace Snapshot

-- What is selected belongs to the files that are shown.
def Selects (belongs : Listing → Item → Prop) (x : Snapshot) : Prop :=
  ∀ f, x.selected = some f → ∃ files, x.dialog = .fetched files ∧ belongs files f

def Listed (files : Listing) (f : Item) : Prop := files.contains f = true

end Snapshot

namespace Picker

structure Selects (belongs : Listing → Item → Prop) (p : Picker) : Prop where
  now : p.snapshot.Selects belongs
  published : ∀ x ∈ p.published, x.Selects belongs

variable {belongs : Listing → Item → Prop} {p q : Picker}

theorem Selects.unselected (selects : p.Selects belongs) (other : ∀ files, p.dialog ≠ .fetched files) :
    p.selected = none := by
  apply Option.eq_none_iff_forall_ne_some.mpr
  intro f chosen
  obtain ⟨files, shown, _⟩ := selects.now f chosen
  exact other files shown

-- Whatever is published without a selection is as it should be.
theorem Selects.publish (selects : p.Selects belongs) (unselected : q.selected = none)
    (published : q.published = q.snapshot :: p.published) : q.Selects belongs := by
  have now : q.snapshot.Selects belongs := by
    intro f chosen
    cases unselected.symm.trans chosen
  refine ⟨now, ?_⟩
  intro x here
  rw [published] at here
  rcases List.mem_cons.mp here with rfl | old
  · exact now
  · exact selects.published x old

theorem Selects.arrive (selects : p.Selects belongs)
    (fetching : l.generation = p.generation → p.dialog = .fetching) : (p.arrive l result).Selects belongs := by
  unfold Picker.arrive
  split
  · rename_i current
    have unselected : p.selected = none := by
      apply selects.unselected
      intro files shown
      cases (fetching current.symm).symm.trans shown
    exact selects.publish unselected rfl
  · exact selects

theorem Selects.failed {last : Nat} (selects : p.Selects belongs)
    (asked : last = p.generation → p.dialog = .authorizing) : (p.failed last).Selects belongs := by
  unfold Picker.failed
  split
  · exact selects
  · rename_i current
    have current : p.closed = false ∧ p.generation = last := by simpa using current
    have unselected : p.selected = none := by
      apply selects.unselected
      intro files shown
      cases (asked current.2.symm).symm.trans shown
    exact selects.publish unselected rfl

theorem Selects.select (selects : p.Selects belongs) (belong : ∀ f files, item = some f → p.closed = false →
    p.dialog = .fetched files → belongs files f) : (p.select item).Selects belongs := by
  unfold Picker.select
  split
  · exact selects
  · rename_i accepted
    have accepted : p.closed = false ∧ p.isFetched = true := by simpa using accepted
    obtain ⟨files, shown⟩ := Option.isSome_iff_exists.mp accepted.2
    have shown : p.dialog = .fetched files := by
      cases dialog : p.dialog <;> rw [dialog] at shown <;> cases shown
      rfl
    have now : ({ p with selected := item } : Picker).snapshot.Selects belongs :=
      fun f chosen => ⟨files, shown, belong f files chosen accepted.1 shown⟩
    refine ⟨now, ?_⟩
    intro x here
    rcases List.mem_cons.mp here with rfl | old
    · exact now
    · exact selects.published x old

end Picker

namespace Sitting

variable {w : Surroundings} {setup : Setup} {s s' : Sitting} {t : Task} {belongs : Listing → Item → Prop}
  {allowed : Sitting → Act → Prop}

theorem Move.selects (move : Move w setup (some t) s s') (agrees : Agrees w setup s)
    (selects : s.picker.Selects belongs) : s'.picker.Selects belongs := by
  have beside (beside : Beside s s') : s'.picker.Selects belongs := beside.picker ▸ selects
  cases move with
  | conclude =>
    cases t <;> exact selects
  | begin => exact beside beginSession_beside
  | complete => exact beside completeSession_beside
  | cancel => exact beside cancelSession_beside
  | authorize => exact selects.publish rfl rfl
  | fail why => exact selects.failed (agrees.fails why)
  | launch change asked reply slow =>
    have launches := Picker.relist_launches change.keeps asked
    exact selects.publish launches.unselected launches.published
  | list change asked reply =>
    have launches := Picker.relist_launches change.keeps asked
    have launched := selects.publish launches.unselected launches.published
    exact launched.arrive fun _ => launches.fetching
  | arrive waiting time => exact selects.arrive (agrees.fetching _ _ _ _ _ (Lookup.mem waiting))
  | _ => exact selects

theorem Outside.selects (outside : Outside s a s') (selects : s.picker.Selects belongs)
    (offered : ∀ f files, a = .select (some f) → s.picker.closed = false → s.picker.dialog = .fetched files →
      belongs files f) : s'.picker.Selects belongs := by
  cases outside with
  | aside aside => exact aside.picker ▸ selects
  | start => exact selects
  | drop aside => exact aside.picker ▸ selects
  | select => exact selects.select fun f files chosen => offered f files (by rw [chosen])
  | close aside =>
    rw [aside.picker]
    exact ⟨selects.now, selects.published⟩

theorem Within.selects (path : Within allowed w setup .initial s)
    (offered : ∀ s f files, allowed s (.select (some f)) → s.picker.closed = false →
      s.picker.dialog = .fetched files → belongs files f) : s.picker.Selects belongs := by
  have initial : Picker.initial.Selects belongs := by
    constructor
    · intro f chosen
      cases chosen
    · intro x here
      cases here
  refine path.keeps (P := fun s => s.picker.Selects belongs) initial_tuned initial ?_ ?_
  · intro t s₁ s₂ before _ moves selects
    have both : Agrees w setup s₂ ∧ s₂.picker.Selects belongs := by
      refine Moves.keeps moves (P := fun s => Agrees w setup s ∧ s.picker.Selects belongs) ?_ ⟨before.agrees, selects⟩
      intro _ _ move here
      exact ⟨move.agrees here.1, move.selects here.1 here.2⟩
    exact both.2
  · intro a s₁ s₂ _ fits outside selects
    refine outside.selects selects fun f files chosen => ?_
    subst chosen
    exact offered s₁ f files fits

-- Entries are selected from what is shown.
def Offered (s : Sitting) : Act → Prop
  | .select (some f) => ∀ files, s.picker.closed = false → s.picker.dialog = .fetched files →
      Snapshot.Listed files f
  | _ => True

-- Among files the button is there for what is selected, and that is one of the rows.
theorem select_enabled_row (selects : x.Selects Snapshot.Listed) (here : b ∈ (View.ofSnapshot x settings).buttons)
    (action : b.action = .select) (enabled : b.disabled = false) :
    ∃ l, (View.ofSnapshot x settings).fileList = some l ∧ ∃ r ∈ l.rows, r.selected = true := by
  unfold View.ofSnapshot at here ⊢
  cases shown : x.dialog with
  | fetching | error =>
    simp only [shown, List.mem_singleton] at here
    subst here
    cases action
  | authorizing =>
    simp only [shown] at here
    split at here <;>
    · cases List.mem_singleton.mp here
      cases action
  | fetched files =>
    cases files with
    | nil =>
      simp only [shown, List.mem_singleton] at here
      subst here
      cases action
    | cons file rest =>
      simp only [shown, List.mem_singleton] at here
      subst here
      have enabled : x.selected.isNone = false := enabled
      obtain ⟨f, chosen⟩ := Option.isSome_iff_exists.mp (Option.isNone_eq_false_iff.mp enabled)
      obtain ⟨files, same, listed⟩ := selects f chosen
      cases shown.symm.trans same
      obtain ⟨g, there, alike⟩ := List.contains_iff_exists_mem_beq.mp listed
      refine ⟨_, rfl, View.row x.selected g, List.mem_map.mpr ⟨g, there, rfl⟩, ?_⟩
      rw [chosen]
      exact alike

-- No snapshot, past or present, has a selection unless it shows files. If all that was ever selected was taken from
-- what was shown, then what is selected is one of them, and where the button to choose it is enabled a row is marked.
theorem selection_is_shown (path : Reached w setup .initial s)
    (seen : x = s.picker.snapshot ∨ x ∈ s.picker.published) :
    (∀ f, x.selected = some f → ∃ files, x.dialog = .fetched files) ∧
    (Within Offered w setup .initial s →
      (∀ f, x.selected = some f → ∃ files, x.dialog = .fetched files ∧ files.contains f = true) ∧
      ∀ settings, ∀ b ∈ (View.ofSnapshot x settings).buttons, b.action = .select → b.disabled = false →
        ∃ l, (View.ofSnapshot x settings).fileList = some l ∧ ∃ r ∈ l.rows, r.selected = true) := by
  have among {belongs : Listing → Item → Prop} (selects : s.picker.Selects belongs) : x.Selects belongs := by
    rcases seen with rfl | old
    · exact selects.now
    · exact selects.published x old
  constructor
  · intro f chosen
    have selects : s.picker.Selects fun _ _ => True := path.within.selects fun _ _ _ _ _ _ => trivial
    obtain ⟨files, shown, _⟩ := among selects f chosen
    exact ⟨files, shown⟩
  · intro offered
    have selects : s.picker.Selects Snapshot.Listed :=
      offered.selects fun _ _ files fits opened shown => fits files opened shown
    refine ⟨among selects, ?_⟩
    intro settings b here action enabled
    exact select_enabled_row (among selects) here action enabled

def syllabus : Item := .file (.number 1) "Syllabus.pdf"

def stranger : Item := .file (.number 2) "Stranger.pdf"

def oneFile : Surroundings := { Surroundings.calm with listing := fun _ _ => (0, .ok [syllabus]) }

-- The file is listed; then something is selected.
def selected (item : Item) : Sitting :=
  acts oneFile .plain [.start .start, .turn (.call 0), .select (some item)] .initial

theorem selected_syllabus_is_shown : (selected syllabus).picker.selected = some syllabus ∧
    ∃ files, (selected syllabus).picker.dialog = .fetched files ∧ files.contains syllabus = true := by
  have offered : Within Offered oneFile .plain .initial (selected syllabus) := by
    refine acts_within _ ⟨trivial, trivial, ?_, trivial⟩
    intro files _ shown
    cases shown
    rfl
  exact ⟨rfl, ((selection_is_shown offered.reached (.inl rfl)).2 offered).1 syllabus rfl⟩

-- Nothing keeps the owner of the picker from selecting what is not shown; then no row is marked.
theorem selected_stranger_is_not_shown :
    (¬ ∀ w (setup : Setup) s, Reached w setup .initial s → ∀ f, s.picker.selected = some f →
      ∃ files, s.picker.dialog = .fetched files ∧ files.contains f = true) ∧
    ¬ ∀ w (setup : Setup) s, Reached w setup .initial s → ∀ settings,
      ∀ b ∈ (View.ofSnapshot s.picker.snapshot settings).buttons, b.action = .select → b.disabled = false →
        ∃ l, (View.ofSnapshot s.picker.snapshot settings).fileList = some l ∧ ∃ r ∈ l.rows, r.selected = true := by
  constructor
  · intro all
    obtain ⟨files, shown, listed⟩ := all _ _ (selected stranger) (acts_reached _) stranger rfl
    cases shown
    cases listed
  · intro all
    obtain ⟨l, shown, r, here, marked⟩ :=
      all _ _ (selected stranger) (acts_reached _) .standard ⟨.select, false⟩ List.mem_cons_self rfl rfl
    cases shown
    cases List.mem_singleton.mp here
    cases marked

end Sitting
end CourseFiles
