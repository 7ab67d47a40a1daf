import CourseFiles.Proofs.Picker.Agreement
import Mathlib.Data.List.Chain

namespace CourseFiles

namespace Snapshot

-- Listing again is possible from everywhere. Files come and go only through listing, and so does an error, but that
-- access may be asked for after it.
def Permits (x y : Snapshot) : Prop :=
  match x.dialog, y.dialog with
  | .fetching, .fetching => True
  | .fetching, .fetched _ => True
  | .fetching, .authorizing => True
  | .fetching, .error _ => True
  | .fetched _, .fetching => True
  | .fetched _, .fetched _ => y = { x with selected := y.selected }
  | .authorizing, .authorizing => True
  | .authorizing, .fetching => True
  | .error _, .fetching => True
  | .error _, .authorizing => True
  | _, _ => False

structure Follows (x y : Snapshot) : Prop where
  table : x.Permits y
  crumbs : y.crumbs ≠ x.crumbs → y.dialog = .fetching
  attempted : x.authorizationAttempted = false → y.authorizationAttempted = true →
    x.dialog = .authorizing ∧ y.dialog = .authorizing
  forgotten : x.authorizationAttempted = true → y.authorizationAttempted = false →
    x.dialog = .fetching ∧ y.dialog = .authorizing
  entered : x.dialog.files? = none → y.dialog.files?.isSome → y.selected = none

-- A selection belongs to files, and lack of access is not shown as an error.
structure Sound (x : Snapshot) : Prop where
  unselected : x.dialog.files? = none → x.selected = none
  genuine : ∀ e, x.dialog = .error e → e.requiresAuthorization = false

variable {x y : Snapshot}

theorem permits_listed (fetching : x.dialog = .fetching) : x.Permits y := by
  unfold Permits
  rw [fetching]
  cases y.dialog <;> trivial

theorem permits_listing (fetching : y.dialog = .fetching) : x.Permits y := by
  unfold Permits
  rw [fetching]
  cases x.dialog <;> trivial

end Snapshot

namespace Picker

-- All that observers have been shown, with the newest first.
def shown (p : Picker) : List Snapshot := p.published ++ [initial.snapshot]

structure Regular (p : Picker) : Prop where
  abreast : ∃ older, p.shown = p.snapshot :: older
  chain : p.shown.IsChain fun y x => x.Follows y
  sound : ∀ x ∈ p.shown, x.Sound

variable {p q : Picker} {default : String}

theorem initial_regular : Regular .initial := by
  refine ⟨⟨[], rfl⟩, List.isChain_singleton _, ?_⟩
  intro x here
  cases List.mem_singleton.mp here
  exact ⟨fun _ => rfl, fun e failed => by cases failed⟩

theorem Regular.now (regular : p.Regular) : p.snapshot.Sound := by
  obtain ⟨older, shown⟩ := regular.abreast
  exact regular.sound _ (shown ▸ List.mem_cons_self)

-- What is published has to follow what was shown last, and that is how the picker stood.
theorem Regular.publish (regular : p.Regular) (published : q.published = q.snapshot :: p.published)
    (follows : p.snapshot.Follows q.snapshot) (sound : q.snapshot.Sound) : q.Regular := by
  have grown : q.shown = q.snapshot :: p.shown := by rw [shown, published]; rfl
  refine ⟨⟨_, grown⟩, ?_, ?_⟩
  · obtain ⟨older, last⟩ := regular.abreast
    have chain := regular.chain
    rw [last] at chain
    rw [grown, last]
    exact List.isChain_cons_cons.mpr ⟨follows, chain⟩
  · intro x here
    rw [grown] at here
    rcases List.mem_cons.mp here with rfl | old
    · exact sound
    · exact regular.sound x old

theorem Regular.launch (regular : p.Regular) (launches : Launches default p q l) : q.Regular := by
  have fetching : q.snapshot.dialog = .fetching := launches.fetching
  have attempted : q.snapshot.authorizationAttempted = p.snapshot.authorizationAttempted := launches.attempted
  refine regular.publish launches.published ⟨Snapshot.permits_listing fetching, fun _ => fetching, ?_, ?_, ?_⟩ ⟨?_, ?_⟩
  · intro before after
    cases before.symm.trans (attempted.symm.trans after)
  · intro before after
    cases before.symm.trans (attempted.symm.trans after)
  · intro _ files
    rw [fetching] at files
    cases files
  · exact fun _ => launches.unselected
  · intro e failed
    cases fetching.symm.trans failed

theorem dialogOf_genuine (failed : dialogOf result = .error e) : e.requiresAuthorization = false := by
  unfold dialogOf at failed
  split at failed
  · cases failed
  · split at failed
    · cases failed
    · rename_i other
      cases failed
      exact Bool.eq_false_iff.mpr other

theorem dialogOf_needs (needs : needsAuthorization result = true) : dialogOf result = .authorizing := by
  unfold needsAuthorization at needs
  split at needs
  · cases needs
  · rw [dialogOf, if_pos needs]

-- A listing that is shown was waited for.
theorem Regular.arrive (regular : p.Regular) (fetching : l.generation = p.generation → p.dialog = .fetching) :
    (p.arrive l result).Regular := by
  unfold Picker.arrive
  split
  · rename_i current
    have fetching : p.snapshot.dialog = .fetching := fetching current.symm
    have unselected : p.selected = none := regular.now.unselected (by rw [fetching]; rfl)
    refine regular.publish rfl ⟨Snapshot.permits_listed fetching, fun moved => absurd rfl moved, ?_, ?_,
      fun _ _ => unselected⟩ ⟨fun _ => unselected, fun e => dialogOf_genuine⟩
    · intro before after
      have before : p.attempted = false := before
      have after : (p.attempted && !needsAuthorization result) = true := after
      rw [before] at after
      cases after
    · intro before after
      have before : p.attempted = true := before
      have after : (p.attempted && !needsAuthorization result) = false := after
      refine ⟨fetching, dialogOf_needs ?_⟩
      simpa [before] using after
  · exact regular

theorem Regular.authorize (regular : p.Regular) (may : p.mayAuthorize = true) : p.authorize.Regular := by
  have asked : p.isAuthorizing = true ∨ p.dialog.error?.isSome = true := by
    unfold mayAuthorize at may
    exact Bool.or_eq_true_iff.mp (Bool.and_eq_true_iff.mp may).2
  refine regular.publish rfl ⟨?_, fun moved => absurd rfl moved, ?_, ?_, ?_⟩ ⟨fun _ => rfl, ?_⟩
  · have table : Snapshot.Permits p.snapshot ⟨.authorizing, p.attempted, none, p.trail.crumbs⟩ := by
      unfold Snapshot.Permits
      rcases asked with asking | failed
      · rw [show p.snapshot.dialog = .authorizing from isAuthorizing_dialog asking]
        trivial
      · cases dialog : p.dialog <;> rw [dialog] at failed <;> cases failed
        rw [show p.snapshot.dialog = _ from dialog]
        trivial
    exact table
  · intro before after
    cases before.symm.trans after
  · intro before after
    cases before.symm.trans after
  · intro _ files
    cases files
  · intro e failed
    cases failed

theorem Regular.failed {last : Nat} (regular : p.Regular) (asked : last = p.generation → p.dialog = .authorizing) :
    (p.failed last).Regular := by
  unfold Picker.failed
  split
  · exact regular
  · rename_i current
    have current : p.closed = false ∧ p.generation = last := by simpa using current
    have asking : p.snapshot.dialog = .authorizing := asked current.2.symm
    have unselected : p.selected = none := regular.now.unselected (by rw [asking]; rfl)
    refine regular.publish rfl ⟨?_, fun moved => absurd rfl moved, fun _ _ => ⟨asking, rfl⟩, ?_, ?_⟩
      ⟨fun _ => unselected, ?_⟩
    · unfold Snapshot.Permits
      rw [asking]
      trivial
    · intro _ after
      cases after
    · intro _ files
      cases files
    · intro e failed
      cases failed

theorem Regular.select (regular : p.Regular) : (p.select item).Regular := by
  unfold Picker.select
  split
  · exact regular
  · rename_i accepted
    have accepted : p.closed = false ∧ p.isFetched = true := by simpa using accepted
    have files : p.snapshot.dialog.files?.isSome = true := accepted.2
    refine regular.publish rfl ⟨?_, fun moved => absurd rfl moved, ?_, ?_, ?_⟩ ⟨?_, regular.now.genuine⟩
    · have table : Snapshot.Permits p.snapshot { p.snapshot with selected := item } := by
        unfold Snapshot.Permits
        cases dialog : p.snapshot.dialog <;> rw [dialog] at files <;> cases files
        simp [dialog]
      exact table
    · intro before after
      cases before.symm.trans after
    · intro before after
      cases before.symm.trans after
    · intro nothing _
      have nothing : p.snapshot.dialog.files? = none := nothing
      rw [nothing] at files
      cases files
    · intro nothing
      have nothing : p.snapshot.dialog.files? = none := nothing
      rw [nothing] at files
      cases files

end Picker

namespace Sitting

variable {w : Surroundings} {setup : Setup} {s s' : Sitting} {v : Option Task}

theorem Move.regular (move : Move w setup v s s') (agrees : Agrees w setup s) (regular : s.picker.Regular) :
    s'.picker.Regular := by
  have beside (beside : Beside s s') : s'.picker.Regular := beside.picker ▸ regular
  cases move with
  | @conclude _ t =>
    cases t <;> exact regular
  | begin => exact beside beginSession_beside
  | complete => exact beside completeSession_beside
  | cancel => exact beside cancelSession_beside
  | authorize may => exact regular.authorize may
  | fail why => exact regular.failed (agrees.fails why)
  | launch change asked => exact regular.launch (Picker.relist_launches change.keeps asked)
  | list change asked =>
    have launches := Picker.relist_launches change.keeps asked
    exact (regular.launch launches).arrive fun _ => launches.fetching
  | arrive waiting => exact regular.arrive (agrees.fetching _ _ _ _ _ (Lookup.mem waiting))
  | select => exact regular.select
  | close => exact ⟨regular.abreast, regular.chain, regular.sound⟩
  | _ => exact regular

theorem Reached.regular (path : Reached w setup .initial s) : s.picker.Regular := by
  have both : Agrees w setup s ∧ s.picker.Regular := by
    refine path.keeps (P := fun s => Agrees w setup s ∧ s.picker.Regular) initial_tuned
      ⟨initial_agrees, Picker.initial_regular⟩ ?_ ?_
    · intro v s₁ s₂ move here
      exact ⟨move.agrees here.1, move.regular here.1 here.2⟩
    · intro s₁ ms here
      exact ⟨here.1.kept rfl rfl fun _ there => .inl there, here.2⟩
  exact both.2

-- Of any two snapshots that are shown one after the other the later is permitted after the earlier. The trail changes
-- only with a new listing, a failure is noted only where access was asked for, and forgotten only when a listing finds
-- it lacking; nothing is selected but among files, and not yet when they appear.
theorem dialog_follows_table (path : Reached w setup .initial s) :
    (∀ newer y x older, s.picker.shown = newer ++ y :: x :: older → x.Follows y) ∧ ∀ x ∈ s.picker.shown, x.Sound := by
  refine ⟨?_, path.regular.sound⟩
  intro newer y x older split
  have chain := path.regular.chain
  rw [split] at chain
  exact (List.isChain_append_cons_cons.mp chain).2.1

-- No window can be opened: the call that asks for access fails at once.
def refusedAtOnce : Sitting :=
  acts .barred .plain [.start .start, .turn (.call 0), .start .authorize, .turn (.call 1)] .initial

theorem refusedAtOnce_follows : ∃ newer y x older, refusedAtOnce.picker.shown = newer ++ y :: x :: older ∧
    x.authorizationAttempted = false ∧ y.authorizationAttempted = true ∧ x.dialog = .authorizing ∧
    y.dialog = .authorizing := by
  have follows := (dialog_follows_table (s := refusedAtOnce) (acts_reached _)).1 [] _ _ _ rfl
  exact ⟨[], _, _, _, rfl, rfl, rfl, follows.attempted rfl rfl⟩

end Sitting
end CourseFiles
