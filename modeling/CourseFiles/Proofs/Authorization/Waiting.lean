import CourseFiles.Proofs.Authorization.Settlement

namespace CourseFiles

open History

namespace Sitting

-- The call waits for what becomes of that popup.
def Waits (s : Sitting) (n i : Nat) : Prop := ∃ p, s.calls.lookup n = some p ∧ p.joins i = true

variable {w : Surroundings} {setup : Setup} {s s' : Sitting} {v : Option Task} {t : Task} {n m i j : Nat}
  {o : SessionOutcome}

theorem joined_waits (waiting : s.calls.lookup n = some (.joined i)) : s.Waits n i :=
  ⟨_, waiting, by simp [Pending.joins]⟩

theorem authorizing_waits (waiting : s.calls.lookup n = some (.authorizing generation i)) : s.Waits n i :=
  ⟨_, waiting, by simp [Pending.joins]⟩

theorem removed_here (here : (s.removeCall n).calls.lookup m = some p) : s.calls.lookup m = some p := by
  rw [removeCall, Lookup.without] at here
  split at here
  · cases here
  · exact here

theorem started_here (here : (s.start op).calls.lookup m = some p) :
    s.calls.lookup m = some p ∨ m = s.nextCall ∧ p = .queued op := by
  rw [show (s.start op).calls = s.calls ++ [(s.nextCall, .queued op)] from rfl, List.lookup_append] at here
  cases found : s.calls.lookup m with
  | some q =>
    rw [found] at here
    exact .inl here
  | none =>
    rw [found, Option.none_or, Lookup.head] at here
    split at here
    · rename_i new
      exact .inr ⟨new, (Option.some.inj here).symm⟩
    · cases here

-- What one task does changes nothing for the other calls, but that a call may be started or taken away.
theorem Move.others (move : Move w setup v s s') (other : v ≠ some (.call m)) (here : s'.calls.lookup m = some p) :
    s.calls.lookup m = some p ∨ m = s.nextCall ∧ ∃ op, p = .queued op := by
  have elsewhere {n : Nat} (actor : v = some (.call n)) : m ≠ n := by
    intro same
    exact other (same ▸ actor)
  cases move with
  | @conclude _ t =>
    cases t with
    | call n => exact .inl (removed_here (s := Sitting.conclude _ _ _ s) here)
    | popup j => exact .inl here
  | begin => exact .inl (beginSession_beside.calls ▸ here)
  | complete => exact .inl (completeSession_beside.calls ▸ here)
  | cancel => exact .inl (cancelSession_beside.calls ▸ here)
  | await | join | attend => exact .inl ((set_other (elsewhere rfl)).symm.trans here)
  | launch => exact .inl ((set_other (s := s.launched setup _ _) (elsewhere rfl)).symm.trans here)
  | fail | arrive => exact .inl (removed_here (s := { s with picker := _ }) here)
  | list => exact .inl (removed_here (s := { s.launched setup _ _ with picker := _ }) here)
  | done => exact .inl (removed_here here)
  | drop => exact .inl (removed_here (s := s.hangUp _) here)
  | start => exact (started_here here).imp_right fun new => ⟨new.1, _, new.2⟩
  | _ => exact .inl here

theorem Move.waits (move : Move w setup v s s') (other : v ≠ some (.call n)) (waits : s'.Waits n i) : s.Waits n i := by
  obtain ⟨p, here, joins⟩ := waits
  rcases move.others other here with before | ⟨_, op, rfl⟩
  · exact ⟨p, before, joins⟩
  · cases joins

-- Only the session that is live is joined.
theorem Move.joins (move : Move w setup (some (.call n)) s s') (waits : s'.Waits n i) :
    s.Waits n i ∨ s.session.live = some i := by
  obtain ⟨p, here, joins⟩ := waits
  have set {s₁ : Sitting} {q : Pending} (here : (s₁.setCall n q).calls.lookup n = some p) : p = q := by
    rw [set_lookup] at here
    obtain ⟨_, _, same⟩ := Option.map_eq_some_iff.mp here
    exact same.symm
  have joined {j : Nat} (live : s.session.live = some j) (same : j = i) : s.session.live = some i := same ▸ live
  cases move with
  | conclude => exact .inl ⟨p, removed_here (s := Sitting.conclude _ _ _ s) here, joins⟩
  | begin => exact .inl ⟨p, beginSession_beside.calls ▸ here, joins⟩
  | complete => exact .inl ⟨p, completeSession_beside.calls ▸ here, joins⟩
  | cancel => exact .inl ⟨p, cancelSession_beside.calls ▸ here, joins⟩
  | await =>
    rw [set here] at joins
    cases joins
  | join live | attend live =>
    rw [set here] at joins
    exact .inr (joined live (by simpa [Pending.joins] using joins))
  | launch =>
    rw [set here] at joins
    cases joins
  | fail | arrive => exact .inl ⟨p, removed_here (s := { s with picker := _ }) here, joins⟩
  | list => exact .inl ⟨p, removed_here (s := { s.launched setup _ _ with picker := _ }) here, joins⟩
  | done => exact .inl ⟨p, removed_here here, joins⟩
  | _ => exact .inl ⟨p, here, joins⟩

theorem outcome_popup (same : s'.popups[i]? = s.popups[i]?) : s'.outcome? i = s.outcome? i := by
  rw [outcome?, same, outcome?]

theorem outcome_updated {f : Popup → Popup}
    (kept : ∀ p, s.popups[j]? = some p → (f p).stage.outcome? = p.stage.outcome?) :
    (s.updatePopup j f).outcome? i = s.outcome? i := by
  by_cases same : i = j
  · subst same
    rw [outcome?, updated_own, outcome?]
    cases here : s.popups[i]? with
    | none => rfl
    | some p => exact kept p here
  · exact outcome_popup (updated_other f same)

theorem endSession_outcome (staged : ∀ p, (mark p).stage = p.stage) :
    (endSession h mark phase s).outcome? i = s.outcome? i := by
  unfold endSession
  split
  · rfl
  · rename_i k _
    let marked := updatePopup k mark (record (h k) s)
    have closed : (closePopup k (wake (.popup k) marked)).outcome? i = marked.outcome? i :=
      outcome_updated (s := wake (.popup k) marked) fun _ _ => rfl
    refine closed.trans (outcome_updated (s := record (h k) s) ?_)
    intro p _
    rw [staged]

theorem beginSession_outcome : (beginSession w setup s).2.outcome? i = s.outcome? i := by
  unfold beginSession
  split
  · rfl
  · dsimp only
    split
    · rfl
    · by_cases new : i = s.popups.length
      · subst new
        simp [outcome?, wake, record, Stage.outcome?]
      · exact outcome_popup (popups_append new)

-- A session ends by its own task, and no other changes what became of it.
theorem Move.outcome (move : Move w setup v s s') (i : Nat) :
    s'.outcome? i = s.outcome? i ∨ v = some (.popup i) ∧ ∃ o s₁, s' = Sitting.settle i o s₁ := by
  have settled {j : Nat} {o : SessionOutcome} {s₁ : Sitting} (popups : s₁.popups = s.popups) :
      (Sitting.settle j o s₁).outcome? i = s.outcome? i ∨
        some (Task.popup j) = some (.popup i) ∧ ∃ o' s₂, Sitting.settle j o s₁ = Sitting.settle i o' s₂ := by
    by_cases same : i = j
    · subst same
      exact .inr ⟨rfl, _, _, rfl⟩
    · exact .inl (outcome_popup ((settled_other same).trans (by rw [popups])))
  have staged {j : Nat} {p : Popup} {stage : Stage} (here : s.popups[j]? = some p) (going : p.Going)
      (unsettled : stage.outcome? = none) : (s.setStage j stage).outcome? i = s.outcome? i := by
    apply outcome_updated
    intro q there
    cases here.symm.trans there
    exact unsettled.trans going.unsettled.symm
  cases move with
  | @conclude _ t => cases t <;> exact .inl rfl
  | count => exact .inl (outcome_updated fun _ _ => rfl)
  | wait here going => exact .inl (staged here going rfl)
  | look here going => exact .inl (staged here going rfl)
  | gone | settle | answer => exact settled rfl
  | begin => exact .inl beginSession_outcome
  | complete | cancel => exact .inl (endSession_outcome fun _ => rfl)
  | leave => exact .inl (outcome_updated fun _ _ => rfl)
  | _ => exact .inl rfl

theorem settled_wakes (waits : (settle i o s).Waits n i) : .call n ∈ (settle i o s).ready := by
  obtain ⟨p, here, joins⟩ := waits
  refine mem_wakeAll _ (.inr (List.mem_map.mpr ⟨(n, p), List.mem_filter.mpr ⟨?_, joins⟩, rfl⟩))
  exact Lookup.mem (here : s.calls.lookup n = some p)

theorem Owned.unsettled (owned : s.Owned) (live : s.session.live = some i) : s.outcome? i = none := by
  obtain ⟨p, here, going⟩ := (owned.goes i).mp live
  rw [outcome?, here]
  exact going.unsettled

-- Whoever has something to learn or to end is ready, all but the task whose turn it is.
structure Roused (v : Option Task) (s : Sitting) : Prop where
  popups : ∀ i o, v ≠ some (.popup i) → s.Decided i o → s.outcome? i = none → .popup i ∈ s.ready
  calls : ∀ n i o, v ≠ some (.call n) → s.Waits n i → s.outcome? i = some o → .call n ∈ s.ready

theorem Move.roused (move : Move w setup v s s') (roused : s.Roused v) : s'.Roused v := by
  constructor
  · rintro i o other ⟨q, there, decided⟩ unsettled
    have apart : Apart (.popup i) s s' := (move.apart other).resolve_right (by simp)
    rcases apart.progress with ready | same
    · exact ready
    · obtain ⟨p, here, stage, cancelled, finished⟩ := progress_same same there
      have before : s.Decided i o := ⟨p, here, decided.same cancelled.symm finished.symm stage.symm⟩
      have unended : s.outcome? i = none := by
        rw [outcome?, there] at unsettled
        rw [outcome?, here]
        exact (congrArg Stage.outcome? stage).symm.trans unsettled
      exact apart.ready (roused.popups i o other before unended)
  · intro n i o other waits ended
    rcases move.outcome i with same | ⟨_, o', s₁, rfl⟩
    · have ready : .call n ∈ s.ready := roused.calls n i o other (move.waits other waits) (same ▸ ended)
      rcases move.apart other with apart | ⟨k, p, mine, rfl⟩
      · exact apart.ready ready
      · cases mine
        obtain ⟨q, here, _⟩ := waits
        cases (removed_lookup (s := s.hangUp p.attempt?)).symm.trans here
    · exact settled_wakes waits

-- A call that has nothing to learn when its turn begins has nothing to learn when it ends.
theorem Move.unlearned (move : Move w setup (some (.call n)) s s') (owned : s.Owned)
    (unlearned : ∀ i, s.Waits n i → s.outcome? i = none) (i : Nat) (waits : s'.Waits n i) : s'.outcome? i = none := by
  have same : s'.outcome? i = s.outcome? i := (move.outcome i).resolve_right (by simp)
  rw [same]
  rcases move.joins waits with before | live
  · exact unlearned i before
  · exact owned.unsettled live

theorem finished_unwaiting : ¬ (finish n r s).Waits n i := by
  rintro ⟨p, here, _⟩
  rw [finish, release_beside.calls] at here
  cases removed_lookup.symm.trans here

theorem relist_unwaiting : ¬ (relist w setup n after f s).Waits n i := by
  unfold relist
  split
  · exact finished_unwaiting
  · rename_i p l asked
    generalize w.listing (s.launches.map (·.path)) l.path = answer
    obtain ⟨delay, result⟩ := answer
    simp only [list]
    split
    · exact finished_unwaiting
    · rintro ⟨q, here, joins⟩
      rw [set_lookup] at here
      obtain ⟨_, _, same⟩ := Option.map_eq_some_iff.mp here
      subst same
      cases joins

theorem joined_turn (waiting : s.calls.lookup n = some (.joined i)) (ended : s.outcome? i = some o) :
    act w setup (.turn (.call n)) s = finish n (.session o) { s with ready := s.ready.erase (.call n) } := by
  have ended : outcome? { s with ready := s.ready.erase (.call n) } i = some o := ended
  simp only [act, turn, callTurn, waiting, ended]

theorem authorizing_turn (waiting : s.calls.lookup n = some (.authorizing generation i))
    (ended : s.outcome? i = some o) :
    act w setup (.turn (.call n)) s =
      authorized w setup n generation o { s with ready := s.ready.erase (.call n) } := by
  have ended : outcome? { s with ready := s.ready.erase (.call n) } i = some o := ended
  simp only [act, turn, callTurn, waiting, ended]

theorem told_unwaiting (waits : s.Waits n i) (ended : s.outcome? i = some o) :
    ¬ (act w setup (.turn (.call n)) s).Waits n j := by
  obtain ⟨p, here, joins⟩ := waits
  cases p with
  | joined k =>
    have same : k = i := by simpa [Pending.joins] using joins
    subst same
    rw [joined_turn here ended]
    exact finished_unwaiting
  | authorizing generation k =>
    have same : k = i := by simpa [Pending.joins] using joins
    subst same
    rw [authorizing_turn here ended]
    unfold authorized
    split
    · exact relist_unwaiting
    · exact finished_unwaiting
    · exact finished_unwaiting
  | _ => cases joins

-- A call whose turn is over has nothing more to learn.
theorem turn_unlearned (tuned : s.Tuned (.call n)) (owned : s.Owned) (i : Nat)
    (waits : (act w setup (.turn (.call n)) s).Waits n i) : (act w setup (.turn (.call n)) s).outcome? i = none := by
  by_cases told : ∃ i o, s.Waits n i ∧ s.outcome? i = some o
  · obtain ⟨k, o, before, ended⟩ := told
    exact absurd waits (told_unwaiting before ended)
  · have untold (k : Nat) (before : s.Waits n k) : s.outcome? k = none := by
      apply Option.eq_none_iff_forall_ne_some.mpr
      intro o ended
      exact told ⟨k, o, before, ended⟩
    have turned : Turned w setup (.call n) s (act w setup (.turn (.call n)) s) := act_turned tuned
    have kept := Moves.keeps (P := fun s => s.Owned ∧ ∀ k, s.Waits n k → s.outcome? k = none) turned.moves
      (fun _ _ move here => ⟨move.owned here.1, move.unlearned here.1 here.2⟩) ⟨owned, untold⟩
    exact kept.2 i waits

theorem Roused.partly (roused : s.Roused none) : s.Roused v :=
  ⟨fun i o _ => roused.popups i o (by simp), fun n i o _ => roused.calls n i o (by simp)⟩

theorem Roused.turned (roused : s.Roused none) (tuned : ∀ t, s.Tuned t) (owned : s.Owned) (t : Task) :
    (act w setup (.turn t) s).Roused none := by
  have turned : Turned w setup t s (act w setup (.turn t) s) := act_turned (tuned t)
  have others : (act w setup (.turn t) s).Roused (some t) :=
    Moves.keeps turned.moves (fun _ _ move => move.roused) roused.partly
  constructor
  · intro i o _ decided unsettled
    by_cases mine : t = .popup i
    · subst mine
      apply turned.heeded.resolve_right
      rintro ⟨_, idle⟩
      obtain ⟨p, here, decided⟩ := decided
      rw [outcome?, here] at unsettled
      exact (idle i p rfl here unsettled).1.undecided decided
    · exact others.popups i o (by simpa using mine) decided unsettled
  · intro n i o _ waits ended
    by_cases mine : t = .call n
    · subst mine
      cases (turn_unlearned (tuned (.call n)) owned i waits).symm.trans ended
    · exact others.calls n i o (by simpa using mine) waits ended

theorem Reached.roused (path : Reached w setup .initial s) : s.Roused none := by
  induction path with
  | refl =>
    constructor
    · rintro i o _ ⟨p, here, _⟩
      cases here
    · rintro n i o _ ⟨p, here, _⟩
      cases here
  | @step s path a ih =>
    by_cases turn : ∃ t, a = .turn t
    · obtain ⟨t, rfl⟩ := turn
      exact ih.turned path.tuned path.owned t
    · have acted : Acted w setup s a (act w setup a s) := acted a path.tuned
      generalize act w setup a s = s' at acted
      cases acted with
      | elapsed =>
        constructor
        · intro i o _ decided unsettled
          exact mem_wakeAll _ (.inl (ih.popups i o (by simp) decided unsettled))
        · intro n i o _ waits ended
          exact mem_wakeAll _ (.inl (ih.calls n i o (by simp) waits ended))
      | turned => exact absurd ⟨_, rfl⟩ turn
      | moved moves => exact Moves.keeps moves (fun _ _ move => move.roused) ih

end Sitting
end CourseFiles
