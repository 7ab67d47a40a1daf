import CourseFiles.Proofs.Authorization.OnePopup

namespace CourseFiles

open History

namespace Happening

-- How it says that a popup's session ends.
def rules (i : Nat) : Happening → Option SessionOutcome
  | .cancelled j => if j = i then some (.error .cancelled) else none
  | .completed j => if j = i then some (.ok ()) else none
  | .settled j o => if j = i then some o else none
  | _ => none

theorem rules_settled {i j : Nat} (ruled : (Happening.settled j o).rules i = some o') : j = i ∧ o = o' := by
  by_cases same : j = i <;> simp [rules, same] at ruled
  exact ⟨same, ruled⟩

end Happening

namespace History

-- The popup that was opened last, unless a window has been asked for in vain since.
def latest : History → Option Nat
  | [] => none
  | (_, .opened i _ _ _ _) :: _ => some i
  | (_, .notOpened _ _ _) :: _ => none
  | _ :: h => latest h

theorem latest_skip {e : Happening} (other : e.opens = false) : latest ((now, e) :: h) = latest h := by
  cases e <;> first | rfl | cases other

theorem latest_append (newer : History) (other : ∀ e ∈ newer, e.2.opens = false) : latest (newer ++ h) = latest h := by
  induction newer with
  | nil => rfl
  | cons e newer ih =>
    have rest := ih fun e here => other e (List.mem_cons_of_mem _ here)
    exact (latest_skip (other e List.mem_cons_self)).trans rest

end History

namespace Popup

-- Its session has ended so, or will when its task runs.
inductive Decided (p : Popup) : SessionOutcome → Prop where
  | settled (ended : p.stage.outcome? = some o) : Decided p o
  | cancelled (unsettled : p.stage.outcome? = none) (marked : p.cancelled = true) : Decided p (.error .cancelled)
  | completed (unsettled : p.stage.outcome? = none) (unmarked : p.cancelled = false) (marked : p.finished = true) :
      Decided p (.ok ())

-- What became of a session stays, and so does what is decided.
structure Abides (p q : Popup) : Prop where
  settled : ∀ o, p.stage.outcome? = some o → q.stage.outcome? = some o
  decided : ∀ o, p.Decided o → q.Decided o

variable {p q r : Popup} {o o' : SessionOutcome}

theorem Going.undecided (going : p.Going) : ¬ p.Decided o := by
  intro decided
  cases decided with
  | settled ended => cases going.unsettled.symm.trans ended
  | cancelled _ marked => cases going.notCancelled.symm.trans marked
  | completed _ _ marked => cases going.notFinished.symm.trans marked

theorem Decided.unique (decided : p.Decided o) (again : p.Decided o') : o = o' := by
  cases decided with
  | settled ended =>
    cases again with
    | settled ended' => exact Option.some.inj (ended.symm.trans ended')
    | cancelled unsettled => cases unsettled.symm.trans ended
    | completed unsettled => cases unsettled.symm.trans ended
  | cancelled unsettled marked =>
    cases again with
    | settled ended => cases unsettled.symm.trans ended
    | cancelled => rfl
    | completed _ unmarked => cases unmarked.symm.trans marked
  | completed unsettled unmarked =>
    cases again with
    | settled ended => cases unsettled.symm.trans ended
    | cancelled _ marked => cases unmarked.symm.trans marked
    | completed => rfl

theorem Decided.same (decided : p.Decided o) (cancelled : q.cancelled = p.cancelled)
    (finished : q.finished = p.finished) (stage : q.stage = p.stage) : q.Decided o := by
  cases decided with
  | settled ended => exact .settled (stage ▸ ended)
  | cancelled unsettled marked => exact .cancelled (stage ▸ unsettled) (cancelled ▸ marked)
  | completed unsettled unmarked marked =>
    exact .completed (stage ▸ unsettled) (cancelled ▸ unmarked) (finished ▸ marked)

theorem Abides.refl : p.Abides p := ⟨fun _ => id, fun _ => id⟩

theorem Abides.trans (first : p.Abides q) (rest : q.Abides r) : p.Abides r :=
  ⟨fun o ended => rest.settled o (first.settled o ended), fun o decided => rest.decided o (first.decided o decided)⟩

theorem Abides.same (cancelled : q.cancelled = p.cancelled) (finished : q.finished = p.finished)
    (stage : q.stage = p.stage) : p.Abides q :=
  ⟨fun _ ended => stage ▸ ended, fun _ decided => decided.same cancelled finished stage⟩

theorem Going.abides (going : p.Going) : p.Abides q :=
  ⟨fun _ ended => absurd (.settled ended) going.undecided, fun _ decided => absurd decided going.undecided⟩

theorem Abides.settle (sound : ∀ o', p.Decided o' → o' = o) (ended : q.stage.outcome? = some o) : p.Abides q := by
  constructor
  · intro o' before
    rw [sound o' (.settled before)]
    exact ended
  · intro o' decided
    rw [sound o' decided]
    exact .settled ended

end Popup

namespace Sitting

def Decided (s : Sitting) (i : Nat) (o : SessionOutcome) : Prop := ∃ p, s.popups[i]? = some p ∧ p.Decided o

def Abides (s s' : Sitting) : Prop :=
  ∀ (i : Nat) (p : Popup), s.popups[i]? = some p → ∃ q : Popup, s'.popups[i]? = some q ∧ p.Abides q

-- Whatever the history says of the end of a session is known to its popup.
def Honoured (s : Sitting) : Prop := ∀ e ∈ s.history, ∀ i o, e.2.rules i = some o → s.Decided i o

-- The popup that was opened last is in the slot, or the phase tells how its session ends.
def Phased (s : Sitting) : Prop := ∀ i, latest s.history = some i →
  s.session.live = some i ∨ s.session.live = none ∧ ∃ o, s.Decided i o ∧ s.session.phase = .ofOutcome o

variable {w : Surroundings} {setup : Setup} {s s' s'' : Sitting} {v : Option Task} {i j n : Nat} {o o' : SessionOutcome}

theorem Abides.refl : s.Abides s := fun _ p here => ⟨p, here, .refl⟩

theorem Abides.trans (first : s.Abides s') (rest : s'.Abides s'') : s.Abides s'' := by
  intro i p here
  obtain ⟨q, there, kept⟩ := first i p here
  obtain ⟨r, last, again⟩ := rest i q there
  exact ⟨r, last, kept.trans again⟩

theorem Abides.of (popups : s'.popups = s.popups) : s.Abides s' := fun _ p here => ⟨p, popups ▸ here, .refl⟩

theorem Abides.decided (abides : s.Abides s') (decided : s.Decided i o) : s'.Decided i o := by
  obtain ⟨p, here, decided⟩ := decided
  obtain ⟨q, there, kept⟩ := abides i p here
  exact ⟨q, there, kept.decided o decided⟩

theorem Abides.outcome (abides : s.Abides s') (ended : s.outcome? i = some o) : s'.outcome? i = some o := by
  obtain ⟨p, here, ended⟩ := Option.bind_eq_some_iff.mp ended
  obtain ⟨q, there, kept⟩ := abides i p here
  exact Option.bind_eq_some_iff.mpr ⟨q, there, kept.settled o ended⟩

theorem outcome_decided (ended : s.outcome? i = some o) : s.Decided i o := by
  obtain ⟨p, here, ended⟩ := Option.bind_eq_some_iff.mp ended
  exact ⟨p, here, .settled ended⟩

theorem Decided.unique (decided : s.Decided i o) (again : s.Decided i o') : o = o' := by
  obtain ⟨p, here, decided⟩ := decided
  obtain ⟨q, there, again⟩ := again
  cases here.symm.trans there
  exact decided.unique again

theorem updated_abides {f : Popup → Popup} (keeps : ∀ p, s.popups[i]? = some p → p.Abides (f p)) :
    s.Abides (s.updatePopup i f) := by
  intro j p here
  by_cases same : j = i
  · subst same
    exact ⟨f p, updated_popup here, keeps p here⟩
  · exact ⟨p, (updated_other f same).trans here, .refl⟩

theorem closed_abides : s.Abides (s.closePopup i) := updated_abides fun _ _ => .same rfl rfl rfl

theorem staged_abides (here : s.popups[i]? = some p) (going : p.Going) : s.Abides (s.setStage i stage) := by
  refine updated_abides ?_
  intro q there
  cases here.symm.trans there
  exact going.abides

theorem settled_abides (here : s.popups[i]? = some p) (sound : ∀ o', p.Decided o' → o' = o) :
    s.Abides (settle i o s) := by
  have closed : s.Abides (s.closePopup i) := closed_abides
  have staged : (s.closePopup i).Abides ((s.closePopup i).setStage i (.settled o)) := by
    refine updated_abides ?_
    intro q there
    cases (updated_popup here).symm.trans there
    refine .settle ?_ rfl
    intro o' decided
    exact sound o' (decided.same rfl rfl rfl)
  exact closed.trans staged

theorem settled_other (other : j ≠ i) : (settle i o s).popups[j]? = s.popups[j]? := by
  simp [settle, wakeAll, record, setStage, updatePopup, closePopup, hangUp, Ne.symm other]

theorem Cause.sound (cause : Cause s i p o) (unsettled : p.stage.outcome? = none) (decided : p.Decided o') :
    o' = o := by
  cases cause with
  | cancelled marked => exact decided.unique (.cancelled unsettled marked)
  | completed unmarked marked => exact decided.unique (.completed unsettled unmarked marked)
  | expired going => exact absurd decided going.undecided

theorem endSession_abides (owned : s.Owned) : s.Abides (endSession h mark phase s) := by
  unfold endSession
  split
  · exact .refl
  · rename_i i live
    obtain ⟨p, here, going⟩ := (owned.goes i).mp live
    have marked : s.Abides (updatePopup i mark (record (h i) s)) := by
      refine updated_abides (s := record (h i) s) ?_
      intro q there
      cases here.symm.trans there
      exact going.abides
    exact marked.trans (closed_abides (s := wake (.popup i) (updatePopup i mark (record (h i) s))))

theorem beginSession_abides : s.Abides (beginSession w setup s).2 := by
  unfold beginSession
  split
  · exact .of rfl
  · dsimp only
    split
    · exact .of rfl
    · intro j p here
      have there : j < s.popups.length := (List.getElem?_eq_some_iff.mp here).1
      exact ⟨p, (popups_append (Nat.ne_of_lt there)).trans here, .refl⟩

theorem Move.abides (move : Move w setup v s s') (owned : s.Owned) : s.Abides s' := by
  cases move with
  | @conclude _ t =>
    cases t <;> exact .of rfl
  | count => exact updated_abides fun _ _ => .same rfl rfl rfl
  | wait here going => exact staged_abides here going
  | look here going => exact staged_abides here going
  | gone here going => exact settled_abides here fun _ decided => absurd decided going.undecided
  | settle here unsettled held cause => exact settled_abides here fun _ => cause.sound unsettled
  | answer here going => exact settled_abides here fun _ decided => absurd decided going.undecided
  | begin => exact beginSession_abides
  | complete | cancel => exact endSession_abides owned
  | leave => exact updated_abides fun _ _ => .same rfl rfl rfl
  | _ => exact .of rfl

-- What was decided before stays so, and what is new is decided now.
theorem Honoured.next (honoured : s.Honoured) (abides : s.Abides s') (newer : History)
    (grown : s'.history = newer ++ s.history) (new : ∀ e ∈ newer, ∀ i o, e.2.rules i = some o → s'.Decided i o) :
    s'.Honoured := by
  intro e here i o ruled
  rw [grown] at here
  rcases List.mem_append.mp here with fresh | old
  · exact new e fresh i o ruled
  · exact abides.decided (honoured e old i o ruled)

theorem settle_rules (here : s.popups[i]? = some p) {e : Nat × Happening}
    (among : e ∈ [(s.now, .settled i o), (s.now, .closed i (s.popups[i]?.any (!·.closed)))])
    (ruled : e.2.rules j = some o') : (settle i o s).Decided j o' := by
  rcases List.mem_pair.mp among with rfl | rfl
  · obtain ⟨rfl, rfl⟩ := Happening.rules_settled ruled
    exact ⟨_, settled_popup here, .settled rfl⟩
  · cases ruled

-- The session that is live is told how to end.
theorem endSession_rules (owned : s.Owned) (live : s.session.live = some i)
    (marks : ∀ p : Popup, p.Going → (mark p).Decided o) : (endSession h mark phase s).Decided i o := by
  obtain ⟨p, here, going⟩ := (owned.goes i).mp live
  have marked : (updatePopup i mark (record (h i) s)).Decided i o :=
    ⟨mark p, updated_popup (s := record (h i) s) here, marks p going⟩
  simp only [endSession, live]
  exact Abides.decided (closed_abides (s := wake (.popup i) (updatePopup i mark (record (h i) s)))) marked

theorem Honoured.quiet (honoured : s.Honoured) (abides : s.Abides s') (newer : History)
    (grown : s'.history = newer ++ s.history) (silent : ∀ e ∈ newer, ∀ i, e.2.rules i = none) : s'.Honoured := by
  refine honoured.next abides newer grown ?_
  intro e here i o ruled
  cases (silent e here i).symm.trans ruled

theorem Honoured.settle (honoured : s.Honoured) (here : s.popups[i]? = some p)
    (sound : ∀ o', p.Decided o' → o' = o) : (settle i o s).Honoured := by
  refine honoured.next (settled_abides here sound)
    [(s.now, .settled i o), (s.now, .closed i (s.popups[i]?.any (!·.closed)))] rfl ?_
  intro e among j o' ruled
  exact settle_rules here among ruled

theorem endSession_history (h : Nat → Happening) (mark : Popup → Popup) (phase : Phase)
    (live : s.session.live = some i) : ∃ wasOpen,
    (endSession h mark phase s).history = (s.now, .closed i wasOpen) :: (s.now, h i) :: s.history := by
  simp only [endSession, live]
  exact ⟨_, rfl⟩

theorem endSession_dead (dead : s.session.live = none) : endSession h mark phase s = s := by
  simp only [endSession, dead]

theorem Honoured.endSession (honoured : s.Honoured) (owned : s.Owned)
    (marks : ∀ p : Popup, p.Going → (mark p).Decided o) (ruled : ∀ i j o', (h i).rules j = some o' → i = j ∧ o = o') :
    (endSession h mark phase s).Honoured := by
  cases live : s.session.live with
  | none => rwa [endSession_dead live]
  | some i =>
    obtain ⟨wasOpen, grown⟩ := endSession_history h mark phase live
    refine honoured.next (endSession_abides owned) [_, _] grown ?_
    intro e among j o' ruling
    rcases List.mem_pair.mp among with rfl | rfl
    · cases ruling
    · obtain ⟨rfl, rfl⟩ := ruled i j o' ruling
      exact endSession_rules owned live marks

theorem completed_marks (p : Popup) (going : p.Going) : Popup.Decided { p with finished := true } (.ok ()) :=
  .completed going.unsettled going.notCancelled rfl

theorem cancelled_marks (p : Popup) (going : p.Going) :
    Popup.Decided { p with cancelled := true } (.error .cancelled) :=
  .cancelled going.unsettled rfl

theorem beginSession_rules (w : Surroundings) (setup : Setup) (s : Sitting) :
    ∃ e, (beginSession w setup s).2.history = (s.now, e) :: s.history ∧ ∀ i, e.rules i = none := by
  have starts : ∃ e, (beginSession w setup s).2.history = (s.now, e) :: s.history ∧ Starts s.session.live e :=
    beginSession_starts
  obtain ⟨e, grown, starts⟩ := starts
  refine ⟨e, grown, fun i => ?_⟩
  unfold Starts at starts
  split at starts
  · rw [starts]
    rfl
  · cases e <;> first | rfl | cases starts

theorem Move.honoured (move : Move w setup v s s') (owned : s.Owned) (honoured : s.Honoured) : s'.Honoured := by
  have abides := move.abides owned
  have concluded (t : Task) (a : Attempt) (o : CallOutcome) : (Sitting.conclude t a o s).Honoured :=
    honoured.quiet (.of rfl) [_] rfl (by simp [Happening.rules])
  have looked (i : Nat) : (s.record (.looked i)).Honoured :=
    honoured.quiet (.of rfl) [_] rfl (by simp [Happening.rules])
  cases move with
  | @conclude _ t =>
    cases t with
    | call n => exact (concluded _ _ _).quiet (.of rfl) [_] rfl (by simp [Happening.rules])
    | popup i => exact concluded _ _ _
  | gone here going => exact (looked _).settle here fun _ decided => absurd decided going.undecided
  | settle here unsettled held cause => exact honoured.settle here fun _ => cause.sound unsettled
  | answer here going => exact (concluded _ _ _).settle here fun _ decided => absurd decided going.undecided
  | begin =>
    obtain ⟨e, grown, silent⟩ := beginSession_rules w setup s
    exact honoured.quiet abides [_] grown (by simpa using silent)
  | complete => exact honoured.endSession owned completed_marks fun i j o' => by simp [Happening.rules]
  | cancel => exact honoured.endSession owned cancelled_marks fun i j o' => by simp [Happening.rules]
  | ask | list => exact honoured.quiet abides [_, _] rfl (by simp [Happening.rules])
  | deliver | skip | resume | look | leave | fail | launch | arrive | done | drop =>
    exact honoured.quiet abides [_] rfl (by simp [Happening.rules])
  | _ => exact honoured.quiet abides [] rfl (by simp)

-- The slot is left alone, and no window is asked for.
theorem Phased.kept (phased : s.Phased) (abides : s.Abides s') (session : s'.session = s.session) (newer : History)
    (grown : s'.history = newer ++ s.history) (other : ∀ e ∈ newer, e.2.opens = false) : s'.Phased := by
  intro i last
  rw [grown, latest_append newer other] at last
  rw [session]
  refine (phased i last).imp_right ?_
  rintro ⟨free, o, decided, phase⟩
  exact ⟨free, o, abides.decided decided, phase⟩

theorem Phased.settle (phased : s.Phased) (here : s.popups[i]? = some p) (sound : ∀ o', p.Decided o' → o' = o) :
    (settle i o s).Phased := by
  have last : latest (Sitting.settle i o s).history = latest s.history := rfl
  have decided : (Sitting.settle i o s).Decided i o := ⟨_, settled_popup here, .settled rfl⟩
  intro j same
  rw [last] at same
  rw [settle_session]
  rcases phased j same with live | ⟨free, o', before, phase⟩
  · by_cases mine : j = i
    · subst mine
      rw [if_pos live]
      exact .inr ⟨rfl, o, decided, rfl⟩
    · rw [if_neg fun other => mine (Option.some.inj (live.symm.trans other))]
      exact .inl live
  · rw [if_neg (by rw [free]; simp)]
    exact .inr ⟨free, o', (settled_abides here sound).decided before, phase⟩

theorem Phased.endSession (phased : s.Phased) (owned : s.Owned) (unopened : ∀ i, (h i).opens = false)
    (marks : ∀ p : Popup, p.Going → (mark p).Decided o) : (endSession h mark (.ofOutcome o) s).Phased := by
  cases live : s.session.live with
  | none => rwa [endSession_dead live]
  | some i =>
    obtain ⟨wasOpen, grown⟩ := endSession_history h mark (.ofOutcome o) live
    have ended : (Sitting.endSession h mark (.ofOutcome o) s).session = ⟨.ofOutcome o, none⟩ := by
      simp only [Sitting.endSession, live]
    intro j last
    rw [grown, latest_skip rfl, latest_skip (unopened i)] at last
    have same : i = j := by
      rcases phased j last with before | ⟨free, _⟩
      · exact Option.some.inj (live.symm.trans before)
      · cases live.symm.trans free
    subst same
    rw [ended]
    exact .inr ⟨rfl, o, endSession_rules owned live marks, rfl⟩

theorem Phased.begin (phased : s.Phased) : (beginSession w setup s).2.Phased := by
  unfold beginSession
  split
  · exact phased.kept (.of rfl) rfl [_] rfl (by simp [Happening.opens])
  · dsimp only
    split
    · intro i last
      cases last
    · intro i last
      cases last
      exact .inl rfl

theorem Move.phased (move : Move w setup v s s') (owned : s.Owned) (phased : s.Phased) : s'.Phased := by
  have abides := move.abides owned
  have concluded (t : Task) (a : Attempt) (o : CallOutcome) : (Sitting.conclude t a o s).Phased :=
    phased.kept (.of rfl) rfl [_] rfl (by simp [Happening.opens])
  have looked (i : Nat) : (s.record (.looked i)).Phased :=
    phased.kept (.of rfl) rfl [_] rfl (by simp [Happening.opens])
  cases move with
  | @conclude _ t =>
    cases t with
    | call n => exact (concluded _ _ _).kept (.of rfl) rfl [_] rfl (by simp [Happening.opens])
    | popup i => exact concluded _ _ _
  | gone here going => exact (looked _).settle here fun _ decided => absurd decided going.undecided
  | settle here unsettled held cause => exact phased.settle here fun _ => cause.sound unsettled
  | answer here going => exact (concluded _ _ _).settle here fun _ decided => absurd decided going.undecided
  | begin => exact phased.begin
  | complete => exact phased.endSession owned (fun _ => rfl) completed_marks
  | cancel => exact phased.endSession owned (fun _ => rfl) cancelled_marks
  | ask | list => exact phased.kept abides rfl [_, _] rfl (by simp [Happening.opens])
  | deliver | skip | resume | look | leave | fail | launch | arrive | done | drop =>
    exact phased.kept abides rfl [_] rfl (by simp [Happening.opens])
  | _ => exact phased.kept abides rfl [] rfl (by simp)

theorem Reached.told (path : Reached w setup .initial s) : s.Honoured ∧ s.Phased := by
  have all : s.Owned ∧ s.Honoured ∧ s.Phased := by
    refine path.keeps (P := fun s => s.Owned ∧ s.Honoured ∧ s.Phased) initial_tuned ⟨initial_owned, ?_, ?_⟩ ?_ ?_
    · intro e here
      cases here
    · intro i last
      cases last
    · rintro v s₁ s₂ move ⟨owned, honoured, phased⟩
      exact ⟨move.owned owned, move.honoured owned honoured, move.phased owned phased⟩
    · rintro s₁ ms ⟨owned, honoured, phased⟩
      exact ⟨owned.frame [] rfl rfl (fun _ => .rfl) rfl (by simp), honoured.quiet (.of rfl) [] rfl (by simp),
        phased.kept (.of rfl) rfl [] rfl (by simp)⟩
  exact all.2

theorem Reached.honoured (path : Reached w setup .initial s) : s.Honoured := path.told.1

theorem Reached.phased (path : Reached w setup .initial s) : s.Phased := path.told.2

-- What has been decided stays so in all that follows.
theorem Reached.abides (path : Reached w setup .initial s) (later : Reached w setup s s') : s.Abides s' := by
  have both : s'.Owned ∧ s.Abides s' := by
    refine later.keeps (P := fun s' => s'.Owned ∧ s.Abides s') path.tuned ⟨path.owned, .refl⟩ ?_ ?_
    · rintro v s₁ s₂ move ⟨owned, abides⟩
      exact ⟨move.owned owned, abides.trans (move.abides owned)⟩
    · rintro s₁ ms ⟨owned, abides⟩
      exact ⟨owned.frame [] rfl rfl (fun _ => .rfl) rfl (by simp), abides.trans (.of rfl)⟩
  exact both.2

end Sitting
end CourseFiles
