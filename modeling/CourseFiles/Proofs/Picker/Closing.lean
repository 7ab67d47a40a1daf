import CourseFiles.Proofs.Sitting.Wire
import CourseFiles.Proofs.Picker.Agreement
import CourseFiles.Proofs.Sitting.Within

namespace CourseFiles
namespace Sitting

-- What can be said of any later moment, compared with that at which the picker was closed.
structure Stays (s₀ s : Sitting) : Prop where
  closed : s.picker.closed = true
  snapshot : s.picker.snapshot = s₀.picker.snapshot
  published : s.picker.published = s₀.picker.published
  launches : s.launches = s₀.launches
  dead : s.session.live = none
  unasked : ∀ c ∈ s.calls, c.2 ≠ .queued .session
  grown : ∃ newer, s.history = newer ++ s₀.history ∧ ∀ e ∈ newer, e.2.inert = true

-- Nobody asks for a session but the picker.
def Unasked (_ : Sitting) (a : Act) : Prop := a ≠ .start .session

variable {w : Surroundings} {setup : Setup} {s₀ s s' : Sitting} {t : Task} {n : Nat}

theorem Stays.same (stays : Stays s₀ s) (newer : History) (picker : s'.picker = s.picker)
    (launches : s'.launches = s.launches) (dead : s.session.live = none → s'.session.live = none)
    (calls : ∀ c ∈ s'.calls, c ∈ s.calls ∨ c.2 ≠ .queued .session) (grown : s'.history = newer ++ s.history)
    (inert : ∀ e ∈ newer, e.2.inert = true) : Stays s₀ s' := by
  refine ⟨picker ▸ stays.closed, picker ▸ stays.snapshot, picker ▸ stays.published, launches.trans stays.launches,
    dead stays.dead, ?_, ?_⟩
  · intro c here
    rcases calls c here with old | other
    · exact stays.unasked c old
    · exact other
  · obtain ⟨earlier, before, quiet⟩ := stays.grown
    refine ⟨newer ++ earlier, by rw [grown, before, List.append_assoc], ?_⟩
    intro e here
    rcases List.mem_append.mp here with new | old
    · exact inert e new
    · exact quiet e old

theorem Stays.aside (stays : Stays s₀ s) (aside : Aside s s') : Stays s₀ s' := by
  obtain ⟨newer, grown, inert⟩ := aside.grown
  exact stays.same newer aside.picker aside.launches aside.dead (fun c here => .inl (aside.calls ▸ here)) grown inert

theorem Stays.ended (stays : Stays s₀ s) (inert : (Happening.finished n r).inert = true) : Stays s₀ (s.endCall n r) :=
  stays.same [_] rfl rfl id (fun c here => .inl (mem_removeCall here).1) rfl (by simpa using inert)

theorem settle_dead (dead : s.session.live = none) : (settle i o s).session.live = none := by
  have other : s.session.live ≠ some i := by
    rw [dead]
    exact Option.some_ne_none i |>.symm
  rw [settle_session, if_neg other]
  exact dead

theorem mere_inert (mere : r = .done ∨ r = .chosen none) : (Happening.finished n r).inert = true := by
  rcases mere with rfl | rfl <;> rfl

theorem Plain.inert (plain : Plain setup s n r) (closed : s.picker.closed = true) :
    (Happening.finished n r).inert = true := by
  cases plain with
  | refused change => exact mere_inert change.mere
  | chosen => simp [closed, Happening.inert]
  | _ => rfl

-- What a call would do to the picker before it ends is not done.
theorem Stays.unmoved (stays : Stays s₀ s) (same : p = s.picker) (inert : (Happening.finished n r).inert = true) :
    Stays s₀ (endCall n r { s with picker := p }) := by
  subst same
  exact stays.ended inert

theorem failed_closed {p : Picker} (closed : p.closed = true) : p.failed last = p := by
  rw [Picker.failed, closed]
  rfl

theorem Move.stays (move : Move w setup (some t) s s') (agrees : Agrees w setup s) (mere : s.Mere)
    (stays : Stays s₀ s) : Stays s₀ s' := by
  have unopened (opened : s.picker.closed = false) : Stays s₀ s' := by cases opened.symm.trans stays.closed
  have unlived {i : Nat} (live : s.session.live = some i) : Stays s₀ s' := by cases live.symm.trans stays.dead
  have keeps (newer : History) (calls : s'.calls = s.calls) (grown : s'.history = newer ++ s.history)
      (picker : s'.picker = s.picker) (launches : s'.launches = s.launches)
      (dead : s.session.live = none → s'.session.live = none) (inert : ∀ e ∈ newer, e.2.inert = true) : Stays s₀ s' :=
    stays.same newer picker launches dead (fun c here => .inl (calls ▸ here)) grown inert
  cases move with
  | deliver => exact keeps [_] rfl rfl rfl rfl id (by simp [Happening.inert])
  | ask => exact keeps [_, _] rfl rfl rfl rfl id (by simp [Happening.inert])
  | conclude =>
    have concluded (a : Attempt) (o : CallOutcome) : Stays s₀ (Sitting.conclude t a o s) :=
      stays.same [_] rfl rfl id (fun _ here => .inl here) rfl (by simp [Happening.inert])
    cases t with
    | call n => exact (concluded _ _).ended rfl
    | popup i => exact concluded _ _
  | skip | resume | look => exact keeps [_] rfl rfl rfl rfl id (by simp [Happening.inert])
  | gone => exact keeps [_, _, _] rfl rfl rfl rfl settle_dead (by simp [Happening.inert])
  | settle => exact keeps [_, _] rfl rfl rfl rfl settle_dead (by simp [Happening.inert])
  | answer => exact keeps [_, _, _] rfl rfl rfl rfl settle_dead (by simp [Happening.inert])
  | begin begins =>
    rcases begins with asked | ⟨_, _, opened⟩
    · exact absurd rfl (stays.unasked _ (Lookup.mem asked))
    · exact unopened opened
  | complete | cancel => exact stays.aside (aside_endSession fun _ => rfl)
  | await =>
    refine stays.same [] rfl rfl id ?_ rfl (by simp)
    intro c here
    rcases mem_setCall here with new | ⟨old, _⟩
    · exact .inr (by rw [new]; simp)
    · exact .inl old
  | join live | attend live => exact unlived live
  | authorize may =>
    unfold Picker.mayAuthorize at may
    exact unopened (by simpa using (Bool.and_eq_true_iff.mp may).1)
  | fail => exact stays.unmoved (failed_closed stays.closed) rfl
  | launch change asked | list change asked => exact unopened (Picker.relist_launches change.keeps asked).opened
  | arrive waiting time =>
    have here := Lookup.mem waiting
    have stale := agrees.superseded here (.inr (.inr stays.closed))
    exact stays.unmoved (if_neg stale) (mere_inert (mere _ _ _ _ _ here))
  | done plain => exact stays.ended (plain.inert stays.closed)
  | _ => exact keeps [] rfl rfl rfl rfl id (by simp)

theorem Outside.stays (outside : Outside s a s') (fits : s.Unasked a) (stays : Stays s₀ s) : Stays s₀ s' := by
  cases outside with
  | aside aside => exact stays.aside aside
  | @start op =>
    refine stays.same [] rfl rfl id ?_ rfl (by simp)
    intro c here
    rcases List.mem_append.mp here with old | new
    · exact .inl old
    · rw [List.mem_singleton.mp new]
      refine .inr fun same => fits ?_
      cases same
      rfl
  | @drop n p _ aside =>
    have dropped : Stays s₀ (s.dropCall n p) :=
      stays.same [_] rfl rfl id (fun c here => .inl (mem_removeCall here).1) rfl (by simp [Happening.inert])
    exact dropped.aside aside
  | select =>
    unfold Sitting.select Picker.select
    rw [stays.closed]
    exact stays
  | close aside =>
    have closed : Stays s₀ { s with picker := s.picker.close } :=
      ⟨rfl, stays.snapshot, stays.published, stays.launches, stays.dead, stays.unasked, stays.grown⟩
    exact closed.aside aside

theorem finish_dead (dead : s.session.live = none) :
    (finish n r s).history = (s.now, .finished n r) :: s.history := by
  unfold finish release
  split
  · have same : (s.endCall n r).session.live = none := dead
    rw [cancelSession, endSession, same]
    rfl
  · rfl

-- Once the picker is closed a call that uses an item ends at its turn, without a choice.
theorem use_stays (stays : Stays s₀ s) (uses : s.Uses n item) :
    (act w setup (.turn (.call n)) s).history = (s.now, .finished n (.chosen none)) :: s.history := by
  have used : (use w setup n item { s with ready := s.ready.erase (.call n) }).history =
      (s.now, .finished n (.chosen none)) :: s.history := by
    have refused (f : Picker → Option Picker) : s.picker.relist? setup.terms.path f = none := by
      rw [Picker.relist?, stays.closed]
      rfl
    unfold use
    split
    · exact finish_dead stays.dead
    · split
      · simp only [relist, refused]
        exact finish_dead stays.dead
      · simp only [stays.closed]
        exact finish_dead stays.dead
  rcases uses with asked | ⟨asked, rfl⟩
  · simpa only [act, turn, callTurn, asked, beginCall] using used
  · simpa only [act, turn, callTurn, asked, beginCall] using used

theorem Reached.mere (path : Reached w setup .initial s) : s.Mere :=
  path.keeps initial_tuned (fun _ _ _ _ _ here => absurd here List.not_mem_nil) (fun _ _ _ move => move.mere)
    fun _ _ => id

theorem Within.stays (path : Reached w setup .initial s₀) (stays : Stays s₀ s) (begun : Reached w setup s₀ s)
    (later : Within Unasked w setup s s') : Stays s₀ s' := by
  have early := path.trans begun
  refine later.keeps (P := Stays s₀) early.tuned stays ?_ ?_
  · intro t s₁ s₂ between _ moves here
    have reached := early.trans between
    have all : Agrees w setup s₂ ∧ s₂.Mere ∧ Stays s₀ s₂ := by
      refine Moves.keeps moves (P := fun s => Agrees w setup s ∧ s.Mere ∧ Stays s₀ s) ?_
        ⟨reached.agrees, reached.mere, here⟩
      intro _ _ move kept
      exact ⟨move.agrees kept.1, move.mere kept.2.1, move.stays kept.1 kept.2.1 kept.2.2⟩
    exact all.2.2
  · intro a s₁ s₂ _ fits outside
    exact outside.stays fits

theorem cancel_stays (unasked : ∀ c ∈ s.calls, c.2 ≠ .queued .session) : Stays s (act w setup .cancel s) := by
  have aside : Aside { s with picker := s.picker.close } (act w setup .cancel s) := aside_cancelSession
  refine ⟨by rw [aside.picker]; rfl, by rw [aside.picker]; rfl, by rw [aside.picker]; rfl, aside.launches, ?_, ?_,
    aside.grown⟩
  · simp only [act, cancel, cancelSession, endSession]
    split
    · assumption
    · rfl
  · rw [aside.calls]
    exact unasked

-- From the moment the picker is cancelled all that can be seen of it stays as it was, and nothing is published. Nothing
-- is listed, no window is asked for and none is live, and whoever uses an item, then or later, ends without a choice.
theorem cancel_is_final (path : Reached w setup .initial s) (unasked : ∀ c ∈ s.calls, c.2 ≠ .queued .session)
    (later : Within Unasked w setup (act w setup .cancel s) s') :
    s'.picker.snapshot = s.picker.snapshot ∧ s'.picker.published = s.picker.published ∧
    s'.launches = s.launches ∧ s'.session.live = none ∧
    (∃ newer, s'.history = newer ++ s.history ∧ ∀ time e, (time, e) ∈ newer →
      (∀ popup closed url name features, e ≠ .opened popup closed url name features) ∧
      (∀ url name features, e ≠ .notOpened url name features) ∧ (∀ path token, e ≠ .listed path token) ∧
      ∀ n item, e = .finished n (.chosen item) → item = none) ∧
    ∀ n item, s'.Uses n item →
      (act w setup (.turn (.call n)) s').history = (s'.now, .finished n (.chosen none)) :: s'.history := by
  have stays : Stays s s' := later.stays path (cancel_stays unasked) (.step .refl _)
  obtain ⟨newer, grown, inert⟩ := stays.grown
  refine ⟨stays.snapshot, stays.published, stays.launches, stays.dead, ⟨newer, grown, ?_⟩,
    fun n item => use_stays stays⟩
  intro time e here
  have inert : e.inert = true := inert _ here
  refine ⟨?_, ?_, ?_, ?_⟩
  · rintro popup closed url name features rfl
    cases inert
  · rintro url name features rfl
    cases inert
  · rintro path token rfl
    cases inert
  · rintro n item rfl
    cases item with
    | none => rfl
    | some item => cases inert

-- Access has been asked for, and the popup is open.
def asking : Sitting :=
  acts .guarded .plain [.start .start, .turn (.call 0), .start .authorize, .turn (.call 1), .turn (.popup 0)] .initial

-- The picker is cancelled; then the session and its caller end, a reload is tried and a file is to be used.
def dismissed : Sitting :=
  acts .guarded .plain [.turn (.popup 0), .turn (.call 1), .start .reload, .turn (.call 2),
    .start (.use (some (.file (.number 1) "Notes.pdf")))] (act .guarded .plain .cancel asking)

theorem dismissed_asks_no_more : dismissed.picker.snapshot = asking.picker.snapshot ∧ dismissed.session.live = none ∧
    (act .guarded .plain (.turn (.call 3)) dismissed).history =
      (0, .finished 3 (.chosen none)) :: dismissed.history := by
  have unasked : ∀ c ∈ asking.calls, c.2 ≠ .queued .session := by
    intro c here
    have same : c = (1, .authorizing 2 0) := List.mem_singleton.mp here
    rw [same]
    simp
  have later : Within Unasked .guarded .plain (act .guarded .plain .cancel asking) dismissed :=
    acts_always _ (by simp [Unasked])
  obtain ⟨snapshot, _, _, dead, _, uses⟩ := cancel_is_final (acts_reached _) unasked later
  exact ⟨snapshot, dead, uses 3 _ (.inl rfl)⟩

end Sitting
end CourseFiles
