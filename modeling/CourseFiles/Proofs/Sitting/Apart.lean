import CourseFiles.Proofs.Sitting.CallTurns

namespace CourseFiles

open History

namespace Sitting

-- How far a popup's session is, and how it was told to end.
def progress? (s : Sitting) : Task → Option (Stage × Bool × Bool)
  | .call _ => none
  | .popup i => s.popups[i]?.map fun p => (p.stage, p.cancelled, p.finished)

structure Apart (t : Task) (s s₁ : Sitting) : Prop where
  now : s₁.now = s.now
  ready : t ∈ s.ready → t ∈ s₁.ready
  awaits : s₁.awaits t = s.awaits t
  refusal : s₁.refusal t = s.refusal t
  attempt : s₁.attempt? t = s.attempt? t
  progress : t ∈ s₁.ready ∨ s₁.progress? t = s.progress? t

variable {w : Surroundings} {setup : Setup} {s s' s'' : Sitting} {t u : Task} {v : Option Task} {n i : Nat}

theorem progress_same (same : s'.progress? (.popup i) = s.progress? (.popup i)) (there : s'.popups[i]? = some q) :
    ∃ p, s.popups[i]? = some p ∧ q.stage = p.stage ∧ q.cancelled = p.cancelled ∧ q.finished = p.finished := by
  rw [progress?, progress?, there] at same
  obtain ⟨p, here, alike⟩ := Option.map_eq_some_iff.mp same.symm
  obtain ⟨stage, marks⟩ := Prod.mk.inj alike
  obtain ⟨cancelled, finished⟩ := Prod.mk.inj marks
  exact ⟨p, here, stage.symm, cancelled.symm, finished.symm⟩

theorem Apart.trans (first : Apart t s s') (rest : Apart t s' s'') : Apart t s s'' where
  now := rest.now.trans first.now
  ready here := rest.ready (first.ready here)
  awaits := rest.awaits.trans first.awaits
  refusal := rest.refusal.trans first.refusal
  attempt := rest.attempt.trans first.attempt
  progress := by
    rcases rest.progress with woken | same
    · exact .inl woken
    · exact first.progress.imp rest.ready same.trans

theorem Apart.tuned (apart : Apart t s s') (tuned : s.Tuned t) : s'.Tuned t := by
  rw [Tuned, apart.attempt]
  exact ⟨apart.awaits.trans tuned.awaits, apart.refusal.trans tuned.accepted⟩

-- Only other parts of the sitting change.
theorem apart_of (now : s'.now = s.now) (ready : t ∈ s.ready → t ∈ s'.ready) (history : s'.history = s.history)
    (calls : s'.calls = s.calls) (popups : s'.popups = s.popups) : Apart t s s' where
  now := now
  ready := ready
  awaits := by rw [awaits, history, awaits]
  refusal := by rw [Sitting.refusal, history, Sitting.refusal]
  attempt := by cases t <;> simp only [attempt?, calls, popups]
  progress := .inr (by cases t <;> simp only [progress?, popups])

theorem apart_record (other : e.concerns t = false) : Apart t s (s.record e) :=
  ⟨rfl, id, awaited_skip other, refusal_skip other, rfl, .inr rfl⟩

theorem updated_popups (f : Popup → Popup) (other : .popup i ≠ t) :
    (s.updatePopup i f).attempt? t = s.attempt? t ∧ (s.updatePopup i f).progress? t = s.progress? t := by
  cases t with
  | call n => exact ⟨rfl, rfl⟩
  | popup j =>
    have other : i ≠ j := fun same => other (congrArg _ same)
    constructor <;> simp [attempt?, progress?, updatePopup, other]

theorem apart_setStage (other : .popup i ≠ t) : Apart t s (s.setStage i stage) :=
  ⟨rfl, id, rfl, rfl, (updated_popups _ other).1, .inr (updated_popups _ other).2⟩

-- Neither the count of its posts nor its window matters to a session's task until it looks.
theorem apart_updatePopup {f : Popup → Popup} (staged : ∀ p, (f p).stage = p.stage)
    (cancelled : ∀ p, (f p).cancelled = p.cancelled) (finished : ∀ p, (f p).finished = p.finished) :
    Apart t s (s.updatePopup i f) := by
  by_cases other : .popup i = t
  · subst other
    refine ⟨rfl, id, rfl, rfl, ?_, .inr ?_⟩ <;>
      cases here : s.popups[i]? <;> simp [attempt?, progress?, updatePopup, here, staged, cancelled, finished]
  · exact ⟨rfl, id, rfl, rfl, (updated_popups _ other).1, .inr (updated_popups _ other).2⟩

theorem apart_setCall (other : .call n ≠ t) : Apart t s (s.setCall n p) := by
  refine ⟨rfl, id, rfl, rfl, ?_, .inr (by cases t <;> rfl)⟩
  cases t with
  | popup i => rfl
  | call m =>
    have other : m ≠ n := fun same => other (congrArg _ same.symm)
    rw [attempt?, set_other other]
    rfl

theorem apart_removeCall (other : .call n ≠ t) : Apart t s (s.removeCall n) := by
  refine ⟨rfl, id, rfl, rfl, ?_, .inr (by cases t <;> rfl)⟩
  cases t with
  | popup i => rfl
  | call m =>
    have other : m ≠ n := fun same => other (congrArg _ same.symm)
    rw [attempt?, removed_other other]
    rfl

theorem apart_endCall (other : .call n ≠ t) : Apart t s (s.endCall n r) :=
  (apart_removeCall other).trans (apart_record rfl)

theorem apart_closePopup : Apart t s (s.closePopup i) := by
  have updated : Apart t s (s.updatePopup i fun p => { p with closed := true }) :=
    apart_updatePopup (fun _ => rfl) (fun _ => rfl) fun _ => rfl
  exact updated.trans (apart_record rfl)

theorem mem_enqueue_of_mem {ready : List Task} (here : t ∈ ready) : t ∈ enqueue ready u := by
  unfold enqueue
  split
  · exact here
  · exact List.mem_append_left _ here

theorem mem_wakeAll (woken : List Task) {ready : List Task} (here : t ∈ ready ∨ t ∈ woken) :
    t ∈ woken.foldl enqueue ready := by
  induction woken generalizing ready with
  | nil => exact here.resolve_right List.not_mem_nil
  | cons u rest ih =>
    apply ih
    rcases here with old | new
    · exact .inl (mem_enqueue_of_mem old)
    · rcases List.mem_cons.mp new with same | later
      · exact .inl (same ▸ mem_enqueue)
      · exact .inr later

theorem apart_wake : Apart t s (s.wake u) := apart_of rfl mem_enqueue_of_mem rfl rfl rfl

theorem apart_wakeAll (woken : List Task) : Apart t s (s.wakeAll woken) :=
  apart_of rfl (fun here => mem_wakeAll woken (.inl here)) rfl rfl rfl

-- The task of the session that ends is woken.
theorem apart_mark {mark : Popup → Popup} (staged : ∀ p, (mark p).stage = p.stage) :
    Apart t s ((s.updatePopup i mark).wake (.popup i)) := by
  by_cases other : .popup i = t
  · subst other
    refine ⟨rfl, mem_enqueue_of_mem, rfl, rfl, ?_, .inl mem_enqueue⟩
    cases here : s.popups[i]? <;> simp [attempt?, wake, updatePopup, here, staged]
  · have updated : Apart t s (s.updatePopup i mark) :=
      ⟨rfl, id, rfl, rfl, (updated_popups _ other).1, .inr (updated_popups _ other).2⟩
    exact updated.trans apart_wake

theorem apart_endSession (unheard : ∀ i, (h i).concerns t = false) (staged : ∀ p, (mark p).stage = p.stage) :
    Apart t s (s.endSession h mark phase) := by
  unfold endSession
  split
  · exact apart_of rfl id rfl rfl rfl
  · rename_i i _
    have ended : Apart t s (closePopup i (wake (.popup i) (updatePopup i mark (record (h i) s)))) :=
      ((apart_record (unheard i)).trans (apart_mark staged)).trans apart_closePopup
    exact ended.trans (apart_of rfl id rfl rfl rfl)

theorem apart_settle (other : .popup i ≠ t) : Apart t s (settle i o s) := by
  let s₁ := s.hangUp (s.popups[i]?.bind (·.stage.attempt?))
  have hungUp : Apart t s s₁ := apart_of rfl id rfl rfl rfl
  have closed : Apart t s (closePopup i s₁) := hungUp.trans apart_closePopup
  let s₂ := { closePopup i s₁ with
    session := if s.session.live = some i then ⟨.ofOutcome o, none⟩ else s.session }
  have freed : Apart t s s₂ := closed.trans (apart_of rfl id rfl rfl rfl)
  have staged : Apart t s (setStage i (.settled o) s₂) := freed.trans (apart_setStage other)
  have settled : Apart t s (record (.settled i o) (setStage i (.settled o) s₂)) :=
    staged.trans (apart_record (by simpa [Happening.concerns, Happening.ends] using other))
  exact settled.trans (apart_wakeAll _)

theorem apart_conclude (other : u ≠ t) : Apart t s (conclude u a o s) := by
  have hungUp : Apart t s (s.hangUp (some a)) := apart_of rfl id rfl rfl rfl
  exact hungUp.trans (apart_record (by simpa [Happening.concerns, Happening.ends] using other))

theorem apart_report (other : u ≠ t) : Apart t s (report u o s) := by
  unfold report
  split
  · exact apart_endCall other
  · exact apart_of rfl id rfl rfl rfl

-- One more leaves those before it where they were.
theorem popups_append {popups : List Popup} {p : Popup} {j : Nat} (other : j ≠ popups.length) :
    (popups ++ [p])[j]? = popups[j]? := by
  rw [List.getElem?_append]
  split
  · rfl
  · rename_i beyond
    have further : popups.length < j := Nat.lt_of_le_of_ne (Nat.le_of_not_lt beyond) other.symm
    rw [List.getElem?_eq_none (Nat.le_of_lt further), List.getElem?_eq_none]
    exact Nat.sub_pos_of_lt further

-- A popup that was not there before is woken at once.
theorem apart_beginSession : Apart t s (beginSession w setup s).2 := by
  unfold beginSession
  split
  · exact apart_record rfl
  · dsimp only
    split
    · refine .trans ?_ (apart_record rfl)
      exact apart_of rfl id rfl rfl rfl
    · by_cases new : .popup s.popups.length = t
      · subst new
        refine ⟨rfl, mem_enqueue_of_mem, rfl, rfl, ?_, .inl mem_enqueue⟩
        simp [attempt?, wake, record, Stage.attempt?]
      · cases t with
        | call n => exact ⟨rfl, mem_enqueue_of_mem, rfl, rfl, rfl, .inr rfl⟩
        | popup j =>
          have other : j ≠ s.popups.length := fun same => new (congrArg _ same.symm)
          refine ⟨rfl, mem_enqueue_of_mem, rfl, rfl, ?_, .inr ?_⟩
          · simp only [attempt?, wake, record, popups_append other]
          · simp only [progress?, wake, record, popups_append other]

theorem apart_sendOff (other : u ≠ t) : Apart t s (s.sendOff u origin r timeout reason) := by
  have subscribed : Apart t s { s with bus := s.bus.subscribe.2 } := apart_of rfl id rfl rfl rfl
  have listened : Apart t s (listen u origin r.id timeout s).2 :=
    subscribed.trans (apart_record (e := .listened u _) (by simpa [Happening.concerns] using other))
  let s₁ := (listen u origin r.id timeout s).2
  have sent : Apart t s₁ { s₁ with posted := s.posted ++ [r.id] } := apart_of rfl id rfl rfl rfl
  have posted := apart_record (s := { s₁ with posted := s.posted ++ [r.id] })
    (e := .posted u r.encode origin reason) (t := t) (by simpa [Happening.concerns] using other)
  exact (listened.trans sent).trans posted

-- A call that was not there before waits for nothing yet.
theorem apart_start : Apart t s (s.start op) := by
  refine ⟨rfl, mem_enqueue_of_mem, rfl, rfl, ?_, .inr (by cases t <;> rfl)⟩
  cases t with
  | popup i => rfl
  | call m =>
    simp only [attempt?, start, wake, List.lookup_append, Lookup.head, List.lookup_nil]
    cases s.calls.lookup m with
    | some p => rfl
    | none => by_cases same : m = s.nextCall <;> simp [same, Pending.attempt?]

theorem apart_dropCall (other : .call n ≠ t) : Apart t s (s.dropCall n p) := by
  have hungUp : Apart t s (s.hangUp p.attempt?) := apart_of rfl id rfl rfl rfl
  have recorded : Apart t ((s.hangUp p.attempt?).removeCall n) _ :=
    apart_record (e := .aborted n) (by simpa [Happening.concerns, Happening.ends] using other)
  exact (hungUp.trans (apart_removeCall other)).trans recorded

theorem apart_deliver : Apart t s (s.deliver m) := by
  have dispatched : Apart t s { s with bus := s.bus.dispatch m } := apart_of rfl id rfl rfl rfl
  exact (dispatched.trans (apart_wakeAll _)).trans (apart_record rfl)

-- Whatever a task does, the others still await what they hold, unless they are calls that are taken away.
theorem Move.apart (move : Move w setup v s s') (other : v ≠ some t) :
    Apart t s s' ∨ ∃ n p, t = .call n ∧ s' = s.dropCall n p := by
  have elsewhere {u : Task} (actor : v = some u) : u ≠ t := fun same => other (same ▸ actor)
  by_cases dropped : ∃ n p, t = .call n ∧ s' = s.dropCall n p
  · exact .inr dropped
  refine .inl ?_
  cases move
  case drop => exact apart_dropCall fun same => dropped ⟨_, _, same.symm, rfl⟩
  case wake => exact apart_wake
  case take => exact ⟨rfl, fun here => (List.mem_erase_of_ne (elsewhere rfl).symm).mpr here, rfl, rfl, rfl, .inr rfl⟩
  case deliver => exact apart_deliver
  case draw | authorize | close | letGo | select => exact apart_of rfl id rfl rfl rfl
  case skip =>
    refine .trans ?_ (apart_record rfl)
    exact apart_of rfl id rfl rfl rfl
  case resume => exact apart_record rfl
  case ask => exact apart_sendOff (elsewhere rfl)
  case conclude => exact (apart_conclude (elsewhere rfl)).trans (apart_report (elsewhere rfl))
  case count => exact apart_updatePopup (fun _ => rfl) (fun _ => rfl) fun _ => rfl
  case wait => exact apart_setStage (elsewhere rfl)
  case look =>
    refine .trans ?_ (apart_setStage (elsewhere rfl))
    exact apart_record rfl
  case gone =>
    refine .trans ?_ (apart_settle (elsewhere rfl))
    exact apart_record rfl
  case settle => exact apart_settle (elsewhere rfl)
  case answer => exact (apart_conclude (elsewhere rfl)).trans (apart_settle (elsewhere rfl))
  case begin => exact apart_beginSession
  case complete | cancel => exact apart_endSession (fun _ => rfl) fun _ => rfl
  case await | join | attend => exact apart_setCall (elsewhere rfl)
  case launch =>
    refine .trans ?_ (apart_setCall (elsewhere rfl))
    exact (apart_record rfl).trans (apart_of rfl id rfl rfl rfl)
  case list =>
    refine .trans ?_ (apart_endCall (elsewhere rfl))
    exact (apart_record rfl).trans (apart_of rfl id rfl rfl rfl)
  case fail | arrive =>
    refine .trans ?_ (apart_endCall (elsewhere rfl))
    exact apart_of rfl id rfl rfl rfl
  case done => exact apart_endCall (elsewhere rfl)
  case start => exact apart_start
  case leave =>
    refine .trans (apart_updatePopup ?_ ?_ ?_) (apart_record rfl)
    all_goals exact fun _ => rfl

theorem dropped_awaits : (s.dropCall n p).awaits (.call n) = none := by
  simp [awaits, dropCall, record, awaited, Happening.ends]

theorem dropped_tuned (s : Sitting) (p : Pending) : (s.dropCall n p).Tuned (.call n) := by
  have holdsNone : (s.dropCall n p).attempt? (.call n) = none :=
    congrArg (·.bind Pending.attempt?) (removed_lookup (s := s.hangUp p.attempt?))
  rw [Tuned, holdsNone]
  refine ⟨dropped_awaits, ?_⟩
  simp [Sitting.refusal, dropCall, record, History.refusal, Happening.ends]

theorem Move.tuned (move : Move w setup v s s') (other : v ≠ some t) (tuned : s.Tuned t) : s'.Tuned t := by
  rcases move.apart other with apart | ⟨n, p, rfl, rfl⟩
  · exact apart.tuned tuned
  · exact dropped_tuned s p

end Sitting
end CourseFiles
