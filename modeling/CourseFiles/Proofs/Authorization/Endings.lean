import CourseFiles.Proofs.Authorization.Waiting
import CourseFiles.Proofs.Picker.InFlight
import CourseFiles.Proofs.Sitting.Promptness

namespace CourseFiles

open History

namespace Phase

variable {o : SessionOutcome}

theorem ofOutcome_completed : ofOutcome o = .completed ↔ o = .ok () := by
  rcases o with e | ⟨⟩
  · cases e <;> simp [ofOutcome]
  · simp [ofOutcome]

theorem ofOutcome_closed : ofOutcome o = .closed ↔ o = .error .windowClosed ∨ o = .error .cancelled := by
  rcases o with e | ⟨⟩
  · cases e <;> simp [ofOutcome]
  · simp [ofOutcome]

theorem ofOutcome_failed : ofOutcome o = .failed ↔ ∃ e, o = .error e ∧ e ≠ .windowClosed ∧ e ≠ .cancelled := by
  rcases o with e | ⟨⟩
  · cases e <;> simp [ofOutcome]
  · simp [ofOutcome]

end Phase

namespace Popup

theorem decided_ungoing {p : Popup} (still : ¬ p.Going) : ∃ o, p.Decided o := by
  cases ended : p.stage.outcome? with
  | some o => exact ⟨o, .settled ended⟩
  | none =>
    cases cancelled : p.cancelled with
    | true => exact ⟨_, .cancelled ended cancelled⟩
    | false =>
      cases finished : p.finished with
      | true => exact ⟨_, .completed ended cancelled finished⟩
      | false => exact absurd ⟨cancelled, finished, ended⟩ still

end Popup

namespace Sitting

-- The session has ended so, or its task is ready and ends it so when its turn comes.
def Sealed (w : Surroundings) (terms : Terms) (s : Sitting) (i : Nat) (o : SessionOutcome) : Prop :=
  s.outcome? i = some o ∨
    s.outcome? i = none ∧ .popup i ∈ s.ready ∧ (act w terms (.turn (.popup i)) s).outcome? i = some o

-- One popup is touched at most: neither the slot, the picker or a call, nor what any other task holds, awaits or has
-- received.
structure Spares (i : Nat) (s s' : Sitting) : Prop where
  session : s'.session = s.session
  picker : s'.picker = s.picker
  calls : s'.calls = s.calls
  popups : ∀ j, j ≠ i → s'.popups[j]? = s.popups[j]?
  apart : ∀ t, t ≠ .popup i → Apart t s s'
  received : ∀ t a, t ≠ .popup i → s.awaits t = some a → s'.bus.queue? a.listener = s.bus.queue? a.listener

-- Since it joined the popup's session a call waits for its outcome, or has been told it.
structure Served (n i : Nat) (h₀ : History) (s : Sitting) : Prop where
  known : n < s.nextCall
  waits : ∀ p, s.calls.lookup n = some p → p = .joined i
  told : ∃ newer, s.history = newer ++ h₀ ∧
    ∀ time r, (time, .finished n r) ∈ newer → ∃ o, r = .session o ∧ s.outcome? i = some o

variable {w : Surroundings} {setup : Setup} {s s' : Sitting} {v : Option Task} {n m i : Nat} {p : Popup}
  {o : SessionOutcome} {h₀ : History}

theorem marked_turn (here : s.popups[i]? = some p) (unsettled : p.stage.outcome? = none) (decided : p.Decided o) :
    act w setup (.turn (.popup i)) s = settle i o { s with ready := s.ready.erase (.popup i) } := by
  simp only [act, turn, popupTurn, here]
  split
  · rename_i o' stage
    rw [stage] at unsettled
    cases unsettled
  all_goals
    cases decided with
    | settled ended => cases unsettled.symm.trans ended
    | cancelled _ marked => rw [if_pos marked]
    | completed _ unmarked marked => rw [if_neg (by simp [unmarked]), if_pos marked]

theorem settled_outcome (here : s.popups[i]? = some p) : (settle i o s).outcome? i = some o := by
  rw [outcome?, settled_popup here]
  rfl

theorem Decided.sealed (decided : s.Decided i o) (roused : s.Roused none) : Sealed w setup s i o := by
  obtain ⟨p, here, decision⟩ := decided
  cases ended : p.stage.outcome? with
  | some o' =>
    cases decision.unique (.settled ended)
    refine .inl ?_
    rw [outcome?, here]
    exact ended
  | none =>
    have unsettled : s.outcome? i = none := by
      rw [outcome?, here]
      exact ended
    refine .inr ⟨unsettled, roused.popups i o (by simp) ⟨p, here, decision⟩ unsettled, ?_⟩
    rw [marked_turn here ended decision]
    exact settled_outcome (s := { s with ready := _ }) here

theorem Reached.spares (path : Reached w setup .initial s) (other : s.session.live ≠ some i) :
    Spares i s (act w setup (.turn (.popup i)) s) := by
  let s₁ := { s with ready := s.ready.erase (.popup i) }
  have taken (t : Task) (apart : t ≠ .popup i) : Apart t s s₁ :=
    apart_of rfl (List.mem_erase_of_ne apart).mpr rfl rfl rfl
  have idle (same : act w setup (.turn (.popup i)) s = s₁) : Spares i s (act w setup (.turn (.popup i)) s) := by
    rw [same]
    exact ⟨rfl, rfl, rfl, fun _ _ => rfl, taken, fun _ _ _ _ => rfl⟩
  cases here : s.popups[i]? with
  | none => exact idle (by simp only [act, turn, popupTurn, here, s₁])
  | some p =>
    cases ended : p.stage.outcome? with
    | some o =>
      apply idle
      cases stage : p.stage <;> rw [stage] at ended <;> cases ended
      simp only [act, turn, popupTurn, here, stage, s₁]
    | none =>
      have still : ¬ p.Going := fun going => other ((path.owned.goes i).mpr ⟨p, here, going⟩)
      obtain ⟨o, decided⟩ := Popup.decided_ungoing still
      rw [marked_turn here ended decided]
      have held : s.awaits (.popup i) = p.stage.attempt? := by
        rw [(path.tuned (.popup i)).awaits, attempt?, here]
        rfl
      constructor
      · rw [settle_session, if_neg other]
      · rfl
      · rfl
      · intro j apart
        exact settled_other apart
      · intro t apart
        exact (taken t apart).trans (apart_settle apart.symm)
      · intro t a apart on
        exact settle_queue (s := s₁) path.wired here (fun b mine => awaited_listened (held.trans mine)) apart.symm on

theorem Served.other (served : Served n i h₀ s) (stirs : s.Stirs m) : m ≠ n := by
  rintro rfl
  obtain ⟨p, here, stirs⟩ := stirs
  cases served.waits p here
  cases stirs

theorem Served.kept (served : Served n i h₀ s) (abides : s.Abides s') (next : s.nextCall ≤ s'.nextCall)
    (waits : ∀ p, s'.calls.lookup n = some p → s.calls.lookup n = some p) (newer : History)
    (grown : s'.history = newer ++ s.history)
    (told : ∀ time r, (time, .finished n r) ∈ newer → ∃ o, r = .session o ∧ s'.outcome? i = some o) :
    Served n i h₀ s' := by
  refine ⟨Nat.lt_of_lt_of_le served.known next, fun p here => served.waits p (waits p here), ?_⟩
  obtain ⟨earlier, before, learned⟩ := served.told
  refine ⟨newer ++ earlier, by rw [grown, before, List.append_assoc], ?_⟩
  intro time r here
  rcases List.mem_append.mp here with new | old
  · exact told time r new
  · obtain ⟨o, same, ended⟩ := learned time r old
    exact ⟨o, same, abides.outcome ended⟩

-- Nothing of it is the end of a call.
def Mutters (s s' : Sitting) : Prop := ∃ newer, s'.history = newer ++ s.history ∧ ∀ e ∈ newer, e.2.finished? = none

theorem Served.quiet (served : Served n i h₀ s) (abides : s.Abides s') (next : s'.nextCall = s.nextCall)
    (waits : ∀ p, s'.calls.lookup n = some p → s.calls.lookup n = some p) (mutters : s.Mutters s') :
    Served n i h₀ s' := by
  obtain ⟨newer, grown, silent⟩ := mutters
  refine served.kept abides (Nat.le_of_eq next.symm) waits newer grown ?_
  intro time r here
  cases silent _ here

-- A call ends: another one, or this one with the outcome.
theorem Served.ended (served : Served n i h₀ s) (abides : s.Abides (s'.endCall m r)) (calls : s'.calls = s.calls)
    (next : s'.nextCall = s.nextCall) (mutters : s.Mutters s')
    (own : m = n → ∃ o, r = .session o ∧ s.outcome? i = some o) : Served n i h₀ (s'.endCall m r) := by
  obtain ⟨newer, grown, silent⟩ := mutters
  refine served.kept abides (Nat.le_of_eq next.symm) ?_ ((s'.now, .finished m r) :: newer) ?_ ?_
  · intro p here
    rw [← calls]
    exact removed_here here
  · rw [endCall, record, removeCall, grown, List.cons_append]
  · intro time r' here
    rcases List.mem_cons.mp here with mine | old
    · cases mine
      obtain ⟨o, same, ended⟩ := own rfl
      exact ⟨o, same, abides.outcome ended⟩
    · cases silent _ old

theorem beginSession_mutters : s.Mutters (beginSession w setup s).2 :=
  beginSession_records (P := fun e => e.finished? = none) (fun _ => rfl) (fun _ _ _ _ _ => rfl) fun _ _ _ => rfl

theorem endSession_mutters (silent : ∀ i, (h i).finished? = none) : s.Mutters (endSession h mark phase s) :=
  endSession_records (P := fun e => e.finished? = none) (fun _ _ => rfl) silent

theorem Move.served (move : Move w setup v s s') (owned : s.Owned) (served : Served n i h₀ s) : Served n i h₀ s' := by
  have abides := move.abides owned
  have set {m : Nat} {q : Pending} {s₁ : Sitting} (stirs : s.Stirs m) (abides : s.Abides (s₁.setCall m q))
      (calls : s₁.calls = s.calls) (next : s₁.nextCall = s.nextCall) (mutters : s.Mutters s₁) :
      Served n i h₀ (s₁.setCall m q) := by
    refine served.quiet abides next ?_ mutters
    intro p here
    rwa [set_other (served.other stirs).symm, calls] at here
  have concluded (t : Task) (a : Attempt) (o : CallOutcome) : s.Mutters (Sitting.conclude t a o s) :=
    ⟨[_], rfl, by simp [Happening.finished?]⟩
  cases move with
  | @conclude _ t _ _ _ _ _ own =>
    cases t with
    | call m =>
      exact served.ended abides rfl rfl (concluded _ _ _) fun same => absurd same (served.other (own m rfl).stirs)
    | popup j => exact served.quiet abides rfl (fun _ => id) (concluded _ _ _)
  | begin =>
    exact served.quiet abides beginSession_beside.nextCall (fun _ here => beginSession_beside.calls ▸ here)
      beginSession_mutters
  | complete =>
    exact served.quiet abides completeSession_beside.nextCall (fun _ here => completeSession_beside.calls ▸ here)
      (endSession_mutters fun _ => rfl)
  | cancel =>
    exact served.quiet abides cancelSession_beside.nextCall (fun _ here => cancelSession_beside.calls ▸ here)
      (endSession_mutters fun _ => rfl)
  | await on own => exact set own.stirs abides rfl rfl ⟨[], rfl, by simp⟩
  | join live asked => exact set ⟨_, asked, rfl⟩ abides rfl rfl ⟨[], rfl, by simp⟩
  | attend live asking asked => exact set ⟨_, asked, rfl⟩ abides rfl rfl ⟨[], rfl, by simp⟩
  | launch change => exact set change.stirs abides rfl rfl ⟨[_], rfl, by simp [Happening.finished?]⟩
  | fail why =>
    exact served.ended abides rfl rfl ⟨[], rfl, by simp⟩ fun same => absurd same (served.other why.stirs)
  | list change =>
    exact served.ended abides rfl rfl ⟨[_], rfl, by simp [Happening.finished?]⟩
      fun same => absurd same (served.other change.stirs)
  | arrive waiting =>
    refine served.ended abides rfl rfl ⟨[], rfl, by simp⟩ ?_
    rintro rfl
    cases served.waits _ waiting
  | done plain =>
    refine served.ended abides rfl rfl ⟨[], rfl, by simp⟩ ?_
    intro same
    rcases plain.stirs with stirs | ⟨j, o, waiting, ended, result⟩
    · exact absurd same (served.other stirs)
    · subst same
      cases served.waits _ waiting
      exact ⟨o, result, ended⟩
  | start =>
    refine served.kept abides (Nat.le_succ _) ?_ [] rfl (by simp)
    intro p here
    rcases started_here here with before | ⟨new, _⟩
    · exact before
    · exact absurd new (Nat.ne_of_lt served.known)
  | drop =>
    refine served.quiet abides rfl ?_ ⟨[_], rfl, by simp [Happening.finished?]⟩
    intro p here
    exact removed_here (s := s.hangUp _) here
  | gone | answer => exact served.quiet abides rfl (fun _ => id) ⟨[_, _, _], rfl, by simp [Happening.finished?]⟩
  | settle | ask => exact served.quiet abides rfl (fun _ => id) ⟨[_, _], rfl, by simp [Happening.finished?]⟩
  | deliver | skip | resume | look | leave =>
    exact served.quiet abides rfl (fun _ => id) ⟨[_], rfl, by simp [Happening.finished?]⟩
  | _ => exact served.quiet abides rfl (fun _ => id) ⟨[], rfl, by simp⟩

theorem Reached.served (path : Reached w setup .initial s) (waiting : s.calls.lookup n = some (.joined i))
    (later : Reached w setup s s') : Served n i s.history s' := by
  have begun : Served n i s.history s := by
    refine ⟨path.numbered.known _ (Lookup.mem waiting), ?_, [], rfl, fun _ _ here => absurd here List.not_mem_nil⟩
    intro p here
    exact Option.some.inj (here.symm.trans waiting)
  have both : s'.Owned ∧ Served n i s.history s' := by
    refine later.keeps (P := fun s' => s'.Owned ∧ Served n i s.history s') path.tuned ⟨path.owned, begun⟩ ?_ ?_
    · intro v s₁ s₂ move here
      exact ⟨move.owned here.1, move.served here.1 here.2⟩
    · intro s₁ ms here
      exact ⟨here.1.frame [] rfl rfl (fun _ => .rfl) rfl (by simp),
        here.2.quiet (.of rfl) rfl (fun _ => id) ⟨[], rfl, by simp⟩⟩
  exact both.2

theorem finished_now : (s.now, .finished n r) ∈ (finish n r s).history := by
  obtain ⟨newer, grown, _⟩ := (aside_release (s := s.endCall n r)).grown
  rw [finish, grown]
  exact List.mem_append_right _ List.mem_cons_self

-- A call that starts a session waits for the one that is live then, or is told at once that no window could be opened.
theorem starting_turn (asked : s.calls.lookup n = some (.queued .session)) :
    (∃ i, (act w setup (.turn (.call n)) s).calls.lookup n = some (.joined i) ∧
        (act w setup (.turn (.call n)) s).session.live = some i) ∨
      ∃ reason, (s.now, .finished n (.session (.error (.notOpened reason)))) ∈
        (act w setup (.turn (.call n)) s).history := by
  let s₁ := { s with ready := s.ready.erase (.call n) }
  simp only [act, turn, callTurn, asked, beginCall]
  obtain ⟨s', beside, ⟨i, opened, live⟩ | ⟨reason, refused, _⟩⟩ := beginSession_cases w setup s₁
  · refine .inl ⟨i, ?_⟩
    obtain ⟨ready, joined⟩ := join_sets (s := s') (n := n) (i := i) (p := .joined i)
    rw [opened]
    dsimp only
    rw [joined]
    refine ⟨?_, live⟩
    dsimp only
    rw [set_lookup, beside.calls, asked]
    rfl
  · refine .inr ⟨reason, ?_⟩
    rw [refused, ← show s'.now = s.now from beside.now]
    exact finished_now

theorem joined_told (waiting : s.calls.lookup n = some (.joined i)) (ended : s.outcome? i = some o) :
    (s.now, .finished n (.session o)) ∈ (act w setup (.turn (.call n)) s).history := by
  rw [joined_turn waiting ended]
  exact finished_now (s := { s with ready := _ })

theorem Reached.sealed (path : Reached w setup .initial s) (here : (time, e) ∈ s.history)
    (ruled : e.rules i = some o) : Sealed w setup s i o :=
  (path.honoured _ here i o ruled).sealed path.roused

theorem Reached.phase (path : Reached w setup .initial s) (last : latest s.history = some i)
    (ended : s.outcome? i = some o) : s.session.phase = .ofOutcome o := by
  rcases path.phased i last with live | ⟨_, o', decided, phase⟩
  · cases (path.owned.unsettled live).symm.trans ended
  · rw [phase, decided.unique (outcome_decided ended)]

-- Whoever starts a session joins the popup that is live then. All who joined one popup are told the same, which never
-- changes: that it ended well if it was completed while it was live, that it was cancelled if that was done, whatever
-- comes before its task's next turn. A session that was replaced spares all others when it ends; and as long as no
-- other was asked for the phase is that of the outcome.
structure EndsAsDecided (w : Surroundings) (terms : Terms) (s : Sitting) : Prop where
  joins : ∀ n, s.calls.lookup n = some (.queued .session) →
    (∃ i, (act w terms (.turn (.call n)) s).calls.lookup n = some (.joined i) ∧
        (act w terms (.turn (.call n)) s).session.live = some i) ∨
      ∃ reason, (s.now, .finished n (.session (.error (.notOpened reason)))) ∈
        (act w terms (.turn (.call n)) s).history
  told : ∀ n i o, s.calls.lookup n = some (.joined i) → s.outcome? i = some o →
    .call n ∈ s.ready ∧ (s.now, .finished n (.session o)) ∈ (act w terms (.turn (.call n)) s).history
  alike : ∀ n i s', s.calls.lookup n = some (.joined i) → Reached w terms s s' →
    ∃ newer, s'.history = newer ++ s.history ∧
      ∀ time r, (time, .finished n r) ∈ newer → ∃ o, r = .session o ∧ s'.outcome? i = some o
  lasts : ∀ i o s', s.outcome? i = some o → Reached w terms s s' → s'.outcome? i = some o
  marks : ∀ i, s.session.live = some i →
    (s.now, .completed i) ∈ s.completeSession.history ∧ (s.now, .cancelled i) ∈ s.cancelSession.history
  completed : ∀ time i, (time, .completed i) ∈ s.history → Sealed w terms s i (.ok ())
  cancelled : ∀ time i, (time, .cancelled i) ∈ s.history → Sealed w terms s i (.error .cancelled)
  spares : ∀ i, s.session.live ≠ some i → Spares i s (act w terms (.turn (.popup i)) s)
  phase : ∀ i o, latest s.history = some i → s.outcome? i = some o →
    (s.session.phase = .completed ↔ o = .ok ()) ∧
    (s.session.phase = .closed ↔ o = .error .windowClosed ∨ o = .error .cancelled) ∧
    (s.session.phase = .failed ↔ ∃ e, o = .error e ∧ e ≠ .windowClosed ∧ e ≠ .cancelled)

-- Options with a pause are those of some settings.
theorem terms_of_settings (terms : Terms) (paced : 0 < terms.options.pause) : ∃ setup : Setup, setup.terms = terms := by
  obtain ⟨token, authUrl, path, timeout, callTimeout, pause, features⟩ := terms
  refine ⟨⟨token, authUrl, path, { Settings.standard with
    sessionTimeout := timeout, callTimeout := callTimeout, pollInterval := pause,
    popupWidth := features.width, popupHeight := features.height }⟩, ?_⟩
  have same : max pause 1 = pause := Nat.max_eq_left paced
  simp [Setup.terms, SessionOptions.ofSettings, Settings.pollPause, Settings.features, same]

theorem sessions_end_as_decided (terms : Terms) (paced : 0 < terms.options.pause)
    (path : Reached w terms .initial s) : EndsAsDecided w terms s := by
  obtain ⟨setup, rfl⟩ := terms_of_settings terms paced
  constructor
  case joins => exact fun n => starting_turn
  case told =>
    intro n i o waiting ended
    exact ⟨path.roused.calls n i o (by simp) (joined_waits waiting) ended, joined_told waiting ended⟩
  case alike =>
    intro n i s' waiting later
    exact (path.served waiting later).told
  case lasts =>
    intro i o s' ended later
    exact (path.abides later).outcome ended
  case marks =>
    intro i live
    have recorded (h : Nat → Happening) (mark : Popup → Popup) (phase : Phase) :
        (s.now, h i) ∈ (endSession h mark phase s).history := by
      obtain ⟨wasOpen, grown⟩ := endSession_history h mark phase live
      rw [grown]
      exact List.mem_cons_of_mem _ List.mem_cons_self
    exact ⟨recorded _ _ _, recorded _ _ _⟩
  case completed =>
    intro time i here
    exact path.sealed here (by simp [Happening.rules])
  case cancelled =>
    intro time i here
    exact path.sealed here (by simp [Happening.rules])
  case spares => exact fun i => path.spares
  case phase =>
    intro i o last ended
    rw [path.phase last ended]
    exact ⟨Phase.ofOutcome_completed, Phase.ofOutcome_closed, Phase.ofOutcome_failed⟩

-- Two calls have joined the first popup, which was completed; another has been opened before its task runs.
def replaced : Sitting :=
  acts .calm .plain [.start .session, .turn (.call 0), .turn (.popup 0), .start .session, .turn (.call 1), .complete,
    .start .session, .turn (.call 2)] .initial

theorem replaced_ends_well : replaced.session.live = some 1 ∧ replaced.calls.lookup 0 = some (.joined 0) ∧
    replaced.calls.lookup 1 = some (.joined 0) ∧ Sealed .calm .plain replaced 0 (.ok ()) ∧
    Spares 0 replaced (act .calm .plain (.turn (.popup 0)) replaced) := by
  have ends : EndsAsDecided .calm .plain replaced := sessions_end_as_decided _ (by decide) (acts_reached _)
  have marked : (0, .completed 0) ∈ replaced.history := List.mem_of_getElem? (i := 2) rfl
  exact ⟨rfl, rfl, rfl, ends.completed 0 0 marked, ends.spares 0 (by decide)⟩

-- Options without a pause, which no settings give.
def impatient : Terms :=
  { Setup.plain.terms with options := { Setup.plain.terms.options with pause := 0 } }

-- The task has broken down, its call has been told so, and the session is completed after that.
def brokenDown : Sitting :=
  acts .calm impatient [.start .session, .turn (.call 0), .turn (.popup 0), .turn (.call 0), .complete] .initial

-- One of two calls that joined a popup is taken away before that is completed.
def takenAway : Sitting :=
  acts .calm .plain [.start .session, .turn (.call 0), .turn (.popup 0), .start .session, .turn (.call 1), .abort 0,
    .complete, .turn (.popup 0), .turn (.call 1)] .initial

-- Without a pause a call is told that its session was cancelled while that can still be completed; and a call that is
-- taken away is told nothing.
theorem sessions_may_end_otherwise :
    (¬ ∀ (w : Surroundings) (terms : Terms) (s : Sitting), Reached w terms .initial s → EndsAsDecided w terms s) ∧
    ¬ ∀ (w : Surroundings) (setup : Setup) (s s' : Sitting) (n i : Nat) (o : SessionOutcome),
      Reached w setup .initial s → s.calls.lookup n = some (.joined i) → Reached w setup s s' → s'.ready = [] →
        s'.outcome? i = some o → ∃ time, (time, .finished n (.session o)) ∈ s'.history := by
  constructor
  · intro all
    have ends : EndsAsDecided .calm impatient brokenDown := all _ _ _ (acts_reached _)
    have marked : (0, .completed 0) ∈ brokenDown.history := List.mem_of_getElem? (i := 1) rfl
    rcases ends.completed 0 0 marked with ended | ⟨unsettled, _⟩
    · cases ended
    · cases unsettled
  · intro all
    obtain ⟨time, told⟩ := all .calm .plain (acts .calm .plain [.start .session, .turn (.call 0)] .initial)
      takenAway 0 0 (.ok ()) (acts_reached _) rfl
      (acts_reached [.turn (.popup 0), .start .session, .turn (.call 1), .abort 0, .complete, .turn (.popup 0),
        .turn (.call 1)]) rfl rfl
    have untold : takenAway.history.all (fun e => e.2.finished?.all (·.1 != 0)) = true := rfl
    simpa [Happening.finished?] using List.all_eq_true.mp untold _ told

end Sitting
end CourseFiles
