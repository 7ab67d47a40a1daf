import CourseFiles.Proofs.Authorization.Marks
import CourseFiles.Proofs.Authorization.Prompt
import CourseFiles.Proofs.Authorization.Pursuit
import CourseFiles.Proofs.Messages.Senders

namespace CourseFiles

open History

def Act.isTurnOf (t : Task) : Act → Bool
  | .turn u => u = t
  | _ => false

namespace History

-- The time of a popup's session is not over. It begins when the popup is first asked.
def InTime (setup : Setup) (i now : Nat) (h : History) : Prop :=
  ∀ time a, (time, .listened (.popup i) a) ∈ h → now < time + setup.settings.sessionTimeout

-- The message is a result for the request that is awaited, and nothing worse was heard before it.
def Assents (i : Nat) (m : Message) (h : History) : Prop :=
  ∃ a j, awaited (.popup i) h = some a ∧ refusal (.popup i) h = none ∧ m.reply? a.origin a.id = some (.ok j) ∧
    ∀ time o, heard (.popup i) h = some (time, o) → ∃ j', o = .ok j'

-- Fewer messages are before the one that comes next than a task receives in one turn. Where requests are given no time,
-- what the task has done already at this instant counts too.
def InReach (setup : Setup) (i now : Nat) (h : History) : Prop :=
  backlog (.popup i) h < Sitting.allowance ∧
    (0 < setup.settings.callTimeout ∨ spent (.popup i) now h + backlog (.popup i) h < Sitting.allowance)

variable {i : Nat} {a : Attempt} {h since : History}

-- A request that is pursued when nothing worse has come for it takes a result that comes then.
theorem Pursues.assents (pursues : Pursues i a since h) (granted : m.reply? a.origin a.id = some (.ok j))
    (clear : ∀ time m' e, (time, .delivered m') ∈ since → m'.reply? a.origin a.id ≠ some (.error e)) :
    Assents i m h := by
  refine ⟨a, j, pursues.awaits, pursues.accepted, granted, ?_⟩
  intro time o there
  obtain ⟨m', here, answers⟩ := pursues.came time o there
  rcases o with e | j'
  · exact absurd answers (clear time m' e here)
  · exact ⟨j', rfl⟩

end History

namespace Sitting

-- What a popup's session finds first when it looks is a result, behind no more than so many messages.
structure Expects (s : Sitting) (i k : Nat) (a : Attempt) : Prop where
  holds : s.Holds (.popup i) (some a)
  good : ∃ j, a.reply? ((a.unread s.bus).take (k + 1)) = some (.ok j)

-- It finds it in its next turn.
def Assured (s : Sitting) (i : Nat) : Prop := ∃ k a, s.Expects i k a ∧ k < allowance

-- In the middle of its turn: it does not give up before that, or finds it in this one.
def Hopes (s : Sitting) (i : Nat) : Prop :=
  ∃ k a, s.Expects i k a ∧ k < allowance ∧ (s.now < a.deadline ∨ k + s.spent (.popup i) < allowance)

-- The session has ended well, or will once its task has looked.
def Favoured (s : Sitting) (i : Nat) : Prop := s.Assured i ∨ s.outcome? i = some (.ok ())

variable {w : Surroundings} {setup : Setup} {s s' : Sitting} {v : Option Task} {t : Task} {i d k n : Nat}
  {a b : Attempt}
  {p : Popup} {o : CallOutcome} {since : History}

theorem Hopes.assured (hopes : s.Hopes i) : s.Assured i := by
  obtain ⟨k, a, expects, few, _⟩ := hopes
  exact ⟨k, a, expects, few⟩

theorem Expects.same (expects : s.Expects i k a) (awaits : s'.awaits (.popup i) = s.awaits (.popup i))
    (refuses : s'.refusal (.popup i) = s.refusal (.popup i)) (unread : a.unread s'.bus = a.unread s.bus) :
    s'.Expects i k a :=
  ⟨⟨awaits.trans expects.holds.awaits, refuses.trans expects.holds.accepted⟩, unread ▸ expects.good⟩

theorem Expects.unread (expects : s.Expects i k a) : a.unread s.bus ≠ [] := by
  obtain ⟨j, good⟩ := expects.good
  intro received
  rw [received] at good
  cases good

theorem Expects.queue (expects : s.Expects i k a) : ∃ queue, s.bus.queue? a.listener = some queue := by
  cases here : s.bus.queue? a.listener with
  | some queue => exact ⟨queue, rfl⟩
  | none => exact absurd (by rw [Attempt.unread, here]; rfl) expects.unread

theorem unread_delivered (here : s.bus.queue? a.listener = some queue) : a.unread (s.deliver m).bus = queue ++ [m] := by
  rw [Attempt.unread, show (s.deliver m).bus = s.bus.dispatch m from rfl, Bus.queue?_dispatch, here]
  rfl

theorem Expects.deliver (expects : s.Expects i k a) : (s.deliver m).Expects i k a := by
  obtain ⟨queue, here⟩ := expects.queue
  obtain ⟨j, good⟩ := expects.good
  refine ⟨⟨expects.holds.awaits, expects.holds.accepted⟩, j, ?_⟩
  rw [unread_delivered here]
  rw [Attempt.unread, here] at good
  exact Attempt.reply?_grown good

theorem Expects.skip (expects : s.Expects i k a) (silent : a.reply? ((a.unread s.bus).take n) = none) :
    n ≤ k ∧ (s.skip (.popup i) a n).Expects i (k - n) a := by
  obtain ⟨queue, here⟩ := expects.queue
  obtain ⟨j, good⟩ := expects.good
  obtain ⟨further, behind⟩ := Attempt.reply?_behind silent good
  have holds : (s.skip (.popup i) a n).Holds (.popup i) (some a) :=
    ⟨(awaited_skip rfl).trans expects.holds.awaits, (refusal_skip rfl).trans expects.holds.accepted⟩
  refine ⟨further, holds, j, ?_⟩
  rw [show a.unread (s.skip (.popup i) a n).bus = (a.unread s.bus).drop n from Attempt.unread_setQueue here]
  exact behind

theorem Expects.ends (expects : s.Expects i k a) (on : s.awaits (.popup i) = some b) (ends : s.Ends (.popup i) b o) :
    b = a ∧ ((∃ j, o = .ok j) ∨
      o = .error (.timeout a.origin) ∧ a.deadline ≤ s.now ∧ allowance ≤ s.spent (.popup i)) := by
  cases on.symm.trans expects.holds.awaits
  refine ⟨rfl, ?_⟩
  cases ends with
  | refused refused => cases refused.symm.trans expects.holds.accepted
  | answered _ found =>
    obtain ⟨j, good⟩ := expects.good
    exact .inl ⟨j, Option.some.inj (found.symm.trans (Attempt.reply?_of_take good))⟩
  | lapsed _ late through => exact .inr ⟨rfl, late, through.resolve_left expects.unread⟩

theorem deliver_expects (wired : s.wire.Wired) (assents : Assents i m s.history) :
    ∃ a, (s.deliver m).Expects i (History.backlog (.popup i) s.history) a := by
  obtain ⟨a, j, on, accepted, granted, clear⟩ := assents
  obtain ⟨queue, here, same⟩ := wired.queue _ a on
  have here : s.bus.queue? a.listener = some queue := here
  have length : queue.length = History.backlog (.popup i) s.history := by
    have unread : (a.unread s.bus).length = History.backlog (.popup i) s.history := wired.unread _ a on
    rw [← unread, Attempt.unread, here]
    rfl
  have same : (heard (.popup i) s.history).map Prod.snd = a.reply? queue := same accepted
  refine ⟨a, ⟨on, accepted⟩, ?_⟩
  rw [unread_delivered here, List.take_of_length_le (by simp [length]), Attempt.reply?_append_singleton, ← same]
  cases told : heard (.popup i) s.history with
  | none => exact ⟨j, granted⟩
  | some r =>
    obtain ⟨j', good⟩ := clear r.1 r.2 told
    exact ⟨j', congrArg some good⟩

-- Nobody else takes it away.
theorem Move.expects (move : Move w setup v s s') (wired : s.wire.Wired) (other : v ≠ some (.popup i))
    (expects : s.Expects i k a) : s'.Expects i k a := by
  have apart : Apart (.popup i) s s' := (move.apart other).resolve_right (by simp)
  by_cases delivers : ∃ m, s' = s.deliver m
  · obtain ⟨m, rfl⟩ := delivers
    exact expects.deliver
  · apply expects.same apart.awaits apart.refusal
    have on := expects.holds.awaits
    rw [Attempt.unread, Attempt.unread, (move.inbox wired other on (apart.awaits.trans on)).resolve_left delivers]

-- What a move of the session's own task makes of it.
inductive Fares (setup : Setup) (i k : Nat) (a : Attempt) (s s' : Sitting) : Prop
  | nears (closer : k' ≤ k) (spends : k' + s'.spent (.popup i) ≤ k + s.spent (.popup i)) (now : s'.now = s.now)
      (expects : s'.Expects i k' a)
  | lapses (late : a.deadline ≤ s.now) (full : allowance ≤ s.spent (.popup i))
      (grown : s'.history = (s.now, .concluded (.popup i) a (.error (.timeout a.origin))) :: s.history)
  | ends {o : SessionOutcome} (newer : History) (ended : s'.outcome? i = some o)
      (grown : s'.history = (s.now, .settled i o) :: (newer ++ s.history))
      (cause : o = .ok () ∨ (∃ p, s.popups[i]? = some p ∧ p.cancelled = true) ∨
        ∃ d, s.expiry? setup i = some d ∧ d ≤ s.now)

theorem Move.fares (move : Move w setup (some (.popup i)) s s') (expects : s.Expects i k a) :
    Fares setup i k a s s' := by
  have same (awaits : s'.awaits (.popup i) = s.awaits (.popup i))
      (refuses : s'.refusal (.popup i) = s.refusal (.popup i)) (bus : s'.bus = s.bus) (now : s'.now = s.now)
      (spent : s'.spent (.popup i) = s.spent (.popup i)) : Fares setup i k a s s' :=
    .nears (Nat.le_refl k) (by rw [spent]) now (expects.same awaits refuses (by rw [bus]))
  have on := expects.holds.awaits
  cases move with
  | deliver =>
    have spent (m : Message) : (s.deliver m).spent (.popup i) = s.spent (.popup i) := spent_skip rfl
    exact .nears (Nat.le_refl k) (by rw [spent]) rfl expects.deliver
  | ask asks free => cases free.symm.trans on
  | @skip _ _ _ n there silent =>
    cases there.symm.trans on
    obtain ⟨further, behind⟩ := expects.skip silent
    have spent : (s.skip (.popup i) a n).spent (.popup i) = n + s.spent (.popup i) := by
      simp [Sitting.spent, Sitting.skip, record, History.spent, Happening.cost]
    exact .nears (Nat.sub_le k n) (by omega) rfl behind
  | resume free => cases free.symm.trans on
  | conclude there ends retry =>
    obtain ⟨rfl, ⟨j, rfl⟩ | ⟨rfl, late, full⟩⟩ := expects.ends there ends
    · exact absurd trivial (retry i rfl)
    · exact .lapses late full rfl
  | look => exact same (awaited_skip rfl) (refusal_skip rfl) rfl rfl (spent_skip rfl)
  | gone here going stage early time absent held rests =>
    exact absurd (rests a on).received expects.unread
  | settle here unsettled held cause =>
    refine .ends [_] (settled_outcome here) rfl ?_
    cases cause with
    | cancelled marked => exact .inr (.inl ⟨_, here, marked⟩)
    | completed => exact .inl rfl
    | expired going stage late => exact .inr (.inr ⟨_, by rw [found_expiry here, stage]; rfl, late⟩)
  | answer here going there old ends answer =>
    obtain ⟨rfl, ⟨j, rfl⟩ | ⟨rfl, _⟩⟩ := expects.ends there ends
    · exact .ends [_, _] (settled_outcome (s := Sitting.conclude _ _ _ s) here) rfl (.inl rfl)
    · cases answer
  | complete asked =>
    obtain ⟨n, other, _⟩ := asked _ rfl
    cases other
  | cancel =>
    have apart : Apart (.popup i) s s.cancelSession := apart_endSession (fun _ => rfl) fun _ => rfl
    have records : ∃ newer, s.cancelSession.history = newer ++ s.history ∧ ∀ e ∈ newer, e.2.cost (.popup i) = 0 :=
      endSession_records (P := fun e => e.cost (.popup i) = 0) (fun _ _ => rfl) fun _ => rfl
    obtain ⟨newer, grown, free⟩ := records
    have now : s.cancelSession.now = s.now := cancelSession_beside.now
    refine same apart.awaits apart.refusal (by rw [cancelSession, endSession_bus]) now ?_
    rw [Sitting.spent, grown, now]
    exact spent_free free
  | _ => exact same rfl rfl rfl rfl rfl

-- Neither does its own task: it may be stopped before it has looked, but then it has another turn.
theorem Move.ownHopes (move : Move w setup (some (.popup i)) s s')
    (uncancelled : ∀ p, s.popups[i]? = some p → p.cancelled = false)
    (intime : ∀ d, s.expiry? setup i = some d → s.now < d) (hopes : s.Hopes i) :
    s'.Hopes i ∨ s'.outcome? i = some (.ok ()) := by
  obtain ⟨k, a, expects, few, room⟩ := hopes
  cases move.fares expects with
  | nears closer spends now expects =>
    refine .inl ⟨_, a, expects, Nat.lt_of_le_of_lt closer few, ?_⟩
    rw [now]
    exact room.imp id (Nat.lt_of_le_of_lt spends)
  | lapses late full => omega
  | ends _ ended _ cause =>
    rcases cause with rfl | ⟨p, here, marked⟩ | ⟨d, expires, late⟩
    · exact .inr ended
    · cases (uncancelled p here).symm.trans marked
    · exact absurd late (Nat.not_le_of_lt (intime d expires))

-- It loses the result only with the request or the session.
theorem Move.expected (move : Move w setup v s s') (wired : s.wire.Wired) (expects : s.Expects i k a) :
    ∃ newer, s'.history = newer ++ s.history ∧ (Over i a newer ∨ ∃ k' ≤ k, s'.Expects i k' a) := by
  by_cases own : v = some (.popup i)
  · subst own
    cases move.fares expects with
    | nears closer _ _ expects =>
      obtain ⟨newer, grown⟩ := move.grows
      exact ⟨newer, grown, .inr ⟨_, closer, expects⟩⟩
    | lapses late _ grown => exact ⟨[_], grown, .inl (.inr ⟨_, late, List.mem_cons_self⟩)⟩
    | ends _ _ grown => exact ⟨_ :: _, grown, .inl (.inl ⟨_, _, List.mem_cons_self⟩)⟩
  · obtain ⟨newer, grown⟩ := move.grows
    exact ⟨newer, grown, .inr ⟨k, Nat.le_refl k, move.expects wired own expects⟩⟩

theorem Move.favours (move : Move w setup v s s') (wired : s.wire.Wired) (owned : s.Owned)
    (other : v ≠ some (.popup i)) (favoured : s.Favoured i) : s'.Favoured i := by
  rcases favoured with ⟨k, a, expects, few⟩ | ended
  · exact .inl ⟨k, a, move.expects wired other expects, few⟩
  · exact .inr ((move.abides owned).outcome ended)

theorem awaiting_stage (held : p.stage.attempt? = some a) :
    ∃ deadline nextLook, p.stage = .waiting deadline nextLook (.awaiting a) := by
  cases stage : p.stage with
  | opened | settled =>
    rw [stage] at held
    cases held
  | waiting deadline nextLook talk =>
    rw [stage] at held
    cases talk with
    | pausing => cases held
    | awaiting b =>
      cases held
      exact ⟨deadline, nextLook, rfl⟩

theorem unmarked_turn (here : s.popups[i]? = some p) (stage : p.stage = .waiting deadline nextLook talk)
    (unmarked : p.cancelled = false) (unfinished : p.finished = false) : act w setup (.turn (.popup i)) s =
      proceed w setup i deadline nextLook talk { s with ready := s.ready.erase (.popup i) } := by
  simp only [act, turn, popupTurn, here, stage, unmarked, unfinished]
  rfl

theorem proceed_found (found : a.reply? ((a.unread s.bus).take allowance) = some (.ok j)) :
    proceed w setup i deadline nextLook (.awaiting a) s = settle i (.ok ()) (conclude (.popup i) a (.ok j) s) := by
  have polled := poll_found (t := .popup i) found
  simp only [allowance] at polled
  simp only [proceed, allowance, converse, polled]

-- A task that has received as much as it may goes on in its next turn.
theorem proceed_cut (silent : a.reply? ((a.unread s.bus).take allowance) = none)
    (more : allowance < (a.unread s.bus).length) (early : s.now < a.deadline) (intime : s.now < deadline) :
    proceed w setup i deadline nextLook (.awaiting a) s =
      ((s.skip (.popup i) a allowance).setStage i (.waiting deadline nextLook (.awaiting a))).wake (.popup i) := by
  have polled := poll_cut (t := .popup i) (by decide) silent more early
  have unexpired (stage : Stage) : ¬ deadline ≤ ((s.skip (.popup i) a allowance).setStage i stage).now :=
    Nat.not_le.mpr intime
  have positive : ¬ setup.terms.options.pause = 0 := Nat.ne_of_gt (Nat.le_max_right _ _)
  simp only [allowance] at polled unexpired
  simp only [proceed, allowance, converse, polled, watch, if_neg (unexpired _), if_neg positive, ↓reduceIte]

-- The task looks before it does anything else. If it does not get so far in this turn, and nothing else comes to pass
-- meanwhile, it has another one.
theorem expects_turn (w : Surroundings) (setup : Setup) (tuned : s.Tuned (.popup i))
    (uncancelled : ∀ p, s.popups[i]? = some p → p.cancelled = false) (expects : s.Expects i k a) :
    s.outcome? i = none ∧ ((act w setup (.turn (.popup i)) s).outcome? i = some (.ok ()) ∨ allowance ≤ k ∧
      (s.now < a.deadline → (∀ d, s.expiry? setup i = some d → s.now < d) →
        (act w setup (.turn (.popup i)) s).Expects i (k - allowance) a)) := by
  have held : s.attempt? (.popup i) = some a := tuned.awaits.symm.trans expects.holds.awaits
  obtain ⟨p, here, attempt⟩ := Option.bind_eq_some_iff.mp held
  have unmarked := uncancelled p here
  obtain ⟨deadline, nextLook, stage⟩ := awaiting_stage attempt
  have unsettled : p.stage.outcome? = none := by rw [stage]; rfl
  refine ⟨by rw [outcome?, here]; exact unsettled, ?_⟩
  cases finished : p.finished with
  | true =>
    rw [marked_turn here unsettled (.completed unsettled unmarked finished)]
    exact .inl (settled_outcome (s := { s with ready := _ }) here)
  | false =>
    obtain ⟨j, good⟩ := expects.good
    let s₁ := { s with ready := s.ready.erase (.popup i) }
    rw [unmarked_turn here stage unmarked finished]
    cases found : a.reply? ((a.unread s.bus).take allowance) with
    | some o =>
      have same : some (.ok j) = some o :=
        (Attempt.reply?_of_take good).symm.trans (Attempt.reply?_of_take found)
      cases same
      rw [proceed_found (s := s₁) found]
      exact .inl (settled_outcome (s := conclude _ _ _ s₁) here)
    | none =>
      obtain ⟨further, behind⟩ := expects.skip found
      refine .inr ⟨further, fun early intime => ?_⟩
      have more : allowance < (a.unread s.bus).length := by
        by_contra all
        rw [List.take_of_length_le (Nat.le_of_not_lt all)] at found
        cases found.symm.trans (Attempt.reply?_of_take good)
      have soon : s.now < deadline := intime deadline (by rw [found_expiry here, stage]; rfl)
      rw [proceed_cut (s := s₁) found more early soon]
      exact behind.same rfl rfl rfl

theorem assured_turn (w : Surroundings) (setup : Setup) (tuned : s.Tuned (.popup i))
    (uncancelled : ∀ p, s.popups[i]? = some p → p.cancelled = false) (assured : s.Assured i) :
    s.outcome? i = none ∧ (act w setup (.turn (.popup i)) s).outcome? i = some (.ok ()) := by
  obtain ⟨k, a, expects, few⟩ := assured
  obtain ⟨unsettled, ended⟩ := expects_turn w setup tuned uncancelled expects
  exact ⟨unsettled, ended.resolve_right fun more => by omega⟩

-- A session whose time is over neither when it takes its turn nor when it is first asked in it.
theorem Reached.soon (path : Reached w setup .initial s) (expires : s.expiry? setup i = some d)
    (on : awaited (.popup i) (since ++ s.history) = some a) (intime : InTime setup i s.now (since ++ s.history))
    (past : ∀ time t a, (time, .listened t a) ∈ since ++ s.history → time ≤ s.now) : s.now < d := by
  obtain ⟨stage, there, same⟩ := Option.bind_eq_some_iff.mp expires
  cases stage with
  | opened =>
    cases same
    obtain ⟨time, listened⟩ := awaited_listened on
    have asked := past _ _ _ listened
    have soon := intime _ _ listened
    omega
  | waiting deadline nextLook talk =>
    cases same
    obtain ⟨time, b, listened, due⟩ := path.clocked i _ _ _ there
    rw [due]
    exact intime time b (List.mem_append_right _ listened)
  | settled o => cases same

-- A result that comes in the middle of the session's own turn, as when a popup answers at once.
theorem Reached.heedsAtOnce (path : Reached w setup .initial s) (expires : s.expiry? setup i = some d)
    (moves : Moves w setup (some (.popup i)) s s') (never : ∀ time, (time, .cancelled i) ∉ s'.history)
    (split : s'.history = newer ++ (time, .delivered m) :: (since ++ s.history))
    (assents : Assents i m (since ++ s.history)) (intime : InTime setup i time (since ++ s.history))
    (near : InReach setup i time (since ++ s.history)) :
    time = s.now ∧ (s'.Hopes i ∨ s'.outcome? i = some (.ok ())) := by
  have upright (s₁ : Sitting) (moves : Moves w setup (some (.popup i)) s s₁) : s₁.Upright ∧ s₁.now = s.now :=
    Moves.keeps (P := fun s₁ => s₁.Upright ∧ s₁.now = s.now) moves
      (fun _ _ move before => ⟨move.upright before.1, move.now.trans before.2⟩) ⟨path.upright, rfl⟩
  induction moves generalizing newer with
  | refl =>
    have counted := congrArg List.length split
    simp only [List.length_append, List.length_cons] at counted
    omega
  | @tail s₁ s₂ earlier move ih =>
    obtain ⟨upright₁, now⟩ := upright s₁ earlier
    have before (time : Nat) (here : (time, .cancelled i) ∈ s₁.history) : False :=
      never time (recorded_still move.grows here)
    rcases move.arrival split with ⟨later, here⟩ | ⟨fresh, same, rfl, rfl⟩
    · obtain ⟨rfl, hopes | ended⟩ := ih before here
      · refine ⟨rfl, move.ownHopes (upright₁.uncancelled before) ?_ hopes⟩
        intro d' expires'
        obtain ⟨a, _, on, _⟩ := assents
        have soon : s.now < d := by
          apply path.soon expires on intime
          intro time t a listened
          rw [← now]
          exact upright₁.past time t a (by rw [here]; exact List.mem_append_right _ (List.mem_cons_of_mem _ listened))
        rcases Moves.expires earlier path.owned expires with kept | ⟨o, ended⟩
        · cases expires'.symm.trans kept
          rwa [now]
        · cases (expiry_unsettled expires').symm.trans ended
      · exact ⟨rfl, .inr ((move.abides upright₁.owned).outcome ended)⟩
    · obtain ⟨a, expects⟩ := deliver_expects upright₁.wired (same ▸ assents)
      obtain ⟨few, room⟩ := same ▸ near
      refine ⟨now, .inl ⟨_, a, expects, few, room.imp (fun timed => ?_) fun room => ?_⟩⟩
      · obtain ⟨b, on, deadline⟩ := fresh i rfl
        cases on.symm.trans expects.holds.awaits
        show s₁.now < a.deadline
        omega
      · have spent : (s₁.deliver m).spent (.popup i) = s₁.spent (.popup i) := spent_skip rfl
        rw [spent, Nat.add_comm]
        exact room

theorem idle_turn (w : Surroundings) (expired : s.expiry? setup i = none) :
    (act w setup (.turn (.popup i)) s).history = s.history := by
  cases here : s.popups[i]? with
  | none => simp only [act, turn, popupTurn, here]
  | some p =>
    cases stage : p.stage with
    | settled => simp only [act, turn, popupTurn, here, stage]
    | opened | waiting =>
      rw [found_expiry here, stage] at expired
      cases expired

-- Whatever comes for a request that is awaited, while the session's time is not over, is heard if it is in reach.
def Hears (setup : Setup) (s : Sitting) (i : Nat) : Prop :=
  (∀ time, (time, .cancelled i) ∉ s.history) → ∀ newer time m h, s.history = newer ++ (time, .delivered m) :: h →
    Assents i m h → InTime setup i time h → InReach setup i time h → s.Favoured i

theorem Moves.hears (moves : Moves w setup v s s') (other : v ≠ some (.popup i)) (upright : s.Upright)
    (hears : s.Hears setup i) : s'.Hears setup i := by
  have both := Moves.keeps (P := fun s₁ => s₁.Upright ∧ s₁.Hears setup i) moves ?_ ⟨upright, hears⟩
  · exact both.2
  · intro s₁ s₂ move before
    obtain ⟨upright, hears⟩ := before
    refine ⟨move.upright upright, ?_⟩
    intro never newer time m h split assents intime near
    have before (time : Nat) (here : (time, .cancelled i) ∈ s₁.history) : False :=
      never time (recorded_still move.grows here)
    rcases move.arrival split with ⟨later, here⟩ | ⟨_, rfl, rfl, rfl⟩
    · exact move.favours upright.wired upright.owned other (hears before later time m h here assents intime near)
    · obtain ⟨a, expects⟩ := deliver_expects upright.wired assents
      exact .inl ⟨_, a, expects, near.1⟩

theorem Hears.turn (hears : s.Hears setup i) (path : Reached w setup .initial s) :
    Hears setup (act w setup (.turn (.popup i)) s) i := by
  have turned : Turned w setup (.popup i) s (act w setup (.turn (.popup i)) s) := act_turned (path.tuned _)
  intro never newer time m h split assents intime near
  obtain ⟨onward, grown⟩ := Moves.grows turned.moves
  have before (time : Nat) (here : (time, .cancelled i) ∈ s.history) : False :=
    never time (recorded_still (Moves.grows turned.moves) here)
  rcases recorded_cases (grown.symm.trans split) with ⟨later, _, here⟩ | ⟨since, recorded, rfl⟩
  · rcases hears before later time m h here assents intime near with assured | ended
    · exact .inr (assured_turn w setup (path.tuned _) (path.upright.uncancelled before) assured).2
    · exact .inr ((path.abides (.step .refl (.turn (.popup i)))).outcome ended)
  · cases expires : s.expiry? setup i with
    | none =>
      rw [idle_turn w expires] at grown
      have counted := congrArg List.length grown
      rw [recorded] at counted
      simp only [List.length_append, List.length_cons] at counted
      omega
    | some d => exact (path.heedsAtOnce expires turned.moves never split assents intime near).2.imp_left Hopes.assured

theorem Reached.hears (path : Reached w setup .initial s) (i : Nat) : s.Hears setup i := by
  induction path with
  | refl =>
    intro _ newer time m h split
    simp [initial] at split
  | step path a ih =>
    rcases act_apart a path.tuned (.popup i) with rfl | ⟨ms, rfl⟩ | ⟨v, other, moves⟩
    · exact ih.turn path
    · intro never newer time m h split assents intime near
      refine (ih never newer time m h split assents intime near).imp_left ?_
      rintro ⟨k, a, expects, few⟩
      exact ⟨k, a, expects.same rfl rfl rfl, few⟩
    · exact Moves.hears moves other path.upright ih

-- Whoever has a result to look at is ready.
theorem Move.rouses (move : Move w setup v s s') (wired : s.wire.Wired) (other : v ≠ some (.popup i))
    (tuned : s.Tuned (.popup i)) (roused : s.Expects i k a → .popup i ∈ s.ready) (expects : s'.Expects i k a) :
    .popup i ∈ s'.ready := by
  have apart : Apart (.popup i) s s' := (move.apart other).resolve_right (by simp)
  have on := apart.awaits.symm.trans expects.holds.awaits
  by_cases delivers : ∃ m, s' = s.deliver m
  · obtain ⟨m, rfl⟩ := delivers
    exact mem_wakeAll _ (.inr (listening_woken tuned on))
  · apply apart.ready
    apply roused
    apply expects.same apart.awaits.symm apart.refusal.symm
    rw [Attempt.unread, Attempt.unread,
      (move.inbox wired other on expects.holds.awaits).resolve_left delivers]

theorem Moves.rouses (moves : Moves w setup v s s') (upright : s.Upright) (other : v ≠ some (.popup i))
    (tuned : s.Tuned (.popup i)) (roused : s.Expects i k a → .popup i ∈ s.ready) (expects : s'.Expects i k a) :
    .popup i ∈ s'.ready := by
  have kept := Moves.keeps
    (P := fun s₁ : Sitting => s₁.Upright ∧ s₁.Tuned (.popup i) ∧ (s₁.Expects i k a → .popup i ∈ s₁.ready))
    moves ?_ ⟨upright, tuned, roused⟩
  · exact kept.2.2 expects
  · intro s₁ s₂ move before
    obtain ⟨upright, tuned, roused⟩ := before
    exact ⟨move.upright upright, move.tuned other tuned, move.rouses upright.wired other tuned roused⟩

theorem Reached.rouses (path : Reached w setup .initial s) (expects : s.Expects i k a) : .popup i ∈ s.ready := by
  induction path with
  | refl => cases expects.holds.awaits
  | @step s path act ih =>
    rcases act_apart act path.tuned (.popup i) with rfl | ⟨ms, rfl⟩ | ⟨v, other, moves⟩
    · have turned : Turned w setup (.popup i) s (Sitting.act w setup (.turn (.popup i)) s) := act_turned (path.tuned _)
      apply turned.heeded.resolve_right
      intro idle
      exact absurd (idle.1 a expects.holds.awaits).received expects.unread
    · exact mem_wakeAll _ (.inl (ih (expects.same rfl rfl rfl)))
    · exact Moves.rouses moves path.upright other (path.tuned _) ih expects

theorem Favoured.sealed (favoured : s.Favoured i) (path : Reached w setup .initial s)
    (never : ∀ time, (time, .cancelled i) ∉ s.history) : Sealed w setup s i (.ok ()) := by
  rcases favoured with assured | ended
  · obtain ⟨unsettled, settles⟩ := assured_turn w setup (path.tuned _) (path.upright.uncancelled never) assured
    obtain ⟨k, a, expects, _⟩ := assured
    exact .inr ⟨unsettled, path.rouses expects, settles⟩
  · exact .inl ended

-- A result that came while its request was awaited stands in the queue until the request is over, with no more before
-- it than when it came.
def Queues (s : Sitting) (i : Nat) : Prop :=
  ∀ newer time m h a, s.history = newer ++ (time, .delivered m) :: h → awaited (.popup i) h = some a → Assents i m h →
    Over i a newer ∨ ∃ k ≤ History.backlog (.popup i) h, s.Expects i k a

theorem Move.queues (move : Move w setup v s s') (upright : s.Upright) (queues : s.Queues i) : s'.Queues i := by
  intro newer time m h a split on assents
  rcases move.arrival split with ⟨later, here⟩ | ⟨_, rfl, rfl, rfl⟩
  · rcases queues later time m h a here on assents with ended | ⟨k, near, expects⟩
    · obtain ⟨onward, grown⟩ := move.grows
      have same : newer ++ (time, .delivered m) :: h = (onward ++ later) ++ (time, .delivered m) :: h := by
        rw [← split, grown, here, List.append_assoc]
      rw [List.append_cancel_right same]
      exact .inl ended.later
    · obtain ⟨onward, grown, kept⟩ := move.expected upright.wired expects
      have same : newer ++ (time, .delivered m) :: h = (onward ++ later) ++ (time, .delivered m) :: h := by
        rw [← split, grown, here, List.append_assoc]
      rw [List.append_cancel_right same]
      refine kept.imp Over.earlier ?_
      rintro ⟨k', closer, expects⟩
      exact ⟨k', Nat.le_trans closer near, expects⟩
  · obtain ⟨b, expects⟩ := deliver_expects upright.wired assents
    cases on.symm.trans expects.holds.awaits
    exact .inr ⟨_, Nat.le_refl _, expects⟩

theorem Reached.queues (path : Reached w setup .initial s) (i : Nat) : s.Queues i := by
  induction path with
  | refl =>
    intro newer time m h a split
    simp [initial] at split
  | @step s path act ih =>
    have moved {v : Option Task} {s₁ : Sitting} (moves : Moves w setup v s s₁) : s₁.Queues i := by
      have both := Moves.keeps (P := fun s₁ => s₁.Upright ∧ s₁.Queues i) moves
        (fun _ _ move before => ⟨move.upright before.1, move.queues before.1 before.2⟩) ⟨path.upright, ih⟩
      exact both.2
    rcases act_apart act path.tuned (.popup i) with rfl | ⟨ms, rfl⟩ | ⟨v, _, moves⟩
    · exact moved (act_turned (path.tuned _)).moves
    · intro newer time m h a split on assents
      refine (ih newer time m h a split on assents).imp_right ?_
      rintro ⟨k, near, expects⟩
      exact ⟨k, near, expects.same rfl rfl rfl⟩
    · exact moved moves

-- The session's task is given its turns before the request lapses and the session's time is over.
def GivesTurns (setup : Setup) (i : Nat) (a : Attempt) (s : Sitting) (act : Act) : Prop :=
  act.isTurnOf (.popup i) = true → s.now < a.deadline ∧ ∀ d, s.expiry? setup i = some d → s.now < d

theorem Moves.expects (moves : Moves w setup v s s') (other : v ≠ some (.popup i)) (upright : s.Upright)
    (expects : s.Expects i k a) : s'.Expects i k a := by
  have both := Moves.keeps (P := fun s₁ => s₁.Upright ∧ s₁.Expects i k a) moves
    (fun _ _ move before => ⟨move.upright before.1, move.expects before.1.wired other before.2⟩) ⟨upright, expects⟩
  exact both.2

-- With each of its turns the task gets closer by as many messages as it receives in one.
theorem Expects.sealed (expects : s.Expects i k a) (path : Reached w setup .initial s) (as : List Act)
    (fits : Fits (GivesTurns setup i a) w setup as s)
    (never : ∀ time, (time, .cancelled i) ∉ (acts w setup as s).history)
    (enough : k < allowance * (as.countP (Act.isTurnOf (.popup i)) + 1)) :
    Sealed w setup (acts w setup as s) i (.ok ()) := by
  induction as generalizing s k with
  | nil =>
    have favoured : s.Favoured i := .inl ⟨k, a, expects, by simpa using enough⟩
    exact favoured.sealed path never
  | cons x rest ih =>
    obtain ⟨timed, fits⟩ := fits
    have onward : Reached w setup .initial (act w setup x s) := .step path x
    have later : Reached w setup (act w setup x s) (acts w setup (x :: rest) s) := acts_reached rest
    have before (time : Nat) (here : (time, .cancelled i) ∈ s.history) : False :=
      never time (recorded_still ((acts_reached (x :: rest)).grows path.tuned) here)
    by_cases own : x = .turn (.popup i)
    · subst own
      have counted : Act.isTurnOf (.popup i) (.turn (.popup i)) = true := by simp [Act.isTurnOf]
      obtain ⟨early, intime⟩ := timed counted
      rw [List.countP_cons_of_pos counted] at enough
      rcases (expects_turn w setup (path.tuned _) (path.upright.uncancelled before) expects).2 with ended | ⟨_, closer⟩
      · exact .inl ((onward.abides later).outcome ended)
      · rw [Nat.mul_succ] at enough
        exact ih (closer early intime) onward fits never (by omega)
    · have uncounted : ¬ x.isTurnOf (.popup i) = true := by
        cases x with
        | turn t =>
          intro same
          exact own (congrArg Act.turn (by simpa [Act.isTurnOf] using same))
        | _ => simp [Act.isTurnOf]
      rw [List.countP_cons_of_neg uncounted] at enough
      refine ih ?_ onward fits never enough
      have apart : (∃ ms, x = .elapse ms) ∨ ∃ v, v ≠ some (.popup i) ∧ Moves w setup v s (act w setup x s) :=
        (act_apart x path.tuned _).resolve_left own
      rcases apart with ⟨ms, rfl⟩ | ⟨v, other, moves⟩
      · exact expects.same rfl rfl rfl
      · exact Moves.expects moves other path.upright expects

-- A result that came for a request at a time, when this had been recorded, and what was recorded since. It ends the
-- session well if it was in reach then; or if the task has the turns it takes to get there in time.
structure Heeded (w : Surroundings) (setup : Setup) (s : Sitting) (i time : Nat) (a : Attempt) (newer h : History) :
    Prop where
  inReach : InReach setup i time h → (∀ t, (t, .cancelled i) ∉ s.history) → Sealed w setup s i (.ok ())
  inTurns : ¬ Over i a newer → ∀ as : List Act, Fits (GivesTurns setup i a) w setup as s →
    (∀ t, (t, .cancelled i) ∉ (acts w setup as s).history) →
      History.backlog (.popup i) h < allowance * (as.countP (Act.isTurnOf (.popup i)) + 1) →
        Sealed w setup (acts w setup as s) i (.ok ())

-- A request that a popup took is awaited until the session ends or the request is given up, which is not before it has
-- lapsed. A result that comes for it until then, before the session's time is over and before an error has come for
-- it, is heeded, whatever requests went before it and however late the task of the session has its next turn: unless
-- it is cancelled before that, the session has ended well, or its task is ready and ends it so.
theorem reply_is_not_missed (path : Reached w setup .initial s) :
    ∀ (newer since older : History) (time asked i : Nat) (m : Message) (message : Json) (origin : String),
      s.history = newer ++ (time, .delivered m) :: (since ++ (asked, .posted (.popup i) message origin none) :: older) →
      ∃ a rest, older = (asked, .listened (.popup i) a) :: rest ∧
        message = (Request.of Session.method [.text setup.token] a.id).encode ∧ origin = setup.authUrl.origin.text ∧
        a.origin = origin ∧ a.deadline = asked + setup.settings.callTimeout ∧
        ∀ j, m.reply? a.origin a.id = some (.ok j) → ¬ Over i a since →
          (∀ t m' e, (t, .delivered m') ∈ since → m'.reply? a.origin a.id ≠ some (.error e)) →
          InTime setup i time (since ++ (asked, .posted (.popup i) message origin none) :: older) →
          Heeded w setup s i time a newer (since ++ (asked, .posted (.popup i) message origin none) :: older) := by
  intro newer since older time asked i m message origin split
  have tracked := (path.overseen i).2.at split m rfl
  obtain ⟨a, rest, listened, request, home, same, deadline, kept⟩ := tracked since asked message origin older rfl
  refine ⟨a, rest, listened, request, home, same, deadline, ?_⟩
  intro j granted ongoing clear intime
  have pursues := kept.resolve_left ongoing
  have assents := pursues.assents granted clear
  constructor
  case inReach =>
    intro near never
    have favoured := path.hears i never newer time m _ split assents intime near
    exact favoured.sealed path never
  case inTurns =>
    intro lasts as fits never enough
    obtain ⟨k, near, expects⟩ := (path.queues i newer time m _ a split pursues.awaits assents).resolve_left lasts
    exact expects.sealed path as fits never (Nat.lt_of_le_of_lt near enough)

-- The popup answers its second request, which has lapsed by then; but the task has not had its turn.
def answeredLate : Sitting := acts .calm hasty [.elapse 150, .deliver lateConsent] askedAgain

-- It answers its first request some time later, when others have said as much as a task receives in a turn.
def answeredInCrowd (later : Nat) : Sitting :=
  acts .calm hasty
    (.elapse later :: (List.replicate allowance (.deliver noise) ++ [.deliver (grantFrom "https://lms")]))
    (asked hasty)

set_option maxRecDepth 20000 in
theorem second_request_is_heard :
    (lateConsent.reply? "https://lms" "1" = some (.ok .null) ∧ answeredLate.outcome? 0 = none ∧
      Sealed .calm hasty answeredLate 0 (.ok ())) ∧
    (act .calm hasty (.turn (.popup 0)) (answeredInCrowd 50)).outcome? 0 = none ∧
      Sealed .calm hasty (act .calm hasty (.turn (.popup 0)) (answeredInCrowd 50)) 0 (.ok ()) := by
  constructor
  · have path : Reached .calm hasty .initial answeredLate := (acts_reached _).trans (acts_reached _)
    obtain ⟨a, rest, listened, _, _, _, _, heard⟩ :=
      reply_is_not_missed path [] [] _ 250 100 0 lateConsent _ "https://lms" rfl
    cases listened
    have unruled : answeredLate.history.all (fun e => (e.2.rules 0).isNone) = true := rfl
    have heeded := heard .null rfl (by simp [Over]) (by simp) ?_
    · refine ⟨rfl, rfl, heeded.inReach ⟨by decide, .inl (by decide)⟩ ?_⟩
      intro time here
      cases List.all_eq_true.mp unruled _ here
    · intro time b _
      show 250 < time + 600000
      omega
  · have path : Reached .calm hasty .initial (answeredInCrowd 50) := (acts_reached _).trans (acts_reached _)
    obtain ⟨a, rest, listened, _, _, _, _, heard⟩ :=
      reply_is_not_missed path [] (List.replicate allowance (50, .delivered noise) ++ [_]) _ 50 0 0
        (grantFrom "https://lms") _ "https://lms" rfl
    cases listened
    have unruled : (act .calm hasty (.turn (.popup 0)) (answeredInCrowd 50)).history.all
        (fun e => (e.2.rules 0).isNone) = true := rfl
    have ignored : noise.reply? "https://lms" "0" = none := rfl
    have heeded := heard .null rfl (by simp [Over]) ?_ ?_
    · refine ⟨rfl, ?_⟩
      refine heeded.inTurns (by simp [Over]) [.turn (.popup 0)] ⟨fun _ => ⟨by decide, ?_⟩, trivial⟩ ?_ (by decide)
      · rintro d ⟨⟩
        decide
      · intro time here
        cases List.all_eq_true.mp unruled _ here
    · intro t m' e here answers
      rcases List.mem_append.mp here with same | same
      · cases (List.mem_replicate.mp same).2
        cases ignored.symm.trans answers
      · cases List.mem_singleton.mp same
    · intro time b _
      show 50 < time + 600000
      omega

-- A result comes for a request that a popup took, while its session goes on, and nobody cancels it.
structure Granted (w : Surroundings) (setup : Setup) (s : Sitting) (since : History) (i : Nat) (id origin : String) :
    Prop where
  run : Timely w setup s
  comes : ∃ newer time asked older m j,
    s.history = newer ++ (time, .delivered m) :: (since ++
      (asked, .posted (.popup i) (Request.of Session.method [.text setup.token] id).encode origin none) :: older) ∧
    m.reply? origin id = some (.ok j) ∧ InTime setup i time s.history
  ongoing : ∀ t o, (t, .settled i o) ∉ since
  uncancelled : ∀ t, (t, .cancelled i) ∉ s.history

-- It answers its first request when the second has been posted.
def answeredTooLate : Sitting := acts .calm hasty [.elapse 50, .deliver (grantFrom "https://lms")] askedAgain

-- A reply without a result.
def vacant : Message := ⟨"https://lms", .object [("id", .text "0"), ("jsonrpc", .text "2.0")]⟩

def answeredTwice : Sitting := acts .calm .plain [.deliver vacant, .deliver (grantFrom "https://lms")] (asked .plain)

theorem asked_timely (setup : Setup) : Timely .calm setup (asked setup) :=
  acts_timely .initial [.start .session, .turn (.call 0), .turn (.popup 0)] ⟨trivial, trivial, trivial, trivial⟩

theorem granted_unruled {older : History} {asked : Nat} {id : String} (run : Timely w setup s)
    (granted : m.reply? origin id = some (.ok j))
    (split : s.history = newer ++ (time, .delivered m) :: (since ++
      (asked, .posted (.popup i) (Request.of Session.method [.text setup.token] id).encode origin none) :: older))
    (soon : time < setup.settings.sessionTimeout)
    (unruled : s.history.all (fun e => (e.2.rules i).isNone) = true) : Granted w setup s since i id origin where
  run := run
  comes := ⟨newer, time, asked, older, m, j, split, granted, fun _ _ _ => Nat.lt_add_left _ soon⟩
  ongoing t o here := by
    have recorded : (t, .settled i o) ∈ s.history := by simp [split, here]
    simpa [Happening.rules] using List.all_eq_true.mp unruled _ recorded
  uncancelled t here := by simpa [Happening.rules] using List.all_eq_true.mp unruled _ here

set_option maxRecDepth 20000 in
-- A reply may come when the request was sent again, after another one for it, or behind too much else.
theorem replies_may_go_unheard :
    (¬ ∀ w setup s since i id origin, Granted w setup s since i id origin →
      (∀ t m e, (t, .delivered m) ∈ since → m.reply? origin id ≠ some (.error e)) → Sealed w setup s i (.ok ())) ∧
    (¬ ∀ w setup s since i id origin, Granted w setup s since i id origin →
      (∀ t message origin' refusal, (t, .posted (.popup i) message origin' refusal) ∉ since) →
      (∀ t m payload, (t, .delivered m) ∈ since → m.reply? origin id ≠ some (.error (.remote payload))) →
        Sealed w setup s i (.ok ())) ∧
    ¬ ∀ w setup s since i id origin, Granted w setup s since i id origin →
      (∀ t message origin' refusal, (t, .posted (.popup i) message origin' refusal) ∉ since) →
      (∀ t m e, (t, .delivered m) ∈ since → m.reply? origin id ≠ some (.error e)) → Sealed w setup s i (.ok ()) := by
  refine ⟨?late, ?vacant, ?crowded⟩
  case late =>
    intro all
    have run : Timely .calm hasty answeredTooLate :=
      acts_timely askedAgain_timely _ ⟨⟨rfl, by decide⟩, trivial, trivial⟩
    have sealed : Sealed .calm hasty answeredTooLate 0 (.ok ()) := by
      refine all _ _ _ [_, _, _, _] 0 "0" "https://lms" (granted_unruled (m := grantFrom "https://lms") run rfl
        (show answeredTooLate.history = [] ++ (150, _) :: _ from rfl) ?_ rfl) ?_
      · decide
      · simp
    rcases sealed with ended | ⟨_, _, ended⟩
    · cases ended
    · cases ended
  case vacant =>
    intro all
    have run : Timely .calm .plain answeredTwice := acts_timely (asked_timely .plain) _ ⟨trivial, trivial, trivial⟩
    have sealed : Sealed .calm .plain answeredTwice 0 (.ok ()) := by
      refine all _ _ _ [_, _] 0 "0" "https://lms" (granted_unruled (m := grantFrom "https://lms") run rfl
        (show answeredTwice.history = [] ++ (0, _) :: _ from rfl) ?_ rfl) ?_ ?_
      · decide
      · simp
      · intro time m payload here
        have malformed : vacant.reply? "https://lms" "0" = some (.error .malformedReply) := rfl
        rcases List.mem_pair.mp here with same | same
        · cases same
          rw [malformed]
          simp
        · cases same
    rcases sealed with ended | ⟨_, _, ended⟩
    · cases ended
    · cases ended
  case crowded =>
    intro all
    have run : Timely .calm hasty (answeredInCrowd 100) := by
      refine acts_timely (asked_timely hasty) _ ⟨⟨rfl, by decide⟩, prompts_still _ ?_⟩
      rintro act here ms rfl
      simp at here
    have sealed : Sealed .calm hasty (answeredInCrowd 100) 0 (.ok ()) := by
      refine all _ _ _ (List.replicate allowance (100, .delivered noise) ++ [_]) 0 "0" "https://lms"
        (granted_unruled (m := grantFrom "https://lms") run rfl
          (show (answeredInCrowd 100).history = [] ++ (100, _) :: _ from rfl) ?_ rfl) ?_ ?_
      · decide
      · simp
      · have ignored : noise.reply? "https://lms" "0" = none := rfl
        simp +contextual [ignored]
    rcases sealed with ended | ⟨_, _, ended⟩
    · cases ended
    · cases ended

end Sitting
end CourseFiles
