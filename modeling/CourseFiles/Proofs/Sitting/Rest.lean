import CourseFiles.Proofs.Authorization.Pacing
import CourseFiles.Proofs.Picker.InFlight
import Mathlib.Algebra.Order.BigOperators.Group.Finset

namespace CourseFiles

open History

-- How much a call may still do before it has to wait, whatever it finds. A call that has not begun may open a popup.
def Pending.weight : Pending → Nat
  | .queued _ => 8
  | .authorizing .. => 2
  | _ => 1

def Stage.weight (now : Nat) : Stage → Nat
  | .opened => 3
  | .waiting _ _ talk => if talk.deadline ≤ now then 2 else 1
  | .settled _ => 0

-- How far a session is behind with its looks at the window.
def Stage.behind (now : Nat) : Stage → Nat
  | .waiting _ nextLook _ => now + 1 - nextLook
  | _ => 0

namespace Sitting

def callWeight (s : Sitting) (n : Nat) : Nat := (s.calls.lookup n).elim 0 Pending.weight

def popupWeight (s : Sitting) (i : Nat) : Nat := (s.stage? i).elim 0 (Stage.weight s.now)

-- What the popups may still do.
def standing (s : Sitting) : Nat :=
  ∑ i ∈ Finset.range s.popups.length, s.popupWeight i + if s.session.live.isSome then 1 else 0

def weight (s : Sitting) : Nat := ∑ n ∈ Finset.range s.nextCall, s.callWeight n + s.standing

-- What a task finds when its turn comes: the messages that it has not received, and the looks that are overdue.
def backlog (s : Sitting) : Task → Nat
  | .call n => History.backlog (.call n) s.history
  | .popup i => History.backlog (.popup i) s.history + (s.stage? i).elim 0 (Stage.behind s.now)

def arrears (s : Sitting) : Nat :=
  ∑ n ∈ Finset.range s.nextCall, s.backlog (.call n) + ∑ i ∈ Finset.range s.popups.length, s.backlog (.popup i)

def Knows (s : Sitting) : Task → Prop
  | .call n => n < s.nextCall
  | .popup i => i < s.popups.length

-- Neither the clock nor the popups' sessions are touched, but that the slot may be left.
structure Lasting (s s' : Sitting) : Prop where
  now : s'.now = s.now
  length : s'.popups.length = s.popups.length
  stage : ∀ i, s'.stage? i = s.stage? i
  live : s.session.live = none → s'.session.live = none

-- Besides, the call is left with little to do.
structure Spends (n k : Nat) (s s' : Sitting) : Prop extends Lasting s s' where
  own : s'.callWeight n ≤ k

variable {w : Surroundings} {setup : Setup} {s s' s'' : Sitting} {v : Option Task} {t u : Task} {i j n m k : Nat}

theorem Lasting.refl : Lasting s s := ⟨rfl, rfl, fun _ => rfl, id⟩

theorem Lasting.trans (first : Lasting s s') (rest : Lasting s' s'') : Lasting s s'' where
  now := rest.now.trans first.now
  length := rest.length.trans first.length
  stage i := (rest.stage i).trans (first.stage i)
  live none := rest.live (first.live none)

theorem Spends.after (spends : Spends n k s' s'') (first : Lasting s s') : Spends n k s s'' :=
  ⟨first.trans spends.toLasting, spends.own⟩

theorem Spends.less (spends : Spends n k s s') (less : k ≤ m) : Spends n m s s' :=
  ⟨spends.toLasting, Nat.le_trans spends.own less⟩

theorem live_le (live : s.session.live = none → s'.session.live = none) :
    (if s'.session.live.isSome then 1 else 0) ≤ if s.session.live.isSome then 1 else 0 := by
  cases before : s.session.live with
  | none => simp [live before]
  | some i =>
    simp only [Option.isSome_some, if_true]
    split <;> omega

theorem Lasting.standing (lasting : Lasting s s') : s'.standing ≤ s.standing := by
  apply Nat.add_le_add _ (live_le lasting.live)
  rw [lasting.length]
  apply Finset.sum_le_sum
  intro i _
  rw [popupWeight, lasting.stage, lasting.now, popupWeight]

theorem endSession_lasting (staged : ∀ p, (mark p).stage = p.stage) : Lasting s (endSession h mark phase s) := by
  refine ⟨?_, ?_, fun _ => endSession_stage staged, ?_⟩
  · unfold endSession
    split <;> rfl
  · unfold endSession
    split
    · rfl
    · simp [closePopup, wake, updatePopup, record]
  · intro none
    unfold endSession
    rw [none]
    exact none

theorem finish_spends : Spends n 0 s (finish n r s) := by
  constructor
  · unfold finish release
    split
    · have ended : Lasting s (s.endCall n r) := ⟨rfl, rfl, fun _ => rfl, id⟩
      refine ended.trans (endSession_lasting ?_)
      exact fun _ => rfl
    · exact ⟨rfl, rfl, fun _ => rfl, id⟩
  · rw [callWeight, finish, release_beside.calls]
    exact Nat.le_of_eq (congrArg (Option.elim · 0 Pending.weight) removed_lookup)

theorem set_spends (light : p.weight ≤ k) : Spends n k s (s.setCall n p) := by
  refine ⟨⟨rfl, rfl, fun _ => rfl, id⟩, ?_⟩
  rw [callWeight, set_lookup]
  cases s.calls.lookup n with
  | none => exact Nat.zero_le _
  | some q => exact light

theorem Spends.woken (spends : Spends n k s s') : Spends n k s (s'.wake t) :=
  ⟨⟨spends.now, spends.length, spends.stage, spends.live⟩, spends.own⟩

theorem join_spends (light : p.weight ≤ k) : Spends n k s (s.join n i p) := by
  unfold join
  split
  · exact (set_spends light).woken
  · exact set_spends light

theorem list_spends : Spends n 1 s (list w setup n after l s) := by
  simp only [list]
  split
  · have spends : Spends n 0 s (finish n after { s with
        history := (s.now, .listed l.path setup.token) :: s.history, launches := s.launches ++ [l],
        picker := s.picker.arrive l (w.listing (s.launches.map (·.path)) l.path).2 }) :=
      finish_spends.after ⟨rfl, rfl, fun _ => rfl, id⟩
    exact spends.less (Nat.zero_le _)
  · exact .after (set_spends (Nat.le_refl 1)) ⟨rfl, rfl, fun _ => rfl, id⟩

theorem relist_spends : Spends n 1 s (relist w setup n after change s) := by
  unfold relist
  split
  · exact finish_spends.less (Nat.zero_le _)
  · exact list_spends.after ⟨rfl, rfl, fun _ => rfl, id⟩

theorem authorized_spends : Spends n 1 s (authorized w setup n generation o s) := by
  unfold authorized
  split
  · exact relist_spends
  · exact finish_spends.less (Nat.zero_le _)
  · have spends : Spends n 0 s (finish n .done { s with picker := s.picker.failed generation }) :=
      finish_spends.after ⟨rfl, rfl, fun _ => rfl, id⟩
    exact spends.less (Nat.zero_le _)

theorem use_spends : Spends n 1 s (use w setup n item s) := by
  unfold use
  split
  · exact finish_spends.less (Nat.zero_le _)
  · split
    · exact relist_spends
    · exact finish_spends.less (Nat.zero_le _)

theorem deliver_lasting (messages : List Message) : Lasting s (messages.foldl deliver s) := by
  induction messages generalizing s with
  | nil => exact .refl
  | cons m rest ih =>
    have delivered : Lasting s (s.deliver m) := ⟨rfl, rfl, fun _ => rfl, id⟩
    exact delivered.trans ih

theorem attempt_lasting {answers : Counterpart} : Lasting s (attempt t answers origin r timeout s).2 := by
  simp only [attempt, post_sendOff]
  generalize answers (s.posted ++ [r.id]) = reaction
  obtain ⟨messages, refusal⟩ := reaction
  have posted : Lasting s (s.sendOff t origin r timeout refusal) := ⟨rfl, rfl, fun _ => rfl, id⟩
  have sent : Lasting s (messages.foldl deliver (s.sendOff t origin r timeout refusal)) :=
    posted.trans (deliver_lasting messages)
  cases refusal with
  | none => exact sent
  | some reason => exact sent.trans ⟨rfl, rfl, fun _ => rfl, id⟩

theorem Looks.lasting (looks : Looks t a s k s') : Lasting s s' := by
  cases looks <;> exact ⟨rfl, rfl, fun _ => rfl, id⟩

theorem Replying.spends (replying : Replying n a s s') : Spends n 1 s s' := by
  cases replying with
  | @ends _ s₁ o looks =>
    have spends : Spends n 0 s₁ (finish n (.reply o) (conclude (.call n) a o s₁)) :=
      finish_spends.after ⟨rfl, rfl, fun _ => rfl, id⟩
    exact (spends.less (Nat.zero_le _)).after looks.lasting
  | waits looks => exact .after (set_spends (Nat.le_refl 1)) looks.lasting
  | again looks => exact ((set_spends (Nat.le_refl 1)).woken).after looks.lasting

theorem request_spends {given : Option String} {answers : Counterpart} :
    Spends n 1 s (request w n origin method params given timeout answers s) := by
  have requested (s' : Sitting) (r : Request) (first : Lasting s s') :
      Spends n 1 s (requested n (attempt (.call n) answers origin r timeout s')) := by
    have attempted : Lasting s (attempt (.call n) answers origin r timeout s').2 := first.trans attempt_lasting
    generalize attempt (.call n) answers origin r timeout s' = result at attempted
    obtain ⟨reason | a, s₁⟩ := result
    · exact (finish_spends.after attempted).less (Nat.zero_le _)
    · exact (awaitReply_cases n a s₁).spends.after attempted
  unfold request
  cases given with
  | some name => exact requested s _ .refl
  | none => exact requested (draw w s).2 _ ⟨rfl, rfl, fun _ => rfl, id⟩

-- A popup that is opened comes last.
theorem opened_standing (now : s'.now = s.now) (popups : s'.popups = s.popups ++ [p]) (opened : p.stage = .opened) :
    s'.standing ≤ s.standing + 4 := by
  have older : ∑ i ∈ Finset.range s.popups.length, s'.popupWeight i =
      ∑ i ∈ Finset.range s.popups.length, s.popupWeight i := by
    apply Finset.sum_congr rfl
    intro i before
    have other : i ≠ s.popups.length := Nat.ne_of_lt (Finset.mem_range.mp before)
    rw [popupWeight, stage?, popups, popups_append other, now, popupWeight, stage?]
  have new : s'.popupWeight s.popups.length = 3 := by
    simp [popupWeight, stage?, popups, opened, Stage.weight]
  have length : s'.popups.length = s.popups.length + 1 := by simp [popups]
  rw [standing, length, Finset.sum_range_succ, older, new, standing]
  split <;> omega

theorem beginSession_standing : (beginSession w setup s).2.standing ≤ s.standing + 4 := by
  unfold beginSession
  split
  · exact Nat.le_add_right _ _
  · dsimp only
    split
    · rename_i reason _
      have lasting : Lasting s (record (.notOpened (Session.popupUrl setup.authUrl setup.token)
          ("lms-auth-" ++ w.windowName s.requests) setup.settings.features)
          { s with requests := s.requests + 1, session := ⟨.failed, none⟩ }) :=
        ⟨rfl, rfl, fun _ => rfl, fun _ => rfl⟩
      exact Nat.le_trans lasting.standing (Nat.le_add_right _ _)
    · exact opened_standing rfl rfl rfl

-- What a call does when it begins.
structure Begun (n : Nat) (s s' : Sitting) : Prop where
  own : s'.callWeight n ≤ 2
  standing : s'.standing ≤ s.standing + 4

theorem Spends.begun (spends : Spends n k s' s'') (light : k ≤ 2) (first : s'.standing ≤ s.standing + 4) :
    Begun n s s'' where
  own := Nat.le_trans spends.own light
  standing := Nat.le_trans spends.toLasting.standing first

theorem authorize_begun : Begun n s (authorize w setup n s) := by
  simp only [authorize]
  split
  · have begun : (beginSession w setup { s with picker := s.picker.authorize }).2.standing ≤ s.standing + 4 :=
      beginSession_standing (s := { s with picker := s.picker.authorize })
    generalize beginSession w setup { s with picker := s.picker.authorize } = result at begun
    obtain ⟨e | i, s'⟩ := result
    · exact authorized_spends.begun (by omega) begun
    · exact Spends.begun (join_spends (Nat.le_refl 2)) (Nat.le_refl _) begun
  · exact finish_spends.begun (by omega) (Nat.le_add_right _ _)

theorem beginCall_begun : Begun n s (beginCall w setup n op s) := by
  have light {s' : Sitting} (spends : Spends n 1 s s') : Begun n s s' := spends.begun (by omega) (Nat.le_add_right _ _)
  cases op with
  | request => exact light request_spends
  | session =>
    have begun : (beginSession w setup s).2.standing ≤ s.standing + 4 := beginSession_standing
    simp only [beginCall]
    generalize beginSession w setup s = result at begun
    obtain ⟨e | i, s'⟩ := result
    · exact finish_spends.begun (by omega) begun
    · exact Spends.begun (join_spends (Nat.le_refl 1)) (by omega) begun
  | start | reload | goTo => exact light relist_spends
  | authorize => exact authorize_begun
  | authorizationComplete =>
    simp only [beginCall]
    split
    · exact light (finish_spends.less (Nat.zero_le _))
    · have completed : Lasting s s.completeSession := endSession_lasting fun _ => rfl
      exact light (relist_spends.after completed)
  | use => exact light use_spends
  | useSelected => exact light use_spends

theorem Move.nextCall (move : Move w setup (some t) s s') : s'.nextCall = s.nextCall := by
  cases move with
  | begin => exact beginSession_beside.nextCall
  | complete => exact completeSession_beside.nextCall
  | cancel => exact cancelSession_beside.nextCall
  | @conclude _ t => cases t <;> rfl
  | _ => rfl

-- A turn adds nothing to what the other calls have to do.
theorem Moves.others_less (moves : Moves w setup (some t) s s') :
    s'.nextCall = s.nextCall ∧ ∀ m, m < s.nextCall → t ≠ .call m → s'.callWeight m ≤ s.callWeight m := by
  induction moves with
  | refl => exact ⟨rfl, fun _ _ _ => Nat.le_refl _⟩
  | @tail s₁ s₂ _ move ih =>
    obtain ⟨same, before⟩ := ih
    refine ⟨move.nextCall.trans same, ?_⟩
    intro m known other
    refine Nat.le_trans ?_ (before m known other)
    cases here : s₂.calls.lookup m with
    | none =>
      rw [callWeight, here]
      exact Nat.zero_le _
    | some p =>
      rcases move.others (by simpa using other) here with old | ⟨new, _⟩
      · rw [callWeight, here, callWeight, old]
      · omega

theorem sum_others {N n : Nat} {f g : Nat → Nat} (known : n < N) (less : ∀ m, m < N → m ≠ n → f m ≤ g m) :
    ∑ m ∈ Finset.range N, f m + g n ≤ ∑ m ∈ Finset.range N, g m + f n := by
  have here : n ∈ Finset.range N := Finset.mem_range.mpr known
  have others : ∑ m ∈ (Finset.range N).erase n, f m ≤ ∑ m ∈ (Finset.range N).erase n, g m := by
    apply Finset.sum_le_sum
    intro m there
    obtain ⟨other, before⟩ := Finset.mem_erase.mp there
    exact less m (Finset.mem_range.mp before) other
  rw [← Finset.add_sum_erase _ f here, ← Finset.add_sum_erase _ g here]
  omega

-- There is less to do, or less to find, or nothing was done that would wake anyone.
def Eased (s s' : Sitting) : Prop :=
  s'.weight < s.weight ∨ s'.weight ≤ s.weight ∧ (s'.arrears < s.arrears ∨ s'.arrears ≤ s.arrears ∧ s'.ready = s.ready)

-- Nobody finds more, and the task less; or it does not ask for another turn.
structure Lessens (t : Task) (s s' : Sitting) : Prop where
  nextCall : s'.nextCall = s.nextCall
  length : s'.popups.length = s.popups.length
  less : ∀ u, s'.backlog u ≤ s.backlog u
  own : s'.backlog t < s.backlog t ∨ s'.ready = s.ready

theorem Lessens.eased (lessens : Lessens t s s') (known : s.Knows t) (weight : s'.weight ≤ s.weight) : Eased s s' := by
  have calls : ∑ n ∈ Finset.range s.nextCall, s'.backlog (.call n) ≤
      ∑ n ∈ Finset.range s.nextCall, s.backlog (.call n) :=
    Finset.sum_le_sum fun n _ => lessens.less (.call n)
  have popups : ∑ i ∈ Finset.range s.popups.length, s'.backlog (.popup i) ≤
      ∑ i ∈ Finset.range s.popups.length, s.backlog (.popup i) :=
    Finset.sum_le_sum fun i _ => lessens.less (.popup i)
  refine .inr ⟨weight, ?_⟩
  rw [arrears, arrears, lessens.nextCall, lessens.length]
  rcases lessens.own with fewer | same
  · left
    cases t with
    | call n =>
      have fewer : ∑ n ∈ Finset.range s.nextCall, s'.backlog (.call n) <
          ∑ n ∈ Finset.range s.nextCall, s.backlog (.call n) :=
        Finset.sum_lt_sum (fun n _ => lessens.less (.call n)) ⟨n, Finset.mem_range.mpr known, fewer⟩
      omega
    | popup i =>
      have fewer : ∑ i ∈ Finset.range s.popups.length, s'.backlog (.popup i) <
          ∑ i ∈ Finset.range s.popups.length, s.backlog (.popup i) :=
        Finset.sum_lt_sum (fun i _ => lessens.less (.popup i)) ⟨i, Finset.mem_range.mpr known, fewer⟩
      omega
  · exact .inr ⟨by omega, same⟩

theorem backlog_same (now : s'.now = s.now) (popups : s'.popups = s.popups) (history : s'.history = s.history) :
    s'.backlog u = s.backlog u := by
  cases u <;> simp [backlog, stage?, now, popups, history]

theorem skip_backlog : (s.skip t a k).backlog u = if t = u then s.backlog u - min k (History.backlog t s.history)
    else s.backlog u := by
  split
  · rename_i same
    subst same
    cases t with
    | call n => simp [backlog, skip, record, History.backlog]; omega
    | popup i => simp [backlog, skip, record, History.backlog, stage?]; omega
  · rename_i other
    cases u <;> simp [backlog, skip, record, History.backlog, stage?, other]

-- What was received is not found again.
theorem Looks.fewer (looks : Looks t a s k s') (wired : s.wire.Wired) (on : s.awaits t = some a) :
    (∀ u, s'.backlog u ≤ s.backlog u) ∧ (0 < k → s'.backlog t < s.backlog t) := by
  cases looks with
  | idle => exact ⟨fun _ => Nat.le_refl _, fun some => absurd some (Nat.lt_irrefl 0)⟩
  | skip some few =>
    have unread : (a.unread s.bus).length = History.backlog t s.history := wired.unread t a on
    have all : History.backlog t s.history ≤ s.backlog t := by
      cases t with
      | call n => exact Nat.le_refl _
      | popup i => exact Nat.le_add_right _ _
    constructor
    · intro u
      rw [skip_backlog]
      split <;> omega
    · intro _
      rw [skip_backlog, if_pos rfl]
      omega

theorem call_weight (moves : Moves w setup (some (.call n)) s s') (known : n < s.nextCall) :
    s'.weight + (s.callWeight n + s.standing) ≤ s.weight + (s'.callWeight n + s'.standing) := by
  obtain ⟨same, less⟩ := moves.others_less
  have others : ∑ m ∈ Finset.range s.nextCall, s'.callWeight m + s.callWeight n ≤
      ∑ m ∈ Finset.range s.nextCall, s.callWeight m + s'.callWeight n := by
    apply sum_others known
    intro m before other
    exact less m before (by simpa using Ne.symm other)
  rw [weight, weight, same]
  omega

theorem Replying.eased (replying : Replying n a s s') (wired : s.wire.Wired) (known : n < s.nextCall)
    (on : s.awaits (.call n) = some a) (light : s.callWeight n = 1)
    (bound : s'.weight + (s.callWeight n + s.standing) ≤ s.weight + (s'.callWeight n + s'.standing)) : Eased s s' := by
  have mine := replying.spends.own
  have rest := replying.spends.toLasting.standing
  have kept (same : s'.nextCall = s.nextCall) (less : ∀ u, s'.backlog u ≤ s.backlog u)
      (own : s'.backlog (.call n) < s.backlog (.call n) ∨ s'.ready = s.ready) : Eased s s' :=
    Lessens.eased ⟨same, replying.spends.length, less, own⟩ known (by omega)
  cases replying with
  | @ends _ s₁ o looks =>
    have spends : Spends n 0 s₁ (finish n (.reply o) (conclude (.call n) a o s₁)) :=
      finish_spends.after ⟨rfl, rfl, fun _ => rfl, id⟩
    have none := spends.own
    exact .inl (by omega)
  | waits looks =>
    refine kept ?_ (fun u => ?_) (.inr ?_)
    · cases looks <;> rfl
    · rw [backlog_same rfl rfl rfl]
      exact (looks.fewer wired on).1 u
    · cases looks <;> rfl
  | again looks some =>
    refine kept ?_ (fun u => ?_) (.inl ((looks.fewer wired on).2 some))
    · cases looks <;> rfl
    · rw [backlog_same rfl rfl rfl]
      exact (looks.fewer wired on).1 u

theorem callTurn_eased (wired : s.wire.Wired) (numbered : s.Numbered) (tuned : s.Tuned (.call n)) :
    Eased s (callTurn w setup n s) := by
  have moves : Moves w setup (some (.call n)) s (callTurn w setup n s) := (callTurn_turned tuned).moves
  have idle (same : callTurn w setup n s = s) : Eased s (callTurn w setup n s) := by
    rw [same]
    exact .inr ⟨Nat.le_refl _, .inr ⟨Nat.le_refl _, rfl⟩⟩
  cases here : s.calls.lookup n with
  | none => exact idle (by simp only [callTurn, here])
  | some p =>
    have known : n < s.nextCall := numbered.known _ (Lookup.mem here)
    have bound := call_weight moves known
    have own : s.callWeight n = p.weight := by rw [callWeight, here]; rfl
    -- One that ends, or lists a folder, has less to do.
    have less {k : Nat} (spends : Spends n k s (callTurn w setup n s)) (light : k < p.weight) :
        Eased s (callTurn w setup n s) := by
      have mine := spends.own
      have rest := spends.toLasting.standing
      exact .inl (by omega)
    cases p with
    | queued op =>
      have begun : Begun n s (callTurn w setup n s) := by
        simp only [callTurn, here]
        exact beginCall_begun
      have mine := begun.own
      have rest := begun.standing
      have heavy : s.callWeight n = 8 := own
      exact .inl (by omega)
    | replying a =>
      have replying : Replying n a s (callTurn w setup n s) := by
        simp only [callTurn, here]
        exact awaitReply_cases n a s
      have on : s.awaits (.call n) = some a := by rw [tuned.awaits, attempt?, here]; rfl
      generalize callTurn w setup n s = s' at bound less replying
      exact replying.eased wired known on own bound
    | joined i =>
      cases ended : s.outcome? i with
      | none => exact idle (by simp only [callTurn, here, ended])
      | some o =>
        have spends : Spends n 0 s (callTurn w setup n s) := by
          simp only [callTurn, here, ended]
          exact finish_spends
        exact less spends Nat.zero_lt_one
    | listing l due result after =>
      by_cases come : due ≤ s.now
      · have spends : Spends n 0 s (callTurn w setup n s) := by
          simp only [callTurn, here, if_pos come]
          exact finish_spends.after ⟨rfl, rfl, fun _ => rfl, id⟩
        exact less spends Nat.zero_lt_one
      · exact idle (by simp only [callTurn, here, if_neg come])
    | authorizing generation i =>
      cases ended : s.outcome? i with
      | none => exact idle (by simp only [callTurn, here, ended])
      | some o =>
        have spends : Spends n 1 s (callTurn w setup n s) := by
          simp only [callTurn, here, ended]
          exact authorized_spends
        exact less spends Nat.one_lt_two

theorem stage_none : s.stage? i = none ↔ s.popups.length ≤ i := by
  rw [stage?, Option.map_eq_none_iff, List.getElem?_eq_none_iff]

theorem settle_length : (settle i o s).popups.length = s.popups.length := by
  simp [settle, wakeAll, record, setStage, updatePopup, closePopup, hangUp]

theorem settle_live (free : s.session.live = none) : (settle i o s).session.live = none := by
  rw [settle_session]
  split
  · rfl
  · exact free

theorem Move.remains (move : Move w setup (some (.popup i)) s s') :
    s'.popups.length = s.popups.length ∧ (s.session.live = none → s'.session.live = none) := by
  cases move with
  | count => exact ⟨updated_length, id⟩
  | wait | look => exact ⟨updated_length, id⟩
  | gone | settle | answer => exact ⟨settle_length, settle_live⟩
  | complete asked =>
    obtain ⟨n, other, _⟩ := asked _ rfl
    cases other
  | cancel =>
    have lasting : Lasting s s.cancelSession := endSession_lasting fun _ => rfl
    exact ⟨lasting.length, lasting.live⟩
  | _ => exact ⟨rfl, id⟩

-- A turn of a popup's task leaves the other popups as they were.
theorem Moves.remains (moves : Moves w setup (some (.popup i)) s s') :
    s'.popups.length = s.popups.length ∧ (s.session.live = none → s'.session.live = none) ∧
      ∀ j, j ≠ i → s'.stage? j = s.stage? j := by
  induction moves with
  | refl => exact ⟨rfl, id, fun _ _ => rfl⟩
  | @tail s₁ s₂ _ move ih =>
    obtain ⟨length, live, stage⟩ := ih
    obtain ⟨same, still⟩ := move.remains
    refine ⟨same.trans length, still ∘ live, ?_⟩
    intro j other
    rcases move.staged (i := j) (by simpa using Ne.symm other) with kept | ⟨absent, opened⟩
    · exact kept.trans (stage j other)
    · have there : s₂.stage? j = none := by
        rw [stage_none, same]
        exact stage_none.mp absent
      cases there.symm.trans opened

theorem popup_weight (moves : Moves w setup (some (.popup i)) s s') (now : s'.now = s.now)
    (here : i < s.popups.length) :
    s'.weight + s.popupWeight i ≤ s.weight + s'.popupWeight i := by
  obtain ⟨same, less⟩ := moves.others_less
  obtain ⟨length, live, stage⟩ := moves.remains
  have calls : ∑ n ∈ Finset.range s.nextCall, s'.callWeight n ≤ ∑ n ∈ Finset.range s.nextCall, s.callWeight n := by
    apply Finset.sum_le_sum
    intro n there
    exact less n (Finset.mem_range.mp there) (by simp)
  have popups : ∑ j ∈ Finset.range s.popups.length, s'.popupWeight j + s.popupWeight i ≤
      ∑ j ∈ Finset.range s.popups.length, s.popupWeight j + s'.popupWeight i := by
    apply sum_others here
    intro j _ other
    rw [popupWeight, stage j other, now, popupWeight]
  have slot := live_le live
  rw [weight, weight, standing, standing, same, length]
  omega

theorem settled_weight : (settle i o s).popupWeight i = 0 := by
  have stage : (settle i o s).stage? i = (s.stage? i).map fun _ => .settled o := by
    cases here : s.popups[i]? with
    | none => simp [stage?, settle, wakeAll, record, setStage, updatePopup, closePopup, hangUp, here]
    | some p => rw [stage?, settled_popup here, stage?, here]; rfl
  rw [popupWeight, stage]
  cases s.stage? i <;> rfl

theorem Spaced.light (spaced : Spaced setup s i) (positive : 0 < setup.settings.callTimeout) : s.popupWeight i ≤ 1 := by
  unfold popupWeight
  cases here : s.stage? i with
  | none => exact Nat.zero_le _
  | some stage =>
    cases ended : stage.outcome? with
    | some o =>
      cases stage with
      | settled => exact Nat.zero_le _
      | _ => cases ended
    | none =>
      obtain ⟨deadline, nextLook, talk, rfl, early⟩ := spaced.waits positive stage here ended
      simp [Stage.weight, Nat.not_le.mpr early]

-- So far the task has only received messages in vain. If it may do no more it has received some.
structure Leafed (i left : Nat) (s s' : Sitting) : Prop where
  nextCall : s'.nextCall = s.nextCall
  popups : s'.popups = s.popups
  ready : s'.ready = s.ready
  less : ∀ u, s'.backlog u ≤ s.backlog u
  own : left = 0 → s'.backlog (.popup i) < s.backlog (.popup i)

theorem Looks.leafed (looks : Looks (.popup i) a s k s') (wired : s.wire.Wired) (on : s.awaits (.popup i) = some a)
    (used : left = 0 → 0 < k) : Leafed i left s s' := by
  obtain ⟨less, own⟩ := looks.fewer wired on
  cases looks <;> exact ⟨rfl, rfl, rfl, less, fun none => own (used none)⟩

-- Before its request has lapsed, a session that talks finds an answer, or only what it does not ask for.
theorem converse_unhurried (w : Surroundings) (setup : Setup) (i rounds : Nat) (wired : s.wire.Wired)
    (on : s.awaits (.popup i) = talk.attempt?) (early : s.now < talk.deadline) (some : 0 < left) :
    (∃ later s', converse w setup i (rounds + 1) left talk s = (.ok (later, talk), s') ∧ Leafed i later s s') ∨
      ∃ o s', converse w setup i (rounds + 1) left talk s = (.error o, s') := by
  cases talk with
  | pausing t =>
    refine .inl ⟨left, s, ?_, rfl, rfl, rfl, fun _ => Nat.le_refl _, fun none => by omega⟩
    simp only [converse]
    exact if_pos (.inr early)
  | awaiting a =>
    obtain ⟨k, s', later, looks, ⟨polled, all, _⟩ | ⟨o, polled, ending⟩⟩ := poll_looks (.popup i) a left s
    all_goals simp only [converse, polled]
    · exact .inl ⟨later, s', rfl, looks.leafed wired on (by omega)⟩
    · rcases o with (origin | _ | payload | reason) | j
      · exact absurd (ending.resolve_left id) (Nat.not_le.mpr early)
      all_goals exact .inr ⟨_, _, rfl⟩

-- A session is less behind when it has looked.
theorem staged_backlog (talk' : Talk) (stage : s.stage? i = some (.waiting deadline nextLook talk))
    (later : nextLook ≤ look) :
    (∀ u, (s.setStage i (.waiting deadline look talk')).backlog u ≤ s.backlog u) ∧
      (nextLook < look → nextLook ≤ s.now →
        (s.setStage i (.waiting deadline look talk')).backlog (.popup i) < s.backlog (.popup i)) := by
  have set := set_stage (s := s) (i := i) (by simp [stage]) (.waiting deadline look talk')
  have before : s.backlog (.popup i) = History.backlog (.popup i) s.history + (s.now + 1 - nextLook) := by
    simp [backlog, stage, Stage.behind]
  have after : (s.setStage i (.waiting deadline look talk')).backlog (.popup i) =
      History.backlog (.popup i) s.history + (s.now + 1 - look) := by
    simp only [backlog, set]
    rfl
  refine ⟨?_, fun further come => by omega⟩
  intro u
  by_cases mine : u = .popup i
  · subst mine
    omega
  · cases u with
    | call n => exact Nat.le_refl _
    | popup j =>
      have other : j ≠ i := fun same => mine (congrArg Task.popup same)
      rw [backlog, stage?, setStage, updated_other _ other]
      exact Nat.le_refl _

theorem woken_lessens (nextCall : s'.nextCall = s.nextCall) (length : s'.popups.length = s.popups.length)
    (less : ∀ u, s'.backlog u ≤ s.backlog u) (own : s'.backlog t < s.backlog t) : Lessens t s (s'.wake u) := by
  have same (v : Task) : (s'.wake u).backlog v = s'.backlog v := backlog_same rfl rfl rfl
  exact ⟨nextCall, length, fun v => same v ▸ less v, .inl (same t ▸ own)⟩

theorem watch_unhurried (stage : s.stage? i = some (.waiting deadline nextLook talk)) (leafed : Leafed i left s s') :
    Lessens (.popup i) s (watch setup i deadline nextLook left talk s') ∨
      ∃ o s₁, watch setup i deadline nextLook left talk s' = settle i o s₁ := by
  have positive : 0 < setup.terms.options.pause := Nat.lt_of_lt_of_le Nat.zero_lt_one (Nat.le_max_right _ _)
  have stage' : s'.stage? i = some (.waiting deadline nextLook talk) := by rw [stage?, leafed.popups]; exact stage
  let s₁ := s'.setStage i (.waiting deadline nextLook talk)
  have less (u : Task) : s₁.backlog u ≤ s.backlog u :=
    Nat.le_trans ((staged_backlog _ stage' (Nat.le_refl _)).1 u) (leafed.less u)
  have length : s₁.popups.length = s.popups.length := updated_length.trans (congrArg List.length leafed.popups)
  have waiting : s₁.stage? i = some (.waiting deadline nextLook talk) := set_stage (by simp [stage']) _
  simp only [watch, if_neg (Nat.ne_of_gt positive)]
  split
  · exact .inr ⟨_, _, rfl⟩
  split
  · rename_i none
    refine .inl (woken_lessens leafed.nextCall length less ?_)
    exact Nat.lt_of_le_of_lt ((staged_backlog _ stage' (Nat.le_refl _)).1 _) (leafed.own none)
  rename_i some
  split
  · exact .inl ⟨leafed.nextCall, length, less, .inr leafed.ready⟩
  rename_i come
  split
  · exact .inr ⟨_, _, rfl⟩
  left
  let n := min left (looks s₁.now setup.terms.options.pause nextLook)
  let s₂ := (s₁.record (.looked i)).setStage i (.waiting deadline (nextLook + n * setup.terms.options.pause) talk)
  have further : 0 < n * setup.terms.options.pause :=
    Nat.mul_pos (Nat.le_min.mpr ⟨Nat.pos_of_ne_zero some, Nat.le_add_left _ _⟩) positive
  obtain ⟨fewer, own⟩ := staged_backlog (s := s₁.record (.looked i)) talk waiting
    (Nat.le_add_right nextLook (n * setup.terms.options.pause))
  have same (u : Task) : (s₁.record (.looked i)).backlog u = s₁.backlog u := by cases u <;> rfl
  have fewer (u : Task) : s₂.backlog u ≤ s.backlog u := Nat.le_trans (fewer u) (same u ▸ less u)
  have own : s₂.backlog (.popup i) < s.backlog (.popup i) :=
    Nat.lt_of_lt_of_le (own (by omega) (Nat.le_of_not_lt come)) (same _ ▸ less _)
  have length : s₂.popups.length = s.popups.length := updated_length.trans length
  split
  · exact woken_lessens leafed.nextCall length fewer own
  · exact ⟨leafed.nextCall, length, fewer, .inl own⟩

theorem popupTurn_unhurried (w : Surroundings) (setup : Setup) (wired : s.wire.Wired) (tuned : s.Tuned (.popup i))
    (here : s.popups[i]? = some p) (stage : p.stage = .waiting deadline nextLook talk) (early : s.now < talk.deadline) :
    Lessens (.popup i) s (popupTurn w setup i s) ∨ ∃ o s', popupTurn w setup i s = settle i o s' := by
  have on : s.awaits (.popup i) = talk.attempt? := by rw [tuned.awaits, attempt?, here]; simp [stage, Stage.attempt?]
  have waiting : s.stage? i = some (.waiting deadline nextLook talk) := by rw [stage?, here]; exact congrArg some stage
  simp only [popupTurn, here, stage]
  split
  · exact .inr ⟨_, _, rfl⟩
  · split
    · exact .inr ⟨_, _, rfl⟩
    · have talked := converse_unhurried w setup i 127 wired on early (show 0 < 128 by omega)
      simp only [proceed, allowance]
      rcases talked with ⟨left, s', goes, leafed⟩ | ⟨o, s', answered⟩
      · rw [goes]
        exact watch_unhurried waiting leafed
      · rw [answered]
        exact .inr ⟨_, _, rfl⟩

theorem popupTurn_eased (positive : 0 < setup.settings.callTimeout) (spaced : Spaced setup (popupTurn w setup i s) i)
    (wired : s.wire.Wired) (tuned : s.Tuned (.popup i)) : Eased s (popupTurn w setup i s) := by
  have turned : Turned w setup (.popup i) s (popupTurn w setup i s) := popupTurn_turned tuned
  have idle (same : popupTurn w setup i s = s) : Eased s (popupTurn w setup i s) := by
    rw [same]
    exact .inr ⟨Nat.le_refl _, .inr ⟨Nat.le_refl _, rfl⟩⟩
  cases here : s.popups[i]? with
  | none => exact idle (by simp only [popupTurn, here])
  | some p =>
    have there : i < s.popups.length := (List.getElem?_eq_some_iff.mp here).1
    have bound := popup_weight turned.moves turned.now there
    have after := spaced.light positive
    have before : s.popupWeight i = p.stage.weight s.now := by simp [popupWeight, stage?, here]
    cases stage : p.stage with
    | settled o => exact idle (by simp only [popupTurn, here, stage])
    | opened =>
      have heavy : s.popupWeight i = 3 := by rw [before, stage]; rfl
      exact .inl (by omega)
    | waiting deadline nextLook talk =>
      by_cases late : talk.deadline ≤ s.now
      · have heavy : s.popupWeight i = 2 := by
          rw [before, stage]
          exact if_pos late
        exact .inl (by omega)
      · have light : s.popupWeight i = 1 := by
          rw [before, stage]
          exact if_neg late
        rcases popupTurn_unhurried w setup wired tuned here stage (Nat.lt_of_not_le late) with lessens | ⟨o, s', same⟩
        · exact lessens.eased there (by omega)
        · rw [same] at bound ⊢
          have ended : (settle i o s').popupWeight i = 0 := settled_weight
          exact .inl (by omega)

-- A task that was ready leaves less to do or to find, or is the only one that is ready no longer.
theorem Reached.eased (path : Reached w setup .initial s) (positive : 0 < setup.settings.callTimeout) (t : Task) :
    Eased { s with ready := s.ready.erase t } (act w setup (.turn t) s) := by
  have tuned : Tuned { s with ready := s.ready.erase t } t := ⟨(path.tuned t).1, (path.tuned t).2⟩
  cases t with
  | call n =>
    exact callTurn_eased (s := { s with ready := s.ready.erase (.call n) }) path.wired
      ⟨path.numbered.1, path.numbered.2⟩ tuned
  | popup i =>
    exact popupTurn_eased (s := { s with ready := s.ready.erase (.popup i) }) positive
      (path.regulated.turn path.tuned i).1 path.wired tuned

end Sitting
end CourseFiles
