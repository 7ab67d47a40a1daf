import CourseFiles.Proofs.Sitting.Moves

namespace CourseFiles

open History

namespace Sitting

variable {w : Surroundings} {setup : Setup} {s s' s'' : Sitting} {t u : Task} {v : Option Task}

abbrev Moves (w : Surroundings) (setup : Setup) (v : Option Task) : Sitting → Sitting → Prop :=
  Relation.ReflTransGen (Move w setup v)

theorem Moves.grows (moves : Moves w setup v s s') : ∃ newer, s'.history = newer ++ s.history := by
  induction moves with
  | refl => exact ⟨[], rfl⟩
  | tail _ move ih => exact grows_trans ih move.grows

theorem deliver_moves (messages : List Message) (fresh : s.Fresh setup v) :
    Moves w setup v s (messages.foldl deliver s) := by
  induction messages generalizing s with
  | nil => exact .refl
  | cons m rest ih => exact .head (.deliver fresh) (ih fresh)

-- No more and no less is awaited, and what is awaited was not refused.
structure Holds (s : Sitting) (t : Task) (held : Option Attempt) : Prop where
  awaits : s.awaits t = held
  accepted : s.refusal t = none

abbrev Tuned (s : Sitting) (t : Task) : Prop := s.Holds t (s.attempt? t)

-- What is delivered leaves everything but the bus, the history and the ready tasks as it was.
structure Delivered (s s₁ : Sitting) : Prop where
  now : s₁.now = s.now
  popups : s₁.popups = s.popups
  calls : s₁.calls = s.calls
  picker : s₁.picker = s.picker
  launches : s₁.launches = s.launches
  awaits : ∀ t, s₁.awaits t = s.awaits t
  refusal : ∀ t, s₁.refusal t = s.refusal t

theorem delivered (messages : List Message) : Delivered s (messages.foldl deliver s) := by
  induction messages generalizing s with
  | nil => exact ⟨rfl, rfl, rfl, rfl, rfl, fun _ => rfl, fun _ => rfl⟩
  | cons m rest ih =>
    have rest := ih (s := s.deliver m)
    exact ⟨rest.now, rest.popups, rest.calls, rest.picker, rest.launches, rest.awaits, rest.refusal⟩

theorem sendOff_awaits : (s.sendOff t origin r timeout reason).awaits t =
    some (listen t origin r.id timeout s).1 := by
  simp [awaits, sendOff, listen, record, awaited, Happening.ends]

theorem sendOff_refusal : (s.sendOff t origin r timeout reason).refusal t = reason := by
  simp [Sitting.refusal, sendOff, listen, record, History.refusal, Happening.ends]

theorem concluded_holds : (conclude t a o s).Holds t none := by
  constructor
  · simp [awaits, conclude, record, hangUp, awaited, Happening.ends]
  · simp [Sitting.refusal, conclude, record, hangUp, History.refusal, Happening.ends]

-- How an attempt begins: it is accepted and awaited, or concluded at once.
theorem attempt_cases (w : Surroundings) (setup : Setup) (answers : Counterpart) (origin : String) (r : Request)
    (timeout : Nat) (asks : s.Asks setup t origin r timeout) (free : s.awaits t = none) :
    ∃ a s', s'.now = s.now ∧ s'.popups = s.popups ∧ s'.calls = s.calls ∧ s'.awaits t = some a ∧
      a.deadline = s.now + timeout ∧ Moves w setup (some t) s s' ∧
      (s'.refusal t = none ∧ attempt t answers origin r timeout s = (.ok a, s') ∨
        ∃ reason, s'.refusal t = some reason ∧
          attempt t answers origin r timeout s = (.error reason, conclude t a (.error (.post reason)) s')) := by
  generalize reaction : answers (s.posted ++ [r.id]) = answer
  obtain ⟨messages, refusal⟩ := answer
  have sent := delivered (s := s.sendOff t origin r timeout refusal) messages
  refine ⟨(listen t origin r.id timeout s).1, messages.foldl deliver (s.sendOff t origin r timeout refusal),
    sent.now, sent.popups, sent.calls, (sent.awaits t).trans sendOff_awaits, rfl,
    .head (.ask asks free) (deliver_moves messages ?_), ?_⟩
  · intro i same
    cases same
    obtain ⟨_, _, _, rfl⟩ := asks
    exact ⟨_, sendOff_awaits, rfl⟩
  have refused := (sent.refusal t).trans sendOff_refusal
  have posted : post t answers origin r (listen t origin r.id timeout s).2 =
      (refusal, messages.foldl deliver (s.sendOff t origin r timeout refusal)) := by
    simp only [post]
    rw [show answers ((listen t origin r.id timeout s).2.posted ++ [r.id]) = ⟨messages, refusal⟩ from reaction]
    rfl
  cases refusal with
  | none => exact .inl ⟨refused, by simp only [attempt, posted]⟩
  | some reason => exact .inr ⟨reason, refused, by simp only [attempt, posted]⟩

theorem updated_popup (here : s.popups[i]? = some p) : (s.updatePopup i f).popups[i]? = some (f p) := by
  simp [updatePopup, here]

theorem updated_other (f : Popup → Popup) {j : Nat} (other : j ≠ i) :
    (s.updatePopup i f).popups[j]? = s.popups[j]? := by
  simp [updatePopup, Ne.symm other]

theorem updated_own (f : Popup → Popup) : (s.updatePopup i f).popups[i]? = s.popups[i]?.map f := by
  simp [updatePopup]

-- A popup that was asked once more is the same but for the count of its posts.
def Counted (s : Sitting) (i : Nat) (p : Popup) : Prop := ∃ posts, s.popups[i]? = some { p with posts }

theorem ask_facts (w : Surroundings) (setup : Setup) (here : s.Counted i p) (going : p.Going)
    (free : s.awaits (.popup i) = none) :
    ∃ talk s', ask w setup i s = (talk, s') ∧ s'.now = s.now ∧ s'.Counted i p ∧
      s'.Holds (.popup i) talk.attempt? ∧ Moves w setup (some (.popup i)) s s' := by
  obtain ⟨posts, here⟩ := here
  let s₁ := (draw w s).2.updatePopup i fun p => { p with posts := p.posts + 1 }
  have here₁ : s₁.popups[i]? = some { p with posts := posts + 1 } :=
    updated_popup (s := (draw w s).2) here
  have begun : Moves w setup (some (.popup i)) s s₁ := .tail (.single .draw) .count
  obtain ⟨a, s₂, now, popups, _, on, deadline, moves, cases⟩ := attempt_cases w setup
    ((s.popups[i]?.map (counterpart w)).getD fun _ => .sends []) setup.authUrl.origin.text
    (Request.of Session.method [.text setup.token] (draw w s).1) setup.settings.callTimeout
    (t := .popup i) (s := s₁) ⟨⟨_, here₁, ⟨going.1, going.2, going.3⟩⟩, rfl, rfl, rfl⟩ free
  have here₂ : s₂.Counted i p := ⟨posts + 1, popups ▸ here₁⟩
  rcases cases with ⟨accepted, begins⟩ | ⟨reason, refused, begins⟩
  · refine ⟨.awaiting a, s₂, ?_, now, here₂, ⟨on, accepted⟩, begun.trans moves⟩
    simp only [ask, Setup.terms, SessionOptions.ofSettings]
    rw [show attempt _ _ _ _ _ ((draw w s).2.updatePopup i _) = _ from begins]
  · have concluded : Moves w setup (some (.popup i)) s (conclude (.popup i) a (.error (.post reason)) s₂) :=
      (begun.trans moves).tail (.conclude on (.refused refused) (fun _ _ => id) (by simp))
    refine ⟨.pausing (s₂.now + setup.settings.pollPause), conclude (.popup i) a (.error (.post reason)) s₂, ?_,
      now, here₂, concluded_holds, concluded⟩
    simp only [ask, Setup.terms, SessionOptions.ofSettings]
    rw [show attempt _ _ _ _ _ ((draw w s).2.updatePopup i _) = _ from begins]
    rfl

-- What a task does grows with what happens.
theorem spent_grows (now : s'.now = s.now) (grown : ∃ newer, s'.history = newer ++ s.history) :
    s.spent t ≤ s'.spent t := by
  obtain ⟨newer, grown⟩ := grown
  rw [Sitting.spent, Sitting.spent, grown, now]
  exact spent_append

-- A task receives messages that are not the reply, if any have come.
structure Skips (w : Surroundings) (setup : Setup) (t : Task) (a : Attempt) (n : Nat) (s s' : Sitting) : Prop where
  moves : Moves w setup (some t) s s'
  now : s'.now = s.now
  popups : s'.popups = s.popups
  calls : s'.calls = s.calls
  holds : s'.Holds t (some a)
  unread : a.unread s'.bus = (a.unread s.bus).drop n
  spent : s'.spent t = n + s.spent t

theorem Skips.counted (skips : Skips w setup t a n s s') (here : s.Counted i p) : s'.Counted i p := by
  obtain ⟨posts, here⟩ := here
  exact ⟨posts, skips.popups ▸ here⟩

theorem skips (holds : s.Holds t (some a)) (few : n ≤ (a.unread s.bus).length)
    (silent : a.reply? ((a.unread s.bus).take n) = none) :
    Skips w setup t a n s (if n = 0 then s else s.skip t a n) := by
  split
  · rename_i none
    subst none
    exact ⟨.refl, rfl, rfl, rfl, holds, rfl, (Nat.zero_add _).symm⟩
  · rename_i some
    refine ⟨.single (.skip holds.awaits silent), rfl, rfl, rfl, ⟨?_, ?_⟩, ?_, ?_⟩
    · exact (awaited_skip rfl).trans holds.awaits
    · exact (refusal_skip rfl).trans holds.accepted
    · cases here : s.bus.queue? a.listener with
      | some queue => exact Attempt.unread_setQueue here
      | none =>
        rw [Attempt.unread, here] at few
        exact absurd (Nat.le_zero.mp few) some
    · simp [Sitting.spent, skip, record, History.spent, Happening.cost]

-- When an attempt is looked after, so many messages are received in vain.
inductive Looks (t : Task) (a : Attempt) (s : Sitting) : Nat → Sitting → Prop where
  | idle : Looks t a s 0 s
  | skip (some : 0 < n) (few : n ≤ (a.unread s.bus).length) : Looks t a s n (s.skip t a n)

-- A task that looks after its attempt while it may do something ends it, or sees that there is time; what it may do it
-- uses for what it receives.
theorem poll_looks (t : Task) (a : Attempt) (left : Nat) (s : Sitting) : ∃ n s₁ later, Looks t a s n s₁ ∧
    (poll t a left s = (none, later, s₁) ∧ left ≤ later + n ∧ (0 < left → s.now < a.deadline) ∨
      ∃ o, poll t a left s = (some o, later, conclude t a o s₁) ∧ (Answer o ∨ a.deadline ≤ s.now)) := by
  simp only [poll]
  split
  · rename_i found
    exact ⟨0, s, _, .idle, .inr ⟨_, rfl, .inl (Attempt.reply?_answer found)⟩⟩
  · have looks : Looks t a s (min left (a.unread s.bus).length) (if min left (a.unread s.bus).length = 0 then s
        else s.skip t a (min left (a.unread s.bus).length)) := by
      split
      · rename_i none
        rw [none]
        exact .idle
      · rename_i some
        exact .skip (Nat.pos_of_ne_zero some) (Nat.min_le_right _ _)
    have now : (if min left (a.unread s.bus).length = 0 then s
        else s.skip t a (min left (a.unread s.bus).length)).now = s.now := by
      split <;> rfl
    generalize (if min left (a.unread s.bus).length = 0 then s else _) = s₁ at looks now
    split
    · rename_i late
      exact ⟨_, _, _, looks, .inr ⟨_, rfl, .inr (now ▸ late.2)⟩⟩
    · exact ⟨_, _, _, looks, .inl ⟨rfl, by omega, by omega⟩⟩

theorem poll_found (found : a.reply? ((a.unread s.bus).take left) = some o) :
    poll t a left s = (some o, 0, conclude t a o s) := by
  rw [poll, found]

-- It is cut short when more has come than it may receive.
theorem poll_cut (some : 0 < left) (silent : a.reply? ((a.unread s.bus).take left) = none)
    (more : left < (a.unread s.bus).length) (early : s.now < a.deadline) :
    poll t a left s = (none, 0, s.skip t a left) := by
  have all : min left (a.unread s.bus).length = left := Nat.min_eq_left (Nat.le_of_lt more)
  have unlapsed : ¬ (0 < left ∧ a.deadline ≤ (s.skip t a left).now) := fun late => Nat.not_le.mpr early late.2
  rw [poll, silent]
  dsimp only
  rw [all, if_neg (Nat.ne_of_gt some), if_neg unlapsed, Nat.sub_self]

-- What becomes of an attempt that is looked after: it is answered, its time is up, or it goes on.
inductive Polled (w : Surroundings) (setup : Setup) (t : Task) (a : Attempt) (left : Nat) (s : Sitting) :
    Option CallOutcome × Nat × Sitting → Prop where
  | answered (found : a.reply? (a.unread s.bus) = some o) : Polled w setup t a left s (some o, 0, conclude t a o s)
  | lapsed (skips : Skips w setup t a n s s₁) (late : a.deadline ≤ s.now) (through : s₁.Through t a)
      (less : later < left) (full : allowance ≤ later + 1 + s₁.spent t) :
      Polled w setup t a left s
        (some (.error (.timeout a.origin)), later, conclude t a (.error (.timeout a.origin)) s₁)
  | waits (skips : Skips w setup t a n s s₁) (rests : 0 < later → a.Rests s₁.now s₁.bus)
      (full : allowance ≤ later + s₁.spent t) : Polled w setup t a left s (none, later, s₁)

theorem poll_cases (holds : s.Holds t (some a)) (full : allowance ≤ left + s.spent t) :
    Polled w setup t a left s (poll t a left s) := by
  simp only [poll]
  cases found : a.reply? ((a.unread s.bus).take left) with
  | some o => exact .answered (Attempt.reply?_of_take found)
  | none =>
    have silent : a.reply? ((a.unread s.bus).take (min left (a.unread s.bus).length)) = none := by
      rw [← List.take_take, List.take_length]
      exact found
    have skips : Skips w setup t a _ s _ := skips holds (Nat.min_le_right _ _) silent
    dsimp only
    generalize (if min left (a.unread s.bus).length = 0 then s else s.skip t a _) = s₁ at skips
    have received (some : min left (a.unread s.bus).length < left) : a.unread s₁.bus = [] := by
      rw [skips.unread]
      exact List.drop_eq_nil_of_le (by omega)
    have spent := skips.spent
    split
    · rename_i due
      refine .lapsed skips (skips.now ▸ due.2) ?_ (by omega) (by omega)
      by_cases some : min left (a.unread s.bus).length < left
      · exact .inl (received some)
      · exact .inr (by omega)
    · rename_i waits
      refine .waits skips ?_ (by omega)
      intro some
      exact ⟨received (by omega), by omega⟩

-- A task that may still do something has received all that came, and has time.
structure Attended (s : Sitting) (i left : Nat) (talk : Talk) : Prop where
  rests : 0 < left → ∀ a, talk.attempt? = some a → a.Rests s.now s.bus
  full : allowance ≤ left + s.spent (.popup i)

inductive Conversed (w : Surroundings) (setup : Setup) (i : Nat) (p : Popup) (s : Sitting) :
    Except SessionOutcome (Nat × Talk) × Sitting → Prop where
  | waits (moves : Moves w setup (some (.popup i)) s s₁) (now : s₁.now = s.now) (here : s₁.Counted i p)
      (held : s₁.Holds (.popup i) talk.attempt?) (attended : s₁.Attended i left talk) :
      Conversed w setup i p s (.ok (left, talk), s₁)
  | ends (moves : Moves w setup (some (.popup i)) s s₁) (now : s₁.now = s.now) (here : s₁.Counted i p)
      (on : s₁.awaits (.popup i) = some a) (ends : s₁.Ends (.popup i) a o) (answer : Answer o) :
      Conversed w setup i p s (.error (closing o), conclude (.popup i) a o s₁)

theorem Conversed.after (moves : Moves w setup (some (.popup i)) s s') (now : s'.now = s.now)
    (rest : Conversed w setup i p s' r) : Conversed w setup i p s r := by
  cases rest with
  | waits more same here held attended => exact .waits (moves.trans more) (same.trans now) here held attended
  | ends more same here on ends answer => exact .ends (moves.trans more) (same.trans now) here on ends answer

-- Asking once more and going on.
theorem ask_then (here : s.Counted i p) (going : p.Going) (free : s.awaits (.popup i) = none)
    (full : allowance ≤ left + s.spent (.popup i))
    (rest : ∀ talk s', s'.Counted i p → s'.Holds (.popup i) talk.attempt? →
      allowance ≤ left + s'.spent (.popup i) → Conversed w setup i p s' (converse w setup i rounds left talk s')) :
    Conversed w setup i p s (converse w setup i rounds left (ask w setup i s).1 (ask w setup i s).2) := by
  obtain ⟨talk, s', asked, now, here', held, moves⟩ := ask_facts w setup here going free
  rw [asked]
  refine .after moves now (rest talk s' here' held ?_)
  have more : s.spent (.popup i) ≤ s'.spent (.popup i) := spent_grows now (Moves.grows moves)
  omega

theorem converse_cases (here : s.Counted i p) (going : p.Going) (held : s.Holds (.popup i) talk.attempt?)
    (enough : left ≤ rounds) (full : allowance ≤ left + s.spent (.popup i)) :
    Conversed w setup i p s (converse w setup i rounds left talk s) := by
  induction rounds generalizing s talk left with
  | zero => exact .waits .refl rfl here held ⟨fun some => by omega, full⟩
  | succ rounds ih =>
    have again {left : Nat} (s' : Sitting) (here : s'.Counted i p) (free : s'.awaits (.popup i) = none)
        (enough : left ≤ rounds) (full : allowance ≤ left + s'.spent (.popup i)) :
        Conversed w setup i p s' (converse w setup i rounds left (ask w setup i s').1 (ask w setup i s').2) :=
      ask_then here going free full fun talk s' here held full => ih here held enough full
    cases talk with
    | pausing t =>
      simp only [converse]
      split
      · exact .waits .refl rfl here held ⟨(fun _ _ awaited => by cases awaited), full⟩
      · rename_i passed
        have free : (s.record (.resumed i)).awaits (.popup i) = none := (awaited_skip rfl).trans held.awaits
        have spent : (s.record (.resumed i)).spent (.popup i) = 1 + s.spent (.popup i) := by
          simp [Sitting.spent, record, History.spent, Happening.cost]
        exact .after (.single (.resume held.awaits)) rfl (again _ here free (by omega) (by omega))
    | awaiting a =>
      have polled : Polled w setup (.popup i) a left s (poll (.popup i) a left s) := poll_cases held full
      simp only [converse]
      generalize poll (.popup i) a left s = result at polled
      cases polled with
      | waits skips rests full =>
        refine .waits skips.moves skips.now (skips.counted here) skips.holds ⟨fun some b awaited => ?_, full⟩
        cases awaited
        exact rests some
      | @lapsed n s₁ later skips late through less full =>
        have lapsed : Move w setup (some (.popup i)) s₁ (conclude (.popup i) a (.error (.timeout a.origin)) s₁) :=
          .conclude skips.holds.awaits (.lapsed skips.holds.accepted (skips.now ▸ late) through) (fun _ _ => id)
            (by simp)
        have spent : (conclude (.popup i) a (.error (.timeout a.origin)) s₁).spent (.popup i) =
            1 + s₁.spent (.popup i) := by
          simp [Sitting.spent, conclude, record, hangUp, History.spent, Happening.cost]
        exact .after (skips.moves.tail lapsed) skips.now
          (again _ (skips.counted here) concluded_holds.awaits (by omega) (by omega))
      | @answered o found =>
        have ended : Conversed w setup i p s (.error (closing o), conclude (.popup i) a o s) :=
          .ends .refl rfl here held.awaits (.answered held.accepted found) (Attempt.reply?_answer found)
        rcases o with (origin | _ | payload | reason) | j
        · exact absurd (Attempt.reply?_answer found) id
        · exact ended
        · exact ended
        · exact absurd (Attempt.reply?_answer found) id
        · exact ended

-- Nothing is left for the task to do now.
def Idle (s : Sitting) (t : Task) : Prop :=
  (∀ a, s.awaits t = some a → a.Rests s.now s.bus) ∧
    ∀ i p, t = .popup i → s.popups[i]? = some p → p.stage.outcome? = none →
      p.Going ∧ ∃ deadline nextLook talk, p.stage = .waiting deadline nextLook talk ∧ s.now < deadline ∧
        s.now < nextLook

structure Turned (w : Surroundings) (setup : Setup) (t : Task) (s s₁ : Sitting) : Prop where
  moves : Moves w setup (some t) s s₁
  now : s₁.now = s.now
  tuned : s₁.Tuned t
  heeded : t ∈ s₁.ready ∨ s₁.Idle t

theorem Turned.after (moves : Moves w setup (some t) s s') (now : s'.now = s.now)
    (rest : Turned w setup t s' s'') : Turned w setup t s s'' :=
  ⟨moves.trans rest.moves, rest.now.trans now, rest.tuned, rest.heeded⟩

theorem settled_holds : (settle i o s).Holds (.popup i) none := by
  constructor
  · simp [awaits, settle, wakeAll, record, awaited, Happening.ends]
  · simp [Sitting.refusal, settle, wakeAll, record, History.refusal, Happening.ends]

theorem settle_session :
    (settle i o s).session = if s.session.live = some i then ⟨.ofOutcome o, none⟩ else s.session := rfl

theorem settled_popup (here : s.popups[i]? = some p) :
    (settle i o s).popups[i]? = some { p with closed := true, stage := .settled o } := by
  simp [settle, wakeAll, record, setStage, updatePopup, closePopup, hangUp, here]

theorem settled_turned (here : s'.popups[i]? = some p) (now : s'.now = s.now)
    (moves : Moves w setup (some (.popup i)) s (settle i o s')) :
    Turned w setup (.popup i) s (settle i o s') := by
  have free : (settle i o s').Holds (.popup i) none := settled_holds
  refine ⟨moves, now, ?_, .inr ⟨?_, ?_⟩⟩
  · rw [Tuned, attempt?, settled_popup here]
    exact free
  · intro a awaited
    cases free.awaits.symm.trans awaited
  · intro j q same there unsettled
    cases same
    rw [settled_popup here] at there
    cases there
    cases unsettled

theorem staged_popup (here : s.popups[i]? = some p) (stage : Stage) :
    (s.setStage i stage).popups[i]? = some { p with stage } :=
  updated_popup here

theorem mem_enqueue {ready : List Task} : t ∈ enqueue ready t := by
  unfold enqueue
  split <;> simp_all

theorem Attended.through (attended : s.Attended i left talk) (held : s.awaits (.popup i) = talk.attempt?)
    (a : Attempt) (on : s.awaits (.popup i) = some a) : s.Through (.popup i) a := by
  by_cases some : 0 < left
  · exact .inl (attended.rests some a (held ▸ on)).received
  · have full := attended.full
    exact .inr (by omega)

theorem look_later {now pause look : Nat} (positive : 1 ≤ pause) (come : look ≤ now) :
    now < look + looks now pause look * pause := by
  have below := Nat.lt_div_mul_add positive (a := now - look)
  simp only [looks, Nat.add_mul]
  omega

theorem waiting_tuned (here : s.popups[i]? = some p) (stage : p.stage = .waiting deadline nextLook talk)
    (held : s.Holds (.popup i) talk.attempt?) : s.Tuned (.popup i) := by
  have same : s.attempt? (.popup i) = talk.attempt? := by rw [attempt?, here]; simp [stage, Stage.attempt?]
  rw [Tuned, same]
  exact held

theorem waiting_idle (here : s.popups[i]? = some p) (going : p.Going)
    (stage : p.stage = .waiting deadline nextLook talk) (early : s.now < deadline) (unlooked : s.now < nextLook)
    (rests : ∀ a, s.awaits (.popup i) = some a → a.Rests s.now s.bus) : s.Idle (.popup i) := by
  refine ⟨rests, ?_⟩
  intro j q same there _
  cases same
  cases here.symm.trans there
  exact ⟨going, deadline, nextLook, talk, stage, early, unlooked⟩

theorem watch_turned (here : s.popups[i]? = some p) (going : p.Going)
    (held : s.Holds (.popup i) talk.attempt?) (attended : s.Attended i left talk)
    (stage : p.stage = .opened ∧ deadline = s.now + setup.settings.sessionTimeout ∧ nextLook = s.now ∨
      ∃ talk', p.stage = .waiting deadline nextLook talk') :
    Turned w setup (.popup i) s (watch setup i deadline nextLook left talk s) := by
  have staged (look : Nat) : Popup.Going { p with stage := .waiting deadline look talk } :=
    ⟨going.1, going.2, rfl⟩
  have waiting : Moves w setup (some (.popup i)) s (s.setStage i (.waiting deadline nextLook talk)) :=
    .single (.wait here going held.awaits stage)
  have here' := staged_popup here (.waiting deadline nextLook talk)
  have tuned' := waiting_tuned here' rfl ⟨held.awaits, held.accepted⟩
  have pause : 1 ≤ setup.settings.pollPause := by simp only [Settings.pollPause]; omega
  simp only [watch]
  split
  · rename_i late
    exact settled_turned here' rfl
      (waiting.tail (.settle here' rfl held.awaits (.expired (staged _) rfl late (attended.through held.awaits))))
  rename_i early
  rw [if_neg (Nat.ne_of_gt pause : setup.terms.options.pause ≠ 0)]
  split
  · exact ⟨waiting.tail .wake, rfl, ⟨tuned'.1, tuned'.2⟩, .inl mem_enqueue⟩
  rename_i room
  have rests (a : Attempt) (on : s.awaits (.popup i) = some a) : a.Rests s.now s.bus :=
    attended.rests (Nat.pos_of_ne_zero room) a (held.awaits ▸ on)
  split
  · rename_i unlooked
    exact ⟨waiting, rfl, tuned', .inr (waiting_idle here' (staged _) rfl (Nat.lt_of_not_le early) unlooked rests)⟩
  rename_i time
  have come := Nat.le_of_not_lt time
  split
  · rename_i gone
    have absent : p.closed = true := by simpa [setStage, updatePopup, record, here] using gone
    exact settled_turned here' rfl (waiting.tail (.gone here' (staged _) rfl (Nat.lt_of_not_le early)
      come absent held.awaits rests))
  rename_i stays
  have present : p.closed = false := by simpa [setStage, updatePopup, record, here] using stays
  let looked (n : Nat) := ((s.setStage i (.waiting deadline nextLook talk)).record (.looked i)).setStage i
    (.waiting deadline (nextLook + n * setup.settings.pollPause) talk)
  have turned (n : Nat) (once : 1 ≤ n) (few : n ≤ looks s.now setup.settings.pollPause nextLook)
      (all : n ≠ left → s.now < nextLook + n * setup.settings.pollPause) :
      Turned w setup (.popup i) s (if n = left then (looked n).wake (.popup i) else looked n) := by
    have moves := waiting.tail (.look here' (staged _) rfl come present once few)
    have there := staged_popup (s := (s.setStage i (.waiting deadline nextLook talk)).record (.looked i)) here'
      (.waiting deadline (nextLook + n * setup.settings.pollPause) talk)
    have tuned := waiting_tuned there rfl ⟨held.awaits, held.accepted⟩
    split
    · exact ⟨moves.tail .wake, rfl, ⟨tuned.1, tuned.2⟩, .inl mem_enqueue⟩
    · rename_i less
      exact ⟨moves, rfl, tuned, .inr (waiting_idle there (staged _) rfl (Nat.lt_of_not_le early) (all less) rests)⟩
  refine turned (min left (looks s.now setup.settings.pollPause nextLook)) ?_ (Nat.min_le_right _ _) ?_
  · exact Nat.le_min.mpr ⟨Nat.pos_of_ne_zero room, Nat.le_add_left _ _⟩
  · intro less
    rw [Nat.min_eq_right (by omega)]
    exact look_later pause come

theorem proceed_turned (here : s.Counted i p) (going : p.Going) (held : s.Holds (.popup i) talk.attempt?)
    (old : ∀ b, p.stage.attempt? = some b → ∃ time, (time, .listened (.popup i) b) ∈ s.history)
    (stage : p.stage = .opened ∧ deadline = s.now + setup.settings.sessionTimeout ∧ nextLook = s.now ∨
      ∃ talk', p.stage = .waiting deadline nextLook talk') :
    Turned w setup (.popup i) s (proceed w setup i deadline nextLook talk s) := by
  have cases : Conversed w setup i p s (converse w setup i allowance allowance talk s) :=
    converse_cases here going held (Nat.le_refl _) (Nat.le_add_right _ _)
  unfold proceed
  generalize converse w setup i allowance allowance talk s = result at cases
  cases cases with
  | waits moves now here held attended =>
    obtain ⟨posts, here⟩ := here
    refine .after moves now (watch_turned here ⟨going.1, going.2, going.3⟩ held attended ?_)
    rw [now]
    exact stage
  | ends moves now here on ends answer =>
    obtain ⟨posts, here⟩ := here
    refine settled_turned here now (moves.tail (.answer here ⟨going.1, going.2, going.3⟩ on ?_ ends answer))
    intro b held
    obtain ⟨time, there⟩ := old b held
    exact ⟨time, recorded_still (Moves.grows moves) there⟩

-- A popup that is there: it ends by its marks, or goes on.
theorem marked_turned (here : s.popups[i]? = some p) (unsettled : p.stage.outcome? = none)
    (held : s.awaits (.popup i) = p.stage.attempt?)
    (goes : p.Going → Turned w setup (.popup i) s s') :
    Turned w setup (.popup i) s (if p.cancelled = true then settle i (.error .cancelled) s
      else if p.finished = true then settle i (.ok ()) s else s') := by
  split
  · rename_i marked
    exact settled_turned here rfl (.single (.settle here unsettled held (.cancelled marked)))
  · rename_i notCancelled
    have notCancelled := Bool.eq_false_iff.mpr notCancelled
    split
    · rename_i marked
      exact settled_turned here rfl (.single (.settle here unsettled held (.completed notCancelled marked)))
    · rename_i notFinished
      exact goes ⟨notCancelled, Bool.eq_false_iff.mpr notFinished, unsettled⟩

theorem popupTurn_turned (tuned : s.Tuned (.popup i)) : Turned w setup (.popup i) s (popupTurn w setup i s) := by
  unfold popupTurn
  split
  · rename_i missing
    have free : s.awaits (.popup i) = none := by rw [tuned.awaits, attempt?, missing]; rfl
    refine ⟨.refl, rfl, tuned, .inr ⟨?_, ?_⟩⟩
    · intro a awaited
      cases free.symm.trans awaited
    · intro j p same there _
      cases same
      cases missing.symm.trans there
  · rename_i p here
    have held : s.awaits (.popup i) = p.stage.attempt? := by rw [tuned.awaits, attempt?, here]; rfl
    split
    · rename_i o settled
      refine ⟨.refl, rfl, tuned, .inr ⟨?_, ?_⟩⟩
      · intro a awaited
        rw [held, settled] at awaited
        cases awaited
      · intro j q same there unsettled
        cases same
        cases here.symm.trans there
        rw [settled] at unsettled
        cases unsettled
    · rename_i opened
      apply marked_turned here (by rw [opened]; rfl) held
      intro going
      have free : s.awaits (.popup i) = none := by rw [held, opened]; rfl
      obtain ⟨talk, s', asked, now, here', held', moves⟩ := ask_facts w setup ⟨_, here⟩ going free
      simp only [asked]
      exact .after moves now (proceed_turned here' going held'
        (fun b there => by rw [opened] at there; cases there) (.inl ⟨opened, rfl, rfl⟩))
    · rename_i deadline nextLook talk stage
      apply marked_turned here (by rw [stage]; rfl) held
      intro going
      refine proceed_turned ⟨_, here⟩ going ⟨by rw [held, stage]; rfl, tuned.accepted⟩ ?_ (.inr ⟨talk, stage⟩)
      intro b there
      exact awaited_listened (held.trans there)

end Sitting
end CourseFiles
