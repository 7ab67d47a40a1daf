import CourseFiles.Proofs.Authorization.Causes
import CourseFiles.Proofs.Authorization.OnePopup

namespace CourseFiles

open History

namespace History

-- A reply has come at that instant, behind as much as its task does in one turn.
def Overlooked (i time : Nat) (c : Causes) (h : History) : Prop :=
  ∃ o, c.reply = some (time, o) ∧ Sitting.allowance ≤ ahead (.popup i) h

-- A session ends as its causes decide. A reply does not count when it was overlooked and the time is over.
def Decides (setup : Setup) (i time : Nat) (o : SessionOutcome) (c : Causes) (h : History) : Prop :=
  c.decision setup c.looks = some (time, o) ∨
    (time = c.opened + setup.settings.sessionTimeout ∧ Overlooked i time c h) ∧
      ({ c with reply := none } : Causes).decision setup c.looks = some (time, o)

-- It never ends by the lapse of a request or a post that failed, and a reply is overlooked only when its request
-- lapses; the popup is looked at in equal steps, and asked for nothing but authorization, at its own origin.
def Justified (setup : Setup) : Nat × Happening → History → Prop
  | (time, .settled i o), h => (∀ e, o = .error (.call e) → Answer (.error e)) ∧
      ∃ c, causes i h = some c ∧ c.Watched setup ∧ Decides setup i time o c h
  | (time, .concluded (.popup i) a (.error (.timeout _))), h => ∀ c, causes i h = some c →
      c.reply = none ∨ time = a.deadline ∧ Overlooked i time c h
  | (time, .looked i), h => ∃ c, causes i h = some c ∧ time = c.opened + c.looks * setup.settings.pollPause
  | (time, .posted (.popup i) message origin _), h => ∃ listener id older,
      h = (time, .listened (.popup i) ⟨listener, origin, id, time + setup.settings.callTimeout⟩) :: older ∧
      origin = setup.authUrl.origin.text ∧ message = (Request.of Session.method [.text setup.token] id).encode
  | _, _ => True

-- What is known of a popup, and that nothing waits for one that was not opened yet or whose session has ended.
def Accounted (setup : Setup) (now : Nat) (h : History) (i : Nat) : Option Popup → Prop
  | none => awaited (.popup i) h = none
  | some p => ∃ c, causes i h = some c ∧ (p.stage.outcome? = none → Reckons setup now h i p c) ∧
      (∀ o, p.stage.outcome? = some o → ∃ time, (time, .settled i o) ∈ h) ∧
      (awaited (.popup i) h ≠ none → p.stage.outcome? = none)

structure Accounts (setup : Setup) (now : Nat) (h : History) (popups : List Popup) : Prop where
  every : Every (Justified setup) h
  popup : ∀ i, Accounted setup now h i popups[i]?

-- What neither a popup's session nor its causes have to do with.
def Unrelated (i : Nat) (e : Happening) : Prop := e.bears i = false ∧ e.concerns (.popup i) = false

variable {setup : Setup} {now later i : Nat} {h newer : History} {popups popups' : List Popup} {p? : Option Popup}
  {e : Happening} {c c' : Causes}

-- Something comes to a popup, if it is there, and to its causes; its session goes on as before.
theorem Accounted.next (accounted : Accounted setup now h i p?) (newer : History) (f : Popup → Popup)
    (stage : ∀ p, (f p).stage = p.stage)
    (free : awaited (.popup i) h = none → awaited (.popup i) (newer ++ h) = none)
    (kept : ∀ p c, p? = some p → causes i h = some c → ∃ c', causes i (newer ++ h) = some c' ∧
      (p.stage.outcome? = none → Reckons setup now h i p c → Reckons setup later (newer ++ h) i (f p) c')) :
    Accounted setup later (newer ++ h) i (p?.map f) := by
  cases p? with
  | none => exact free accounted
  | some p =>
    obtain ⟨c, known, reckons, settled, waits⟩ := accounted
    obtain ⟨c', after, reckoned⟩ := kept p c rfl known
    refine ⟨c', after, ?_, ?_, fun on => (stage p).symm ▸ waits (mt free on)⟩
    · intro unsettled
      rw [stage] at unsettled
      exact reckoned unsettled (reckons unsettled)
    · intro o ended
      rw [stage] at ended
      obtain ⟨time, here⟩ := settled o ended
      exact ⟨time, List.mem_append_right _ here⟩

theorem concluded_justified (lasts : ∀ sender, o ≠ .error (.timeout sender)) :
    Justified setup (now, .concluded t a o) h := by
  rcases o with (sender | _ | _ | _) | _
  · exact absurd rfl (lasts sender)
  all_goals cases t <;> trivial

theorem concluded_unrelated (other : j ≠ i) : Unrelated j (.concluded (.popup i) a o) := by
  have elsewhere : Task.popup i ≠ .popup j := by simpa using Ne.symm other
  exact ⟨concluded_unborne (.inl elsewhere), by simpa [Happening.concerns, Happening.ends] using elsewhere⟩

theorem noted (unopened : e.opening? i = none) (known : causes i h = some c) :
    causes i ((now, e) :: h) = some (c.note i now h e) := by
  simp [causes, unopened, known]

theorem Accounted.skip (accounted : Accounted setup now h i p?) (other : Unrelated i e) :
    Accounted setup now ((now, e) :: h) i p? := by
  obtain ⟨unborne, unconcerned⟩ := other
  have unheard : e.isDelivered = false := by
    cases e <;> simp_all [Happening.bears, Happening.isDelivered]
  have next : Accounted setup now ((now, e) :: h) i (p?.map id) := by
    refine accounted.next [(now, e)] id (fun _ => rfl) (awaited_skip unconcerned).trans ?_
    intro p c _ known
    exact ⟨c, (causes_skip unborne).trans known, fun _ reckons => reckons.skip unheard unconcerned⟩
  rwa [Option.map_id] at next

theorem Accounted.skips (accounted : Accounted setup now h i p?) (others : ∀ e ∈ newer, e.1 = now ∧ Unrelated i e.2) :
    Accounted setup now (newer ++ h) i p? := by
  induction newer with
  | nil => exact accounted
  | cons e newer ih =>
    obtain ⟨time, e⟩ := e
    obtain ⟨rfl, other⟩ := others (time, e) List.mem_cons_self
    exact (ih fun e here => others e (List.mem_cons_of_mem _ here)).skip other

theorem justified_unrelated (other : ∀ i, Unrelated i e) : Justified setup (now, e) h := by
  cases e with
  | settled i o => simpa [Happening.concerns, Happening.ends] using (other i).2
  | concluded t a o =>
    cases t with
    | call n => trivial
    | popup i => simpa [Happening.concerns, Happening.ends] using (other i).2
  | looked i => simpa [Happening.bears] using (other i).1
  | posted t message origin reason =>
    cases t with
    | call n => trivial
    | popup i => simpa [Happening.concerns] using (other i).2
  | _ => trivial

theorem Accounts.skip (accounts : Accounts setup now h popups) (other : ∀ i, Unrelated i e) :
    Accounts setup now ((now, e) :: h) popups :=
  ⟨⟨justified_unrelated other, accounts.every⟩, fun i => (accounts.popup i).skip (other i)⟩

-- One popup has a part in what happens, and the others have none.
theorem Accounts.touch (accounts : Accounts setup now h popups) (newer : History)
    (others : ∀ j, j ≠ i → popups'[j]? = popups[j]? ∧ ∀ e ∈ newer, e.1 = now ∧ Unrelated j e.2)
    (every : Every (Justified setup) (newer ++ h)) (own : Accounted setup now (newer ++ h) i popups'[i]?) :
    Accounts setup now (newer ++ h) popups' := by
  refine ⟨every, ?_⟩
  intro j
  by_cases same : j = i
  · exact same ▸ own
  · obtain ⟨kept, apart⟩ := others j same
    rw [kept]
    exact (accounts.popup j).skips apart

theorem Accounts.deliver (accounts : Accounts setup now h popups) :
    Accounts setup now ((now, .delivered m) :: h) popups := by
  refine ⟨⟨trivial, accounts.every⟩, ?_⟩
  intro i
  have next : Accounted setup now ((now, .delivered m) :: h) i (popups[i]?.map id) := by
    refine (accounts.popup i).next [(now, .delivered m)] id (fun _ => rfl) id ?_
    intro p c _ known
    exact ⟨_, noted rfl known, fun _ reckons => reckons.deliver⟩
  rwa [Option.map_id] at next

-- A session that goes on, with what is known of it.
theorem Accounts.reckons (accounts : Accounts setup now h popups) (here : popups[i]? = some p)
    (unsettled : p.stage.outcome? = none) : ∃ c, causes i h = some c ∧ Reckons setup now h i p c := by
  have accounted := accounts.popup i
  rw [here] at accounted
  obtain ⟨c, known, reckons, _⟩ := accounted
  exact ⟨c, known, reckons unsettled⟩

-- Whoever awaits an answer goes on.
theorem Accounts.awaiting (accounts : Accounts setup now h popups) (on : awaited (.popup i) h = some a) :
    ∃ p, popups[i]? = some p ∧ p.stage.outcome? = none := by
  have accounted := accounts.popup i
  cases here : popups[i]? with
  | none =>
    rw [here] at accounted
    cases on.symm.trans accounted
  | some p =>
    rw [here] at accounted
    obtain ⟨_, _, _, _, waits⟩ := accounted
    exact ⟨p, rfl, waits (by simp [on])⟩

end History
namespace Sitting

variable {w : Surroundings} {setup : Setup} {s s' : Sitting} {t : Task} {v : Option Task} {n i : Nat}

abbrev Accounts (setup : Setup) (s : Sitting) : Prop := History.Accounts setup s.now s.history s.popups

theorem posts_accounts (accounts : s.Accounts setup) :
    Accounts setup (s.updatePopup i fun p => { p with posts := p.posts + 1 }) := by
  refine accounts.touch [] (fun j other => ⟨updated_other _ other, by simp⟩) accounts.every ?_
  rw [updated_own]
  refine (accounts.popup i).next [] _ (fun _ => rfl) id ?_
  intro p c _ known
  exact ⟨c, known, fun _ reckons => reckons.same rfl rfl (fun _ => rfl) rfl⟩

-- The stage of a session that goes on is changed, and something may happen with it.
theorem stage_accounts (accounts : s.Accounts setup) (here : s.popups[i]? = some p) (newer : History)
    (others : ∀ j, j ≠ i → ∀ e ∈ newer, e.1 = s.now ∧ Unrelated j e.2)
    (every : Every (Justified setup) (newer ++ s.history)) (stage : Stage) (goes : stage.outcome? = none)
    (known : causes i (newer ++ s.history) = some c)
    (reckons : Reckons setup s.now (newer ++ s.history) i { p with stage } c) :
    History.Accounts setup s.now (newer ++ s.history) (s.setStage i stage).popups := by
  refine accounts.touch newer (fun j other => ⟨updated_other _ other, others j other⟩) every ?_
  rw [staged_popup here]
  refine ⟨c, known, fun _ => reckons, ?_, fun _ => goes⟩
  intro o ended
  cases goes.symm.trans ended

-- All but one keep account of their sessions, and that one ends.
theorem settle_accounts (others : ∀ j, j ≠ i → Accounted setup s.now s.history j s.popups[j]?)
    (every : Every (Justified setup) s.history) (here : s.popups[i]? = some p) (known : causes i s.history = some c)
    (own : ∀ e, o = .error (.call e) → Answer (.error e)) (watched : c.Watched setup)
    (decides : Decides setup i s.now o c s.history) : Accounts setup (settle i o s) := by
  have closed : causes i ((s.now, .closed i (s.popups[i]?.any (!·.closed))) :: s.history) = some c :=
    (causes_skip rfl).trans known
  have every : Every (Justified setup) (settle i o s).history :=
    ⟨⟨own, c, closed, watched, decides⟩, trivial, every⟩
  refine ⟨every, ?_⟩
  intro j
  by_cases same : j = i
  · subst same
    rw [settled_popup here]
    refine ⟨c, (causes_skip rfl).trans closed, ?_, ?_, ?_⟩
    · intro unsettled
      cases unsettled
    · intro o' ended
      cases ended
      exact ⟨s.now, List.mem_cons_self⟩
    · intro on
      exact absurd (awaited_end (by simp [Happening.ends])) on
  · have kept : (settle i o s).popups[j]? = s.popups[j]? := by
      simp [settle, wakeAll, record, setStage, updatePopup, closePopup, hangUp, Ne.symm same]
    have unrelated : ∀ wasOpen, Unrelated j (.closed i wasOpen) := fun _ => ⟨rfl, rfl⟩
    have unsettled : Unrelated j (.settled i o) :=
      ⟨rfl, by simpa [Happening.concerns, Happening.ends] using Ne.symm same⟩
    rw [kept]
    exact ((others j same).skip (unrelated _)).skip unsettled

theorem look_accounts (accounts : s.Accounts setup) (here : s.popups[i]? = some p) (going : p.Going)
    (stage : p.stage = .waiting deadline nextLook talk) (time : nextLook ≤ s.now) (present : p.closed = false)
    (once : 1 ≤ n) (few : n ≤ looks s.now setup.settings.pollPause nextLook) :
    Accounts setup ((s.record (.looked i)).setStage i
      (.waiting deadline (nextLook + n * setup.settings.pollPause) talk)) := by
  obtain ⟨c, known, reckons⟩ := accounts.reckons here going.unsettled
  refine stage_accounts accounts here [(s.now, .looked i)] ?_ ⟨⟨c, known, ?_⟩, accounts.every⟩ _ rfl
    (noted rfl known) (reckons.look going stage time present once few)
  · intro j other e there
    cases List.mem_singleton.mp there
    exact ⟨rfl, by simpa [Happening.bears] using Ne.symm other, rfl⟩
  · obtain ⟨_, due, _, unlooked⟩ := reckons.waits _ _ _ stage
    exact (Nat.le_antisymm time unlooked).symm.trans due

-- A task that is through with what it may receive has overlooked what it has not heard.
theorem overlooked (steady : s.Steady) (reckons : Reckons setup s.now s.history i p c)
    (through : ∀ a, s.awaits (.popup i) = some a → s.Through (.popup i) a) :
    c.reply = none ∨ Overlooked i s.now c s.history := by
  cases on : s.awaits (.popup i) with
  | none => exact .inl (reckons.free on)
  | some a =>
    cases there : heard (.popup i) s.history with
    | none => exact .inl ((reckons.waiting a on).trans there)
    | some r =>
      obtain ⟨time, o⟩ := r
      obtain rfl := (steady.punctual _).fresh a on time o there
      refine .inr ⟨o, (reckons.waiting a on).trans there, ?_⟩
      by_contra room
      exact (steady.near _).unheard on (through a on) (Nat.lt_of_not_le room) there

theorem gone_accounts (steady : s.Steady) (accounts : s.Accounts setup) (here : s.popups[i]? = some p) (going : p.Going)
    (stage : p.stage = .waiting deadline nextLook talk) (early : s.now < deadline) (time : nextLook ≤ s.now)
    (absent : p.closed = true) (rests : ∀ a, s.awaits (.popup i) = some a → a.Rests s.now s.bus) :
    Accounts setup (settle i (.error .windowClosed) (s.record (.looked i))) := by
  obtain ⟨c, known, reckons⟩ := accounts.reckons here going.unsettled
  have gone : c.gone ≠ none := (reckons.gone going).mp absent
  have same : c.note i s.now s.history (.looked i) = c := by simp [Causes.note, gone]
  obtain ⟨_, due, _, unlooked⟩ := reckons.waits _ _ _ stage
  have silent : c.reply = none := by
    cases on : s.awaits (.popup i) with
    | none => exact reckons.free on
    | some a => exact (reckons.waiting a on).trans (steady.wired.unheard on (rests a on).received)
  refine settle_accounts (s := s.record (.looked i)) ?_ ⟨⟨c, known, ?_⟩, accounts.every⟩ here
    (same ▸ noted rfl known) (fun e other => by cases other) reckons.watched (.inl ?_)
  · intro j other
    exact (accounts.popup j).skip ⟨by simpa [Happening.bears] using Ne.symm other, rfl⟩
  · exact (Nat.le_antisymm time unlooked).symm.trans due
  · exact reckons.gone_decides going (steady.punctual _) silent stage early time absent

theorem answer_accounts (steady : s.Steady) (accounts : s.Accounts setup) (here : s.popups[i]? = some p)
    (going : p.Going) (on : s.awaits (.popup i) = some a) (ends : s.Ends (.popup i) a o) (answer : Answer o) :
    Accounts setup (settle i (closing o) (conclude (.popup i) a o s)) := by
  obtain ⟨c, known, reckons⟩ := accounts.reckons here going.unsettled
  have lasts (sender : String) : o ≠ .error (.timeout sender) := by
    rintro rfl
    exact answer
  refine settle_accounts (s := conclude (.popup i) a o s) ?_ ⟨concluded_justified lasts, accounts.every⟩ here
    ((causes_skip (concluded_unborne (.inr lasts))).trans known) ?_ reckons.watched (.inl ?_)
  · intro j other
    exact (accounts.popup j).skip (concluded_unrelated other)
  · intro e same
    cases o with
    | ok j => cases same
    | error e' =>
      cases same
      exact answer
  · have replied := (reckons.waiting a on).trans (steady.heard on ends answer)
    exact reckons.reply_decides going (steady.punctual _) replied

theorem cause_accounts (steady : s.Steady) (accounts : s.Accounts setup) (here : s.popups[i]? = some p)
    (unsettled : p.stage.outcome? = none) (cause : Cause s i p o) : Accounts setup (settle i o s) := by
  obtain ⟨c, known, reckons⟩ := accounts.reckons here unsettled
  have punctual := steady.punctual (.popup i)
  refine settle_accounts (fun j _ => accounts.popup j) accounts.every here known ?_ reckons.watched ?_
  · intro e other
    cases cause <;> cases other
  · cases cause with
    | cancelled marked => exact .inl (reckons.cancelled_decides unsettled punctual marked)
    | completed notCancelled marked => exact .inl (reckons.completed_decides unsettled punctual notCancelled marked)
    | expired going stage late through =>
      have last : s.now = c.opened + setup.settings.sessionTimeout := by
        obtain ⟨same, _, intime, _⟩ := reckons.waits _ _ _ stage
        omega
      have decided := reckons.time_decides going stage late
      rcases overlooked steady reckons through with silent | late
      · have same : { c with reply := none } = c := by rw [← silent]
        exact .inl (same ▸ decided)
      · exact .inr ⟨⟨last, late⟩, decided⟩

-- The live session is marked from outside, and its popup is closed.
theorem endSession_accounts (accounts : s.Accounts setup) (owned : s.Owned)
    (others : ∀ i j, j ≠ i → Unrelated j (ending i)) (fair : ∀ i older, Justified setup (s.now, ending i) older)
    (marks : ∀ i p c, p.Going → Reckons setup s.now s.history i p c → ∃ c',
      (causes i s.history = some c → causes i ((s.now, ending i) :: s.history) = some c') ∧
      Reckons setup s.now ((s.now, ending i) :: s.history) i { mark p with closed := true } c' ∧
      (mark p).stage = p.stage) : Accounts setup (endSession ending mark phase s) := by
  unfold endSession
  split
  · exact accounts
  · rename_i i live
    obtain ⟨p, here, going⟩ := (owned.goes i).mp live
    obtain ⟨c, known, reckons⟩ := accounts.reckons here going.unsettled
    obtain ⟨c', after, reckons, stage⟩ := marks i p c going reckons
    refine accounts.touch [(s.now, .closed i _), (s.now, ending i)] (i := i) (fun j other => ⟨?_, ?_⟩)
      ⟨trivial, fair i _, accounts.every⟩ ?_
    · simp [wake, record, updatePopup, closePopup, Ne.symm other]
    · intro e there
      simp only [List.mem_cons, List.not_mem_nil, or_false] at there
      rcases there with rfl | rfl
      · exact ⟨rfl, rfl, rfl⟩
      · exact ⟨rfl, others i j other⟩
    · have there : (closePopup i (wake (.popup i) (updatePopup i mark (record (ending i) s)))).popups[i]? =
          some { mark p with closed := true } := by
        simp [wake, record, updatePopup, closePopup, here]
      rw [there]
      have goes : (mark p).stage.outcome? = none := by rw [stage, going.unsettled]
      refine ⟨c', (causes_skip rfl).trans (after known), fun _ => reckons.skip rfl rfl, ?_, fun _ => goes⟩
      intro o ended
      cases goes.symm.trans ended

theorem complete_accounts (accounts : s.Accounts setup) (owned : s.Owned) : Accounts setup s.completeSession := by
  refine endSession_accounts accounts owned ?_ (fun _ _ => trivial) ?_
  · intro i j other
    exact ⟨by simpa [Happening.bears] using Ne.symm other, rfl⟩
  · intro i p c going reckons
    exact ⟨_, noted rfl, reckons.complete going, rfl⟩

theorem cancel_accounts (accounts : s.Accounts setup) (owned : s.Owned) : Accounts setup s.cancelSession := by
  refine endSession_accounts accounts owned ?_ (fun _ _ => trivial) ?_
  · intro i j other
    exact ⟨by simpa [Happening.bears] using Ne.symm other, rfl⟩
  · intro i p c going reckons
    exact ⟨_, noted rfl, reckons.cancel going, rfl⟩

theorem leave_accounts (accounts : s.Accounts setup) : Accounts setup (s.closeByUser i) := by
  refine accounts.touch [(s.now, .left i)] (i := i) (fun j other => ⟨updated_other _ other, ?_⟩)
    ⟨trivial, accounts.every⟩ ?_
  · intro e there
    cases List.mem_singleton.mp there
    exact ⟨rfl, by simpa [Happening.bears] using Ne.symm other, rfl⟩
  · have closed : (s.closeByUser i).popups[i]? = s.popups[i]?.map fun p => { p with closed := true } := updated_own _
    rw [closed]
    refine (accounts.popup i).next [(s.now, .left i)] _ (fun _ => rfl) id ?_
    intro p c _ known
    exact ⟨_, noted rfl known, fun unsettled reckons => reckons.leave unsettled⟩

theorem begin_accounts (accounts : s.Accounts setup) : Accounts setup (beginSession w setup s).2 := by
  unfold beginSession
  split
  · exact accounts.skip fun _ => ⟨rfl, rfl⟩
  · dsimp only
    split
    · exact accounts.skip fun _ => ⟨rfl, rfl⟩
    · rename_i absent _ _
      refine accounts.touch [(s.now, .opened s.popups.length absent _ _ _)] (i := s.popups.length)
        (fun j other => ⟨?_, ?_⟩) ⟨trivial, accounts.every⟩ ?_
      · simp only [wake, record, popups_append other]
      · intro e there
        cases List.mem_singleton.mp there
        exact ⟨rfl, by simpa [Happening.bears] using Ne.symm other, rfl⟩
      · have fresh := accounts.popup s.popups.length
        rw [List.getElem?_eq_none (Nat.le_refl _)] at fresh
        have free : awaited (.popup s.popups.length) s.history = none := fresh
        simp only [wake, record, List.getElem?_concat_length]
        refine ⟨_, ?_, fun _ => .begin free ⟨rfl, rfl, rfl⟩ rfl rfl, ?_, fun _ => rfl⟩
        · simp [causes, Happening.opening?]
        · intro o ended
          cases ended

theorem ask_accounts {r : Request} (accounts : s.Accounts setup) (asks : s.Asks setup t origin r timeout)
    (free : s.awaits t = none) : Accounts setup (s.sendOff t origin r timeout reason) := by
  cases t with
  | call n =>
    refine History.Accounts.skip (accounts.skip ?_) ?_
    all_goals exact fun _ => ⟨rfl, rfl⟩
  | popup i =>
    obtain ⟨⟨p, here, going⟩, rfl, asked, rfl⟩ := asks
    obtain ⟨c, known, reckons⟩ := accounts.reckons here going.unsettled
    refine accounts.touch [(s.now, .posted (.popup i) _ _ _), (s.now, .listened (.popup i) _)] (i := i)
      (fun j other => ⟨rfl, ?_⟩) ⟨⟨_, _, _, rfl, rfl, congrArg _ asked⟩, trivial, accounts.every⟩ ?_
    · intro e there
      simp only [List.mem_cons, List.not_mem_nil, or_false] at there
      have unconcerned : ¬ i = j := Ne.symm other
      rcases there with rfl | rfl
      · exact ⟨rfl, rfl, by simpa [Happening.concerns] using unconcerned⟩
      · exact ⟨rfl, rfl, by simpa [Happening.concerns] using unconcerned⟩
    · rw [show (s.sendOff (.popup i) _ r _ reason).popups[i]? = some p from here]
      refine ⟨c, (causes_skip rfl).trans ((causes_skip rfl).trans known), fun _ => reckons.ask free, ?_,
        fun _ => going.unsettled⟩
      intro o ended
      cases going.unsettled.symm.trans ended

theorem conclude_accounts (steady : s.Steady) (accounts : s.Accounts setup) (on : s.awaits t = some a)
    (ends : s.Ends t a o) (retry : ∀ i, t = .popup i → ¬ Answer o) :
    Accounts setup (report t o (conclude t a o s)) := by
  cases t with
  | call n =>
    have concluded : History.Accounts setup s.now ((s.now, .concluded (.call n) a o) :: s.history) s.popups :=
      accounts.skip fun _ => ⟨concluded_unborne (.inl (by simp)), by simp [Happening.concerns, Happening.ends]⟩
    exact concluded.skip fun _ => ⟨rfl, rfl⟩
  | popup i =>
    obtain ⟨p, here, unsettled⟩ := accounts.awaiting on
    obtain ⟨c, known, reckons⟩ := accounts.reckons here unsettled
    have goes {c' : Causes} (justified : Justified setup (s.now, .concluded (.popup i) a o) s.history)
        (after : causes i ((s.now, .concluded (.popup i) a o) :: s.history) = some c')
        (reckoned : Reckons setup s.now ((s.now, .concluded (.popup i) a o) :: s.history) i p c') :
        Accounts setup (conclude (.popup i) a o s) := by
      refine accounts.touch [(s.now, .concluded (.popup i) a o)] (i := i) (fun j other => ⟨rfl, ?_⟩)
        ⟨justified, accounts.every⟩ ?_
      · intro e there
        cases List.mem_singleton.mp there
        exact ⟨rfl, concluded_unrelated other⟩
      · rw [show (conclude (.popup i) a o s).popups[i]? = some p from here]
        refine ⟨c', after, fun _ => reckoned, ?_, fun _ => unsettled⟩
        intro o ended
        cases unsettled.symm.trans ended
    cases ends with
    | @refused reason refused =>
      have lasts (sender : String) : Except.error (.post reason) ≠ (.error (.timeout sender) : CallOutcome) := by simp
      have refused : History.refusal (.popup i) s.history = some reason := refused
      have unheard := steady.wired.refused _ a on (by simp [Sitting.wire, refused])
      exact goes (concluded_justified lasts) ((causes_skip (concluded_unborne (.inr lasts))).trans known)
        (reckons.refuse on unheard)
    | answered _ found => exact absurd (Attempt.reply?_answer found) (retry i rfl)
    | lapsed accepted late through =>
      refine goes ?_ (noted rfl known) (reckons.lapse a a.origin)
      intro c' known'
      cases known.symm.trans known'
      have lapsed := Nat.le_antisymm ((steady.punctual _).early a on) late
      refine (overlooked steady reckons ?_).imp_right fun late => ⟨lapsed, late⟩
      intro b on'
      cases on.symm.trans on'
      exact through

theorem Move.accounts (move : Move w setup v s s') (steady : s.Steady) (owned : s.Owned) (accounts : s.Accounts setup) :
    s'.Accounts setup := by
  cases move with
  | deliver => exact accounts.deliver
  | ask asks free => exact ask_accounts accounts asks free
  | conclude on ends retry => exact conclude_accounts steady accounts on ends retry
  | count => exact posts_accounts accounts
  | wait here going held stage =>
    obtain ⟨c, known, reckons⟩ := accounts.reckons here going.unsettled
    exact stage_accounts accounts here [] (by simp) accounts.every _ rfl known (reckons.wait going stage)
  | look here going stage time present once few => exact look_accounts accounts here going stage time present once few
  | gone here going stage early time absent _ rests =>
    exact gone_accounts steady accounts here going stage early time absent rests
  | settle here unsettled held cause => exact cause_accounts steady accounts here unsettled cause
  | answer here going on old ends answer => exact answer_accounts steady accounts here going on ends answer
  | begin => exact begin_accounts accounts
  | complete => exact complete_accounts accounts owned
  | cancel => exact cancel_accounts accounts owned
  | leave => exact leave_accounts accounts
  | list =>
    refine History.Accounts.skip (accounts.skip ?_) ?_
    all_goals exact fun _ => ⟨rfl, rfl⟩
  | drop => exact accounts.skip fun _ => ⟨rfl, by simp [Happening.concerns, Happening.ends]⟩
  | skip | resume | fail | launch | arrive | done => exact accounts.skip fun _ => ⟨rfl, rfl⟩
  | _ => exact accounts

theorem elapse_accounts (orderly : s.Orderly) (prompt : s.Prompt (.elapse ms)) (accounts : s.Accounts setup) :
    Accounts setup (s.elapse ms) := by
  obtain ⟨resting, short⟩ := prompt
  refine ⟨accounts.every, ?_⟩
  intro i
  have next : Accounted setup (s.now + ms) s.history i (s.popups[i]?.map id) := by
    refine (accounts.popup i).next [] id (fun _ => rfl) id ?_
    intro p c here known
    refine ⟨c, known, ?_⟩
    intro unsettled reckons
    obtain ⟨going, deadline, nextLook, talk, stage, early, unlooked⟩ :=
      (orderly.idle resting (.popup i)).2 i p rfl here unsettled
    have due (d : Nat) (there : d ∈ p.stage.deadlines) (later : s.now < d) : s.now + ms ≤ d :=
      short d (deadline_known (t := .popup i) ⟨p, here, there⟩) later
    rw [stage] at due
    exact reckons.elapse going stage (due _ (by simp [Stage.deadlines]) early)
      (due _ (by simp [Stage.deadlines]) unlooked) (Nat.le_add_right _ _)
  rwa [Option.map_id] at next

theorem Timely.accounts (run : Timely w setup s) : s.Accounts setup := by
  have both : s.Owned ∧ s.Accounts setup := by
    refine run.upholds (P := fun s => s.Owned ∧ s.Accounts setup) ⟨initial_owned, trivial, fun i => rfl⟩
      ?_ ?_
    · intro v s s' move steady here
      exact ⟨move.owned here.1, move.accounts steady here.1 here.2⟩
    · intro s ms orderly prompt here
      exact ⟨here.1.frame [] rfl rfl (fun _ => .rfl) rfl (by simp), elapse_accounts orderly prompt here.2⟩
  exact both.2

theorem Timely.ahead (run : Timely w setup s) (here : s.popups[i]? = some p) (unsettled : p.stage.outcome? = none)
    (resting : s.ready = []) : ∃ c, causes i s.history = some c ∧ ∀ d ∈ c.all setup c.looks, s.now < d.1 := by
  have orderly := run.orderly
  obtain ⟨c, known, reckons⟩ := run.accounts.reckons here unsettled
  have idle := orderly.idle resting (.popup i)
  obtain ⟨going, deadline, nextLook, talk, stage, early, unlooked⟩ := idle.2 i p rfl here unsettled
  refine ⟨c, known, reckons.ahead going stage early unlooked ?_⟩
  cases on : s.awaits (.popup i) with
  | none => exact reckons.free on
  | some a => exact (reckons.waiting a on).trans (orderly.heard idle on).1

-- A session that has ended did so as the earliest of its causes decides, where a look that was made before the window
-- went does not count, be it at the same instant; without such a look, the first at or after that instant counts. What
-- ends well was granted in time.
structure DecidedBy (setup : Setup) (c : Causes) (time : Nat) (o : SessionOutcome) : Prop where
  earliest : c.decision setup c.looks = some (time, o)
  unlooked : (∀ left, c.gone = some left → 0 < c.looks → left ≠ c.opened + (c.looks - 1) * setup.settings.pollPause) →
    c.decision setup 0 = some (time, o)
  granted : o = .ok () → (c.completed = some time ∨ ∃ j, c.reply = some (time, .ok j)) ∧
    time ≤ c.opened + setup.settings.sessionTimeout ∧
    (∀ cancelled, c.cancelled = some cancelled → time < cancelled) ∧
    ∀ look, c.noticed setup c.looks = some look → time ≤ look

-- That holds of every session, but for a reply that was overlooked at the very instant at which its time is over. The
-- lapse of a request and a post that failed end none, and what is given up with a request that lapsed was overlooked at
-- that instant. While all tasks wait, whatever would end a session that goes on is still to come.
structure EndsByCauses (setup : Setup) (s : Sitting) : Prop where
  decided : ∀ newer time i o older, s.history = newer ++ (time, .settled i o) :: older → ∃ c, causes i older = some c ∧
    (DecidedBy setup c time o ∨ (time = c.opened + setup.settings.sessionTimeout ∧ Overlooked i time c older) ∧
      DecidedBy setup { c with reply := none } time o)
  overlooked : ∀ newer time i a sender older c,
    s.history = newer ++ (time, .concluded (.popup i) a (.error (.timeout sender))) :: older →
    causes i older = some c → c.reply = none ∨ time = a.deadline ∧ Overlooked i time c older
  unlapsed : ∀ time i sender, (time, .settled i (.error (.call (.timeout sender)))) ∉ s.history
  unrefused : ∀ time i reason, (time, .settled i (.error (.call (.post reason)))) ∉ s.history
  recorded : ∀ i o, s.outcome? i = some o → ∃ time, (time, .settled i o) ∈ s.history
  pending : ∀ i p, s.popups[i]? = some p → s.outcome? i = none → s.ready = [] →
    ∃ c, causes i s.history = some c ∧ ∀ d ∈ c.all setup c.looks, s.now < d.1
  looks : ∀ newer time i older, s.history = newer ++ (time, .looked i) :: older →
    ∃ c, causes i older = some c ∧ time = c.opened + c.looks * setup.settings.pollPause
  posts : ∀ newer time i message origin reason older,
    s.history = newer ++ (time, .posted (.popup i) message origin reason) :: older → ∃ listener id before,
      older = (time, .listened (.popup i) ⟨listener, origin, id, time + setup.settings.callTimeout⟩) :: before ∧
      origin = setup.authUrl.origin.text ∧ message = (Request.of Session.method [.text setup.token] id).encode
  replies : ∀ (m : Message) sender id o, m.reply? sender id = some o ↔ m.origin = sender ∧
    m.data.member? "jsonrpc" = some (.text "2.0") ∧ m.data.member? "id" = some (.text id) ∧ m.Means o

theorem Timely.answered (run : Timely w setup s) (here : (time, .settled i (.error (.call e))) ∈ s.history) :
    Answer (.error e) := by
  obtain ⟨newer, older, split⟩ := List.append_of_mem here
  exact (run.accounts.every.at split).1 e rfl

theorem decidedBy (watched : c.Watched setup) (decided : c.decision setup c.looks = some (time, o)) :
    DecidedBy setup c time o where
  earliest := decided
  unlooked apart := (watched.fresh apart).symm.trans decided
  granted ok := Causes.decision_ok (ok ▸ decided)

theorem session_ends_by_earliest_cause (run : Timely w setup s) : EndsByCauses setup s where
  decided newer time i o older split := by
    obtain ⟨c, known, watched, decides⟩ := (run.accounts.every.at split).2
    exact ⟨c, known, decides.imp (decidedBy watched) (And.imp_right (decidedBy watched))⟩
  overlooked newer time i a sender older c split known := run.accounts.every.at split c known
  unlapsed _ _ _ here := run.answered here
  unrefused _ _ _ here := run.answered here
  recorded i o ended := by
    obtain ⟨p, here, settled⟩ := Option.bind_eq_some_iff.mp ended
    have accounted := run.accounts.popup i
    rw [here] at accounted
    obtain ⟨_, _, _, recorded, _⟩ := accounted
    exact recorded o settled
  pending i p here unsettled resting := by
    rw [outcome?, here] at unsettled
    exact run.ahead here unsettled resting
  looks newer time i older split := run.accounts.every.at split
  posts newer time i message origin reason older split := run.accounts.every.at split
  replies m sender id o := Message.reply?_eq_some

-- The user closes the popup right after the first look at it; an answer comes before the next.
def leftThenAnswered : Sitting :=
  acts .calm .plain [.start .session, .turn (.call 0), .turn (.popup 0), .leave 0, .elapse 1,
    .deliver ⟨"https://lms", .object [("id", .text "0"), ("jsonrpc", .text "2.0"), ("result", .null)]⟩,
    .turn (.popup 0)] .initial

theorem leftThenAnswered_timely : Timely .calm .plain leftThenAnswered :=
  acts_timely .initial _ ⟨trivial, trivial, trivial, trivial, ⟨rfl, by decide⟩, trivial, trivial, trivial⟩

theorem left_then_answered_ends_well : ∃ older, leftThenAnswered.history = (1, .settled 0 (.ok ())) :: older ∧
    ∃ c, causes 0 older = some c ∧ c.decision .plain c.looks = some (1, .ok ()) := by
  obtain ⟨c, known, decided | ⟨⟨late, _⟩, _⟩⟩ :=
    (session_ends_by_earliest_cause leftThenAnswered_timely).decided [] 1 0 (.ok ()) _ rfl
  · exact ⟨_, rfl, c, known, decided.earliest⟩
  · cases known
    cases late

-- A window that answers while the request is posted, and says much else before that.
def talkative : Surroundings :=
  { Surroundings.calm with
    window := fun _ => .opened false fun _ _ => .sends (List.replicate 200 noise ++
      [⟨"https://lms", .object [("id", .text "0"), ("jsonrpc", .text "2.0"), ("result", .null)]⟩]) }

-- The session has no time, and cannot wait for the next turn.
def hurried : Setup := { Setup.plain with settings := { Settings.standard with sessionTimeout := 0 } }

def answeredLast : Sitting :=
  acts talkative hurried [.start .session, .turn (.call 0), .turn (.popup 0)] .initial

set_option maxRecDepth 20000 in
-- A look that was made before the window went is not made again, and an answer that comes at the last instant may be
-- behind too much else.
theorem earliest_cause_may_be_missed :
    (¬ ∀ w (setup : Setup) s, Timely w setup s → 0 < setup.settings.callTimeout →
      ∀ newer time i o older, s.history = newer ++ (time, .settled i o) :: older →
        ∃ c, causes i older = some c ∧ c.decision setup 0 = some (time, o)) ∧
    ¬ ∀ w (setup : Setup) s, Timely w setup s → 0 < setup.settings.callTimeout →
      ∀ newer time i o older, s.history = newer ++ (time, .settled i o) :: older →
        ∃ c, causes i older = some c ∧ c.decision setup c.looks = some (time, o) := by
  constructor
  · intro all
    obtain ⟨c, known, decided⟩ := all _ _ _ leftThenAnswered_timely (by decide) [] 1 0 (.ok ()) _ rfl
    cases known
    cases decided
  · intro all
    have run : Timely talkative hurried answeredLast := acts_timely .initial _ ⟨trivial, trivial, trivial, trivial⟩
    obtain ⟨c, known, decided⟩ := all talkative hurried _ run (by decide) [] 0 0 (.error .timedOut) _ rfl
    cases known
    cases decided

end Sitting
end CourseFiles
