import CourseFiles.Proofs.Messages.Queues
import CourseFiles.Proofs.Sitting.History
import Mathlib.Logic.Relation

namespace CourseFiles

open History

-- Neither marked nor settled.
structure Popup.Going (p : Popup) : Prop where
  notCancelled : p.cancelled = false
  notFinished : p.finished = false
  unsettled : p.stage.outcome? = none

-- Neither a listing nor a session that was started keeps the call waiting.
def Pending.stirs : Pending → Bool
  | .joined _ => false
  | .listing .. => false
  | _ => true

-- Whether a task begins to listen, or something is posted to the other window.
def Happening.converses : Happening → Bool
  | .listened .. => true
  | .posted .. => true
  | _ => false

namespace Sitting

def awaits (s : Sitting) (t : Task) : Option Attempt := awaited t s.history

def refusal (s : Sitting) (t : Task) : Option String := History.refusal t s.history

-- What a task holds between its turns.
def attempt? (s : Sitting) : Task → Option Attempt
  | .call n => (s.calls.lookup n).bind Pending.attempt?
  | .popup i => s.popups[i]?.bind (·.stage.attempt?)

def Goes (s : Sitting) (i : Nat) : Prop := ∃ p, s.popups[i]? = some p ∧ p.Going

-- What a popup is asked, by whom and how long; calls ask what they were told to.
def Asks (setup : Setup) (s : Sitting) (t : Task) (origin : String) (r : Request) (timeout : Nat) : Prop :=
  match t with
  | .call _ => True
  | .popup i => s.Goes i ∧ origin = setup.authUrl.origin.text ∧
      r = Request.of Session.method [.text setup.token] r.id ∧ timeout = setup.settings.callTimeout

-- A request goes off: the listener is there before it is posted.
def sendOff (t : Task) (origin : String) (r : Request) (timeout : Nat) (refusal : Option String) (s : Sitting) :
    Sitting :=
  let s := (listen t origin r.id timeout s).2
  record (.posted t r.encode origin refusal) { s with posted := s.posted ++ [r.id] }

-- What a session is waiting for in its own turn, if a message comes then, has just been asked.
def Fresh (setup : Setup) (s : Sitting) (v : Option Task) : Prop :=
  ∀ i, v = some (.popup i) → ∃ a, s.awaits (.popup i) = some a ∧ a.deadline = s.now + setup.settings.callTimeout

def spent (s : Sitting) (t : Task) : Nat := History.spent t s.now s.history

-- A task is through with what came for it: it has received all, or done all that it may in one turn.
def Through (s : Sitting) (t : Task) (a : Attempt) : Prop := a.unread s.bus = [] ∨ allowance ≤ s.spent t

inductive Ends (s : Sitting) (t : Task) (a : Attempt) : CallOutcome → Prop where
  | refused (refused : s.refusal t = some reason) : Ends s t a (.error (.post reason))
  | answered (accepted : s.refusal t = none) (found : a.reply? (a.unread s.bus) = some o) : Ends s t a o
  | lapsed (accepted : s.refusal t = none) (late : a.deadline ≤ s.now) (through : s.Through t a) :
      Ends s t a (.error (.timeout a.origin))

-- A call gives what its request came to; a popup's session goes on.
def report (t : Task) (o : CallOutcome) (s : Sitting) : Sitting :=
  match t with
  | .call n => endCall n (.reply o) s
  | .popup _ => s

def OpeningFailed (s : Sitting) : Prop :=
  ∃ url name features older, s.history = (s.now, .notOpened url name features) :: older

-- Why a session ends while its popup has not answered; the window may be gone besides.
inductive Cause (s : Sitting) (i : Nat) (p : Popup) : SessionOutcome → Prop where
  | cancelled (marked : p.cancelled = true) : Cause s i p (.error .cancelled)
  | completed (notCancelled : p.cancelled = false) (marked : p.finished = true) : Cause s i p (.ok ())
  | expired (going : p.Going) (stage : p.stage = .waiting deadline nextLook talk) (late : deadline ≤ s.now)
      (through : ∀ a, s.awaits (.popup i) = some a → s.Through (.popup i) a) : Cause s i p (.error .timedOut)

-- How an answer ends a session.
def closing : CallOutcome → SessionOutcome
  | .ok _ => .ok ()
  | .error e => .error (.call e)

-- The listing is gone for; it has not come yet.
def launched (setup : Setup) (p : Picker) (l : Launch) (s : Sitting) : Sitting :=
  record (.listed l.path setup.token) { s with picker := p, launches := s.launches ++ [l] }

-- A call that exchanges messages; it has nothing to do with the picker.
def Talks (s : Sitting) (n : Nat) : Prop :=
  (∃ origin method params id timeout counterpart,
    s.calls.lookup n = some (.queued (.request origin method params id timeout counterpart))) ∨
  ∃ a, s.calls.lookup n = some (.replying a)

-- The item that a call is about to use.
def Uses (s : Sitting) (n : Nat) (item : Option Item) : Prop :=
  s.calls.lookup n = some (.queued (.use item)) ∨
    s.calls.lookup n = some (.queued .useSelected) ∧ s.picker.selected = item

-- A call that is about to ask for a session.
def Begins (s : Sitting) (n : Nat) : Prop :=
  s.calls.lookup n = some (.queued .session) ∨
    s.calls.lookup n = some (.queued .authorize) ∧ s.picker.isAuthorizing = true ∧ s.picker.closed = false

-- How a call wants the picker changed before it lists, and what it gives when the listing has come.
inductive Change (s : Sitting) (n : Nat) : CallResult → (Picker → Option Picker) → Prop where
  | again (asked : s.calls.lookup n = some (.queued .start)) : Change s n .done Picker.again
  | unlessAuthorizing (asked : s.calls.lookup n = some (.queued .reload)) : Change s n .done Picker.unlessAuthorizing
  | fromRoot (asked : s.calls.lookup n = some (.queued .authorizationComplete)) : Change s n .done Picker.fromRoot
  | into (asked : s.calls.lookup n = some (.queued (.goTo c))) : Change s n .done (Picker.into c)
  | enter (uses : s.Uses n (some item)) (folder : Crumb.ofItem? item = some c) :
      Change s n (.chosen none) (Picker.into c)
  | fromRootAt (waiting : s.calls.lookup n = some (.authorizing generation i))
      (granted : s.outcome? i = some (.ok ())) : Change s n .done (Picker.fromRootAt generation)

-- Why an authorization failed: its session did, or there was none.
inductive Fails (s : Sitting) (n generation : Nat) : Prop where
  | session (waiting : s.calls.lookup n = some (.authorizing generation i))
      (failed : s.outcome? i = some (.error e)) (own : e ≠ .cancelled)
  | opening (asking : s.picker.isAuthorizing = true) (failed : s.OpeningFailed)
      (asked : s.calls.lookup n = some (.queued .authorize)) (current : generation = s.picker.generation)

-- The calls that end without a reply and without a change.
inductive Plain (setup : Setup) (s : Sitting) (n : Nat) : CallResult → Prop where
  | refused (change : s.Change n after f) (stays : s.picker.relist? setup.path f = none) : Plain setup s n after
  | cancelled (waiting : s.calls.lookup n = some (.authorizing generation i))
      (ended : s.outcome? i = some (.error .cancelled)) : Plain setup s n .done
  | barred (asked : s.calls.lookup n = some (.queued .authorize)) (barred : s.picker.mayAuthorize = false) :
      Plain setup s n .done
  | late (asked : s.calls.lookup n = some (.queued .authorizationComplete)) (closed : s.picker.closed = true) :
      Plain setup s n .done
  | nothing (uses : s.Uses n none) : Plain setup s n (.chosen none)
  | chosen (uses : s.Uses n (some item)) (file : Crumb.ofItem? item = none) :
      Plain setup s n (.chosen (if s.picker.closed then none else some item))
  | session (waiting : s.calls.lookup n = some (.joined i)) (settled : s.outcome? i = some o) :
      Plain setup s n (.session o)
  | notOpened (failed : s.OpeningFailed) (asked : s.calls.lookup n = some (.queued .session)) :
      Plain setup s n (.session (.error (.notOpened reason)))

inductive Move (w : Surroundings) (setup : Setup) : Option Task → Sitting → Sitting → Prop where
  | wake : Move w setup v s (s.wake t)
  | take : Move w setup (some t) s { s with ready := s.ready.erase t }
  | deliver (fresh : s.Fresh setup v) : Move w setup v s (s.deliver m)
  -- the wire
  | draw : Move w setup v s (draw w s).2
  | ask (asks : s.Asks setup t origin r timeout) (free : s.awaits t = none) :
      Move w setup (some t) s (s.sendOff t origin r timeout reason)
  | skip (on : s.awaits t = some a) (silent : a.reply? ((a.unread s.bus).take n) = none) :
      Move w setup (some t) s (s.skip t a n)
  | conclude (on : s.awaits t = some a) (ends : s.Ends t a o) (retry : ∀ i, t = .popup i → ¬ Answer o)
      (own : ∀ n, t = .call n → s.Talks n) :
      Move w setup (some t) s (report t o (conclude t a o s))
  -- a popup's session
  | count : Move w setup (some (.popup i)) s (s.updatePopup i fun p => { p with posts := p.posts + 1 })
  | resume (free : s.awaits (.popup i) = none) : Move w setup (some (.popup i)) s (s.record (.resumed i))
  | wait (here : s.popups[i]? = some p) (going : p.Going) (held : s.awaits (.popup i) = talk.attempt?)
      (stage : p.stage = .opened ∧ deadline = s.now + setup.settings.sessionTimeout ∧ nextLook = s.now ∨
        ∃ talk', p.stage = .waiting deadline nextLook talk') :
      Move w setup (some (.popup i)) s (s.setStage i (.waiting deadline nextLook talk))
  | look (here : s.popups[i]? = some p) (going : p.Going) (stage : p.stage = .waiting deadline nextLook talk)
      (time : nextLook ≤ s.now) (present : p.closed = false) (once : 1 ≤ n)
      (few : n ≤ looks s.now setup.settings.pollPause nextLook) :
      Move w setup (some (.popup i)) s
        ((s.record (.looked i)).setStage i (.waiting deadline (nextLook + n * setup.settings.pollPause) talk))
  | gone (here : s.popups[i]? = some p) (going : p.Going) (stage : p.stage = .waiting deadline nextLook talk)
      (early : s.now < deadline) (time : nextLook ≤ s.now) (absent : p.closed = true)
      (held : s.awaits (.popup i) = talk.attempt?)
      (rests : ∀ a, s.awaits (.popup i) = some a → a.Rests s.now s.bus) :
      Move w setup (some (.popup i)) s (settle i (.error .windowClosed) (s.record (.looked i)))
  | settle (here : s.popups[i]? = some p) (unsettled : p.stage.outcome? = none)
      (held : s.awaits (.popup i) = p.stage.attempt?) (cause : Cause s i p o) :
      Move w setup (some (.popup i)) s (settle i o s)
  | answer (here : s.popups[i]? = some p) (going : p.Going) (on : s.awaits (.popup i) = some a)
      (old : ∀ b, p.stage.attempt? = some b → ∃ time, (time, .listened (.popup i) b) ∈ s.history)
      (ends : s.Ends (.popup i) a o) (answer : Answer o) :
      Move w setup (some (.popup i)) s (settle i (closing o) (conclude (.popup i) a o s))
  -- the slot of the session
  | begin (begins : s.Begins n) : Move w setup (some (.call n)) s (beginSession w setup s).2
  | complete (asked : ∀ t, v = some t → ∃ n, t = .call n ∧ s.calls.lookup n = some (.queued .authorizationComplete)) :
      Move w setup v s s.completeSession
  | cancel : Move w setup v s s.cancelSession
  -- the calls
  | await (on : s.awaits (.call n) = some a) (own : s.Talks n) :
      Move w setup (some (.call n)) s (s.setCall n (.replying a))
  | join (live : s.session.live = some i) (asked : s.calls.lookup n = some (.queued .session)) :
      Move w setup (some (.call n)) s (s.setCall n (.joined i))
  | attend (live : s.session.live = some i) (asking : s.picker.isAuthorizing = true)
      (asked : s.calls.lookup n = some (.queued .authorize)) :
      Move w setup (some (.call n)) s (s.setCall n (.authorizing s.picker.generation i))
  | authorize (may : s.picker.mayAuthorize = true) (asked : s.calls.lookup n = some (.queued .authorize)) :
      Move w setup (some (.call n)) s { s with picker := s.picker.authorize }
  | fail (why : s.Fails n generation) :
      Move w setup (some (.call n)) s (endCall n .done { s with picker := s.picker.failed generation })
  | launch (change : s.Change n after f) (asked : s.picker.relist? setup.path f = some (p, l))
      (reply : w.listing (s.launches.map (·.path)) l.path = (delay, result)) (slow : delay ≠ 0) :
      Move w setup (some (.call n)) s
        ((s.launched setup p l).setCall n (.listing l (s.now + delay) result after))
  | list (change : s.Change n after f) (asked : s.picker.relist? setup.path f = some (p, l))
      (reply : w.listing (s.launches.map (·.path)) l.path = (0, result)) :
      Move w setup (some (.call n)) s (endCall n after { s.launched setup p l with picker := p.arrive l result })
  | arrive (waiting : s.calls.lookup n = some (.listing l arrival result after)) (time : arrival ≤ s.now) :
      Move w setup (some (.call n)) s (endCall n after { s with picker := s.picker.arrive l result })
  | done (plain : s.Plain setup n r) : Move w setup (some (.call n)) s (s.endCall n r)
  -- what is done from outside
  | start : Move w setup none s (s.start op)
  | drop (here : s.calls.lookup n = some p) (held : s.awaits (.call n) = p.attempt?) :
      Move w setup none s (s.dropCall n p)
  | select : Move w setup none s (s.select item)
  | close : Move w setup none s { s with picker := s.picker.close }
  | letGo : Move w setup none s { s with held := false }
  | leave : Move w setup none s (s.closeByUser i)

def Stirs (s : Sitting) (n : Nat) : Prop := ∃ p, s.calls.lookup n = some p ∧ p.stirs = true

variable {s : Sitting} {n : Nat}

theorem Talks.stirs (talks : s.Talks n) : s.Stirs n := by
  rcases talks with ⟨_, _, _, _, _, _, asked⟩ | ⟨_, waiting⟩
  · exact ⟨_, asked, rfl⟩
  · exact ⟨_, waiting, rfl⟩

theorem Uses.stirs (uses : s.Uses n item) : s.Stirs n := by
  rcases uses with asked | ⟨asked, _⟩ <;> exact ⟨_, asked, rfl⟩

theorem Change.stirs (change : s.Change n after f) : s.Stirs n := by
  cases change with
  | enter uses => exact uses.stirs
  | fromRootAt waiting => exact ⟨_, waiting, rfl⟩
  | again asked | unlessAuthorizing asked | fromRoot asked | into asked => exact ⟨_, asked, rfl⟩

theorem Fails.stirs (fails : s.Fails n generation) : s.Stirs n := by
  cases fails with
  | session waiting => exact ⟨_, waiting, rfl⟩
  | opening _ _ asked => exact ⟨_, asked, rfl⟩

-- Only the outcome of its session ends a call that does not stir.
theorem Plain.stirs (plain : s.Plain setup n r) :
    s.Stirs n ∨ ∃ i o, s.calls.lookup n = some (.joined i) ∧ s.outcome? i = some o ∧ r = .session o := by
  cases plain with
  | refused change => exact .inl change.stirs
  | nothing uses | chosen uses => exact .inl uses.stirs
  | cancelled waiting => exact .inl ⟨_, waiting, rfl⟩
  | session waiting settled => exact .inr ⟨_, _, waiting, settled, rfl⟩
  | barred asked | late asked | notOpened _ asked => exact .inl ⟨_, asked, rfl⟩

-- What the end of a session records: its window is closed, and why.
theorem endSession_records {P : Happening → Prop} (closes : ∀ i wasOpen, P (.closed i wasOpen)) (marks : ∀ i, P (h i)) :
    ∃ newer, (endSession h mark phase s).history = newer ++ s.history ∧ ∀ e ∈ newer, P e.2 := by
  unfold endSession
  split
  · exact ⟨[], rfl, by simp⟩
  · rename_i i _
    refine ⟨[_, _], rfl, ?_⟩
    intro e here
    rcases List.mem_pair.mp here with rfl | rfl
    · exact closes i _
    · exact marks i

theorem beginSession_records {P : Happening → Prop} (focuses : ∀ i, P (.focused i))
    (opens : ∀ i closed url name features, P (.opened i closed url name features))
    (fails : ∀ url name features, P (.notOpened url name features)) :
    ∃ newer, (beginSession w setup s).2.history = newer ++ s.history ∧ ∀ e ∈ newer, P e.2 := by
  unfold beginSession
  split
  · exact ⟨[_], rfl, by simpa using focuses _⟩
  · dsimp only
    split
    · exact ⟨[_], rfl, by simpa using fails _ _ _⟩
    · exact ⟨[_], rfl, by simpa using opens _ _ _ _ _⟩

theorem endSession_grows : ∃ newer, (endSession h mark phase s).history = newer ++ s.history := by
  obtain ⟨newer, grown, _⟩ := endSession_records (P := fun _ => True) (fun _ _ => trivial) fun _ => trivial
  exact ⟨newer, grown⟩

theorem beginSession_grows : ∃ newer, (beginSession w setup s).2.history = newer ++ s.history := by
  obtain ⟨newer, grown, _⟩ :=
    beginSession_records (P := fun _ => True) (fun _ => trivial) (fun _ _ _ _ _ => trivial) fun _ _ _ => trivial
  exact ⟨newer, grown⟩

theorem report_grows : ∃ newer, (report t o s).history = newer ++ s.history := by
  unfold report
  split
  · exact ⟨[_], rfl⟩
  · exact ⟨[], rfl⟩

theorem Move.grows (move : Move w setup v s s') : ∃ newer, s'.history = newer ++ s.history := by
  cases move
  case begin => exact beginSession_grows
  case complete | cancel => exact endSession_grows
  case conclude =>
    obtain ⟨newer, grown⟩ := report_grows (s := Sitting.conclude _ _ _ s)
    exact ⟨newer ++ [_], grown.trans (List.append_cons newer _ _)⟩
  case answer | gone => exact ⟨[_, _, _], rfl⟩
  all_goals first | exact ⟨[], rfl⟩ | exact ⟨[_], rfl⟩ | exact ⟨[_, _], rfl⟩

-- What is on record stays there.
theorem recorded_still {s' : Sitting} {x : Nat × Happening} (grown : ∃ newer, s'.history = newer ++ s.history)
    (here : x ∈ s.history) : x ∈ s'.history := by
  obtain ⟨newer, grown⟩ := grown
  rw [grown]
  exact List.mem_append_right _ here

-- What the mover asks for, or else nothing that is listened for or posted.
def Utters (setup : Setup) (v : Option Task) (s : Sitting) (newer : History) : Prop :=
  (∀ e ∈ newer, e.2.converses = false) ∨ ∃ t origin r timeout reason, v = some t ∧ s.Asks setup t origin r timeout ∧
    newer = [(s.now, .posted t r.encode origin reason),
      (s.now, .listened t ⟨s.bus.next, origin, r.id, s.now + timeout⟩)]

-- A message is delivered, or else none is.
theorem Move.speaks (move : Move w setup v s s') : (∃ m, s' = s.deliver m ∧ s.Fresh setup v) ∨
    ∃ newer, s'.history = newer ++ s.history ∧ (∀ e ∈ newer, e.2.isDelivered = false) ∧ s.Utters setup v newer := by
  have silent (grown : ∃ newer, s'.history = newer ++ s.history ∧
      ∀ e ∈ newer, e.2.isDelivered = false ∧ e.2.converses = false) :
      (∃ m, s' = s.deliver m ∧ s.Fresh setup v) ∨
        ∃ newer, s'.history = newer ++ s.history ∧ (∀ e ∈ newer, e.2.isDelivered = false) ∧ s.Utters setup v newer := by
    obtain ⟨newer, same, quiet⟩ := grown
    exact .inr ⟨newer, same, fun e here => (quiet e here).1, .inl fun e here => (quiet e here).2⟩
  cases move with
  | deliver fresh => exact .inl ⟨_, rfl, fresh⟩
  | ask asks => exact .inr ⟨[_, _], rfl, by simp [Happening.isDelivered], .inr ⟨_, _, _, _, _, rfl, asks, rfl⟩⟩
  | begin =>
    exact silent (beginSession_records (P := fun e => e.isDelivered = false ∧ e.converses = false) (fun _ => ⟨rfl, rfl⟩)
      (fun _ _ _ _ _ => ⟨rfl, rfl⟩) fun _ _ _ => ⟨rfl, rfl⟩)
  | complete | cancel =>
    exact silent (endSession_records (P := fun e => e.isDelivered = false ∧ e.converses = false) (fun _ _ => ⟨rfl, rfl⟩)
      fun _ => ⟨rfl, rfl⟩)
  | @conclude _ t =>
    cases t with
    | call n => exact silent ⟨[_, _], rfl, by simp [Happening.isDelivered, Happening.converses]⟩
    | popup i => exact silent ⟨[_], rfl, by simp [Happening.isDelivered, Happening.converses]⟩
  | answer | gone => exact silent ⟨[_, _, _], rfl, by simp [Happening.isDelivered, Happening.converses]⟩
  | settle | list => exact silent ⟨[_, _], rfl, by simp [Happening.isDelivered, Happening.converses]⟩
  | skip | resume | look | fail | launch | arrive | done | drop | leave =>
    exact silent ⟨[_], rfl, by simp [Happening.isDelivered, Happening.converses]⟩
  | _ => exact silent ⟨[], rfl, by simp⟩

theorem Move.utters (move : Move w setup v s s') :
    ∃ newer, s'.history = newer ++ s.history ∧ s.Utters setup v newer := by
  rcases move.speaks with ⟨m, rfl, _⟩ | ⟨newer, grown, _, utters⟩
  · exact ⟨[_], rfl, .inl (by simp [Happening.converses])⟩
  · exact ⟨newer, grown, utters⟩

end Sitting
end CourseFiles
