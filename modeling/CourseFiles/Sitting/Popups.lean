import CourseFiles.Sitting.Exchange

namespace CourseFiles
namespace Sitting

def counterpart (w : Surroundings) (p : Popup) : Counterpart :=
  match w.window p.request with
  | .refused _ => fun _ => .sends []
  | .opened _ post => post p.posts

-- Asks the popup once more. When it cannot be reached yet there is a pause.
def ask (w : Surroundings) (terms : Terms) (i : Nat) (s : Sitting) : Talk × Sitting :=
  let counterpart := (s.popups[i]?.map (counterpart w)).getD fun _ => .sends []
  let (id, s) := draw w s
  let s := s.updatePopup i fun p => { p with posts := p.posts + 1 }
  let request := Request.of Session.method [.text terms.token] id
  match attempt (.popup i) counterpart terms.authUrl.origin.text request terms.options.callTimeout s with
  | (.ok a, s) => (.awaiting a, s)
  | (.error _, s) => (.pausing (s.now + terms.options.pause), s)

-- Goes on asking until there is something to wait for, or an answer that ends the session. Each round takes some of
-- what the task may do in this turn.
def converse (w : Surroundings) (terms : Terms) (i : Nat) :
    Nat → Nat → Talk → Sitting → Except SessionOutcome (Nat × Talk) × Sitting
  | 0, left, talk, s => (.ok (left, talk), s)
  | rounds + 1, left, .pausing t, s =>
    if left = 0 ∨ s.now < t then (.ok (left, .pausing t), s)
    else
      let (talk, s) := ask w terms i (s.record (.resumed i))
      converse w terms i rounds (left - 1) talk s
  | rounds + 1, left, .awaiting a, s =>
    match poll (.popup i) a left s with
    | (none, left, s) => (.ok (left, .awaiting a), s)
    | (some (.ok _), _, s) => (.error (.ok ()), s)
    | (some (.error (.timeout _)), left, s) =>
      let (talk, s) := ask w terms i s
      converse w terms i rounds left talk s
    | (some (.error e), _, s) => (.error (.error (.call e)), s)

-- Ends a popup's session: nothing listens any more, the window is closed, the slot is freed if it is still
-- this popup's, and whoever waits for the outcome is woken.
def settle (i : Nat) (o : SessionOutcome) (s : Sitting) : Sitting :=
  let s := s.hangUp (s.popups[i]?.bind (·.stage.attempt?))
  let s := s.closePopup i
  let s := { s with session := if s.session.live = some i then ⟨.ofOutcome o, none⟩ else s.session }
  let s := record (.settled i o) (s.setStage i (.settled o))
  s.wakeAll ((s.calls.filter fun c => c.2.joins i).map fun c => .call c.1)

-- Without a pause there is no looking again and again: the task breaks down where that would begin, and whoever
-- waits is told that it was cancelled. Its window stays open and the slot of the session stays taken.
def collapse (i : Nat) (s : Sitting) : Sitting :=
  let s := s.hangUp (s.popups[i]?.bind (·.stage.attempt?))
  let s := record (.settled i (.error .cancelled)) (s.setStage i (.settled (.error .cancelled)))
  s.wakeAll ((s.calls.filter fun c => c.2.joins i).map fun c => .call c.1)

-- How often the window should have been looked at since it should have been looked at again.
def looks (now pause nextLook : Nat) : Nat := (now - nextLook) / pause + 1

-- The end of a turn: the time and the window. A task that has done all it may wants another turn.
def watch (terms : Terms) (i deadline nextLook left : Nat) (talk : Talk) (s : Sitting) : Sitting :=
  let s := s.setStage i (.waiting deadline nextLook talk)
  let pause := terms.options.pause
  if deadline ≤ s.now then settle i (.error .timedOut) s
  else if pause = 0 then collapse i s
  else if left = 0 then s.wake (.popup i)
  else if s.now < nextLook then s
  else
    let s := s.record (.looked i)
    if s.popups[i]?.any (·.closed) then settle i (.error .windowClosed) s
    else
      let n := min left (looks s.now pause nextLook)
      let s := s.setStage i (.waiting deadline (nextLook + n * pause) talk)
      if n = left then s.wake (.popup i) else s

def proceed (w : Surroundings) (terms : Terms) (i deadline nextLook : Nat) (talk : Talk) (s : Sitting) : Sitting :=
  match converse w terms i allowance allowance talk s with
  | (.error o, s) => settle i o s
  | (.ok (left, talk), s) => watch terms i deadline nextLook left talk s

def popupTurn (w : Surroundings) (terms : Terms) (i : Nat) (s : Sitting) : Sitting :=
  match s.popups[i]? with
  | none => s
  | some p =>
    match p.stage with
    | .settled _ => s
    | .opened =>
      if p.cancelled then settle i (.error .cancelled) s
      else if p.finished then settle i (.ok ()) s
      else
        let (talk, s) := ask w terms i s
        proceed w terms i (s.now + terms.options.timeout) s.now talk s
    | .waiting deadline nextLook talk =>
      if p.cancelled then settle i (.error .cancelled) s
      else if p.finished then settle i (.ok ()) s
      else proceed w terms i deadline nextLook talk s

-- Opens a popup, or brings the one that is open to the front.
def beginSession (w : Surroundings) (terms : Terms) (s : Sitting) : Except SessionError Nat × Sitting :=
  match s.session.live with
  | some i => (.ok i, s.record (.focused i))
  | none =>
    let url := Session.popupUrl terms.authUrl terms.token
    let name := "lms-auth-" ++ w.windowName s.requests
    let features := terms.options.features
    let request := s.requests
    let s := { s with requests := request + 1 }
    match w.window request with
    | .refused reason =>
      (.error (.notOpened reason), record (.notOpened url name features) { s with session := ⟨.failed, none⟩ })
    | .opened closed _ =>
      let i := s.popups.length
      let popup : Popup := ⟨request, closed, 0, false, false, .opened⟩
      let s := { s with popups := s.popups ++ [popup], session := ⟨.waiting, some i⟩ }
      (.ok i, wake (.popup i) (record (.opened i closed url name features) s))

end Sitting
end CourseFiles
