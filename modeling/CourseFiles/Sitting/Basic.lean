import CourseFiles.Authorization.Session
import CourseFiles.Picker.Basic

namespace CourseFiles

-- What another window does with a message posted to it: the messages it sends at once, and the reason if
-- it refuses the message.
structure Reaction where
  messages : List Message
  refusal? : Option String

namespace Reaction

def refuses (reason : String) : Reaction := ⟨[], some reason⟩

def sends (messages : List Message) : Reaction := ⟨messages, none⟩

end Reaction

-- What a reaction depends on: the ids of the requests posted so far.
abbrev Counterpart := List String → Reaction

-- What becomes of a wish for a window. The counterpart of each post is counted from the first.
inductive Opening
  | refused (reason : String)
  | opened (closed : Bool) (post : Nat → Counterpart)

-- The rest of the world. A listing depends on the paths listed before and takes some time; ids that are
-- drawn and names of windows are numbered.
structure Surroundings where
  window : Nat → Opening
  listing : List String → String → Nat × Except ListingError Listing
  id : Nat → String
  windowName : Nat → String

-- What a session is made with, and where its picker begins.
structure Terms where
  token : String
  authUrl : Url
  path : String
  options : SessionOptions

-- What a picker is made with. The options of its session come from the settings.
structure Setup where
  token : String
  authUrl : Url
  path : String
  settings : Settings

def Setup.terms (setup : Setup) : Terms where
  token := setup.token
  authUrl := setup.authUrl
  path := setup.path
  options := .ofSettings setup.settings

instance : Coe Setup Terms := ⟨Setup.terms⟩

-- What others can see of a sitting.
inductive Event
  | opened (url : Url) (name : String) (features : Features)
  | posted (window : Nat) (message : Json) (origin : String)
  | focused (window : Nat)
  | closed (window : Nat)
  | listed (path token : String)

inductive Task
  | call (n : Nat)
  | popup (i : Nat)
deriving DecidableEq

-- The calls that take time.
inductive Operation
  | request (origin method : String) (params : List Json) (id : Option String) (timeout : Nat)
      (counterpart : Counterpart)
  | session
  | start
  | reload
  | authorize
  | authorizationComplete
  | goTo (c : Crumb)
  | use (item : Option Item)
  | useSelected

-- What a call gives in the end.
inductive CallResult
  | reply (o : CallOutcome)
  | session (o : SessionOutcome)
  | done
  | chosen (item : Option Item)

-- What an unfinished call waits for.
inductive Pending
  | queued (op : Operation)
  | replying (a : Attempt)
  | joined (popup : Nat)
  | listing (l : Launch) (due : Nat) (result : Except ListingError Listing) (after : CallResult)
  | authorizing (generation popup : Nat)

-- All that happens in a sitting, whether or not others can see it. A window that was refused has no
-- number; one that was closed may have been closed before.
inductive Happening
  | opened (popup : Nat) (closed : Bool) (url : Url) (name : String) (features : Features)
  | notOpened (url : Url) (name : String) (features : Features)
  | listened (t : Task) (a : Attempt)
  | skipped (t : Task) (messages : Nat)
  | posted (t : Task) (message : Json) (origin : String) (refusal : Option String)
  | concluded (t : Task) (a : Attempt) (o : CallOutcome)
  | delivered (m : Message)
  | focused (popup : Nat)
  | looked (popup : Nat)
  | resumed (popup : Nat)
  | left (popup : Nat)
  | cancelled (popup : Nat)
  | completed (popup : Nat)
  | closed (popup : Nat) (wasOpen : Bool)
  | settled (popup : Nat) (o : SessionOutcome)
  | listed (path token : String)
  | finished (call : Nat) (r : CallResult)
  | aborted (call : Nat)

namespace Happening

-- What others see of it. The calls that are not a session's post to a window of their own.
def event? : Happening → Option Event
  | .opened _ _ url name features => some (.opened url name features)
  | .notOpened url name features => some (.opened url name features)
  | .posted (.call _) message origin _ => some (.posted 0 message origin)
  | .posted (.popup i) message origin _ => some (.posted i message origin)
  | .focused i => some (.focused i)
  | .closed i true => some (.closed i)
  | .listed path token => some (.listed path token)
  | _ => none

def finished? : Happening → Option (Nat × CallResult)
  | .finished n r => some (n, r)
  | _ => none

end Happening

-- The history comes with the newest first.
structure Sitting where
  now : Nat
  bus : Bus
  ready : List Task
  calls : List (Nat × Pending)
  nextCall : Nat
  drawn : Nat
  posted : List String
  requests : Nat
  popups : List Popup
  session : Session
  picker : Picker
  launches : List Launch
  held : Bool
  history : List (Nat × Happening)

namespace Sitting

def initial : Sitting where
  now := 0
  bus := .empty
  ready := []
  calls := []
  nextCall := 0
  drawn := 0
  posted := []
  requests := 0
  popups := []
  session := .idle
  picker := .initial
  launches := []
  held := true
  history := []

instance : Inhabited Sitting := ⟨initial⟩

def record (h : Happening) (s : Sitting) : Sitting := { s with history := (s.now, h) :: s.history }

def log (s : Sitting) : List (Nat × Event) := s.history.filterMap fun h => h.2.event?.map fun e => (h.1, e)

def finished (s : Sitting) : List (Nat × CallResult) := s.history.filterMap (·.2.finished?)

-- A task that is ready waits for its turn behind the others, once.
def enqueue (ready : List Task) (t : Task) : List Task := if t ∈ ready then ready else ready ++ [t]

def wake (t : Task) (s : Sitting) : Sitting := { s with ready := enqueue s.ready t }

def wakeAll (ts : List Task) (s : Sitting) : Sitting := { s with ready := ts.foldl enqueue s.ready }

def updatePopup (i : Nat) (f : Popup → Popup) (s : Sitting) : Sitting :=
  { s with popups := s.popups.modify i f }

def setStage (i : Nat) (stage : Stage) (s : Sitting) : Sitting :=
  s.updatePopup i fun p => { p with stage }

def setCall (n : Nat) (p : Pending) (s : Sitting) : Sitting :=
  { s with calls := s.calls.map fun c => if c.1 = n then (n, p) else c }

end Sitting

namespace Pending

def attempt? : Pending → Option Attempt
  | .replying a => some a
  | _ => none

def joins (popup : Nat) : Pending → Bool
  | .joined i => i == popup
  | .authorizing _ i => i == popup
  | _ => false

-- When a call has something to do, unless something else wakes it before.
def deadline? : Pending → Option Nat
  | .replying a => some a.deadline
  | .listing _ due _ _ => some due
  | _ => none

end Pending

namespace Sitting

def listening (s : Sitting) : List Task :=
  (s.calls.filter fun c => c.2.attempt?.isSome).map (fun c => .call c.1)
    ++ (s.popups.zipIdx.filter fun p => p.1.stage.attempt?.isSome).map fun p => .popup p.2

-- A message reaches every listener and wakes those who wait for one.
def deliver (s : Sitting) (m : Message) : Sitting :=
  record (.delivered m) ({ s with bus := s.bus.dispatch m }.wakeAll s.listening)

-- Nothing listens any more for an attempt, if there is one.
def hangUp (a : Option Attempt) (s : Sitting) : Sitting :=
  { s with bus := a.elim s.bus fun a => s.bus.drop a.listener }

def closePopup (i : Nat) (s : Sitting) : Sitting :=
  record (.closed i (s.popups[i]?.any (!·.closed))) (s.updatePopup i fun p => { p with closed := true })

-- Ends the live session, if there is one, leaving the mark that tells its task how.
def endSession (h : Nat → Happening) (mark : Popup → Popup) (phase : Phase) (s : Sitting) : Sitting :=
  match s.session.live with
  | none => s
  | some i =>
    { closePopup i (wake (.popup i) (updatePopup i mark (record (h i) s))) with session := ⟨phase, none⟩ }

-- The session is over because the user has granted access, as was learned elsewhere.
def completeSession (s : Sitting) : Sitting :=
  s.endSession .completed (fun p => { p with finished := true }) .completed

def cancelSession (s : Sitting) : Sitting :=
  s.endSession .cancelled (fun p => { p with cancelled := true }) .closed

def isGone (s : Sitting) : Bool := !s.held && s.calls.isEmpty

-- A picker that nobody holds ends its session.
def release (s : Sitting) : Sitting := if s.isGone then s.cancelSession else s

def removeCall (n : Nat) (s : Sitting) : Sitting :=
  { s with calls := s.calls.filter fun c => c.1 != n }

def endCall (n : Nat) (r : CallResult) (s : Sitting) : Sitting := record (.finished n r) (s.removeCall n)

def finish (n : Nat) (r : CallResult) (s : Sitting) : Sitting := release (s.endCall n r)

end Sitting
end CourseFiles
