import CourseFiles.Messages.Attempt
import CourseFiles.Settings.Basic
import CourseFiles.Url.Origin

namespace CourseFiles

inductive SessionError
  | notOpened (reason : String)
  | windowClosed
  | timedOut
  | cancelled
  | call (e : CallError)

def SessionError.shown : SessionError → String
  | .notOpened reason => "Failed to open authorization window: " ++ reason
  | .windowClosed => "Authorization window was closed before authorization completed"
  | .timedOut => "Authorization timed out"
  | .cancelled => "Authorization was cancelled"
  | .call e => e.shown

abbrev SessionOutcome := Except SessionError Unit

-- Durations are in milliseconds. The pause is kept between two looks at the window, and after a post that failed.
structure SessionOptions where
  timeout : Nat
  callTimeout : Nat
  pause : Nat
  features : Features
deriving DecidableEq

def SessionOptions.ofSettings (s : Settings) : SessionOptions where
  timeout := s.sessionTimeout
  callTimeout := s.callTimeout
  pause := s.pollPause
  features := s.features

inductive Phase
  | idle
  | opening
  | waiting
  | completed
  | failed
  | closed
deriving DecidableEq

namespace Phase

def name : Phase → String
  | .idle => "idle"
  | .opening => "opening"
  | .waiting => "waiting"
  | .completed => "completed"
  | .failed => "failed"
  | .closed => "closed"

def ofOutcome : SessionOutcome → Phase
  | .ok () => .completed
  | .error .windowClosed => .closed
  | .error .cancelled => .closed
  | .error _ => .failed

end Phase

-- The slot of the session: the popup that is live, by its number, if there is one.
structure Session where
  phase : Phase
  live : Option Nat
deriving DecidableEq

namespace Session

def idle : Session := ⟨.idle, none⟩

def isOpen (s : Session) : Bool := s.live.isSome

def method : String := "authorize"

def popupUrl (target : Url) (token : String) : Url := target.appendPairs [("authorization", token)]

end Session

-- What a popup's session does meanwhile: awaits a reply, or pauses after a post that failed.
inductive Talk
  | awaiting (a : Attempt)
  | pausing (wake : Nat)
deriving DecidableEq

-- How far a popup's session is. A window that is gone is noticed at the next look.
inductive Stage
  | opened
  | waiting (deadline nextLook : Nat) (talk : Talk)
  | settled (outcome : SessionOutcome)

-- A popup and its session. The request is the number of the wish that opened it; the two marks tell the
-- session to end when it next runs.
structure Popup where
  request : Nat
  closed : Bool
  posts : Nat
  cancelled : Bool
  finished : Bool
  stage : Stage

namespace Talk

def deadline : Talk → Nat
  | .awaiting a => a.deadline
  | .pausing t => t

def attempt? : Talk → Option Attempt
  | .awaiting a => some a
  | .pausing _ => none

end Talk

namespace Stage

-- When the session has something to do, unless a message comes before.
def deadlines : Stage → List Nat
  | .waiting deadline nextLook talk => [deadline, nextLook, talk.deadline]
  | _ => []

def attempt? : Stage → Option Attempt
  | .waiting _ _ talk => talk.attempt?
  | _ => none

def outcome? : Stage → Option SessionOutcome
  | .settled o => some o
  | _ => none

end Stage
end CourseFiles
