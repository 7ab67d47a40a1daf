import CourseFiles.Sitting.Popups

namespace CourseFiles
namespace Sitting

variable (w : Surroundings) (terms : Terms)

-- Sends off a listing. One that takes no time has arrived already.
def list (n : Nat) (after : CallResult) (l : Launch) (s : Sitting) : Sitting :=
  let (delay, result) := w.listing (s.launches.map (·.path)) l.path
  let s := record (.listed l.path terms.token) { s with launches := s.launches ++ [l] }
  if delay = 0 then finish n after { s with picker := s.picker.arrive l result }
  else s.setCall n (.listing l (s.now + delay) result after)

def relist (n : Nat) (after : CallResult) (change : Picker → Option Picker) (s : Sitting) : Sitting :=
  match s.picker.relist? terms.path change with
  | none => finish n after s
  | some (p, l) => list w terms n after l { s with picker := p }

-- The session that a call asked for has ended.
def authorized (n generation : Nat) (o : SessionOutcome) (s : Sitting) : Sitting :=
  match o with
  | .ok () => relist w terms n .done (Picker.fromRootAt generation) s
  | .error .cancelled => finish n .done s
  | .error _ => finish n .done { s with picker := s.picker.failed generation }

def outcome? (s : Sitting) (popup : Nat) : Option SessionOutcome := s.popups[popup]?.bind (·.stage.outcome?)

-- A call waits for what becomes of a popup. It is told at its next turn if that is known.
def join (n popup : Nat) (p : Pending) (s : Sitting) : Sitting :=
  if (s.outcome? popup).isSome then (s.setCall n p).wake (.call n) else s.setCall n p

def authorize (n : Nat) (s : Sitting) : Sitting :=
  if s.picker.mayAuthorize then
    let picker := s.picker.authorize
    match beginSession w terms { s with picker } with
    | (.error e, s) => authorized w terms n picker.generation (.error e) s
    | (.ok i, s) => s.join n i (.authorizing picker.generation i)
  else finish n .done s

-- A folder is gone into; a file is the choice.
def use (n : Nat) (item : Option Item) (s : Sitting) : Sitting :=
  match item with
  | none => finish n (.chosen none) s
  | some i =>
    match Crumb.ofItem? i with
    | some c => relist w terms n (.chosen none) (Picker.into c) s
    | none => finish n (.chosen (if s.picker.closed then none else some i)) s

-- A task that has received all it may wants another turn.
def awaitReply (n : Nat) (a : Attempt) (s : Sitting) : Sitting :=
  match poll (.call n) a allowance s with
  | (some o, _, s) => finish n (.reply o) s
  | (none, 0, s) => (s.setCall n (.replying a)).wake (.call n)
  | (none, _, s) => s.setCall n (.replying a)

-- A request was posted, or could not be.
def requested (n : Nat) : Except String Attempt × Sitting → Sitting
  | (.error reason, s) => finish n (.reply (.error (.post reason))) s
  | (.ok a, s) => awaitReply n a s

def request (n : Nat) (origin method : String) (params : List Json) (id : Option String) (timeout : Nat)
    (counterpart : Counterpart) (s : Sitting) : Sitting :=
  let (id, s) :=
    match id with
    | some id => (id, s)
    | none => draw w s
  requested n (attempt (.call n) counterpart origin (Request.of method params id) timeout s)

def beginCall (n : Nat) (op : Operation) (s : Sitting) : Sitting :=
  match op with
  | .request origin method params id timeout counterpart =>
    request w n origin method params id timeout counterpart s
  | .session =>
    match beginSession w terms s with
    | (.error e, s) => finish n (.session (.error e)) s
    | (.ok i, s) => s.join n i (.joined i)
  | .start => relist w terms n .done Picker.again s
  | .reload => relist w terms n .done Picker.unlessAuthorizing s
  | .authorize => authorize w terms n s
  | .authorizationComplete =>
    if s.picker.closed then finish n .done s
    else relist w terms n .done Picker.fromRoot s.completeSession
  | .goTo c => relist w terms n .done (Picker.into c) s
  | .use item => use w terms n item s
  | .useSelected => use w terms n s.picker.selected s

def callTurn (n : Nat) (s : Sitting) : Sitting :=
  match s.calls.lookup n with
  | none => s
  | some (.queued op) => beginCall w terms n op s
  | some (.replying a) => awaitReply n a s
  | some (.joined i) =>
    match s.outcome? i with
    | some o => finish n (.session o) s
    | none => s
  | some (.listing l due result after) =>
    if due ≤ s.now then finish n after { s with picker := s.picker.arrive l result } else s
  | some (.authorizing generation i) =>
    match s.outcome? i with
    | some o => authorized w terms n generation o s
    | none => s

def turn (t : Task) (s : Sitting) : Sitting :=
  match t with
  | .call n => callTurn w terms n s
  | .popup i => popupTurn w terms i s

end Sitting
end CourseFiles
