import CourseFiles.Sitting.Calls

namespace CourseFiles
namespace Sitting

variable (w : Surroundings) (terms : Terms)

-- Turns are taken at one instant up to this many.
def mostTurns : Nat := 100000

def takeTurns : Nat → Sitting → Sitting
  | 0, s => s
  | turns + 1, s =>
    match s.ready with
    | [] => s
    | t :: rest => takeTurns turns (turn w terms t { s with ready := rest })

-- Runs the tasks until all of them wait.
def rest (s : Sitting) : Sitting := takeTurns w terms mostTurns s

def deadlines (s : Sitting) : List Nat :=
  s.calls.filterMap (·.2.deadline?) ++ s.popups.flatMap (·.stage.deadlines)

def nextDeadline? (s : Sitting) : Option Nat := (s.deadlines.filter (s.now < ·)).min?

def due (s : Sitting) : List Task :=
  (s.calls.filter fun c => c.2.deadline?.any (· ≤ s.now)).map (fun c => .call c.1)
    ++ (s.popups.zipIdx.filter fun p => p.1.stage.deadlines.any (· ≤ s.now)).map fun p => .popup p.2

-- Time passes, and whoever has reached a deadline is woken.
def elapse (ms : Nat) (s : Sitting) : Sitting :=
  let s := { s with now := s.now + ms }
  s.wakeAll s.due

-- Lets time pass, stopping at every deadline on the way.
def advanceFrom (target now : Nat) (s : Sitting) : Sitting :=
  match s.nextDeadline? with
  | none => s.elapse (target - s.now)
  | some t =>
    if now < t ∧ t ≤ target then advanceFrom target t (rest w terms (s.elapse (t - s.now)))
    else s.elapse (target - s.now)
termination_by target - now

def advance (ms : Nat) (s : Sitting) : Sitting := advanceFrom w terms (s.now + ms) s.now s

-- Starts a call; it begins when its turn comes.
def start (op : Operation) (s : Sitting) : Sitting :=
  wake (.call s.nextCall)
    { s with calls := s.calls ++ [(s.nextCall, .queued op)], nextCall := s.nextCall + 1 }

-- Takes a call away; nothing comes of it any more.
def dropCall (n : Nat) (p : Pending) (s : Sitting) : Sitting :=
  record (.aborted n) ((s.hangUp p.attempt?).removeCall n)

def abort (n : Nat) (s : Sitting) : Sitting :=
  match s.calls.lookup n with
  | none => s
  | some p => release (s.dropCall n p)

def select (item : Option Item) (s : Sitting) : Sitting := { s with picker := s.picker.select item }

def cancel (s : Sitting) : Sitting := cancelSession { s with picker := s.picker.close }

def closeByUser (i : Nat) (s : Sitting) : Sitting :=
  record (.left i) (s.updatePopup i fun p => { p with closed := true })

-- The owner lets go of the picker; calls may still hold it.
def letGo (s : Sitting) : Sitting := release { s with held := false }

end Sitting
end CourseFiles
