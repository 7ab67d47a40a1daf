import CourseFiles.Sitting.Basic

namespace CourseFiles
namespace Sitting

-- Posts a request; what the other window sends at once is delivered before the next thing happens. The
-- reason is given when it refuses.
def post (t : Task) (counterpart : Counterpart) (origin : String) (r : Request) (s : Sitting) :
    Option String × Sitting :=
  let s := { s with posted := s.posted ++ [r.id] }
  let reaction := counterpart s.posted
  (reaction.refusal?, reaction.messages.foldl deliver (s.record (.posted t r.encode origin reaction.refusal?)))

def listen (t : Task) (origin id : String) (timeout : Nat) (s : Sitting) : Attempt × Sitting :=
  let (listener, bus) := s.bus.subscribe
  let a : Attempt := ⟨listener, origin, id, s.now + timeout⟩
  (a, record (.listened t a) { s with bus })

-- An attempt comes to its end; nothing listens any more.
def conclude (t : Task) (a : Attempt) (o : CallOutcome) (s : Sitting) : Sitting :=
  record (.concluded t a o) (s.hangUp (some a))

def attempt (t : Task) (counterpart : Counterpart) (origin : String) (r : Request) (timeout : Nat)
    (s : Sitting) : Except String Attempt × Sitting :=
  let (a, s) := listen t origin r.id timeout s
  match post t counterpart origin r s with
  | (some reason, s) => (.error reason, conclude t a (.error (.post reason)) s)
  | (none, s) => (.ok a, s)

-- What a task may do in one turn: receive so many messages, or find so many times that something is due.
def allowance : Nat := 128

-- Receives messages none of which is the reply.
def skip (t : Task) (a : Attempt) (n : Nat) (s : Sitting) : Sitting :=
  record (.skipped t n) { s with bus := s.bus.setQueue a.listener ((a.unread s.bus).drop n) }

-- How the attempt ends now, if it does, and what the task may still do if it goes on. It receives as many messages
-- as it may before it looks at the clock, and a task that may do nothing more looks at neither.
def poll (t : Task) (a : Attempt) (left : Nat) (s : Sitting) : Option CallOutcome × Nat × Sitting :=
  let queue := a.unread s.bus
  match a.reply? (queue.take left) with
  | some outcome => (some outcome, 0, conclude t a outcome s)
  | none =>
    let n := min left queue.length
    let s := if n = 0 then s else s.skip t a n
    if 0 < left ∧ a.deadline ≤ s.now then
      (some (.error (.timeout a.origin)), left - n - 1, conclude t a (.error (.timeout a.origin)) s)
    else (none, left - n, s)

def draw (w : Surroundings) (s : Sitting) : String × Sitting := (w.id s.drawn, { s with drawn := s.drawn + 1 })

end Sitting
end CourseFiles
