import CourseFiles.Messages.Request

namespace CourseFiles

-- Listeners stand in the order of their subscription. Their numbers are never used again.
structure Bus where
  next : Nat
  listeners : List (Nat × List Message)

namespace Bus

def empty : Bus := ⟨0, []⟩

instance : Inhabited Bus := ⟨empty⟩

-- The number of the new listener, and the bus with it.
def subscribe (b : Bus) : Nat × Bus := (b.next, ⟨b.next + 1, b.listeners ++ [(b.next, [])]⟩)

def drop (b : Bus) (listener : Nat) : Bus :=
  { b with listeners := b.listeners.filter fun l => l.1 != listener }

def count (b : Bus) : Nat := b.listeners.length

def dispatch (b : Bus) (m : Message) : Bus :=
  { b with listeners := b.listeners.map fun l => (l.1, l.2 ++ [m]) }

-- A message is dispatched, and it is told how many listeners it went to.
def announce (b : Bus) (m : Message) : Nat × Bus := (b.count, b.dispatch m)

-- What a listener has not received yet; none if there is no such listener.
def queue? (b : Bus) (listener : Nat) : Option (List Message) := b.listeners.lookup listener

def setQueue (b : Bus) (listener : Nat) (queue : List Message) : Bus :=
  { b with listeners := b.listeners.map fun l => if l.1 = listener then (l.1, queue) else l }

def receive (b : Bus) (listener : Nat) : Option Message × Bus :=
  match b.queue? listener with
  | some (m :: rest) => (some m, b.setQueue listener rest)
  | _ => (none, b)

end Bus
end CourseFiles
