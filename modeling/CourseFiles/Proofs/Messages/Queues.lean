import CourseFiles.Messages.Attempt
import CourseFiles.Proofs.Lookup
import CourseFiles.Proofs.Messages.Answers

namespace CourseFiles
namespace Bus

variable {b : Bus} {k l : Nat} {m : Message} {queue : List Message}

theorem queue?_drop : (b.drop k).queue? l = if l = k then none else b.queue? l := Lookup.without

theorem queue?_setQueue :
    (b.setQueue k queue).queue? l = if l = k then (b.queue? l).map fun _ => queue else b.queue? l := by
  rw [queue?, setQueue, queue?, ← Lookup.replaced]
  congr 1
  apply List.map_congr_left
  intro entry _
  split
  · rename_i same
    rw [same]
  · rfl

theorem queue?_dispatch : (b.dispatch m).queue? l = (b.queue? l).map (· ++ [m]) := by
  obtain ⟨next, listeners⟩ := b
  simp only [queue?, dispatch]
  induction listeners with
  | nil => rfl
  | cons entry rest ih =>
    obtain ⟨j, q⟩ := entry
    by_cases mine : l = j <;> simp [Lookup.head, mine, ih]

-- A new listener comes last; one of its number would have been found before it.
theorem queue?_subscribe : b.subscribe.2.queue? l = (b.queue? l).or (if l = b.next then some [] else none) := by
  obtain ⟨next, listeners⟩ := b
  simp only [queue?, subscribe, List.lookup_append, Lookup.head, List.lookup_nil]

end Bus

namespace Attempt

variable {a : Attempt} {b : Bus} {queue rest : List Message} {n now : Nat}

theorem reply?_nil : a.reply? [] = none := rfl

theorem reply?_append {ms ms' : List Message} : a.reply? (ms ++ ms') = (a.reply? ms).or (a.reply? ms') :=
  List.findSome?_append

theorem reply?_append_singleton {m : Message} {ms : List Message} :
    a.reply? (ms ++ [m]) = (a.reply? ms).or (m.reply? a.origin a.id) := by
  simp only [reply?, List.findSome?_append, List.findSome?_singleton]

theorem unread_setQueue (here : b.queue? a.listener = some queue) :
    a.unread (b.setQueue a.listener rest) = rest := by
  rw [unread, Bus.queue?_setQueue, if_pos rfl, here]
  rfl

-- What is found among the first messages is found among all, and what is not is still to be found behind them.
theorem reply?_of_take {ms : List Message} {o : CallOutcome} (found : a.reply? (ms.take n) = some o) :
    a.reply? ms = some o := by
  rw [← List.take_append_drop n ms, reply?_append, found]
  rfl

theorem reply?_drop {ms : List Message} (silent : a.reply? (ms.take n) = none) :
    a.reply? (ms.drop n) = a.reply? ms := by
  conv_rhs => rw [← List.take_append_drop n ms, reply?_append, silent]
  rfl

-- What is found among the first messages is found behind those that were received in vain.
theorem reply?_behind {ms : List Message} {k : Nat} {o : CallOutcome} (silent : a.reply? (ms.take n) = none)
    (found : a.reply? (ms.take (k + 1)) = some o) : n ≤ k ∧ a.reply? ((ms.drop n).take (k - n + 1)) = some o := by
  have further : n ≤ k := by
    by_contra before
    have prefixed : ms.take (k + 1) = (ms.take n).take (k + 1) := by
      rw [List.take_take, Nat.min_eq_left (by omega)]
    rw [prefixed] at found
    cases silent.symm.trans (reply?_of_take found)
  refine ⟨further, ?_⟩
  rw [← found, show k - n + 1 = k + 1 - n by omega, ← List.drop_take]
  apply reply?_drop
  rw [List.take_take, Nat.min_eq_left (by omega)]
  exact silent

-- What comes later does not stand in its way.
theorem reply?_grown {ms later : List Message} {o : CallOutcome} (found : a.reply? (ms.take n) = some o) :
    a.reply? ((ms ++ later).take n) = some o := by
  rw [List.take_append, reply?_append, found]
  rfl

theorem reply?_answer {ms : List Message} {o : CallOutcome} (found : a.reply? ms = some o) : Answer o := by
  obtain ⟨m, _, answer⟩ := List.exists_of_findSome?_eq_some found
  exact Message.reply?_answer answer

-- All that came was received, and there is time.
structure Rests (a : Attempt) (now : Nat) (b : Bus) : Prop where
  received : a.unread b = []
  early : now < a.deadline

end Attempt
end CourseFiles
