import CourseFiles.Sitting.Run

namespace CourseFiles

abbrev History := List (Nat × Happening)

namespace Happening

-- An attempt ends by being concluded, or with the session or the call it was made for.
def ends (t : Task) : Happening → Bool
  | .concluded u _ _ => u = t
  | .settled i _ => .popup i = t
  | .aborted n => .call n = t
  | _ => false

-- Whether it changes what a task awaits, or whether that was refused.
def concerns (t : Task) : Happening → Bool
  | .listened u _ => u = t
  | .posted u _ _ _ => u = t
  | e => e.ends t

def isDelivered : Happening → Bool
  | .delivered _ => true
  | _ => false

-- How much of what a task may do in one turn.
def cost (t : Task) : Happening → Nat
  | .skipped u n => if u = t then n else 0
  | .concluded u _ (.error (.timeout _)) => if u = t then 1 else 0
  | .resumed i => if .popup i = t then 1 else 0
  | _ => 0

variable {e : Happening} {t u : Task}

theorem ends_concerns (ends : e.ends t = true) : e.concerns t = true := by
  cases e <;> first | exact ends | cases ends

-- What ends an attempt of one task is no concern of another.
theorem ends_apart (ends : e.ends t = true) (other : t ≠ u) : e.concerns u = false := by
  cases e <;> simp_all [concerns, Happening.ends]

theorem cost_apart (ends : e.ends t = true) (other : t ≠ u) : e.cost u = 0 := by
  cases e with
  | concluded v a o => cases o with
    | error e => cases e <;> simp_all [cost, Happening.ends]
    | ok j => rfl
  | skipped | resumed => cases ends
  | _ => rfl

theorem ends_undelivered (ends : e.ends t = true) : e.isDelivered = false := by
  cases e <;> first | rfl | cases ends

end Happening

namespace History

def awaited (t : Task) : History → Option Attempt
  | [] => none
  | (_, e) :: h =>
    if e.ends t then none
    else match e with
      | .listened u a => if u = t then some a else awaited t h
      | _ => awaited t h

-- Why the request that is awaited could not be posted.
def refusal (t : Task) : History → Option String
  | [] => none
  | (_, e) :: h =>
    if e.ends t then none
    else match e with
      | .listened u _ => if u = t then none else refusal t h
      | .posted u _ _ reason => if u = t then reason else refusal t h
      | _ => refusal t h

-- When it was asked for last.
def sent (t : Task) : History → Nat
  | [] => 0
  | (now, .listened u _) :: h => if u = t then now else sent t h
  | _ :: h => sent t h

-- The time comes with it. Only what comes after the subscription counts, and of that the first; nothing that
-- comes for a request that was refused.
def heard (t : Task) : History → Option (Nat × CallOutcome)
  | [] => none
  | (now, e) :: h =>
    match e with
    | .listened u _ => if u = t then none else heard t h
    | .delivered m =>
      if (heard t h).isNone ∧ refusal t h = none then
        (awaited t h).bind fun a => (m.reply? a.origin a.id).map (now, ·)
      else heard t h
    | _ => heard t h

-- How many messages have come for a task since it began to listen that it has not received.
def backlog (t : Task) : History → Nat
  | [] => 0
  | (_, .listened u _) :: h => if u = t then 0 else backlog t h
  | (_, .delivered _) :: h => backlog t h + 1
  | (_, .skipped u n) :: h => if u = t then backlog t h - n else backlog t h
  | _ :: h => backlog t h

-- How much a task has done at an instant of what it may do in one turn.
def spent (t : Task) (now : Nat) : History → Nat
  | [] => 0
  | (time, e) :: h => (if time = now then e.cost t else 0) + spent t now h

-- What a task had done at that instant, and had not received, when the first reply came that counts: of no more than
-- what it may do in one turn, the rest is left for the reply.
def ahead (t : Task) : History → Nat
  | [] => 0
  | (now, .delivered _) :: h => if (heard t h).isNone then spent t now h + backlog t h else ahead t h
  | _ :: h => ahead t h

-- Every entry is as it should be, given what came before it.
def Every (P : Nat × Happening → History → Prop) : History → Prop
  | [] => True
  | e :: h => P e h ∧ Every P h

variable {t : Task} {a : Attempt} {h newer : History} {now : Nat} {P : Nat × Happening → History → Prop}

-- What was recorded stays; the newest comes first.
theorem grows_trans {h k l : History} (first : ∃ newer, k = newer ++ h) (rest : ∃ newer, l = newer ++ k) :
    ∃ newer, l = newer ++ h := by
  obtain ⟨older, rfl⟩ := first
  obtain ⟨newer, rfl⟩ := rest
  exact ⟨newer ++ older, (List.append_assoc _ _ _).symm⟩

theorem Every.suffix (every : Every P (newer ++ h)) : Every P h := by
  induction newer with
  | nil => exact every
  | cons _ newer ih => exact ih every.2

theorem Every.at (every : Every P h) (here : h = newer ++ e :: older) : P e older := by
  subst here
  exact every.suffix.1

theorem Every.append (fresh : ∀ e ∈ newer, ∀ h, P e h) (every : Every P h) : Every P (newer ++ h) := by
  induction newer with
  | nil => exact every
  | cons e newer ih =>
    exact ⟨fresh e List.mem_cons_self _, ih fun e here => fresh e (List.mem_cons_of_mem _ here)⟩

theorem happened_later {e : Happening} {d : Nat × Happening} (there : ∃ time, (time, e) ∈ h) :
    ∃ time, (time, e) ∈ d :: h := there.imp fun _ => List.mem_cons_of_mem d

theorem awaited_listened (on : awaited t h = some a) : ∃ time, (time, .listened t a) ∈ h := by
  induction h with
  | nil => cases on
  | cons e h ih =>
    obtain ⟨now, e⟩ := e
    unfold awaited at on
    split at on
    · cases on
    · split at on
      · rename_i u b
        split at on
        · rename_i same
          cases on
          exact ⟨now, by rw [same]; exact List.mem_cons_self⟩
        · exact happened_later (ih on)
      · exact happened_later (ih on)

theorem awaited_skip {e : Happening} (other : e.concerns t = false) : awaited t ((now, e) :: h) = awaited t h := by
  have unended : e.ends t = false := Bool.eq_false_iff.mpr fun ends => by simp [Happening.ends_concerns ends] at other
  simp only [awaited, unended]
  cases e <;> simp_all [Happening.concerns]

theorem refusal_skip {e : Happening} (other : e.concerns t = false) : refusal t ((now, e) :: h) = refusal t h := by
  have unended : e.ends t = false := Bool.eq_false_iff.mpr fun ends => by simp [Happening.ends_concerns ends] at other
  simp only [refusal, unended]
  cases e <;> simp_all [Happening.concerns]

theorem heard_skip {e : Happening} (other : e.concerns t = false) (silent : e.isDelivered = false) :
    heard t ((now, e) :: h) = heard t h := by
  simp only [heard]
  cases e <;> simp_all [Happening.concerns, Happening.isDelivered]

theorem sent_skip {e : Happening} (other : e.concerns t = false) : sent t ((now, e) :: h) = sent t h := by
  cases e <;> simp_all [sent, Happening.concerns]

theorem backlog_skip {e : Happening} (other : e.concerns t = false) (undelivered : e.isDelivered = false)
    (unskipped : ∀ n, e ≠ .skipped t n) : backlog t ((now, e) :: h) = backlog t h := by
  cases e <;> simp_all [backlog, Happening.concerns, Happening.isDelivered]

theorem ahead_skip {e : Happening} (undelivered : e.isDelivered = false) : ahead t ((now, e) :: h) = ahead t h := by
  cases e <;> first | rfl | cases undelivered

theorem spent_skip {e : Happening} (free : e.cost t = 0) : spent t now ((time, e) :: h) = spent t now h := by
  simp [spent, free]

theorem spent_append : spent t now h ≤ spent t now (newer ++ h) := by
  induction newer with
  | nil => exact Nat.le_refl _
  | cons e newer ih => exact Nat.le_add_left_of_le ih

theorem spent_free (free : ∀ e ∈ newer, e.2.cost t = 0) : spent t now (newer ++ h) = spent t now h := by
  induction newer with
  | nil => rfl
  | cons e newer ih =>
    rw [List.cons_append, spent_skip (free e List.mem_cons_self)]
    exact ih fun e here => free e (List.mem_cons_of_mem _ here)

theorem awaited_end {e : Happening} (ends : e.ends t = true) : awaited t ((now, e) :: h) = none := by
  simp only [awaited, ends, if_true]

-- What is awaited after that was awaited before it, by others.
theorem awaited_before {e : Happening} (ends : e.ends t = true) (on : awaited u ((now, e) :: h) = some a) :
    t ≠ u ∧ awaited u h = some a := by
  by_cases same : t = u
  · subst same
    cases (awaited_end ends).symm.trans on
  · exact ⟨same, (awaited_skip (Happening.ends_apart ends same)).symm.trans on⟩

end History
end CourseFiles
