import CourseFiles.Proofs.Sitting.Promptness

namespace CourseFiles

open History

namespace History

-- All that happened since a task asked for something, the newest first.
def since (t : Task) : History → History
  | [] => []
  | (now, .listened u a) :: h => if u = t then [] else (now, .listened u a) :: since t h
  | e :: h => e :: since t h

end History

namespace Attempt

-- Only a message can be an answer.
def answer? (a : Attempt) : Nat × Happening → Option (Nat × CallOutcome)
  | (time, .delivered m) => (m.reply? a.origin a.id).map (time, ·)
  | _ => none

-- The first one comes first.
def answers (a : Attempt) (h : History) : List (Nat × CallOutcome) := h.reverse.filterMap a.answer?

-- When an attempt has to end, and how.
def ruling (a : Attempt) (sent : Nat) : Option String → List (Nat × CallOutcome) → Nat × CallOutcome
  | some reason, _ => (sent, .error (.post reason))
  | none, answer :: _ => answer
  | none, [] => (a.deadline, .error (.timeout a.origin))

variable {a : Attempt} {h : History}

theorem answers_cons : a.answers (e :: h) = a.answers h ++ (a.answer? e).toList := by
  cases answered : a.answer? e <;> simp [answers, answered]

theorem answers_unanswered (unanswered : a.answer? e = none) : a.answers (e :: h) = a.answers h := by
  rw [answers_cons, unanswered, Option.toList_none, List.append_nil]

end Attempt

namespace History

variable {t u : Task} {a : Attempt} {h : History} {now : Nat}

-- The first answer came at the very instant of the deadline, behind more than a task receives in one turn.
def Crowded (t : Task) (a : Attempt) (h : History) : Prop :=
  ∃ o, (a.answers (since t h)).head? = some (a.deadline, o) ∧ Sitting.allowance ≤ ahead t h

-- The rules that every entry keeps, given what came before it.
def Lawful : Nat × Happening → History → Prop
  | (_, .listened t _), h => awaited t h = none
  | (time, .posted t message origin _), h => ∃ a older, h = (time, .listened t a) :: older ∧ origin = a.origin ∧
      ∃ r : Request, message = r.encode ∧ r.id = a.id
  | (time, .concluded t a o), h => awaited t h = some a ∧ time ≤ a.deadline ∧
      ((time, o) = a.ruling (sent t h) (refusal t h) (a.answers (since t h)) ∨
        Crowded t a h ∧ (time, o) = (a.deadline, .error (.timeout a.origin)))
  | _, _ => True

-- What was heard is the first answer.
theorem heard_first (lawful : Every Lawful h) (on : awaited t h = some a) (accepted : refusal t h = none) :
    heard t h = (a.answers (since t h)).head? := by
  induction h with
  | nil => cases on
  | cons e h ih =>
    obtain ⟨now, e⟩ := e
    have skipped (other : e.concerns t = false) (undelivered : e.isDelivered = false)
        (kept : since t ((now, e) :: h) = (now, e) :: since t h) (unanswered : a.answer? (now, e) = none) :
        heard t ((now, e) :: h) = (a.answers (since t ((now, e) :: h))).head? := by
      rw [heard_skip other undelivered, kept, Attempt.answers_unanswered unanswered]
      rw [awaited_skip other] at on
      rw [refusal_skip other] at accepted
      exact ih lawful.2 on accepted
    have unended : e.ends t = false := Bool.eq_false_iff.mpr fun ends => by
      cases (awaited_end ends).symm.trans on
    cases e with
    | delivered m =>
      have on : awaited t h = some a := on
      have accepted : refusal t h = none := accepted
      have first := ih lawful.2 on accepted
      simp only [heard, since, Attempt.answers_cons, Attempt.answer?, accepted, on, first]
      cases a.answers (since t h) with
      | nil => cases answered : m.reply? a.origin a.id <;> simp [answered]
      | cons answer rest => simp
    | listened u b =>
      by_cases mine : u = t
      · simp [heard, since, mine, Attempt.answers]
      · exact skipped (by simpa [Happening.concerns] using mine) rfl (by simp [since, mine]) rfl
    | posted u message origin reason =>
      by_cases mine : u = t
      · obtain ⟨b, older, rfl, _⟩ := lawful.1
        simp [heard, since, mine, Attempt.answers, Attempt.answer?]
      · exact skipped (by simpa [Happening.concerns] using mine) rfl rfl rfl
    | _ => exact skipped unended rfl rfl rfl

theorem lawful_mute {e : Happening} (silent : e.mute = true) : Lawful (now, e) h := by
  cases e <;> trivial

theorem lawful_end {e : Happening} (ends : e.ends t = true) (unsaid : ∀ u a o, e ≠ .concluded u a o) :
    Lawful (now, e) h := by
  cases e with
  | concluded u a o => exact absurd rfl (unsaid u a o)
  | settled | aborted => trivial
  | _ => cases ends

end History

theorem Wire.Signal.lawful (signal : Signal now x y) (wired : x.Wired) (punctual : ∀ t, Punctual now t x.history)
    (near : ∀ t, x.Near now t) (lawful : Every Lawful x.history) : Every Lawful y.history := by
  have reported {t : Task} {o : CallOutcome} {h : History} (lawful : Every Lawful h) :
      Every Lawful (Wire.reported now t o h) := by
    cases t with
    | call n => exact ⟨trivial, lawful⟩
    | popup i => exact lawful
  cases signal with
  | mute silent => exact ⟨lawful_mute silent, lawful⟩
  | deliver => exact ⟨trivial, lawful⟩
  | ask free => exact ⟨⟨_, _, rfl, rfl, _, rfl, rfl⟩, free, lawful⟩
  | skip | resume => exact ⟨trivial, lawful⟩
  | @refused t h a reason b on refused =>
    have early := (punctual t).early a on
    refine reported ⟨⟨on, early, .inl ?_⟩, lawful⟩
    rw [refused, (punctual t).refused a on (by rw [refused]; simp)]
    rfl
  | @answered t h a b o on accepted found =>
    refine reported ⟨⟨on, (punctual t).early a on, .inl ?_⟩, lawful⟩
    obtain ⟨time, there⟩ := wired.answered on accepted found
    cases (punctual t).fresh a on time o there
    have first := heard_first lawful on accepted
    obtain ⟨rest, answers⟩ := List.head?_eq_some_iff.mp (first.symm.trans there)
    rw [accepted, answers]
    rfl
  | @lapsed t h a b on accepted late through =>
    have early : now ≤ a.deadline := (punctual t).early a on
    cases Nat.le_antisymm early late
    refine reported ⟨⟨on, early, ?_⟩, lawful⟩
    have first := heard_first lawful on accepted
    cases there : heard t h with
    | none =>
      left
      rw [accepted, List.head?_eq_none_iff.mp (first.symm.trans there)]
      rfl
    | some answer =>
      obtain ⟨time, o⟩ := answer
      cases (punctual t).fresh a on time o there
      refine .inr ⟨⟨o, first.symm.trans there, ?_⟩, rfl⟩
      apply Nat.le_of_not_lt
      intro room
      exact (near t).unheard on through room there
  | hangUp ends unsaid => exact ⟨lawful_end ends unsaid, lawful⟩

namespace History

-- A call gives what its request came to, at once, and gives a reply for no other reason.
def Told : Nat × Happening → History → Prop
  | (time, e), h => (∀ n o, e = .finished n (.reply o) → ∃ a older, h = (time, .concluded (.call n) a o) :: older) ∧
      ∀ last n a o older, h = (last, .concluded (.call n) a o) :: older → time = last ∧ e = .finished n (.reply o)

structure Telling (h : History) : Prop where
  every : Every Told h
  told : ∀ last n a o older, h ≠ (last, .concluded (.call n) a o) :: older

variable {h : History} {now : Nat} {t : Task}

theorem Telling.entry (telling : Telling h) {e : Happening} (other : ∀ n o, e ≠ .finished n (.reply o)) :
    Every Told ((now, e) :: h) :=
  ⟨⟨fun n o same => absurd same (other n o), fun _ _ _ _ _ last => absurd last (telling.told _ _ _ _ _)⟩, telling.every⟩

theorem Telling.next (telling : Telling h) {e : Happening} (other : ∀ n o, e ≠ .finished n (.reply o))
    (unsaid : ∀ u a o, e ≠ .concluded u a o) : Telling ((now, e) :: h) :=
  ⟨telling.entry other, fun _ _ _ _ _ same => by cases same; exact unsaid _ _ _ rfl⟩

theorem Telling.conclude (telling : Telling h) : Telling (Wire.reported now t o ((now, .concluded t a o) :: h)) := by
  have concluded : Every Told ((now, .concluded t a o) :: h) := telling.entry (by simp)
  cases t with
  | popup i => exact ⟨concluded, fun _ _ _ _ _ same => by cases same⟩
  | call n =>
    refine ⟨⟨⟨?_, ?_⟩, concluded⟩, fun _ _ _ _ _ same => by cases same⟩
    · intro m o' same
      cases same
      exact ⟨a, h, rfl⟩
    · intro last m b o' older same
      cases same
      exact ⟨rfl, rfl⟩

end History

theorem Wire.Signal.telling (signal : Signal now x y) (telling : Telling x.history) : Telling y.history := by
  cases signal with
  | mute silent =>
    refine telling.next (fun n o same => ?_) fun u a o same => ?_
    all_goals
      subst same
      cases silent
  | deliver => exact telling.next (by simp) (by simp)
  | ask free =>
    refine Telling.next (Telling.next telling ?_ ?_) ?_ ?_
    all_goals simp
  | skip | resume => exact telling.next (by simp) (by simp)
  | refused | answered | lapsed => exact telling.conclude
  | hangUp ends unsaid =>
    refine telling.next ?_ unsaid
    intro n o same
    subst same
    cases ends

namespace History

variable {h newer : History} {t : Task} {a : Attempt}

-- How an attempt ends: it is concluded, or what it was made for has ended.
def Ended (t : Task) (a : Attempt) (h : History) : Prop :=
  ∃ time, (∃ o, (time, .concluded t a o) ∈ h) ∨ (∃ i o, t = .popup i ∧ (time, .settled i o) ∈ h) ∨
    ∃ n, t = .call n ∧ (time, .aborted n) ∈ h

theorem Ended.later (ended : Ended t a h) : Ended t a (e :: h) := by
  obtain ⟨time, ⟨o, here⟩ | ⟨i, o, same, here⟩ | ⟨n, same, here⟩⟩ := ended
  · exact ⟨time, .inl ⟨o, List.mem_cons_of_mem _ here⟩⟩
  · exact ⟨time, .inr (.inl ⟨i, o, same, List.mem_cons_of_mem _ here⟩)⟩
  · exact ⟨time, .inr (.inr ⟨n, same, List.mem_cons_of_mem _ here⟩)⟩

end History

namespace Sitting

variable {w : Surroundings} {setup : Setup} {s : Sitting} {t : Task} {a : Attempt} {n : Nat}

theorem Timely.lawful (run : Timely w setup s) : Every Lawful s.history :=
  run.keeps trivial fun _ _ _ signal wired punctual near lawful => signal.lawful wired punctual near lawful

theorem Timely.telling (run : Timely w setup s) : Telling s.history :=
  run.keeps ⟨trivial, fun _ _ _ _ _ told => by cases told⟩ fun _ _ _ signal _ _ _ telling => signal.telling telling

theorem post_sendOff (t : Task) (counterpart : Counterpart) (origin : String) (r : Request) (timeout : Nat)
    (s : Sitting) : post t counterpart origin r (listen t origin r.id timeout s).2 =
      ((counterpart (s.posted ++ [r.id])).refusal?, (counterpart (s.posted ++ [r.id])).messages.foldl deliver
        (s.sendOff t origin r timeout (counterpart (s.posted ++ [r.id])).refusal?)) := rfl

theorem Orderly.attends (orderly : s.Orderly) (lawful : Every Lawful s.history) (on : s.awaits t = some a) :
    s.refusal t = none ∧ (s.ready = [] → a.answers (since t s.history) = [] ∧ s.now < a.deadline) := by
  have accepted := (orderly.tuned t).accepted
  refine ⟨accepted, ?_⟩
  intro resting
  obtain ⟨unheard, early⟩ := orderly.heard (orderly.idle resting t) on
  exact ⟨List.head?_eq_none_iff.mp ((heard_first lawful on accepted).symm.trans unheard), early⟩

theorem Timely.ruled (run : Timely w setup s) (split : s.history = newer ++ (time, .concluded t a o) :: older) :
    Lawful (time, .concluded t a o) older := run.lawful.at split

theorem Timely.ruling (run : Timely w setup s) (split : s.history = newer ++ (time, .concluded t a o) :: older)
    (uncrowded : ¬ Crowded t a older) :
    (time, o) = a.ruling (sent t older) (History.refusal t older) (a.answers (since t older)) :=
  (run.ruled split).2.2.resolve_right fun late => uncrowded late.1

-- The other window answers while the request is posted, and says much else before that.
def crowded : Sitting :=
  acts .calm .plain [.start (.request "lms" "m" [] (some "7") 0 fun _ => .sends (List.replicate 200 noise ++
    [⟨"lms", .object [("id", .text "7"), ("jsonrpc", .text "2.0"), ("result", .null)]⟩])), .turn (.call 0)] .initial

end Sitting
end CourseFiles
