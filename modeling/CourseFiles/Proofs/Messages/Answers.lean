import CourseFiles.Messages.Request

namespace CourseFiles

namespace Json

variable {j : Json}

theorem text?_eq_some : j.text? = some s ↔ j = .text s := by
  cases j <;> simp [text?]

end Json

namespace Message

variable {m : Message} {o : CallOutcome}

theorem text?_eq_some : text? j name = some s ↔ j.member? name = some (.text s) := by
  simp [text?, Option.bind_eq_some_iff, Json.text?_eq_some]

-- All is kept as it is, and null is as good as any other value.
def Means (m : Message) : CallOutcome → Prop
  | .ok j => m.data.member? "error" = none ∧ m.data.member? "result" = some j
  | .error (.remote j) => m.data.member? "error" = some j
  | .error .malformedReply => m.data.member? "error" = none ∧ m.data.member? "result" = none
  | .error _ => False

theorem outcome_eq_iff : m.outcome = o ↔ m.Means o := by
  unfold outcome Means
  cases m.data.member? "error" <;> cases m.data.member? "result" <;> rcases o with (_ | _ | _ | _) | j <;> simp

theorem reply?_eq_some {sender id : String} : m.reply? sender id = some o ↔ m.origin = sender ∧
    m.data.member? "jsonrpc" = some (.text "2.0") ∧ m.data.member? "id" = some (.text id) ∧ m.Means o := by
  have exact : m.answers sender id = true ↔ m.origin = sender ∧
      m.data.member? "jsonrpc" = some (.text "2.0") ∧ m.data.member? "id" = some (.text id) := by
    simp only [answers, Bool.and_eq_true, beq_iff_eq, text?_eq_some, protocolVersion, and_assoc]
  unfold reply?
  split
  · rename_i answered
    simp only [Option.some.injEq, outcome_eq_iff, exact.mp answered, true_and]
  · rename_i unanswered
    exact ⟨(by simp), fun reply => absurd (exact.mpr ⟨reply.1, reply.2.1, reply.2.2.1⟩) unanswered⟩

end Message

-- What is learned from the other window, and not from the clock or the post.
def Answer : CallOutcome → Prop
  | .error (.timeout _) => False
  | .error (.post _) => False
  | _ => True

theorem Message.reply?_answer {m : Message} {o : CallOutcome} {sender id : String}
    (found : m.reply? sender id = some o) : Answer o := by
  obtain ⟨_, _, _, means⟩ := Message.reply?_eq_some.mp found
  rcases o with (_ | _ | _ | _) | j
  case error.timeout | error.post => exact means
  all_goals trivial

end CourseFiles
