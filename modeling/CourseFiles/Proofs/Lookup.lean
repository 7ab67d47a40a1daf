import Mathlib.Data.List.Basic

namespace CourseFiles
namespace Lookup

variable {α : Type} {entries : List (Nat × α)} {k n : Nat} {v : α}

theorem head {rest : List (Nat × α)} :
    ((k, v) :: rest).lookup n = if n = k then some v else rest.lookup n := by
  by_cases mine : n = k
  · simp [mine]
  · rw [List.lookup_cons, beq_eq_false_iff_ne.mpr mine, if_neg mine]

theorem mem (found : entries.lookup n = some v) : (n, v) ∈ entries := by
  obtain ⟨before, after, split, _⟩ := List.lookup_eq_some_iff.mp found
  rw [split]
  simp

theorem without : (entries.filter (·.1 != k)).lookup n = if n = k then none else entries.lookup n := by
  induction entries with
  | nil => simp
  | cons entry rest ih =>
    obtain ⟨j, q⟩ := entry
    by_cases same : j = k
    · subst same
      by_cases mine : n = j <;> simpa [head, mine] using ih
    · by_cases mine : n = j
      · subst mine; simp [same]
      · simpa [same, head, mine] using ih

theorem replaced : (entries.map fun e => if e.1 = k then (k, v) else e).lookup n =
    if n = k then (entries.lookup n).map fun _ => v else entries.lookup n := by
  induction entries with
  | nil => simp
  | cons entry rest ih =>
    obtain ⟨j, q⟩ := entry
    by_cases same : j = k
    · subst same
      by_cases mine : n = j <;> simp_all [head]
    · by_cases mine : n = j
      · subst mine; simp [same]
      · simp [same, head, mine, ih]

end Lookup
end CourseFiles
