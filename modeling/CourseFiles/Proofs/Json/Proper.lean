import CourseFiles.Proofs.Json.Overlay
import Mathlib.Data.List.Nodup
import Mathlib.Data.String.Basic

namespace CourseFiles
namespace Json

def Members.Ordered (ms : Members) : Prop := (ms.map (·.1)).Pairwise (· < ·)

inductive Proper : Json → Prop where
  | null : Proper .null
  | bool : Proper (.bool b)
  | number : Proper (.number n)
  | text : Proper (.text s)
  | list (all : ∀ j ∈ js, Proper j) : Proper (.list js)
  | object (ordered : Members.Ordered ms) (all : ∀ m ∈ ms, Proper m.2) : Proper (.object ms)

namespace Members

variable {name : String} {ms : Members} {m : String × Json}

theorem Ordered.apart (ordered : Ordered ms) : (ms.map (·.1)).Nodup := ordered.imp ne_of_lt

theorem mem_of_find? (found : find? name ms = some j) : (name, j) ∈ ms := by
  induction ms with
  | nil => cases found
  | cons m rest ih =>
    rw [find?_cons] at found
    split at found
    · rename_i same
      cases found
      exact same ▸ List.mem_cons_self
    · exact List.mem_cons_of_mem _ (ih found)

theorem mem_iff_find? (apart : (ms.map (·.1)).Nodup) : (name, j) ∈ ms ↔ find? name ms = some j :=
  ⟨find?_mem apart, mem_of_find?⟩

-- What an object says of every name is all that it is.
theorem Ordered.ext (ordered : Ordered ms) (ordered' : Ordered ms') (same : ∀ name, find? name ms = find? name ms') :
    ms = ms' := by
  have members : ms.Perm ms' := by
    apply (List.perm_ext_iff_of_nodup (List.Nodup.of_map _ ordered.apart) (List.Nodup.of_map _ ordered'.apart)).mpr
    rintro ⟨name, j⟩
    rw [mem_iff_find? ordered.apart, mem_iff_find? ordered'.apart, same]
  refine members.eq_of_pairwise ?_ (List.pairwise_map.mp ordered) (List.pairwise_map.mp ordered')
  intro m k _ _ before after
  exact absurd (lt_trans before after) (lt_irrefl _)

theorem mem_insert (here : m ∈ insert name j ms) : m = (name, j) ∨ m ∈ ms := by
  induction ms with
  | nil => exact .inl (List.mem_singleton.mp here)
  | cons k rest ih =>
    simp only [insert] at here
    split at here
    · exact List.mem_cons.mp here
    · split at here
      · exact (List.mem_cons.mp here).imp_right (List.mem_cons_of_mem _)
      · rcases List.mem_cons.mp here with rfl | later
        · exact .inr List.mem_cons_self
        · exact (ih later).imp_right (List.mem_cons_of_mem _)

theorem insert_ordered (ordered : Ordered ms) : Ordered (insert name j ms) := by
  induction ms with
  | nil => exact List.pairwise_singleton _ _
  | cons m rest ih =>
    obtain ⟨least, ordered'⟩ := List.pairwise_cons.mp ordered
    simp only [insert]
    split
    · rename_i before
      refine List.pairwise_cons.mpr ⟨?_, ordered⟩
      intro k here
      rcases List.mem_cons.mp here with rfl | later
      · exact before
      · exact lt_trans before (least k later)
    · split
      · rename_i same
        subst same
        exact ordered
      · rename_i after other
        refine List.pairwise_cons.mpr ⟨?_, ih ordered'⟩
        intro k here
        obtain ⟨n, there, rfl⟩ := List.mem_map.mp here
        rcases mem_insert there with rfl | old
        · exact lt_of_le_of_ne (not_lt.mp after) (Ne.symm other)
        · exact least _ (List.mem_map.mpr ⟨n, old, rfl⟩)

end Members

variable {j : Json} {ms : Members}

theorem Members.inserted_ordered {acc : Members} (ordered : acc.Ordered) :
    Ordered (ms.foldl (fun ms m => insert m.1 m.2 ms) acc) := by
  induction ms generalizing acc with
  | nil => exact ordered
  | cons m rest ih => exact ih (insert_ordered ordered)

theorem ofMembers_ordered (same : ofMembers ms = .object os) : Members.Ordered os := by
  cases same
  exact Members.inserted_ordered .nil

theorem ofMembers_proper (all : ∀ m ∈ ms, Proper m.2) : (ofMembers ms).Proper := by
  refine .object (ofMembers_ordered rfl) ?_
  intro m here
  have found := Members.find?_mem (ofMembers_ordered rfl).apart here
  rw [Members.find?_ofMembers rfl] at found
  exact all _ (List.mem_reverse.mp (Members.mem_of_find? found))

theorem Proper.member (proper : j.Proper) (found : j.member? name = some k) : k.Proper := by
  cases proper with
  | object ordered all => exact all _ (Members.mem_of_find? found)
  | _ => cases found

end Json

open Reader

namespace Reader

variable {c d : Cursor} {levels : Nat}

theorem Reads.allItems {item : Reader α} {P : α → Prop} (one : ∀ {c a d}, Reads item c a d → P a)
    (read : Reads (items item rounds first) c as d) : ∀ a ∈ as, P a := by
  induction rounds generalizing c first as with
  | zero =>
    obtain ⟨rfl, _⟩ := reads_pure.mp read
    simp
  | succ rounds ih =>
    rcases reads_items.mp read with ⟨_, rfl⟩ | ⟨_, a, _, rest, _, first, more, rfl⟩
    · simp
    · exact List.forall_mem_cons.mpr ⟨one first, ih more⟩

theorem Reads.allMembers {member : String → Reader α} {P : α → Prop}
    (one : ∀ {name c a d}, Reads (member name) c a d → P a)
    (read : Reads (members member rounds first) c as d) : ∀ a ∈ as, P a := by
  induction rounds generalizing c first as with
  | zero =>
    obtain ⟨rfl, _⟩ := reads_pure.mp read
    simp
  | succ rounds ih =>
    rcases reads_members.mp read with ⟨_, rfl⟩ | ⟨_, name, _, a, _, rest, _, _, first, more, rfl⟩
    · simp
    · exact List.forall_mem_cons.mpr ⟨one first, ih more⟩

theorem Reads.proper_valueOf (read : Reads (valueOf ofList ofObject) c j d)
    (list : ∀ {c j d}, Reads ofList c j d → j.Proper) (object : ∀ {c j d}, Reads ofObject c j d → j.Proper) :
    j.Proper := by
  simp only [valueOf, reads_blanks] at read
  split at read
  · simp at read
  · obtain ⟨_, -, rfl⟩ := reads_return.mp read
    exact .null
  · obtain ⟨_, -, rfl⟩ := reads_return.mp read
    exact .bool
  · obtain ⟨_, -, rfl⟩ := reads_return.mp read
    exact .bool
  · rw [reads_advance_bind] at read
    obtain ⟨s, -, rfl⟩ := reads_return.mp read
    exact .text
  · rw [reads_advance_bind] at read
    obtain ⟨x, -, rfl⟩ := reads_return.mp read
    exact .number
  · exact list (reads_located.mp read)
  · exact object (reads_located.mp read)
  · split at read
    · obtain ⟨x, -, rfl⟩ := reads_return.mp read
      exact .number
    · simp at read

theorem Reads.proper (read : Reads (value levels) c j d) : j.Proper := by
  induction levels generalizing c j d with
  | zero => apply Reads.proper_valueOf read <;> simp
  | succ levels ih =>
    apply Reads.proper_valueOf read
    · intro c j d read
      obtain ⟨js, listed, rfl⟩ := reads_map.mp read
      obtain ⟨e, read, _⟩ := reads_list.mp listed
      exact .list (Reads.allItems ih read)
    · intro c j d read
      obtain ⟨ms, named, rfl⟩ := reads_map.mp read
      obtain ⟨e, read, _⟩ := reads_object.mp named
      apply Json.ofMembers_proper
      refine Reads.allMembers (P := fun m : String × Json => m.2.Proper) ?_ read
      intro name c m d read
      obtain ⟨_, _, _, read⟩ := reads_bind.mp read
      obtain ⟨k, valued, rfl⟩ := reads_return.mp read
      exact ih valued

end Reader

theorem Json.read_proper {text : List UInt8} (read : Json.read text = .ok j) : j.Proper := by
  obtain ⟨d, read, _⟩ := run_ok.mp read
  exact read.proper

end CourseFiles
