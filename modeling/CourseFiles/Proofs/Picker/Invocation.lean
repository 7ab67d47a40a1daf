import CourseFiles.Proofs.Picker.InFlight

namespace CourseFiles
namespace Sitting

-- A call is started and has its first turn at once.
def invoke (w : Surroundings) (setup : Setup) (op : Operation) (s : Sitting) : Sitting :=
  act w setup (.turn (.call s.nextCall)) (act w setup (.start op) s)

-- The call is about to begin; nothing else has changed.
structure Poised (s : Sitting) (n : Nat) (op : Operation) (s₁ : Sitting) : Prop where
  asked : s₁.calls.lookup n = some (.queued op)
  now : s₁.now = s.now
  history : s₁.history = s.history
  picker : s₁.picker = s.picker
  launches : s₁.launches = s.launches
  session : s₁.session = s.session

-- The folder at the end of a trail is listed. The dialog waits for the listing, unless it takes no time.
def Fetches (w : Surroundings) (setup : Setup) (trail : Trail) (s s' : Sitting) : Prop :=
  ∃ p l delay result, Picker.Launches setup.path s.picker p l ∧ p.trail = trail ∧
    w.listing (s.launches.map (·.path)) l.path = (delay, result) ∧
    s'.picker = (if delay = 0 then p.arrive l result else p) ∧ s'.launches = s.launches ++ [l] ∧
    ∃ newer, s'.history = newer ++ (s.now, .listed l.path setup.token) :: s.history

variable {w : Surroundings} {setup : Setup} {s s₁ : Sitting} {n : Nat}

theorem Numbered.invoke (numbered : s.Numbered) (w : Surroundings) (setup : Setup) (op : Operation) :
    ∃ s₁, s.invoke w setup op = beginCall w setup s.nextCall op s₁ ∧ s.Poised s.nextCall op s₁ := by
  have fresh : s.calls.lookup s.nextCall = none := by
    apply Option.eq_none_iff_forall_ne_some.mpr
    intro p here
    exact absurd (numbered.known _ (Lookup.mem here)) (Nat.lt_irrefl _)
  have asked : (s.start op).calls.lookup s.nextCall = some (.queued op) := by
    rw [show (s.start op).calls = s.calls ++ [(s.nextCall, .queued op)] from rfl, List.lookup_append, fresh]
    simp
  refine ⟨{ s.start op with ready := (s.start op).ready.erase (.call s.nextCall) }, ?_, asked, rfl, rfl, rfl, rfl, rfl⟩
  simp only [Sitting.invoke, act, turn, callTurn, asked]

theorem finish_history : ∃ newer, (finish n r s).history = newer ++ (s.now, .finished n r) :: s.history := by
  obtain ⟨newer, grown, _⟩ := (aside_release (s := s.endCall n r)).grown
  exact ⟨newer, grown⟩

-- A picker that is not closed lists when the change is one that it lets pass.
theorem Poised.fetches (poised : s.Poised n op s₁) (opened : s.picker.closed = false) (change : s₁.Change n after f)
    (passes : f s.picker = some { s.picker with trail }) : s.Fetches w setup trail (relist w setup n after f s₁) := by
  obtain ⟨p, l, asked, onto⟩ : ∃ p l, s₁.picker.relist? setup.terms.path f = some (p, l) ∧ p.trail = trail := by
    rw [poised.picker, Picker.relist?, opened, passes]
    exact ⟨_, _, rfl, rfl⟩
  have launches := Picker.relist_launches change.keeps asked
  rw [poised.picker] at launches
  generalize reply : w.listing (s.launches.map (·.path)) l.path = answer
  obtain ⟨delay, result⟩ := answer
  refine ⟨p, l, delay, result, launches, onto, reply, ?_⟩
  simp only [relist, asked, list, poised.launches, reply]
  split
  · refine ⟨finish_picker, finish_launches, ?_⟩
    obtain ⟨newer, grown⟩ := finish_history (n := n) (r := after)
      (s := { s₁.launched setup p l with picker := p.arrive l result })
    refine ⟨newer ++ [(s.now, .finished n after)], ?_⟩
    simpa [launched, record, Setup.terms, poised.now, poised.history, poised.launches] using grown
  · exact ⟨rfl, rfl, [], by simp [record, setCall, Setup.terms, poised.now, poised.history]⟩

def homework : Item := .folder (.number 3) "Homework" "/files/homework"

-- One folder is listed at once; what is in it takes some time.
def oneFolder : Surroundings :=
  { Surroundings.calm with listing := fun earlier _ => (if earlier = [] then 0 else 5, .ok [homework]) }

end Sitting
end CourseFiles
