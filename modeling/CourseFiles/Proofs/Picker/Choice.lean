import CourseFiles.Proofs.Authorization.Endings
import CourseFiles.Proofs.Authorization.Joining
import CourseFiles.Proofs.Picker.Buttons
import CourseFiles.Proofs.Picker.Selection
import Mathlib.Data.List.Induction

namespace CourseFiles

-- Whether a call that begins now lists again, goes somewhere, or asks for access and is heard.
def Operation.renews (p : Picker) : Operation → Bool
  | .start => true
  | .reload => true
  | .authorizationComplete => true
  | .goTo _ => true
  | .authorize => p.mayAuthorize
  | .use item => (item.bind Crumb.ofItem?).isSome
  | .useSelected => (p.selected.bind Crumb.ofItem?).isSome
  | .request .. => false
  | .session => false

namespace Picker

variable {belongs : Listing → Item → Prop} {p : Picker}

theorem arrive_selected : (p.arrive l result).selected = p.selected := by
  unfold Picker.arrive
  split <;> rfl

theorem Selects.arrive_holds (selects : p.Selects belongs)
    (fetching : l.generation = p.generation → p.dialog = .fetching)
    (chosen : (p.arrive l result).selected = some f) : p.arrive l result = p := by
  rw [arrive_selected] at chosen
  refine if_neg fun current => ?_
  have waits := fetching current.symm
  cases (selects.unselected (by simp [waits])).symm.trans chosen

theorem Selects.failed_holds {last : Nat} (selects : p.Selects belongs)
    (asked : last = p.generation → p.dialog = .authorizing) (chosen : (p.failed last).selected = some f) :
    p.failed last = p := by
  unfold Picker.failed at chosen ⊢
  split at chosen
  · rw [if_pos (by assumption)]
  · rename_i current
    have current : p.closed = false ∧ p.generation = last := by simpa using current
    have asking := asked current.2.symm
    have chosen : p.selected = some f := chosen
    cases (selects.unselected (by simp [asking])).symm.trans chosen

end Picker

namespace Sitting

def Selectable (s : Sitting) : Prop := s.picker.closed = false ∧ ∃ files, s.picker.dialog = .fetched files

-- Neither is something selected, nor does a call begin that renews what is shown.
def LeavesChoice (s : Sitting) (a : Act) : Prop :=
  (∀ item, a = .select item → ¬ s.Selectable) ∧
    ∀ n op, a = .turn (.call n) → s.calls.lookup n = some (.queued op) → op.renews s.picker = false

-- In the earlier state it could be selected, and was; since then the same files of the same listing are shown.
structure SelectedLast (w : Surroundings) (setup : Setup) (s₁ s : Sitting) (f : Item) (since : List Act) : Prop where
  selectable : s₁.Selectable
  dialog : s.picker.dialog = s₁.picker.dialog
  launches : s.launches = s₁.launches
  spared : Fits LeavesChoice w setup since (s₁.select (some f))

-- Whatever is given in a move is an item that the mover uses: a file, and the picker is not closed.
def Gives (v : Option Task) (s s' : Sitting) : Prop :=
  ∃ newer, s'.history = newer ++ s.history ∧ ∀ time m f, (time, .finished m (.chosen (some f))) ∈ newer →
    v = some (.call m) ∧ s.Uses m (some f) ∧ Crumb.ofItem? f = none ∧ s.picker.closed = false

-- A call that has begun.
structure Unqueued (s : Sitting) (n : Nat) : Prop where
  known : n < s.nextCall
  begun : ∀ op, s.calls.lookup n ≠ some (.queued op)

variable {w : Surroundings} {setup : Setup} {s s' s₁ : Sitting} {v : Option Task} {t : Task} {a : Act} {n : Nat}
  {f : Item} {since : List Act}

theorem acts_append (as bs : List Act) : acts w setup (as ++ bs) s = acts w setup bs (acts w setup as s) :=
  List.foldl_append

theorem Fits.append {allowed : Sitting → Act → Prop} {as : List Act} (fits : Fits allowed w setup as s)
    (next : allowed (acts w setup as s) a) : Fits allowed w setup (as ++ [a]) s := by
  induction as generalizing s with
  | nil => exact ⟨next, trivial⟩
  | cons b rest ih => exact ⟨fits.1, ih fits.2 next⟩

theorem select_accepted (selectable : s.Selectable) :
    s.select item = { s with picker := Picker.publish { s.picker with selected := item } } := by
  obtain ⟨opened, files, shown⟩ := selectable
  have fetched : s.picker.isFetched = true := by rw [Picker.isFetched, shown]; rfl
  rw [Sitting.select, Picker.select, if_neg (by simp [opened, fetched])]

theorem select_refused (refused : ¬ s.Selectable) : s.select item = s := by
  unfold Sitting.select Picker.select
  split
  · rfl
  · rename_i accepted
    have accepted : s.picker.closed = false ∧ s.picker.isFetched = true := by simpa using accepted
    refine absurd ⟨accepted.1, ?_⟩ refused
    cases dialog : s.picker.dialog with
    | fetched files => exact ⟨files, rfl⟩
    | _ =>
      have fetched := accepted.2
      rw [Picker.isFetched, dialog] at fetched
      cases fetched

-- A turn that leaves something selected leaves the picker as it was, and launches nothing.
theorem Move.holds (move : Move w setup (some t) s s') (agrees : Agrees w setup s)
    (selects : s.picker.Selects fun _ _ => True) (chosen : s'.picker.selected = some f) :
    s'.picker = s.picker ∧ s'.launches = s.launches := by
  have beside (beside : Beside s s') : s'.picker = s.picker ∧ s'.launches = s.launches :=
    ⟨beside.picker, beside.launches⟩
  cases move with
  | conclude => cases t <;> exact ⟨rfl, rfl⟩
  | begin => exact beside beginSession_beside
  | complete => exact beside completeSession_beside
  | cancel => exact beside cancelSession_beside
  | authorize => cases chosen
  | fail why => exact ⟨selects.failed_holds (agrees.fails why) chosen, rfl⟩
  | launch change asked =>
    cases (Picker.relist_launches change.keeps asked).unselected.symm.trans chosen
  | list change asked =>
    have unselected := (Picker.relist_launches change.keeps asked).unselected
    cases unselected.symm.trans (Picker.arrive_selected.symm.trans chosen)
  | arrive waiting => exact ⟨selects.arrive_holds (agrees.fetching _ _ _ _ _ (Lookup.mem waiting)) chosen, rfl⟩
  | _ => exact ⟨rfl, rfl⟩

theorem Moves.holds (moves : Moves w setup (some t) s s') (path : Reached w setup .initial s)
    (chosen : s'.picker.selected = some f) : s'.picker = s.picker ∧ s'.launches = s.launches := by
  have begin : s.picker.Selects fun _ _ => True := path.within.selects fun _ _ _ _ _ _ => trivial
  have kept := Moves.keeps (P := fun s' : Sitting => Agrees w setup s' ∧ (s'.picker.Selects fun _ _ => True) ∧
    (s'.picker.selected = some f → s'.picker = s.picker ∧ s'.launches = s.launches)) moves ?_
    ⟨path.agrees, begin, fun _ => ⟨rfl, rfl⟩⟩
  · exact kept.2.2 chosen
  · rintro s₁ s₂ move ⟨agrees, selects, held⟩
    refine ⟨move.agrees agrees, move.selects agrees selects, ?_⟩
    intro chosen
    obtain ⟨picker, launches⟩ := move.holds agrees selects chosen
    obtain ⟨before, listed⟩ := held (picker ▸ chosen)
    exact ⟨picker.trans before, launches.trans listed⟩

-- Nor does anything else that is done while the picker stays open, but for a selection.
theorem Outside.holds (outside : Outside s a s') (other : ∀ item, a ≠ .select item)
    (opened : s'.picker.closed = false) : s'.picker = s.picker ∧ s'.launches = s.launches := by
  cases outside with
  | aside aside => exact ⟨aside.picker, aside.launches⟩
  | start => exact ⟨rfl, rfl⟩
  | drop aside => exact ⟨aside.picker, aside.launches⟩
  | select => exact absurd rfl (other _)
  | close aside =>
    rw [aside.picker] at opened
    cases opened

theorem relist_launched (w : Surroundings) (setup : Setup) {change : Picker → Option Picker}
    (opened : s.picker.closed = false) (passes : change s.picker = some q) :
    ∃ l, (relist w setup n after change s).launches = s.launches ++ [l] := by
  have asked : s.picker.relist? setup.terms.path change = some (Picker.launch setup.path q) := by
    rw [Picker.relist?, opened, passes]
    rfl
  refine ⟨(Picker.launch setup.path q).2, ?_⟩
  simp only [relist, asked, list]
  split
  · exact finish_launches
  · rfl

-- Among files no call that renews them is ignored, and there is no access to ask for.
theorem renews_launches (w : Surroundings) (setup : Setup) (asked : s.calls.lookup n = some (.queued op))
    (renews : op.renews s.picker = true) (selectable : s.Selectable) :
    ∃ l, (act w setup (.turn (.call n)) s).launches = s.launches ++ [l] := by
  obtain ⟨opened, files, shown⟩ := selectable
  have free : s.picker.isAuthorizing = false := by rw [Picker.isAuthorizing, shown]
  have listed {change : Picker → Option Picker} {q : Picker} {after : CallResult} (passes : change s.picker = some q) :
      ∃ l, (relist w setup n after change { s with ready := s.ready.erase (.call n) }).launches = s.launches ++ [l] :=
    relist_launched w setup (s := { s with ready := _ }) opened passes
  have entered (c : Crumb) : Picker.into c s.picker = some { s.picker with trail := s.picker.trail.push c } := by
    rw [Picker.into, Picker.unlessAuthorizing, free]
    rfl
  simp only [act, turn, callTurn, asked]
  cases op with
  | start => exact listed rfl
  | reload =>
    refine listed (q := s.picker) ?_
    rw [Picker.unlessAuthorizing, free]
    rfl
  | goTo c => exact listed (entered c)
  | authorizationComplete =>
    have beside : Beside { s with ready := s.ready.erase (.call n) } _ := completeSession_beside
    simp only [beginCall, opened]
    have launched (opened : (completeSession { s with ready := s.ready.erase (.call n) }).picker.closed = false) :
        ∃ l, (relist w setup n .done Picker.fromRoot
          (completeSession { s with ready := s.ready.erase (.call n) })).launches = _ ++ [l] :=
      relist_launched w setup opened rfl
    obtain ⟨l, launched⟩ := launched (by rw [beside.picker, opened])
    exact ⟨l, launched.trans (by rw [beside.launches])⟩
  | authorize =>
    have may : s.picker.mayAuthorize = true := renews
    rw [Picker.mayAuthorize, opened, free, shown] at may
    cases may
  | use item =>
    obtain ⟨c, found⟩ := Option.isSome_iff_exists.mp renews
    obtain ⟨i, rfl, folder⟩ := Option.bind_eq_some_iff.mp found
    simp only [beginCall, use, folder]
    exact listed (entered c)
  | useSelected =>
    obtain ⟨c, found⟩ := Option.isSome_iff_exists.mp renews
    obtain ⟨i, chosen, folder⟩ := Option.bind_eq_some_iff.mp found
    simp only [beginCall, use, chosen, folder]
    exact listed (entered c)
  | request => cases renews
  | session => cases renews

theorem SelectedLast.extend (last : SelectedLast w setup s₁ s f since)
    (whole : acts w setup since (s₁.select (some f)) = s) (dialog : (act w setup a s).picker.dialog = s.picker.dialog)
    (launches : (act w setup a s).launches = s.launches) (spared : s.LeavesChoice a) :
    SelectedLast w setup s₁ (act w setup a s) f (since ++ [a]) :=
  ⟨last.selectable, dialog.trans last.dialog, launches.trans last.launches, last.spared.append (whole ▸ spared)⟩

-- By the acts from the last to the first: the last of them selected it, or left it selected.
theorem selected_last (w : Surroundings) (setup : Setup) (as : List Act)
    (chosen : (acts w setup as .initial).picker.selected = some f)
    (opened : (acts w setup as .initial).picker.closed = false) :
    ∃ before since, as = before ++ .select (some f) :: since ∧
      SelectedLast w setup (acts w setup before .initial) (acts w setup as .initial) f since := by
  induction as using List.reverseRecOn with
  | nil => cases chosen
  | append_singleton as a ih =>
    have path : Reached w setup .initial (acts w setup as .initial) := acts_reached as
    have next : acts w setup (as ++ [a]) .initial = act w setup a (acts w setup as .initial) := acts_append as [a]
    rw [next] at chosen opened ⊢
    generalize state : acts w setup as .initial = s at path chosen opened ih ⊢
    -- What leaves it selected leaves all as it was.
    have kept (same : (act w setup a s).picker = s.picker ∧ (act w setup a s).launches = s.launches)
        (spared : s.Selectable → s.LeavesChoice a) : ∃ before since, as ++ [a] = before ++ .select (some f) :: since ∧
          SelectedLast w setup (acts w setup before .initial) (act w setup a s) f since := by
      have still : s.picker.closed = false := same.1 ▸ opened
      obtain ⟨before, since, rfl, last⟩ := ih (same.1 ▸ chosen) still
      refine ⟨before, since ++ [a], by simp, ?_⟩
      have whole : acts w setup since ((acts w setup before .initial).select (some f)) = s := by
        rw [← state, acts_append]
        rfl
      have selectable : s.Selectable := ⟨still, last.dialog ▸ last.selectable.2⟩
      exact last.extend whole (congrArg _ same.1) same.2 (spared selectable)
    cases a with
    | select item =>
      by_cases accepted : s.Selectable
      · rw [act, select_accepted accepted] at chosen ⊢
        have same : item = some f := chosen
        subst same
        refine ⟨as, [], rfl, ?_⟩
        rw [state]
        exact ⟨accepted, rfl, rfl, trivial⟩
      · refine kept ?_ fun selectable => absurd selectable accepted
        rw [act, select_refused accepted]
        exact ⟨rfl, rfl⟩
    | turn t =>
      refine kept ((act_turned (path.tuned t)).moves.holds path chosen) fun selectable => ⟨by simp, ?_⟩
      rintro n op ⟨⟩ asked
      apply Bool.eq_false_iff.mpr
      intro renews
      obtain ⟨l, launched⟩ := renews_launches w setup asked renews selectable
      have same := ((act_turned (path.tuned _)).moves.holds path chosen).2
      rw [launched] at same
      exact absurd same (by simp)
    | _ =>
      refine kept ((outside w setup s _ (by simp)).holds (by simp) opened) fun _ => ⟨by simp, by simp⟩

theorem Move.gives (move : Move w setup v s s') (mere : s.Mere) : Gives v s s' := by
  have quiet (mutters : s.Mutters s') : Gives v s s' := by
    obtain ⟨newer, grown, silent⟩ := mutters
    refine ⟨newer, grown, ?_⟩
    intro time m f here
    cases silent _ here
  cases move with
  | @conclude _ t =>
    cases t with
    | call m => exact ⟨[_, _], rfl, by simp⟩
    | popup i => exact quiet ⟨[_], rfl, by simp [Happening.finished?]⟩
  | begin => exact quiet beginSession_mutters
  | complete | cancel => exact quiet (endSession_mutters fun _ => rfl)
  | gone | answer => exact quiet ⟨[_, _, _], rfl, by simp [Happening.finished?]⟩
  | settle | ask => exact quiet ⟨[_, _], rfl, by simp [Happening.finished?]⟩
  | deliver | skip | resume | look | leave | launch | drop => exact quiet ⟨[_], rfl, by simp [Happening.finished?]⟩
  | fail => exact ⟨[_], rfl, by simp⟩
  | list change => rcases change.mere with rfl | rfl <;> exact ⟨[_, _], rfl, by simp⟩
  | arrive waiting => rcases mere _ _ _ _ _ (Lookup.mem waiting) with rfl | rfl <;> exact ⟨[_], rfl, by simp⟩
  | done plain =>
    refine ⟨[_], rfl, ?_⟩
    intro time m f here
    cases plain with
    | refused change => rcases change.mere with rfl | rfl <;> cases List.mem_singleton.mp here
    | chosen uses file =>
      cases closed : s.picker.closed with
      | true => simp [closed] at here
      | false =>
        simp only [closed, Bool.false_eq_true, if_false] at here
        cases List.mem_singleton.mp here
        exact ⟨rfl, uses, file, rfl⟩
    | _ => cases List.mem_singleton.mp here
  | _ => exact quiet ⟨[], rfl, by simp⟩

theorem Move.next (move : Move w setup v s s') : s.nextCall ≤ s'.nextCall := by
  have beside (beside : Beside s s') : s.nextCall ≤ s'.nextCall := Nat.le_of_eq beside.nextCall.symm
  cases move with
  | @conclude _ t => cases t <;> exact Nat.le_refl _
  | begin => exact beside beginSession_beside
  | complete => exact beside completeSession_beside
  | cancel => exact beside cancelSession_beside
  | start => exact Nat.le_succ _
  | _ => exact Nat.le_refl _

theorem Move.unqueued (move : Move w setup v s s') (unqueued : s.Unqueued n) : s'.Unqueued n := by
  refine ⟨Nat.lt_of_lt_of_le unqueued.known move.next, ?_⟩
  intro op asked
  by_cases mine : v = some (.call n)
  · subst mine
    exact unqueued.begun op (move.queued asked)
  · rcases move.others mine asked with before | ⟨new, _⟩
    · exact unqueued.begun op before
    · exact absurd new (Nat.ne_of_lt unqueued.known)

-- A call that has begun gives no choice any more.
theorem Reached.unchosen (path : Reached w setup .initial s) (unqueued : s.Unqueued n) (later : Reached w setup s s') :
    ∃ newer, s'.history = newer ++ s.history ∧ ∀ time f, (time, .finished n (.chosen (some f))) ∉ newer := by
  have kept := later.keeps (P := fun s' => s'.Mere ∧ s'.Unqueued n ∧ ∃ newer, s'.history = newer ++ s.history ∧
    ∀ time f, (time, .finished n (.chosen (some f))) ∉ newer) path.tuned ⟨path.mere, unqueued, [], rfl, by simp⟩ ?_ ?_
  · exact kept.2.2
  · rintro v s₁ s₂ move ⟨mere, unqueued, newer, grown, silent⟩
    obtain ⟨next, onto, gives⟩ := move.gives mere
    refine ⟨move.mere mere, move.unqueued unqueued, next ++ newer, by rw [onto, grown, List.append_assoc], ?_⟩
    intro time f here
    rcases List.mem_append.mp here with new | old
    · obtain ⟨_, uses, _⟩ := gives time n f new
      rcases uses with asked | ⟨asked, _⟩ <;> exact unqueued.begun _ asked
    · exact silent time f old
  · exact fun s₁ _ ⟨mere, unqueued, grown⟩ => ⟨mere, ⟨unqueued.known, unqueued.begun⟩, grown⟩

theorem finish_lookup : (finish n r s).calls.lookup n = none := by
  rw [finish, release_beside.calls]
  exact removed_lookup

-- What a call gives after a listing: it has ended, or waits for the listing.
theorem relist_gives (w : Surroundings) (setup : Setup) {change : Picker → Option Picker}
    (asked : s.calls.lookup n = some p) :
    (relist w setup n after change s).calls.lookup n = none ∧
        (s.now, .finished n after) ∈ (relist w setup n after change s).history ∨
      ∃ l due result, (relist w setup n after change s).calls.lookup n = some (.listing l due result after) := by
  unfold relist
  split
  · exact .inl ⟨finish_lookup, finished_now⟩
  · rename_i q l _
    rcases reply : w.listing (s.launches.map (·.path)) l.path with ⟨delay, result⟩
    simp only [list, reply]
    split
    · exact .inl ⟨finish_lookup, finished_now⟩
    · refine .inr ⟨l, s.now + delay, result, ?_⟩
      rw [set_lookup]
      exact congrArg (Option.map _) asked

-- A folder is not given.
theorem use_gives (w : Surroundings) (setup : Setup) (asked : s.calls.lookup n = some p)
    (folder : Crumb.ofItem? f = some c) :
    (use w setup n (some f) s).calls.lookup n = none ∧
        (s.now, .finished n (.chosen none)) ∈ (use w setup n (some f) s).history ∨
      ∃ l due result, (use w setup n (some f) s).calls.lookup n = some (.listing l due result (.chosen none)) := by
  simp only [use, folder]
  exact relist_gives w setup asked

theorem use_unqueued (asked : s.calls.lookup n = some p) (item : Option Item) :
    (use w setup n item s).calls.lookup n ≠ some (.queued op) := by
  unfold use
  split
  · rw [finish_lookup]
    simp
  · split
    · rcases relist_gives w setup asked with ⟨ended, _⟩ | ⟨l, due, result, waiting⟩
      · rw [ended]
        simp
      · rw [waiting]
        simp
    · rw [finish_lookup]
      simp

theorem Fetches.onto {way : Trail} (fetches : s.Fetches w setup way s') : s'.picker.trail = way := by
  obtain ⟨p, l, delay, result, _, onto, _, picker, _⟩ := fetches
  rw [picker]
  split
  · exact arrive_trail.trans onto
  · exact onto

theorem useSelected_turn (w : Surroundings) (setup : Setup) (asked : s.calls.lookup n = some (.queued .useSelected)) :
    ∃ s₁, act w setup (.turn (.call n)) s = use w setup n s₁.picker.selected s₁ ∧ s.Poised n .useSelected s₁ := by
  refine ⟨{ s with ready := s.ready.erase (.call n) }, ?_, asked, rfl, rfl, rfl, rfl, rfl⟩
  simp only [act, turn, callTurn, asked, beginCall]

theorem Moves.gives (moves : Moves w setup v s s') (mere : s.Mere) : ∃ newer, s'.history = newer ++ s.history ∧
    ∀ time m f, (time, .finished m (.chosen (some f))) ∈ newer → ∃ s₁, Moves w setup v s s₁ ∧
      v = some (.call m) ∧ s₁.Uses m (some f) ∧ Crumb.ofItem? f = none ∧ s₁.picker.closed = false := by
  induction moves with
  | refl => exact ⟨[], rfl, by simp⟩
  | @tail s₁ s₂ moves move ih =>
    obtain ⟨newer, grown, before⟩ := ih
    obtain ⟨next, onto, gives⟩ := move.gives (Moves.keeps moves (fun _ _ move => move.mere) mere)
    refine ⟨next ++ newer, by rw [onto, grown, List.append_assoc], ?_⟩
    intro time m f here
    rcases List.mem_append.mp here with new | old
    · exact ⟨s₁, moves, gives time m f new⟩
    · exact before time m f old

-- A choice that a call gives at its first turn is what was selected before.
theorem turn_chooses (path : Reached w setup .initial s) (asked : s.calls.lookup n = some (.queued .useSelected))
    (grown : (act w setup (.turn (.call n)) s).history = newer ++ s.history)
    (given : (time, .finished n (.chosen (some f))) ∈ newer) :
    s.picker.selected = some f ∧ Crumb.ofItem? f = none ∧ s.picker.closed = false := by
  have turned : Turned w setup (.call n) s (act w setup (.turn (.call n)) s) := act_turned (path.tuned _)
  obtain ⟨newer', onto, gives⟩ := Moves.gives turned.moves path.mere
  cases List.append_cancel_right (grown.symm.trans onto)
  obtain ⟨s₁, moves, _, uses, file, opened⟩ := gives time n f given
  have queued (op : Operation) (here : s₁.calls.lookup n = some (.queued op)) : op = .useSelected := by
    have before := Moves.keeps (P := fun s' => s'.calls.lookup n = some (.queued op) →
      s.calls.lookup n = some (.queued op)) moves (fun _ _ move ih asked => ih (move.queued asked)) id here
    cases asked.symm.trans before
    rfl
  rcases uses with here | ⟨_, chosen⟩
  · cases queued _ here
  · have same := (moves.holds path chosen).1
    exact ⟨same ▸ chosen, file, same ▸ opened⟩

theorem ofItem_file (file : Crumb.ofItem? f = none) : f.isFolder = false := by
  unfold Crumb.ofItem? at file
  split at file
  · cases file
  · rename_i other
    exact Bool.eq_false_iff.mpr other

-- What `useSelected` gives at its first turn is a file that was selected last of all, while the files that are shown
-- were there already: the picker is open and shows the reply to its last launch, and since the selection nothing was
-- selected, nothing was listed and no call began that renews what is shown. Later the call gives no choice. A folder
-- is not given, and unless the picker is closed it becomes the end of the trail and one listing is launched.
theorem choice_is_from_listing (as : List Act) (run : acts w setup as .initial = s)
    (asked : s.calls.lookup n = some (.queued .useSelected)) (turned : act w setup (.turn (.call n)) s = s') :
    (∀ newer time f, s'.history = newer ++ s.history → (time, .finished n (.chosen (some f))) ∈ newer →
      f.isFolder = false ∧ s.picker.closed = false ∧ s'.picker = s.picker ∧
      (∃ files earlier l, s.picker.dialog = .fetched files ∧ s.launches = earlier ++ [l] ∧
        replyTo w earlier l = .ok files) ∧
      ∃ before since, as = before ++ .select (some f) :: since ∧
        SelectedLast w setup (acts w setup before .initial) s f since) ∧
    (∀ later, Reached w setup s' later → ∃ newer, later.history = newer ++ s'.history ∧
      ∀ time f, (time, .finished n (.chosen (some f))) ∉ newer) ∧
    ∀ f c, s.picker.selected = some f → Crumb.ofItem? f = some c →
      ((s.now, .finished n (.chosen none)) ∈ s'.history ∨
        ∃ l due result, s'.calls.lookup n = some (.listing l due result (.chosen none))) ∧
      (s.picker.closed = false →
        s.Fetches w setup (s.picker.trail.push c) s' ∧ s'.picker.trail = s.picker.trail.push c) := by
  have path : Reached w setup .initial s := run ▸ acts_reached as
  have moves : Moves w setup (some (.call n)) s s' := turned ▸ (act_turned (path.tuned _)).moves
  obtain ⟨s₁, used, poised⟩ := useSelected_turn w setup asked
  rw [turned] at used
  have selected : s₁.picker.selected = s.picker.selected := congrArg _ poised.picker
  refine ⟨?_, ?_, ?_⟩
  · intro newer time f grown given
    obtain ⟨chosen, file, opened⟩ := turn_chooses path asked (turned ▸ grown) given
    have still : s'.picker = s.picker := by
      rw [used, selected, chosen, use, file, ← poised.picker]
      exact finish_picker
    obtain ⟨before, since, split, last⟩ := selected_last w setup as (run ▸ chosen) (run ▸ opened)
    rw [run] at last
    obtain ⟨files, shown⟩ := last.selectable.2
    have shown : s.picker.dialog = .fetched files := last.dialog.trans shown
    obtain ⟨earlier, l, listed, reply⟩ := path.agrees.shown (.ok files) (by rw [shown]; rfl)
    exact ⟨ofItem_file file, opened, still, ⟨files, earlier, l, shown, listed, reply.symm⟩, before, since, split, last⟩
  · intro later onward
    have reached : Reached w setup .initial s' := turned ▸ path.step _
    refine reached.unchosen ⟨?_, ?_⟩ onward
    · have known := path.numbered.known _ (Lookup.mem asked)
      exact Nat.lt_of_lt_of_le known (Moves.keeps (P := fun s' => s.nextCall ≤ s'.nextCall) moves
        (fun _ _ move before => Nat.le_trans before move.next) (Nat.le_refl _))
    · intro op
      rw [used]
      exact use_unqueued poised.asked _
  · intro f c chosen folder
    refine ⟨?_, ?_⟩
    · rw [used, selected, chosen, ← poised.now]
      rcases use_gives w setup poised.asked folder with ⟨_, ended⟩ | waiting
      · exact .inl ended
      · exact .inr waiting
    · intro opened
      have selects : s.picker.Selects fun _ _ => True := path.within.selects fun _ _ _ _ _ _ => trivial
      obtain ⟨files, shown, _⟩ := selects.now f chosen
      have shown : s.picker.dialog = .fetched files := shown
      have free : s.picker.isAuthorizing = false := by rw [Picker.isAuthorizing, shown]
      have serves : s.Serves w setup n (use w setup n s₁.picker.selected s₁) .select :=
        poised.chooses opened free chosen
      obtain ⟨item, same, fetches⟩ := serves
      cases chosen.symm.trans same
      rw [folder, ← used] at fetches
      exact ⟨fetches, fetches.onto⟩

def choosing : List Act := [.start .start, .turn (.call 0), .select (some syllabus), .start .useSelected]

theorem syllabus_is_chosen :
    (acts oneFile .plain choosing .initial).calls.lookup 1 = some (.queued .useSelected) ∧
    (act oneFile .plain (.turn (.call 1)) (acts oneFile .plain choosing .initial)).history =
      (0, .finished 1 (.chosen (some syllabus))) :: (acts oneFile .plain choosing .initial).history ∧
    ∃ before since, choosing = before ++ .select (some syllabus) :: since ∧
      SelectedLast oneFile .plain (acts oneFile .plain before .initial) (acts oneFile .plain choosing .initial) syllabus
        since := by
  have asked : (acts oneFile .plain choosing .initial).calls.lookup 1 = some (.queued .useSelected) := rfl
  have given := (choice_is_from_listing choosing rfl asked rfl).1 [_] 0 syllabus rfl (List.mem_singleton_self _)
  exact ⟨asked, rfl, given.2.2.2.2⟩

-- A folder is not gone into when the picker was closed after it was selected. And to ask for access while files are
-- shown is ignored: what was selected stays so, and is given.
theorem ignored_calls_change_nothing :
    (¬ ∀ w (setup : Setup) s n f c, Reached w setup .initial s → s.calls.lookup n = some (.queued .useSelected) →
      s.picker.selected = some f → Crumb.ofItem? f = some c →
      (act w setup (.turn (.call n)) s).picker.trail = s.picker.trail.push c ∧
        ∃ l, (act w setup (.turn (.call n)) s).launches = s.launches ++ [l]) ∧
    ¬ ∀ w (setup : Setup) s m rest n f, Reached w setup .initial s → s.picker.selected = some f →
      s.calls.lookup m = some (.queued .authorize) → (∀ item, .select item ∉ rest) →
      (acts w setup (.turn (.call m) :: rest) s).calls.lookup n = some (.queued .useSelected) →
      ∀ time, (time, .finished n (.chosen (some f))) ∉
        (act w setup (.turn (.call n)) (acts w setup (.turn (.call m) :: rest) s)).history := by
  constructor
  · intro all
    obtain ⟨_, l, launched⟩ := all oneFolder .plain
      (acts oneFolder .plain
        [.start .start, .turn (.call 0), .select (some homework), .cancel, .start .useSelected] .initial)
      1 homework ⟨"3", "Homework", some "/files/homework"⟩ (acts_reached _) rfl rfl rfl
    have counted := congrArg List.length launched
    cases counted
  · intro all
    apply all oneFile .plain
      (acts oneFile .plain [.start .start, .turn (.call 0), .select (some syllabus), .start .authorize] .initial)
      1 [.start .useSelected] 2 syllabus (acts_reached _) rfl rfl (by simp) rfl 0
    exact List.mem_cons_self

end Sitting
end CourseFiles
