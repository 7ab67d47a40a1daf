import CourseFiles.Proofs.Picker.Invocation
import CourseFiles.Proofs.Picker.Transitions

namespace CourseFiles

namespace Crumb

-- Nothing but the root has the root's id.
def Genuine (c : Crumb) : Prop := c.id = rootId → c = root

end Crumb

-- What is gone into when the entry is used, if it is a folder.
def Item.Enters (enters : Crumb → Prop) (i : Item) : Prop := ∀ c, Crumb.ofItem? i = some c → enters c

-- A trail through crumbs of some kind that begins at the root's id.
def Trodden (kind : Crumb → Prop) (crumbs : List Crumb) : Prop :=
  (∃ first rest, crumbs = first :: rest ∧ first.id = Crumb.rootId) ∧ ∀ c ∈ crumbs, kind c

theorem Trodden.head? {crumbs : List Crumb} (trodden : Trodden Crumb.Genuine crumbs) : crumbs.head? = some .root := by
  obtain ⟨⟨first, rest, rfl, top⟩, all⟩ := trodden
  exact congrArg some (all first List.mem_cons_self top)

namespace Trail

variable {kind : Crumb → Prop} {t : Trail} {c : Crumb}

theorem push_trodden (trodden : Trodden kind t.crumbs) (fits : kind c) : Trodden kind (t.push c).crumbs := by
  obtain ⟨⟨first, rest, split, top⟩, all⟩ := trodden
  constructor
  · by_cases back : first.id = c.id
    · refine ⟨c, [], ?_, back ▸ top⟩
      simp [push, split, back]
    · refine ⟨first, rest.takeWhile (·.id != c.id) ++ [c], ?_, top⟩
      simp [push, split, back]
  · intro d here
    rcases List.mem_append.mp here with before | new
    · exact all d ((List.takeWhile_sublist _).subset before)
    · exact List.mem_singleton.mp new ▸ fits

-- Going to the root from a trail that begins there leaves nothing else.
theorem push_root (first : t.crumbs.head? = some .root) : t.push .root = .root := by
  obtain ⟨rest, split⟩ := List.head?_eq_some_iff.mp first
  simp [push, split, root]

end Trail

namespace Picker

structure Treads (kind : Crumb → Prop) (p : Picker) : Prop where
  trail : Trodden kind p.trail.crumbs
  shown : ∀ x ∈ p.shown, Trodden kind x.crumbs
  selected : ∀ item, p.selected = some item → item.Enters kind

variable {kind : Crumb → Prop} {p q : Picker} {default : String}

theorem initial_treads (root : kind .root) : Picker.initial.Treads kind := by
  have begins : Trodden kind [Crumb.root] := ⟨⟨.root, [], rfl, rfl⟩, by simpa using root⟩
  refine ⟨begins, ?_, fun item chosen => by cases chosen⟩
  intro x here
  cases List.mem_singleton.mp here
  exact begins

theorem Treads.publish (treads : p.Treads kind) (trail : Trodden kind q.trail.crumbs)
    (published : q.published = q.snapshot :: p.published)
    (selected : ∀ item, q.selected = some item → item.Enters kind) : q.Treads kind := by
  refine ⟨trail, ?_, selected⟩
  intro x here
  rw [Picker.shown, published] at here
  rcases List.mem_cons.mp here with rfl | old
  · exact trail
  · exact treads.shown x old

theorem Treads.launch (treads : p.Treads kind) (launches : Launches default p q l)
    (trail : Trodden kind q.trail.crumbs) : q.Treads kind := by
  refine treads.publish trail launches.published ?_
  intro item chosen
  cases launches.unselected.symm.trans chosen

theorem Treads.arrive (treads : p.Treads kind) : (p.arrive l result).Treads kind := by
  unfold Picker.arrive
  split
  · exact treads.publish treads.trail rfl treads.selected
  · exact treads

theorem Treads.failed (treads : p.Treads kind) : (p.failed last).Treads kind := by
  unfold Picker.failed
  split
  · exact treads
  · exact treads.publish treads.trail rfl treads.selected

theorem Treads.select (treads : p.Treads kind) (offered : ∀ i, item = some i → i.Enters kind) :
    (p.select item).Treads kind := by
  unfold Picker.select
  split
  · exact treads
  · exact treads.publish treads.trail rfl offered

theorem relist_trail (asked : relist? default f p = some (q, l)) : ∃ p', f p = some p' ∧ q.trail = p'.trail := by
  unfold relist? at asked
  split at asked
  · cases asked
  · obtain ⟨changed, change, launched⟩ := Option.map_eq_some_iff.mp asked
    cases launched
    exact ⟨changed, change, rfl⟩

theorem into_trail (changed : into c p = some q) : q.trail = p.trail.push c := by
  obtain ⟨p', free, rfl⟩ := Option.map_eq_some_iff.mp changed
  unfold unlessAuthorizing at free
  split at free <;> cases free
  rfl

end Picker

namespace Sitting

-- What is gone into, now and when a call that has not begun does so, is of some kind.
structure Treads (kind : Crumb → Prop) (s : Sitting) : Prop where
  picker : s.picker.Treads kind
  goes : ∀ n c, (n, .queued (.goTo c)) ∈ s.calls → kind c
  uses : ∀ n item, (n, .queued (.use (some item))) ∈ s.calls → item.Enters kind

variable {w : Surroundings} {setup : Setup} {s s' : Sitting} {t : Task} {kind : Crumb → Prop}
  {allowed : Sitting → Act → Prop}

theorem Treads.moved (treads : s.Treads kind) (picker : s'.picker.Treads kind)
    (calls : ∀ c ∈ s'.calls, c ∈ s.calls ∨ ∀ op, c.2 ≠ .queued op) : s'.Treads kind := by
  constructor
  · exact picker
  · intro n c here
    exact treads.goes n c ((calls _ here).resolve_right fun begun => begun _ rfl)
  · intro n item here
    exact treads.uses n item ((calls _ here).resolve_right fun begun => begun _ rfl)

theorem Uses.enters (uses : s.Uses n (some item)) (treads : s.Treads kind) : item.Enters kind := by
  rcases uses with asked | ⟨_, chosen⟩
  · exact treads.uses n item (Lookup.mem asked)
  · exact treads.picker.selected item chosen

theorem Change.treads (change : s.Change n after f) (treads : s.Treads kind) (root : kind .root)
    (changed : f s.picker = some q) : Trodden kind q.trail.crumbs := by
  have begins : Trodden kind Trail.root.crumbs := (Picker.initial_treads root).trail
  cases change with
  | again => cases changed; exact treads.picker.trail
  | unlessAuthorizing =>
    unfold Picker.unlessAuthorizing at changed
    split at changed <;> cases changed
    exact treads.picker.trail
  | fromRoot => cases changed; exact begins
  | into asked =>
    rw [Picker.into_trail changed]
    exact Trail.push_trodden treads.picker.trail (treads.goes _ _ (Lookup.mem asked))
  | enter uses folder =>
    rw [Picker.into_trail changed]
    exact Trail.push_trodden treads.picker.trail (uses.enters treads _ folder)
  | fromRootAt =>
    unfold Picker.fromRootAt at changed
    split at changed <;> cases changed
    exact begins

theorem Move.treads (move : Move w setup (some t) s s') (root : kind .root) (treads : s.Treads kind) :
    s'.Treads kind := by
  have beside (beside : Beside s s') : s'.Treads kind :=
    treads.moved (beside.picker ▸ treads.picker) fun c here => .inl (beside.calls ▸ here)
  have ended {n : Nat} {r : CallResult} {s₁ : Sitting} (picker : s₁.picker.Treads kind) (calls : s₁.calls = s.calls) :
      (s₁.endCall n r).Treads kind :=
    treads.moved picker fun c here => .inl (calls ▸ (mem_removeCall here).1)
  have set {n : Nat} {p : Pending} {s₁ : Sitting} (picker : s₁.picker.Treads kind) (calls : s₁.calls = s.calls)
      (begun : ∀ op, p ≠ .queued op) : (s₁.setCall n p).Treads kind := by
    refine treads.moved picker fun c here => ?_
    rcases mem_setCall here with rfl | ⟨old, _⟩
    · exact .inr begun
    · exact .inl (calls ▸ old)
  have launched {n : Nat} {after : CallResult} {f : Picker → Option Picker} {p : Picker} {l : Launch}
      (change : s.Change n after f) (asked : s.picker.relist? setup.path f = some (p, l)) : p.Treads kind := by
    obtain ⟨changed, change', same⟩ := Picker.relist_trail asked
    refine treads.picker.launch (Picker.relist_launches change.keeps asked) ?_
    rw [same]
    exact change.treads treads root change'
  cases move with
  | conclude =>
    cases t with
    | call n => exact ended treads.picker rfl
    | popup i => exact treads.moved treads.picker fun c here => .inl here
  | begin => exact beside beginSession_beside
  | complete => exact beside completeSession_beside
  | cancel => exact beside cancelSession_beside
  | await | join | attend => exact set treads.picker rfl (by simp)
  | authorize =>
    have asked : s.picker.authorize.Treads kind :=
      treads.picker.publish treads.picker.trail rfl fun item chosen => by cases chosen
    exact treads.moved asked fun c here => .inl here
  | fail => exact ended treads.picker.failed rfl
  | launch change asked => exact set (launched change asked) rfl (by simp)
  | list change asked => exact ended (launched change asked).arrive rfl
  | arrive => exact ended treads.picker.arrive rfl
  | done => exact ended treads.picker rfl
  | _ => exact treads.moved treads.picker fun c here => .inl here

theorem Outside.treads (outside : Outside s a s') (goes : ∀ c, a = .start (.goTo c) → kind c)
    (offered : ∀ item, a = .start (.use (some item)) ∨ a = .select (some item) → item.Enters kind)
    (treads : s.Treads kind) : s'.Treads kind := by
  cases outside with
  | aside aside => exact treads.moved (aside.picker ▸ treads.picker) fun c here => .inl (aside.calls ▸ here)
  | start =>
    refine ⟨treads.picker, ?_, ?_⟩
    · intro n c here
      rcases List.mem_append.mp here with old | new
      · exact treads.goes n c old
      · cases List.mem_singleton.mp new
        exact goes c rfl
    · intro n item here
      rcases List.mem_append.mp here with old | new
      · exact treads.uses n item old
      · cases List.mem_singleton.mp new
        exact offered item (.inl rfl)
  | drop aside =>
    exact treads.moved (aside.picker ▸ treads.picker) fun c here => .inl (mem_removeCall (aside.calls ▸ here)).1
  | @select item =>
    have selected : (s.picker.select item).Treads kind :=
      treads.picker.select fun i chosen => offered i (.inr (by rw [chosen]))
    exact treads.moved selected fun c here => .inl here
  | close aside =>
    have closed : s.picker.close.Treads kind := ⟨treads.picker.trail, treads.picker.shown, treads.picker.selected⟩
    exact treads.moved (aside.picker ▸ closed) fun c here => .inl (aside.calls ▸ here)

theorem Within.treads (path : Within allowed w setup .initial s) (root : kind .root)
    (goes : ∀ s c, allowed s (.start (.goTo c)) → s.Treads kind → kind c)
    (offered : ∀ s item, allowed s (.start (.use (some item))) ∨ allowed s (.select (some item)) → item.Enters kind) :
    s.Treads kind := by
  have initial : Sitting.initial.Treads kind := by
    refine ⟨Picker.initial_treads root, ?_, ?_⟩
    · intro n c here
      cases here
    · intro n item here
      cases here
  refine path.keeps initial_tuned initial ?_ ?_
  · intro t s₁ s₂ _ _ moves
    exact Moves.keeps moves fun _ _ move => move.treads root
  · intro a s₁ s₂ _ fits outside treads
    refine outside.treads ?_ ?_ treads
    · rintro c rfl
      exact goes s₁ c fits treads
    · rintro item (rfl | rfl)
      · exact offered s₁ item (.inl fits)
      · exact offered s₁ item (.inr fits)

-- Crumbs are taken from the snapshots that were shown. Which entries are selected and used is left to the case.
def Browses (offers : Sitting → Item → Prop) (s : Sitting) : Act → Prop
  | .start (.goTo c) => ∃ x ∈ s.picker.shown, c ∈ x.crumbs
  | .start (.use (some item)) => offers s item
  | .select (some item) => offers s item
  | _ => True

-- What comes first on the trail always has the root's id. Unless another folder that has it was gone into, that is the
-- root itself, and going there lists the default path.
theorem root_comes_first (path : Reached w setup .initial s) :
    (∀ x ∈ s.picker.shown, ∃ c, x.crumbs.head? = some c ∧ c.id = Crumb.rootId) ∧
    (Within (Browses fun _ item => item.Enters Crumb.Genuine) w setup .initial s →
      s.picker.trail.crumbs.head? = some .root ∧ (∀ x ∈ s.picker.shown, x.crumbs.head? = some .root) ∧
      (s.picker.closed = false → s.picker.isAuthorizing = false →
        s.Fetches w setup .root (s.invoke w setup (.goTo .root)) ∧
        ∃ l, (s.invoke w setup (.goTo .root)).launches = s.launches ++ [l] ∧ l.path = setup.path)) := by
  constructor
  · intro x here
    have treads : s.Treads fun _ => True :=
      path.within.treads trivial (fun _ _ _ _ => trivial) fun _ _ _ _ _ => trivial
    obtain ⟨⟨first, rest, split, top⟩, _⟩ := treads.picker.shown x here
    exact ⟨first, by rw [split]; rfl, top⟩
  · intro browses
    have treads : s.Treads Crumb.Genuine := by
      refine browses.treads (fun _ => rfl) ?_ ?_
      · intro s c seen treads
        obtain ⟨x, here, there⟩ := seen
        exact (treads.picker.shown x here).2 c there
      · intro s item fits
        exact fits.elim id id
    have first : s.picker.trail.crumbs.head? = some .root := Trodden.head? treads.picker.trail
    refine ⟨first, fun x here => Trodden.head? (treads.picker.shown x here), ?_⟩
    intro opened free
    obtain ⟨s₁, invoked, poised⟩ := path.numbered.invoke w setup (.goTo .root)
    have passes : Picker.into .root s.picker = some { s.picker with trail := .root } := by
      rw [Picker.into, Picker.unlessAuthorizing, free]
      exact congrArg (fun trail => some { s.picker with trail }) (Trail.push_root first)
    have fetches : s.Fetches w setup .root (s.invoke w setup (.goTo .root)) := by
      rw [invoked]
      exact poised.fetches opened (.into poised.asked) passes
    obtain ⟨p, l, delay, result, launches, onto, _, _, listed, _⟩ := id fetches
    exact ⟨fetches, l, listed, launches.path.trans (by rw [onto]; rfl)⟩

-- The one folder was gone into; it is being listed.
def homeworkEntered : Sitting :=
  acts oneFolder .plain [.start .start, .turn (.call 0), .start (.use (some homework)), .turn (.call 1)] .initial

theorem homeworkEntered_leads_back : homeworkEntered.picker.trail.crumbs.map (·.name) = ["Files", "Homework"] ∧
    ∃ l, (homeworkEntered.invoke oneFolder .plain (.goTo .root)).launches = homeworkEntered.launches ++ [l] ∧
      l.path = "/files" := by
  have enters : homework.Enters Crumb.Genuine := by
    intro c folder same
    cases folder
    exact absurd same (by decide)
  have browses : Within (Browses fun _ item => item.Enters Crumb.Genuine) oneFolder .plain .initial homeworkEntered :=
    acts_within _ ⟨trivial, trivial, enters, trivial, trivial⟩
  exact ⟨rfl, (((root_comes_first (acts_reached _)).2 browses).2.2 rfl rfl).2⟩

-- Entries are taken from the listings that were shown.
def Offers (s : Sitting) (item : Item) : Prop := ∃ x ∈ s.picker.shown, ∃ files, x.dialog = .fetched files ∧ item ∈ files

def namesake : Item := .folder (.text "__root__") "Namesake" "/files/namesake"

def oneNamesake : Surroundings := { Surroundings.calm with listing := fun _ _ => (0, .ok [namesake]) }

def namesakeEntered : Sitting :=
  acts oneNamesake .plain [.start .start, .turn (.call 0), .start (.use (some namesake)), .turn (.call 1)] .initial

-- A folder that bears the root's id takes the place of the root when it is gone into.
theorem namesake_replaces_root : ¬ ∀ w (setup : Setup) s, Within (Browses Offers) w setup .initial s →
    s.picker.trail.crumbs.head? = some .root := by
  intro all
  have browses : Within (Browses Offers) oneNamesake .plain .initial namesakeEntered := by
    refine acts_within _ ⟨trivial, trivial, ?_, trivial, trivial⟩
    exact ⟨_, List.mem_cons_self, [namesake], rfl, List.mem_cons_self⟩
  have first : namesakeEntered.picker.trail.crumbs.head? = some ⟨"__root__", "Namesake", some "/files/namesake"⟩ := rfl
  exact absurd (first.symm.trans (all _ _ _ browses)) (by decide)

end Sitting
end CourseFiles
