import CourseFiles.Proofs.Sitting.Runs

namespace CourseFiles

-- The reply that a dialog shows.
def Dialog.result? : Dialog → Option (Except ListingError Listing)
  | .fetched files => some (.ok files)
  | .error e => some (.error e)
  | _ => none

namespace Picker

theorem dialogOf_result (shown : (dialogOf result).result? = some r) : r = result := by
  unfold dialogOf at shown
  split at shown
  · cases shown; rfl
  · split at shown
    · cases shown
    · cases shown; rfl

theorem isAuthorizing_dialog {p : Picker} (asking : p.isAuthorizing = true) : p.dialog = .authorizing := by
  unfold isAuthorizing at asking
  split at asking
  · assumption
  · cases asking

-- What a launch is, whatever change came before it.
structure Launches (default : String) (p q : Picker) (l : Launch) : Prop where
  opened : p.closed = false
  later : q.generation = p.generation + 1
  own : l.generation = q.generation
  path : l.path = q.trail.path default
  fetching : q.dialog = .fetching
  unselected : q.selected = none
  published : q.published = q.snapshot :: p.published
  stays : q.closed = false
  attempted : q.attempted = p.attempted

-- A change before a launch is one of the trail.
theorem relist_launches {default : String} (keeps : ∀ p q, f p = some q → ∃ trail, q = { p with trail })
    (asked : relist? default f p = some (q, l)) : Launches default p q l := by
  unfold relist? at asked
  split at asked
  · cases asked
  · rename_i opened
    obtain ⟨changed, change, launched⟩ := Option.map_eq_some_iff.mp asked
    obtain ⟨trail, rfl⟩ := keeps p changed change
    cases launched
    have opened : p.closed = false := Bool.eq_false_iff.mpr opened
    exact ⟨opened, rfl, rfl, rfl, rfl, rfl, rfl, opened, rfl⟩

end Picker

namespace Sitting

variable {w : Surroundings} {setup : Setup} {s s' : Sitting} {v : Option Task} {n : Nat}

theorem Change.keeps (change : Change s n after f) (p q : Picker) (changed : f p = some q) :
    ∃ trail, q = { p with trail } := by
  have opened {p q : Picker} (changed : p.unlessAuthorizing = some q) : q = p := by
    unfold Picker.unlessAuthorizing at changed
    split at changed <;> cases changed
    rfl
  cases change with
  | again => cases changed; exact ⟨_, rfl⟩
  | unlessAuthorizing => exact ⟨_, opened changed⟩
  | fromRoot => cases changed; exact ⟨_, rfl⟩
  | into | enter =>
    obtain ⟨p', free, pushed⟩ := Option.map_eq_some_iff.mp changed
    cases opened free
    cases pushed
    exact ⟨_, rfl⟩
  | fromRootAt =>
    unfold Picker.fromRootAt at changed
    split at changed <;> cases changed
    exact ⟨_, rfl⟩

-- The reply to a launch, given those before it.
def replyTo (w : Surroundings) (earlier : List Launch) (l : Launch) : Except ListingError Listing :=
  (w.listing (earlier.map (·.path)) l.path).2

structure Agrees (w : Surroundings) (setup : Setup) (s : Sitting) : Prop where
  ordered : s.launches.Pairwise (·.generation < ·.generation)
  bounded : ∀ l ∈ s.launches, l.generation ≤ s.picker.generation
  trail : ∀ earlier l, s.launches = earlier ++ [l] → l.path = s.picker.trail.path setup.path
  shown : ∀ r, s.picker.dialog.result? = some r →
    ∃ earlier l, s.launches = earlier ++ [l] ∧ r = replyTo w earlier l
  pending : ∀ n l arrival result after, (n, .listing l arrival result after) ∈ s.calls →
    ∃ earlier later, s.launches = earlier ++ l :: later ∧ result = replyTo w earlier l
  fetching : ∀ n l arrival result after, (n, .listing l arrival result after) ∈ s.calls →
    l.generation = s.picker.generation → s.picker.dialog = .fetching
  alone : ∀ n m l arrival result after l' arrival' result' after', (n, .listing l arrival result after) ∈ s.calls →
    (m, .listing l' arrival' result' after') ∈ s.calls → l.generation = l'.generation → n = m
  asking : ∀ n generation i, (n, .authorizing generation i) ∈ s.calls →
    generation ≤ s.picker.generation ∧ (generation = s.picker.generation → s.picker.dialog = .authorizing)
  closed : s.picker.closed = true → ∀ l ∈ s.launches, l.generation < s.picker.generation

theorem initial_agrees : Agrees w setup .initial := by
  constructor
  · exact .nil
  · intro l here
    cases here
  · intro earlier l listed
    exact absurd listed.symm (by simp [initial])
  · intro r shown
    cases shown
  · intro n l arrival result after here
    cases here
  · intro n l arrival result after here
    cases here
  · intro n m l arrival result after l' arrival' result' after' here
    cases here
  · intro n generation i here
    cases here
  · intro closed
    cases closed

-- Only the last launch has the generation of the picker.
theorem Agrees.last (agrees : Agrees w setup s) (here : s.launches = earlier ++ l :: later)
    (current : l.generation = s.picker.generation) : later = [] := by
  cases later with
  | nil => rfl
  | cons next rest =>
    have ordered := agrees.ordered
    rw [here, List.pairwise_append, List.pairwise_cons] at ordered
    have before : l.generation < next.generation := ordered.2.1.1 next List.mem_cons_self
    have bounded := agrees.bounded next (by rw [here]; simp)
    omega

-- What neither lists nor waits for a session may come and go.
def Idles : Pending → Prop
  | .listing .. => False
  | .authorizing .. => False
  | _ => True

theorem Agrees.kept (agrees : Agrees w setup s) (picker : s'.picker = s.picker) (launches : s'.launches = s.launches)
    (calls : ∀ c ∈ s'.calls, c ∈ s.calls ∨ Idles c.2) : Agrees w setup s' := by
  have listing : ∀ n l arrival result after, (n, .listing l arrival result after) ∈ s'.calls →
      (n, .listing l arrival result after) ∈ s.calls :=
    fun _ _ _ _ _ here => (calls _ here).resolve_right id
  constructor
  · exact launches ▸ agrees.ordered
  · rw [picker, launches]; exact agrees.bounded
  · rw [picker, launches]; exact agrees.trail
  · rw [picker, launches]; exact agrees.shown
  · rw [launches]; exact fun n l arrival result after here => agrees.pending _ _ _ _ _ (listing _ _ _ _ _ here)
  · rw [picker]; exact fun n l arrival result after here => agrees.fetching _ _ _ _ _ (listing _ _ _ _ _ here)
  · exact fun n m l arrival result after l' arrival' result' after' here there =>
      agrees.alone _ _ _ _ _ _ _ _ _ _ (listing _ _ _ _ _ here) (listing _ _ _ _ _ there)
  · rw [picker]; exact fun n generation i here => agrees.asking _ _ _ ((calls _ here).resolve_right id)
  · rw [picker, launches]; exact agrees.closed

theorem Agrees.older (agrees : Agrees w setup s) (here : (m, .listing l' arrival result after) ∈ s.calls) :
    l'.generation ≤ s.picker.generation := by
  obtain ⟨earlier, later, listed, _⟩ := agrees.pending _ _ _ _ _ here
  exact agrees.bounded l' (by rw [listed]; simp)

theorem Agrees.launched (agrees : Agrees w setup s) (launches : Picker.Launches setup.path s.picker p l) :
    Agrees w setup (s.launched setup p l) := by
  have later := launches.later
  have own := launches.own
  constructor
  · refine List.pairwise_append.mpr ⟨agrees.ordered, .cons (by simp) .nil, ?_⟩
    intro l' here k new
    cases List.mem_singleton.mp new
    have bounded := agrees.bounded l' here
    omega
  · intro l' here
    rcases List.mem_append.mp here with old | new
    · have bounded : l'.generation ≤ s.picker.generation := agrees.bounded l' old
      exact (show l'.generation ≤ p.generation by omega)
    · cases List.mem_singleton.mp new
      exact Nat.le_of_eq own
  · intro earlier k listed
    obtain ⟨_, same⟩ := List.append_inj' (listed : s.launches ++ [l] = earlier ++ [k]) rfl
    cases same
    exact launches.path
  · intro r shown
    have fetching : p.dialog.result? = some r := shown
    rw [launches.fetching] at fetching
    cases fetching
  · intro m l' arrival result after here
    obtain ⟨earlier, later, listed, reply⟩ := agrees.pending m l' arrival result after here
    refine ⟨earlier, later ++ [l], ?_, reply⟩
    rw [show (s.launched setup p l).launches = s.launches ++ [l] from rfl, listed, List.append_assoc,
      List.cons_append]
  · intro m l' arrival result after here current
    exact launches.fetching
  · exact agrees.alone
  · intro m generation i here
    obtain ⟨bounded, _⟩ := agrees.asking m generation i here
    have earlier : generation < p.generation := by omega
    exact ⟨Nat.le_of_lt earlier, fun same => absurd same (Nat.ne_of_lt earlier)⟩
  · intro closed
    cases closed.symm.trans launches.stays

-- The last launch is waited for.
theorem Agrees.listing (agrees : Agrees w setup s) (last : s.launches = earlier ++ [l])
    (reply : result = replyTo w earlier l) (fetching : s.picker.dialog = .fetching)
    (fresh : ∀ m l' arrival result after, (m, .listing l' arrival result after) ∈ s.calls →
      l'.generation < l.generation) :
    Agrees w setup (s.setCall n (.listing l arrival result after)) := by
  have old {m : Nat} {p : Pending} (here : (m, p) ∈ (s.setCall n (.listing l arrival result after)).calls) :
      (m = n ∧ p = .listing l arrival result after) ∨ (m, p) ∈ s.calls :=
    (mem_setCall here).imp Prod.mk.inj And.left
  refine ⟨agrees.ordered, agrees.bounded, agrees.trail, agrees.shown, ?_, fun _ _ _ _ _ _ _ => fetching, ?_, ?_,
    agrees.closed⟩
  · intro m l' arrival' result' after' here
    rcases old here with ⟨_, new⟩ | before
    · cases new
      exact ⟨earlier, [], last, reply⟩
    · exact agrees.pending _ _ _ _ _ before
  · intro m k l₁ arrival₁ result₁ after₁ l₂ arrival₂ result₂ after₂ here there same
    rcases old here with ⟨mine, new⟩ | before <;> rcases old there with ⟨mine', new'⟩ | before'
    · exact mine.trans mine'.symm
    · cases new
      exact absurd same (Nat.ne_of_gt (fresh _ _ _ _ _ before'))
    · cases new'
      exact absurd same (Nat.ne_of_lt (fresh _ _ _ _ _ before))
    · exact agrees.alone _ _ _ _ _ _ _ _ _ _ before before' same
  · intro m generation i here
    rcases old here with ⟨_, new⟩ | before
    · cases new
    · exact agrees.asking _ _ _ before

-- A reply arrives: it is shown, or was superseded.
theorem Agrees.arrive (agrees : Agrees w setup s) (here : s.launches = earlier ++ l :: later)
    (reply : result = replyTo w earlier l)
    (fetching : l.generation = s.picker.generation → s.picker.dialog = .fetching)
    (alone : ∀ m l' arrival result after, (m, .listing l' arrival result after) ∈ s.calls →
      l'.generation = l.generation → m = n) :
    Agrees w setup (endCall n r { s with picker := s.picker.arrive l result }) := by
  by_cases current : s.picker.generation = l.generation
  · have last := agrees.last here current.symm
    subst last
    rw [Picker.arrive, if_pos current]
    constructor
    · exact agrees.ordered
    · exact agrees.bounded
    · exact agrees.trail
    · intro r shown
      exact ⟨earlier, l, here, (Picker.dialogOf_result shown).trans reply⟩
    · exact fun m l' arrival result after there => agrees.pending _ _ _ _ _ (mem_removeCall there).1
    · intro m l' arrival result after there same
      obtain ⟨before, other⟩ := mem_removeCall there
      exact absurd (alone _ _ _ _ _ before ((same : l'.generation = s.picker.generation).trans current)) other
    · exact fun m k l₁ arrival₁ result₁ after₁ l₂ arrival₂ result₂ after₂ there there' =>
        agrees.alone _ _ _ _ _ _ _ _ _ _ (mem_removeCall there).1 (mem_removeCall there').1
    · intro m generation i there
      obtain ⟨bounded, authorizing⟩ := agrees.asking _ _ _ (mem_removeCall there).1
      refine ⟨bounded, ?_⟩
      intro same
      cases (fetching current.symm).symm.trans (authorizing same)
    · exact agrees.closed
  · rw [Picker.arrive, if_neg current]
    exact agrees.kept rfl rfl fun c there => .inl (mem_removeCall there).1

-- A new generation begins, and no listing: whatever was listed or asked for before is superseded.
theorem Agrees.supersede (agrees : Agrees w setup s) {p : Picker} (later : p.generation = s.picker.generation + 1)
    (trail : p.trail = s.picker.trail) (shown : ∀ r, p.dialog.result? = some r → s.picker.dialog.result? = some r) :
    Agrees w setup { s with picker := p } := by
  constructor
  · exact agrees.ordered
  · intro l here
    have older := agrees.bounded l here
    exact (show l.generation ≤ p.generation by omega)
  · intro earlier l listed
    rw [trail]
    exact agrees.trail earlier l listed
  · intro r here
    exact agrees.shown r (shown r here)
  · exact agrees.pending
  · intro m l arrival result after here current
    have older := agrees.older here
    have current : l.generation = p.generation := current
    omega
  · exact agrees.alone
  · intro m generation i here
    obtain ⟨older, _⟩ := agrees.asking m generation i here
    have earlier : generation < p.generation := by omega
    exact ⟨Nat.le_of_lt earlier, fun same => absurd same (Nat.ne_of_lt earlier)⟩
  · intro _ l here
    have older := agrees.bounded l here
    exact (show l.generation < p.generation by omega)

theorem Agrees.authorize (agrees : Agrees w setup s) : Agrees w setup { s with picker := s.picker.authorize } :=
  agrees.supersede rfl rfl fun _ shown => by cases shown

theorem Agrees.close (agrees : Agrees w setup s) : Agrees w setup { s with picker := s.picker.close } :=
  agrees.supersede rfl rfl fun _ => id

-- A session failed: the access that was asked for last is still asked for.
theorem Agrees.failed (agrees : Agrees w setup s)
    (asked : generation = s.picker.generation → s.picker.dialog = .authorizing) :
    Agrees w setup { s with picker := s.picker.failed generation } := by
  unfold Picker.failed
  split
  · exact agrees
  · rename_i current
    have current : s.picker.closed = false ∧ s.picker.generation = generation := by simpa using current
    constructor
    · exact agrees.ordered
    · exact agrees.bounded
    · exact agrees.trail
    · intro r shown
      cases shown
    · exact agrees.pending
    · intro m l arrival result after here same
      cases (agrees.fetching m l arrival result after here same).symm.trans (asked current.2.symm)
    · exact agrees.alone
    · intro m generation i here
      exact ⟨(agrees.asking m generation i here).1, fun _ => rfl⟩
    · intro closed
      cases current.1.symm.trans closed

-- Whoever fails last still finds the dialog as the request for access left it.
theorem Agrees.fails (agrees : Agrees w setup s) (why : s.Fails n generation)
    (current : generation = s.picker.generation) : s.picker.dialog = .authorizing := by
  cases why with
  | session waiting _ _ => exact (agrees.asking _ _ _ (Lookup.mem waiting)).2 current
  | opening asking _ => exact Picker.isAuthorizing_dialog asking

theorem Agrees.select (agrees : Agrees w setup s) : Agrees w setup (s.select item) := by
  unfold Sitting.select Picker.select
  split
  · exact agrees
  · exact ⟨agrees.ordered, agrees.bounded, agrees.trail, agrees.shown, agrees.pending, agrees.fetching,
      agrees.alone, agrees.asking, agrees.closed⟩

theorem Agrees.attend (agrees : Agrees w setup s) (asking : s.picker.isAuthorizing = true) :
    Agrees w setup (s.setCall n (.authorizing s.picker.generation i)) := by
  have listing {m : Nat} {l : Launch} {arrival : Nat} {result : Except ListingError Listing} {after : CallResult}
      (here : (m, .listing l arrival result after) ∈ (s.setCall n (.authorizing s.picker.generation i)).calls) :
      (m, .listing l arrival result after) ∈ s.calls := by
    rcases mem_setCall here with new | ⟨old, _⟩
    · cases new
    · exact old
  refine ⟨agrees.ordered, agrees.bounded, agrees.trail, agrees.shown,
    fun m l arrival result after here => agrees.pending _ _ _ _ _ (listing here),
    fun m l arrival result after here => agrees.fetching _ _ _ _ _ (listing here),
    fun m k l₁ arrival₁ result₁ after₁ l₂ arrival₂ result₂ after₂ here there =>
      agrees.alone _ _ _ _ _ _ _ _ _ _ (listing here) (listing there),
    ?_, agrees.closed⟩
  intro m generation j here
  rcases mem_setCall here with new | ⟨old, _⟩
  · cases new
    exact ⟨Nat.le_refl _, fun _ => Picker.isAuthorizing_dialog asking⟩
  · exact agrees.asking _ _ _ old

theorem Agrees.report (agrees : Agrees w setup s) : Agrees w setup (report t o s) := by
  unfold Sitting.report
  split
  · exact agrees.kept rfl rfl fun c here => .inl (mem_removeCall here).1
  · exact agrees

theorem Move.agrees (move : Move w setup v s s') (agrees : Agrees w setup s) : Agrees w setup s' := by
  have same (picker : s'.picker = s.picker) (launches : s'.launches = s.launches) (calls : s'.calls = s.calls) :
      Agrees w setup s' :=
    agrees.kept picker launches fun c here => .inl (calls ▸ here)
  have beside (beside : Beside s s') : Agrees w setup s' := same beside.picker beside.launches beside.calls
  cases move with
  | conclude =>
    refine Agrees.report (agrees.kept ?_ ?_ fun c here => .inl here)
    all_goals rfl
  | begin => exact beside beginSession_beside
  | complete => exact beside completeSession_beside
  | cancel => exact beside cancelSession_beside
  | await | join =>
    refine agrees.kept rfl rfl ?_
    intro c here
    rcases mem_setCall here with new | ⟨old, _⟩
    · exact .inr (new ▸ trivial)
    · exact .inl old
  | attend live asking => exact agrees.attend asking
  | authorize => exact agrees.authorize
  | fail why =>
    exact (agrees.failed (agrees.fails why)).kept rfl rfl fun c here => .inl (mem_removeCall here).1
  | launch change asked reply slow =>
    have launches := Picker.relist_launches change.keeps asked
    have later := launches.later
    have own := launches.own
    apply (agrees.launched launches).listing rfl (by rw [replyTo, reply]) launches.fetching
    intro m l' arrival result after here
    have older := agrees.older here
    omega
  | list change asked reply =>
    have launches := Picker.relist_launches change.keeps asked
    have later := launches.later
    have own := launches.own
    apply (agrees.launched launches).arrive rfl (by rw [replyTo, reply]) (fun _ => launches.fetching)
    intro m l' arrival result after here same
    have older := agrees.older here
    omega
  | arrive waiting time =>
    have here := Lookup.mem waiting
    obtain ⟨earlier, later, listed, reply⟩ := agrees.pending _ _ _ _ _ here
    exact agrees.arrive listed reply (agrees.fetching _ _ _ _ _ here)
      fun m l' arrival result after there same => agrees.alone _ _ _ _ _ _ _ _ _ _ there here same
  | done | drop => exact agrees.kept rfl rfl fun c here => .inl (mem_removeCall here).1
  | start =>
    refine agrees.kept rfl rfl ?_
    intro c here
    rcases List.mem_append.mp here with old | new
    · exact .inl old
    · cases List.mem_singleton.mp new
      exact .inr trivial
  | select => exact agrees.select
  | close => exact agrees.close
  | _ => exact same rfl rfl rfl

theorem Reached.agrees (path : Reached w setup .initial s) : Agrees w setup s :=
  path.keeps initial_tuned initial_agrees (fun _ _ _ move => move.agrees) fun _ _ agrees =>
    agrees.kept rfl rfl fun _ here => .inl here

-- Another listing was launched since, access was asked for, or the picker was closed.
def Superseded (s : Sitting) (l : Launch) : Prop :=
  s.launches.getLast? ≠ some l ∨ s.picker.dialog = .authorizing ∨ s.picker.closed = true

theorem Agrees.superseded (agrees : Agrees w setup s) (here : (n, .listing l arrival result after) ∈ s.calls)
    (superseded : s.Superseded l) : s.picker.generation ≠ l.generation := by
  intro current
  obtain ⟨earlier, later, listed, _⟩ := agrees.pending _ _ _ _ _ here
  rcases superseded with replaced | asking | closed
  · rw [agrees.last listed current.symm] at listed
    exact replaced (by rw [listed]; simp)
  · cases (agrees.fetching _ _ _ _ _ here current.symm).symm.trans asking
  · have earlier := agrees.closed closed l (by rw [listed]; simp)
    omega

-- What is shown is the reply to the last launch, and that was for the folder at the end of the trail; the reply
-- to a launch that was superseded changes nothing, whenever it arrives.
theorem listing_agrees_with_trail (path : Reached w setup .initial s) :
    (∀ r, s.picker.dialog.result? = some r → ∃ earlier l, s.launches = earlier ++ [l] ∧
      r = replyTo w earlier l ∧ l.path = s.picker.trail.path setup.path) ∧
    ∀ n l arrival result after, s.calls.lookup n = some (.listing l arrival result after) →
      (∃ earlier later, s.launches = earlier ++ l :: later ∧ result = replyTo w earlier l) ∧
      (s.Superseded l → (act w setup (.turn (.call n)) s).picker = s.picker) := by
  have agrees := path.agrees
  refine ⟨?_, fun n l arrival result after waiting => ⟨?_, ?_⟩⟩
  · intro r shown
    obtain ⟨earlier, l, listed, reply⟩ := agrees.shown r shown
    exact ⟨earlier, l, listed, reply, agrees.trail earlier l listed⟩
  · exact agrees.pending _ _ _ _ _ (Lookup.mem waiting)
  · intro superseded
    have stale := agrees.superseded (Lookup.mem waiting) superseded
    simp only [act, turn, callTurn, waiting]
    split
    · rw [finish, release_beside.picker]
      exact if_neg stale
    · rfl

-- The first listing is slow; the second has been shown when its reply arrives.
def overtaken : Sitting :=
  acts .calm .plain [.start .start, .turn (.call 0), .start .start, .turn (.call 1), .elapse 5] .initial

theorem overtaken_reply_changes_nothing : overtaken.picker.dialog.result? = some (.ok []) ∧
    overtaken.calls.lookup 0 = some (.listing ⟨1, "/files"⟩ 5 (.ok []) .done) ∧ overtaken.Superseded ⟨1, "/files"⟩ ∧
    (act .calm .plain (.turn (.call 0)) overtaken).picker = overtaken.picker :=
  have superseded : overtaken.Superseded ⟨1, "/files"⟩ := .inl (by decide)
  ⟨rfl, rfl, superseded, ((listing_agrees_with_trail (acts_reached _)).2 0 _ _ _ _ rfl).2 superseded⟩

end Sitting
end CourseFiles
