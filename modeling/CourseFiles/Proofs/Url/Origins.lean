import CourseFiles.Proofs.Url.Forms
import CourseFiles.Proofs.Url.Hosts
import CourseFiles.Url.Origin

namespace CourseFiles

namespace Url

-- Where the scheme has a port of its own, the host is a domain or an address.
def Hosted (u : Url) : Prop :=
  ∀ a h, (defaultPort? u.scheme).isSome = true → u.authority = some a → a.host = some h → h.Proper

variable {scheme s username : List Char} {password : Option (List Char)} {u : Url} {a : Authority}

theorem afterAuthority_parts (scheme : List Char) (a : Authority) (s : List Char) :
    (afterAuthority scheme a s).scheme = scheme ∧ (afterAuthority scheme a s).authority = some a := by
  unfold afterAuthority
  split
  · split <;> exact ⟨rfl, rfl⟩
  · split
    · exact ⟨rfl, rfl⟩
    · split <;> exact ⟨rfl, rfl⟩

theorem afterCredentials_ok (read : afterCredentials scheme username password s = .ok u) :
    ∃ a rest, u = afterAuthority scheme a rest ∧
      ∀ h, isSpecial scheme = true → a.host = some h → ∃ written, Host.ofDomain written = .ok h := by
  unfold afterCredentials at read
  dsimp only at read
  generalize isSpecial scheme = special at *
  generalize s.take (hostLength special false s) = written at read
  generalize s.drop (hostLength special false s) = rest at read
  have last (h : Host) (port : Option Nat) (rest : List Char) (given : special = true → Host.ofDomain written = .ok h)
      (read : (if written.isEmpty && (!username.isEmpty || password.isSome) then .error .emptyHost
        else .ok (afterAuthority scheme ⟨username, password, if written.isEmpty then none else some h, port⟩ rest) :
          Except UrlError Url) = .ok u) :
      ∃ a rest, u = afterAuthority scheme a rest ∧
        ∀ h, special = true → a.host = some h → ∃ written, Host.ofDomain written = .ok h := by
    split at read <;> cases read
    refine ⟨_, _, rfl, fun h' domain same => ?_⟩
    split at same <;> cases same
    exact ⟨written, given domain⟩
  split at read
  · cases read
  · simp only [Bind.bind, Except.bind, pure, Except.pure, throw, throwThe, MonadExceptOf.throw] at read
    -- The host is read in one of two ways, then the port if there is one.
    split at read
    all_goals
      rename_i kind
      split at read
      · cases read
      · rename_i h host
        have given : special = true → Host.ofDomain written = .ok h := fun domain => by
          first | exact host | exact absurd domain kind
        split at read
        · split at read
          · cases read
          · exact last h _ _ given read
        · exact last h _ _ given read

theorem special_of_port (port : (defaultPort? scheme).isSome = true) : isSpecial scheme = true := by
  simp [isSpecial, port]

theorem afterCredentials_hosted (read : afterCredentials scheme username password s = .ok u) : u.Hosted := by
  obtain ⟨b, rest, rfl, domain⟩ := afterCredentials_ok read
  obtain ⟨same, authority⟩ := afterAuthority_parts scheme b rest
  intro a h port here named
  rw [same] at port
  cases here.symm.trans authority
  obtain ⟨written, host⟩ := domain h (special_of_port port) named
  exact Host.ofDomain_proper host

theorem afterSlashes_hosted (read : afterSlashes scheme s = .ok u) : u.Hosted := by
  unfold afterSlashes at read
  dsimp only at read
  split at read
  · exact afterCredentials_hosted read
  · split at read
    · cases read
    · exact afterCredentials_hosted read
  · exact afterCredentials_hosted read

theorem portless_hosted (portless : defaultPort? u.scheme = none) : u.Hosted := by
  intro a h port
  simp [portless] at port

theorem ofFileHost_scheme (read : ofFileHost s = .ok u) : u.scheme = fileScheme := by
  unfold ofFileHost at read
  simp only [Bind.bind, Except.bind, pure, Except.pure] at read
  split at read
  · cases read
    rfl
  · split at read
    · cases read
      rfl
    · split at read
      · cases read
      · split at read <;> cases read <;> rfl

theorem ofFile_scheme (read : ofFile none s = .ok u) : u.scheme = fileScheme := by
  have rooted (path : List Char) : (ofFile.rooted none path).scheme = fileScheme := by
    unfold ofFile.rooted
    split <;> rfl
  unfold ofFile at read
  split at read
  · cases read
    rfl
  · split at read
    · split at read
      · split at read
        · exact ofFileHost_scheme read
        · cases read
          exact rooted _
      · cases read
        exact rooted _
    · cases read
      rfl

theorem ofOther_hosted (ordinary : defaultPort? scheme = none) (read : ofOther scheme s = .ok u) : u.Hosted := by
  unfold ofOther at read
  split at read
  · exact afterSlashes_hosted read
  · cases read
    exact portless_hosted ordinary
  · cases read
    exact portless_hosted ordinary

theorem read_hosted {t : String} (accepted : Url.read t = .ok u) : u.Hosted := by
  unfold Url.read resolve at accepted
  dsimp only at accepted
  split at accepted
  · rename_i scheme rest _
    unfold ofScheme at accepted
    dsimp only at accepted
    split at accepted
    · exact portless_hosted (ofFile_scheme accepted ▸ rfl)
    · rename_i file
      split at accepted
      · exact afterSlashes_hosted accepted
      · rename_i ordinary
        refine ofOther_hosted ?_ accepted
        cases port : defaultPort? scheme with
        | none => rfl
        | some n => exact absurd (special_of_port (by rw [port]; rfl)) ordinary
  · cases accepted
  · rename_i base _ same
    cases same

-- A scheme that has a port of its own is read back in front of a colon.
theorem scheme?_written (port : (defaultPort? scheme).isSome = true) (rest : List Char) :
    scheme? (scheme ++ ':' :: rest) = some (scheme, rest) := by
  obtain ⟨n, own⟩ := Option.isSome_iff_exists.mp port
  obtain ⟨before, after, split, -⟩ := List.lookup_eq_some_iff.mp own
  have listed : (String.ofList scheme, n) ∈
      [("ftp", 21), ("http", 80), ("https", 443), ("ws", 80), ("wss", 443)] := by
    rw [split]
    simp
  simp only [List.mem_cons, List.not_mem_nil, or_false, Prod.mk.injEq] at listed
  rcases listed with ⟨named, -⟩ | ⟨named, -⟩ | ⟨named, -⟩ | ⟨named, -⟩ | ⟨named, -⟩
  all_goals
    rw [show scheme = _ from (String.toList_ofList ▸ congrArg String.toList named)]
    rfl

end Url

namespace Origin

def Proper : Origin → Prop
  | .tuple scheme host _ => (Url.defaultPort? scheme).isSome = true ∧ host.Proper
  | .alone => True

variable {o p : Origin} {u : Url}

theorem ofAuthority_proper (hosted : u.Hosted) : (ofAuthority u).Proper := by
  unfold ofAuthority
  split
  · rename_i port a scheme authority
    split
    · rename_i h host
      have own : (Url.defaultPort? u.scheme).isSome = true := by rw [scheme]; rfl
      exact ⟨own, hosted a h own authority host⟩
    · trivial
  · trivial

theorem ofNested_proper (levels : Nat) (hosted : u.Hosted) : (ofNested levels u).Proper := by
  induction levels generalizing u with
  | zero => trivial
  | succ levels ih =>
    unfold ofNested
    split
    · split
      · rename_i inner read
        exact ih (Url.read_hosted read)
      · trivial
    · exact ofAuthority_proper hosted

theorem read_proper {t : String} (read : Url.read t = .ok u) : u.origin.Proper :=
  ofNested_proper _ (Url.read_hosted read)

-- What is written of the port.
def portText (scheme : List Char) (port : Nat) : List Char :=
  if Url.defaultPort? scheme = some port then [] else ':' :: Nat.toDigits 10 port

theorem portText_injective (same : portText scheme m = portText scheme n) : m = n := by
  unfold portText at same
  split at same
  · rename_i own
    split at same
    · rename_i own'
      exact Option.some.inj (own.symm.trans own')
    · cases same
  · split at same
    · cases same
    · have digits := congrArg (Address.digits? 10) (List.cons.inj same).2
      rw [Address.digits?_toDigits (by decide) (by decide), Address.digits?_toDigits (by decide) (by decide)] at digits
      exact Option.some.inj digits

theorem portText_ends (scheme : List Char) (port : Nat) : (portText scheme port).head?.all (· == ':') = true := by
  unfold portText
  split <;> rfl

theorem tuple_text (scheme : List Char) (host : Host) (port : Nat) : (tuple scheme host port).text =
    String.ofList (scheme ++ ':' :: '/' :: '/' :: (host.text ++ portText scheme port)) := by
  unfold text portText
  simp

theorem text_injective (proper : o.Proper) (proper' : p.Proper) (same : o.text = p.text) : o = p := by
  have named {scheme : List Char} {host : Host} {port : Nat} : (tuple scheme host port).text ≠ text .alone := by
    rw [tuple_text]
    intro same
    have colon : ':' ∈ "null".toList := by
      rw [← show _ = "null" from same]
      simp
    revert colon
    decide
  cases o with
  | alone =>
    cases p with
    | alone => rfl
    | tuple scheme host port => exact absurd same.symm named
  | tuple scheme host port =>
    cases p with
    | alone => exact absurd same named
    | tuple scheme' host' port' =>
      rw [tuple_text, tuple_text] at same
      have written := congrArg Url.scheme? (String.ofList_injective same)
      rw [Url.scheme?_written proper.1, Url.scheme?_written proper'.1] at written
      obtain ⟨rfl, rest⟩ := Prod.mk.inj (Option.some.inj written)
      have rest := (List.cons.inj (List.cons.inj rest).2).2
      obtain ⟨rfl, ports⟩ := Host.text_injective proper.2 proper'.2 (portText_ends _ _) (portText_ends _ _) rest
      cases portText_injective ports
      rfl

end Origin

namespace Url

variable {scheme s username : List Char} {password : Option (List Char)} {u v : Url}

theorem afterAuthority_rooted (scheme : List Char) (a : Authority) (s : List Char) :
    (afterAuthority scheme a s).isPlain = false := by
  unfold afterAuthority
  split
  · split <;> rfl
  · split
    · rfl
    · split <;> rfl

theorem afterSlashes_rooted (read : afterSlashes scheme s = .ok u) : u.isPlain = false := by
  have credentials {username : List Char} {password : Option (List Char)} {s : List Char}
      (read : afterCredentials scheme username password s = .ok u) : u.isPlain = false := by
    obtain ⟨a, rest, rfl, -⟩ := afterCredentials_ok read
    exact afterAuthority_rooted scheme a rest
  unfold afterSlashes at read
  dsimp only at read
  split at read
  · exact credentials read
  · split at read
    · cases read
    · exact credentials read
  · exact credentials read

theorem scheme?_colons (found : scheme? s = some (scheme, rest)) : rest.count ':' < s.count ':' := by
  unfold scheme? at found
  split at found
  · rename_i c s' rest' later
    split at found
    · cases found
      have suffix := (List.dropWhile_sublist (l := c :: s') isSchemeChar).count_le ':'
      rw [later, List.count_cons_self] at suffix
      exact suffix
    · cases found
  · cases found

theorem cleaned_colons (s : List Char) : (cleaned s).count ':' ≤ s.count ':' := by
  unfold cleaned
  refine Nat.le_trans (List.filter_sublist.count_le ':') ?_
  rw [List.count_reverse]
  refine Nat.le_trans ((List.dropWhile_sublist _).count_le ':') ?_
  rw [List.count_reverse]
  exact (List.dropWhile_sublist _).count_le ':'

-- A path that is one text has a colon less than what it was read from.
theorem ofOther_colons (read : ofOther scheme s = .ok u) (plain : u.path = .plain p) : p.count ':' ≤ s.count ':' := by
  unfold ofOther at read
  split at read
  · have rooted := afterSlashes_rooted read
    rw [isPlain, plain] at rooted
    cases rooted
  · cases read
    cases plain
  · cases read
    cases plain
    exact Nat.le_trans (Percent.encode_colons _ _) ((List.takeWhile_sublist _).count_le ':')

-- How many pages a page may be nested in, by its address: no more than there are colons.
def depth (u : Url) : Nat :=
  match u.path with
  | .plain p => if String.ofList u.scheme = "blob" then p.count ':' else 0
  | .segments _ => 0

theorem read_depth {t : String} (read : Url.read t = .ok u) : u.depth < t.toList.count ':' := by
  unfold Url.read resolve at read
  dsimp only at read
  split at read
  · rename_i scheme rest found
    have fewer : rest.count ':' < t.toList.count ':' := Nat.lt_of_lt_of_le (scheme?_colons found) (cleaned_colons _)
    have inner : u.depth ≤ rest.count ':' := by
      unfold depth
      split
      · rename_i p plain
        split
        · rename_i blob
          unfold ofScheme at read
          dsimp only at read
          split at read
          · rw [ofFile_scheme read] at blob
            exact absurd blob (by decide)
          · split at read
            · have rooted := afterSlashes_rooted read
              rw [isPlain, plain] at rooted
              cases rooted
            · exact ofOther_colons read plain
        · exact Nat.zero_le _
      · exact Nat.zero_le _
    exact Nat.lt_of_le_of_lt inner fewer
  · cases read
  · rename_i same
    cases same

theorem cleaned_rooted (s : List Char) : ∃ after, cleaned ('/' :: s) = '/' :: after := by
  unfold cleaned
  dsimp only
  rw [List.dropWhile_cons_of_neg (by decide), List.reverse_cons, List.dropWhile_append]
  split
  · exact ⟨[], rfl⟩
  · rw [List.reverse_append, List.reverse_singleton, List.singleton_append, List.filter_cons_of_pos (by decide)]
    exact ⟨_, rfl⟩

-- A path from the root is no address.
theorem read_segments (ss : List (List Char)) (u : Url) :
    Url.read (String.ofList (pathText (.segments ss))) ≠ .ok u := by
  have unnamed : scheme? (cleaned (pathText (.segments ss))) = none := by
    cases ss with
    | nil => rfl
    | cons s ss =>
      obtain ⟨after, start⟩ := cleaned_rooted (s ++ ss.flatMap ('/' :: ·))
      rw [show pathText (.segments (s :: ss)) = '/' :: (s ++ ss.flatMap ('/' :: ·)) from rfl]
      rw [start]
      rfl
  intro read
  unfold Url.read resolve at read
  rw [String.toList_ofList] at read
  dsimp only at read
  rw [unnamed] at read
  cases read

theorem depth_lt_length (u : Url) : u.depth < u.chars.length := by
  have path : u.depth ≤ (pathText u.path).length := by
    unfold depth
    split
    · rename_i p plain
      rw [plain]
      split
      · exact List.count_le_length
      · exact Nat.zero_le _
    · exact Nat.zero_le _
  simp only [chars, List.length_append, List.length_cons]
  omega

-- What is read from the path of a blob is nested less deep.
theorem blob_depth {inner : Url} (blob : String.ofList u.scheme = "blob")
    (read : Url.read (String.ofList (pathText u.path)) = .ok inner) : inner.depth < u.depth := by
  cases path : u.path with
  | segments ss => exact absurd (path ▸ read) (read_segments ss inner)
  | plain p =>
    have here : u.depth = p.count ':' := by rw [depth, path]; exact if_pos blob
    have less := read_depth read
    rwa [String.toList_ofList, path, pathText, ← here] at less

end Url

namespace Origin

variable {u v : Url}

theorem ofNested_enough (enough : u.depth < m) (enough' : u.depth < n) : ofNested m u = ofNested n u := by
  induction m generalizing u n with
  | zero => omega
  | succ m ih =>
    cases n with
    | zero => omega
    | succ n =>
      rw [ofNested, ofNested]
      split
      · rename_i blob
        split
        · rename_i inner read
          have less := Url.blob_depth blob read
          exact ih (by omega) (by omega)
        · rfl
      · rfl

end Origin

namespace Url

-- The URL that a URL has its origin from: itself, or for a blob the one in its path, which may be a blob again.
inductive Stems : Url → Url → Prop where
  | self (ordinary : String.ofList u.scheme ≠ "blob") : Stems u u
  | blob {inner : Url} (blob : String.ofList u.scheme = "blob")
      (read : Url.read (String.ofList (pathText u.path)) = .ok inner) (stems : Stems inner v) : Stems u v

-- The scheme is one that has a port of its own, which holds where no other is given.
structure At (u : Url) (scheme : List Char) (host : Host) (port : Nat) : Prop where
  named : u.scheme = scheme
  address : ∃ own a, defaultPort? scheme = some own ∧ u.authority = some a ∧ a.host = some host ∧ port = a.port.getD own

def Belongs (u : Url) (scheme : List Char) (host : Host) (port : Nat) : Prop :=
  ∃ v, u.Stems v ∧ v.At scheme host port

-- Of one scheme, host and port.
def Shares (u v : Url) : Prop := ∃ scheme host port, u.Belongs scheme host port ∧ v.Belongs scheme host port

-- Of no scheme, host and port that another could have.
def Alone (u : Url) : Prop := ∀ scheme host port, ¬ u.Belongs scheme host port

def SameOrigin (u v : Url) : Prop := u.Shares v ∨ u.Alone ∧ v.Alone

variable {u v : Url} {scheme : List Char} {host : Host} {port : Nat}

theorem ofAuthority_at : Origin.ofAuthority u = .tuple scheme host port ↔ u.At scheme host port := by
  constructor
  · intro same
    unfold Origin.ofAuthority at same
    split at same
    · rename_i own a default authority
      split at same
      · cases same
        exact ⟨rfl, own, a, default, authority, ‹_›, rfl⟩
      · cases same
    · cases same
  · rintro ⟨rfl, own, a, default, authority, host, rfl⟩
    simp only [Origin.ofAuthority, default, authority, host]

theorem ofNested_belongs (levels : Nat) (same : Origin.ofNested levels u = .tuple scheme host port) :
    u.Belongs scheme host port := by
  induction levels generalizing u with
  | zero => cases same
  | succ levels ih =>
    unfold Origin.ofNested at same
    split at same
    · rename_i blob
      split at same
      · rename_i inner read
        obtain ⟨v, stems, here⟩ := ih same
        exact ⟨v, .blob blob read stems, here⟩
      · cases same
    · rename_i ordinary
      exact ⟨u, .self ordinary, ofAuthority_at.mp same⟩

theorem Stems.origin (stems : u.Stems v) (enough : u.depth < levels) :
    Origin.ofNested levels u = Origin.ofAuthority v := by
  induction stems generalizing levels with
  | self ordinary =>
    cases levels with
    | zero => omega
    | succ levels => rw [Origin.ofNested, if_neg ordinary]
  | blob blob read stems ih =>
    cases levels with
    | zero => omega
    | succ levels =>
      have less := blob_depth blob read
      rw [Origin.ofNested, if_pos blob, read]
      exact ih (by omega)

theorem origin_belongs : u.origin = .tuple scheme host port ↔ u.Belongs scheme host port := by
  constructor
  · exact ofNested_belongs _
  · rintro ⟨v, stems, here⟩
    exact (stems.origin u.depth_lt_length).trans (ofAuthority_at.mpr here)

theorem origin_alone : u.origin = .alone ↔ u.Alone := by
  constructor
  · intro same scheme host port belongs
    cases same.symm.trans (origin_belongs.mpr belongs)
  · intro alone
    cases same : u.origin with
    | tuple scheme host port => exact absurd (origin_belongs.mp same) (alone _ _ _)
    | alone => rfl

theorem belongs_ordinary (ordinary : String.ofList u.scheme ≠ "blob") :
    u.Belongs scheme host port ↔ u.At scheme host port := by
  constructor
  · rintro ⟨v, stems, here⟩
    cases stems with
    | self => exact here
    | blob blob => exact absurd blob ordinary
  · exact fun here => ⟨u, .self ordinary, here⟩

theorem origin_same : u.origin = v.origin ↔ u.SameOrigin v := by
  constructor
  · intro same
    cases here : u.origin with
    | tuple scheme host port =>
      exact .inl ⟨_, _, _, origin_belongs.mp here, origin_belongs.mp (same.symm.trans here)⟩
    | alone => exact .inr ⟨origin_alone.mp here, origin_alone.mp (same.symm.trans here)⟩
  · rintro (⟨scheme, host, port, one, two⟩ | ⟨one, two⟩)
    · rw [origin_belongs.mpr one, origin_belongs.mpr two]
    · rw [origin_alone.mpr one, origin_alone.mpr two]

end Url

-- An origin is told by the scheme, the authority and the path alone.
theorem Url.origin_alike {u v : Url} (scheme : u.scheme = v.scheme) (authority : u.authority = v.authority)
    (path : u.path = v.path) : u.origin = v.origin := by
  have same (n : Nat) : Origin.ofNested n u = Origin.ofNested n v := by
    cases n with
    | zero => rfl
    | succ n =>
      rw [Origin.ofNested, Origin.ofNested, scheme, path, Origin.ofAuthority, Origin.ofAuthority, scheme, authority]
  have depth : u.depth = v.depth := by rw [Url.depth, Url.depth, scheme, path]
  calc u.origin = Origin.ofNested v.chars.length u :=
        Origin.ofNested_enough u.depth_lt_length (depth ▸ v.depth_lt_length)
    _ = v.origin := same _

end CourseFiles
