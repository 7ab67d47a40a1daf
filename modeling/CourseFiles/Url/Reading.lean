import CourseFiles.Url.Basic

namespace CourseFiles
namespace Url

def isSchemeChar (c : Char) : Bool := c.isAlpha || c.isDigit || c = '+' || c = '-' || c = '.'

-- The scheme and what follows its colon.
def scheme? (s : List Char) : Option (List Char × List Char) :=
  match s, s.dropWhile isSchemeChar with
  | c :: _, ':' :: rest =>
    if c.isAlpha then some ((s.takeWhile isSchemeChar).map Char.toLower, rest) else none
  | _, _ => none

def isSlash (c : Char) : Bool := c = '/' || c = '\\'

-- A backslash separates segments where the scheme is a special one.
def separates (special : Bool) (c : Char) : Bool := c = '/' || (special && c = '\\')

def endsPath (c : Char) : Bool := c = '?' || c = '#'

-- The query and the fragment of a text that starts with their marks.
def ending (special : Bool) : List Char → Option (List Char) × Option (List Char)
  | '?' :: rest =>
    let query := rest.takeWhile (· != '#')
    let escaped := if special then Percent.inSpecialQuery else Percent.inQuery
    (some (Percent.encode escaped query), (ending special (rest.dropWhile (· != '#'))).2)
  | '#' :: rest => (none, some (Percent.encode Percent.inFragment rest))
  | _ => (none, none)
termination_by s => s.length
decreasing_by
  have := (List.dropWhile_sublist (l := rest) (· != '#')).length_le
  simp only [List.length_cons]
  omega

def withEnding (u : Url) (rest : List Char) : Url :=
  let (query, fragment) := ending (isSpecial u.scheme) rest
  { u with query, fragment }

-- Splits after every separator; the last part is what follows the last one.
def pieces (special : Bool) : List Char → List (List Char)
  | [] => [[]]
  | c :: rest =>
    if separates special c then [] :: pieces special rest
    else
      match pieces special rest with
      | [] => [[c]]
      | piece :: more => (c :: piece) :: more

def lowered (s : List Char) : List Char := s.map Char.toLower

def isHere (s : List Char) : Bool := ["." , "%2e"].contains (String.ofList (lowered s))

def isUp (s : List Char) : Bool := ["..", ".%2e", "%2e.", "%2e%2e"].contains (String.ofList (lowered s))

def isDrive : List Char → Bool
  | [c, d] => c.isAlpha && (d = ':' || d = '|')
  | _ => false

-- One segment less, but the letter of a drive at the front stays.
def shorten (file : Bool) (done : List (List Char)) : List (List Char) :=
  match done with
  | [d] => if file && isDrive d then done else []
  | _ => done.dropLast

def isBlankPath (done : List (List Char)) : Bool := done.all List.isEmpty

-- A drive is always written with a colon.
def segment (file : Bool) (done : List (List Char)) (piece : List Char) : List Char :=
  match piece with
  | [c, _] => if file && isBlankPath done && isDrive piece then [c, ':'] else piece
  | _ => piece

-- Walks the pieces of a path from the segments that are there.
def walk (file : Bool) : List (List Char) → List (List Char) → List (List Char)
  | done, [] => done
  | done, [piece] =>
    if isUp piece then shorten file done ++ [[]]
    else if isHere piece then done ++ [[]]
    else done ++ [segment file done piece]
  | done, piece :: rest =>
    if isUp piece then walk file (shorten file done) rest
    else if isHere piece then walk file done rest
    else walk file (done ++ [segment file done piece]) rest

-- Blank segments at the front of a file's path are dropped.
def trimmedPath : List (List Char) → List (List Char)
  | [] :: s :: rest => trimmedPath (s :: rest)
  | ss => ss

-- The segments that a path leads to, its first slash aside.
def segmentsOf (scheme : List Char) (done : List (List Char)) (path : List Char) : List (List Char) :=
  let file := isFile scheme
  let walked := walk file done (pieces (isSpecial scheme) (Percent.encode Percent.inPath path))
  if file then trimmedPath walked else walked

def withPath (scheme : List Char) (authority : Option Authority) (done : List (List Char)) (s : List Char) :
    Url :=
  let path := s.takeWhile fun c => !endsPath c
  withEnding ⟨scheme, authority, .segments (segmentsOf scheme done path), none, none⟩
    (s.dropWhile fun c => !endsPath c)

-- What follows an authority: nothing, or a path with its slash.
def afterAuthority (scheme : List Char) (a : Authority) (s : List Char) : Url :=
  match s with
  | [] => if isSpecial scheme then withPath scheme a [] [] else ⟨scheme, a, .segments [], none, none⟩
  | c :: rest =>
    if separates (isSpecial scheme) c then withPath scheme a [] rest
    else if endsPath c && !isSpecial scheme then withEnding ⟨scheme, a, .segments [], none, none⟩ s
    else withPath scheme a [] s

def endsAuthority (special : Bool) (c : Char) : Bool := separates special c || endsPath c

-- Splits at the last @ of an authority, if it holds one.
def lastAt? (special : Bool) (s : List Char) : Option (List Char × List Char) :=
  let authority := s.takeWhile fun c => !endsAuthority special c
  let after := authority.reverse.takeWhile (· != '@')
  if after.length = authority.length then none
  else
    let length := authority.length - after.length - 1
    some (authority.take length, s.drop (length + 1))

-- The host's text: up to a colon outside brackets, or the end of the authority.
def hostLength (special inside : Bool) : List Char → Nat
  | [] => 0
  | c :: rest =>
    if (c = ':' && !inside) || endsAuthority special c then 0
    else hostLength special (c = '[' || (inside && c != ']')) rest + 1

-- A port after its colon; none where it is the scheme's own.
def port (scheme s : List Char) : Except UrlError (Option Nat × List Char) :=
  let digits := s.takeWhile Char.isDigit
  let rest := s.drop digits.length
  match Address.digits? 10 digits, rest.head?.all fun c => isSlash c || endsPath c with
  | some n, true =>
    if 65535 < n then .error .badPort
    else if digits.isEmpty || defaultPort? scheme = some n then .ok (none, rest)
    else .ok (some n, rest)
  | _, _ => .error .badPort

def credentials (s : List Char) : List Char × Option (List Char) :=
  let password := (s.dropWhile (· != ':')).drop 1
  (Percent.encode Percent.inUserInfo (s.takeWhile (· != ':')),
    if password.isEmpty then none else some (Percent.encode Percent.inUserInfo password))

-- Host, port and path, after the credentials.
def afterCredentials (scheme username : List Char) (password : Option (List Char)) (s : List Char) :
    Except UrlError Url := do
  let special := isSpecial scheme
  let length := hostLength special false s
  let written := s.take length
  let rest := s.drop length
  if written.isEmpty && (special || rest.head? = some ':') then throw .emptyHost
  let host ← if special then Host.ofDomain written else Host.ofOpaque written
  let (port, rest) ←
    match rest with
    | ':' :: rest => port scheme rest
    | _ => .ok (none, rest)
  if written.isEmpty && (!username.isEmpty || password.isSome) then throw .emptyHost
  let host := if written.isEmpty then none else some host
  return afterAuthority scheme ⟨username, password, host, port⟩ rest

def afterSlashes (scheme s : List Char) : Except UrlError Url :=
  let special := isSpecial scheme
  match lastAt? special s with
  | none => afterCredentials scheme [] none s
  | some ([], rest) =>
    if rest.head?.any (endsAuthority special) then .error .emptyHost
    else afterCredentials scheme [] none rest
  | some (written, rest) =>
    let (username, password) := credentials written
    afterCredentials scheme username password rest

-- A URL of a scheme that is not special, after its colon.
def ofOther (scheme : List Char) : List Char → Except UrlError Url
  | '/' :: '/' :: rest => afterSlashes scheme rest
  | '/' :: rest => .ok (withPath scheme none [] rest)
  | s =>
    let path := Percent.encode Percent.inControls (s.takeWhile fun c => !endsPath c)
    .ok (withEnding ⟨scheme, none, .plain path, none, none⟩ (s.dropWhile fun c => !endsPath c))

def segments (u : Url) : List (List Char) :=
  match u.path with
  | .segments ss => ss
  | .plain _ => []

def fileScheme : List Char := ['f', 'i', 'l', 'e']

def noAuthority : Authority := ⟨[], none, none, none⟩

def startsWithDrive (s : List Char) : Bool :=
  isDrive (s.take 2) && (s.drop 2).head?.all fun c => isSlash c || endsPath c

-- A file on a host; the local host is not named.
def ofFileHost (s : List Char) : Except UrlError Url := do
  let written := s.takeWhile fun c => !(isSlash c || endsPath c)
  if isDrive written then
    return withPath fileScheme noAuthority [] s
  else
    let rest := s.drop written.length
    let path := if rest.head?.any isSlash then rest.drop 1 else rest
    if written.isEmpty then return withPath fileScheme noAuthority [] path
    let host ← Host.ofDomain written
    if host = .name "localhost".toList then return withPath fileScheme noAuthority [] path
    return withPath fileScheme (some { noAuthority with host := some host }) [] path

def withoutFragment (u : Url) : Url := { u with fragment := none }

-- A file's URL after the scheme's colon, perhaps relative to another file.
def ofFile (base : Option Url) (s : List Char) : Except UrlError Url :=
  match s with
  | [] => .ok (base.elim (withPath fileScheme noAuthority [] []) withoutFragment)
  | c :: rest =>
    if isSlash c then
      match rest with
      | d :: rest' => if isSlash d then ofFileHost rest' else .ok (rooted rest)
      | [] => .ok (rooted rest)
    else
      match base with
      | none => .ok (withPath fileScheme noAuthority [] s)
      | some b =>
        if c = '?' then .ok (withEnding (withoutFragment { b with query := none }) s)
        else if c = '#' then .ok { b with fragment := (ending true s).2 }
        else if startsWithDrive s then .ok (withPath fileScheme noAuthority [] s)
        else .ok (withPath fileScheme b.authority (shorten true b.segments) s)
where
  -- A path from the root keeps the drive of the base, or else its host.
  rooted (path : List Char) : Url :=
    if startsWithDrive path then withPath fileScheme noAuthority [] path
    else
      match base with
      | none => withPath fileScheme noAuthority [] path
      | some b =>
        match b.segments.head? with
        | some d =>
          if isDrive d then withPath fileScheme noAuthority [d] path
          else withPath fileScheme (b.authority.map fun a => { noAuthority with host := a.host }) [] path
        | none => withPath fileScheme b.authority [] path

-- A text without a scheme, or with the base's own, relative to a base that is no file.
def ofRelative (base : Url) (s : List Char) : Except UrlError Url :=
  match s with
  | [] => .ok base.withoutFragment
  | c :: rest =>
    if c = '?' then .ok (withEnding { base with query := none, fragment := none } s)
    else if c = '#' then .ok { base with fragment := (ending (isSpecial base.scheme) s).2 }
    else if isSlash c then
      if rest.head?.any isSlash then
        match s with
        | '/' :: '/' :: after => afterSlashes base.scheme after
        | _ => afterSlashes base.scheme (s.dropWhile isSlash)
      else .ok (withPath base.scheme base.authority [] rest)
    else .ok (withPath base.scheme base.authority base.segments.dropLast s)

def isPlain (u : Url) : Bool :=
  match u.path with
  | .plain _ => true
  | .segments _ => false

-- A text that starts with a scheme. A base of the same scheme counts where the slashes are missing.
def ofScheme (base : Option Url) (scheme s : List Char) : Except UrlError Url :=
  let same := base.filter fun b => b.scheme = scheme
  if isFile scheme then ofFile same s
  else if isSpecial scheme then
    match same with
    | some b =>
      if (s.takeWhile isSlash).length < 2 then ofRelative b s else afterSlashes scheme (s.dropWhile isSlash)
    | none => afterSlashes scheme (s.dropWhile isSlash)
  else ofOther scheme s

def cleaned (s : List Char) : List Char :=
  let isEdge (c : Char) : Bool := c.toNat ≤ 32
  let front := s.dropWhile isEdge
  (front.reverse.dropWhile isEdge).reverse.filter fun c => !(c = '\t' || c = '\n' || c = '\r')

-- The URL that a text stands for, seen from a base.
def resolve (base : Option Url) (text : String) : Except UrlError Url :=
  let s := cleaned text.toList
  match scheme? s, base with
  | some (scheme, rest), _ => ofScheme base scheme rest
  | none, none => .error .relativeWithoutBase
  | none, some b =>
    if s.head? = some '#' then .ok { b with fragment := (ending (isSpecial b.scheme) s).2 }
    else if b.isPlain then .error .relativeToOpaque
    else if isFile b.scheme then ofFile (some b) s
    else ofRelative b s

def read (text : String) : Except UrlError Url := resolve none text

end Url
end CourseFiles
