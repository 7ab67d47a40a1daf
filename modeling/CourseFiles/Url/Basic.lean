import CourseFiles.Url.Address
import CourseFiles.Url.Domain

namespace CourseFiles

inductive UrlError
  | relativeWithoutBase
  | relativeToOpaque
  | emptyHost
  | badPort
  | badVersion4
  | badVersion6
  | badDomain
  | badHostCharacter
deriving DecidableEq

def UrlError.shown : UrlError → String
  | .relativeWithoutBase => "relative URL without a base"
  | .relativeToOpaque => "relative URL with a cannot-be-a-base base"
  | .emptyHost => "empty host"
  | .badPort => "invalid port number"
  | .badVersion4 => "invalid IPv4 address"
  | .badVersion6 => "invalid IPv6 address"
  | .badDomain => "invalid international domain name"
  | .badHostCharacter => "invalid domain character"

inductive Host
  | name (s : List Char)
  | version4 (n : Nat)
  | version6 (groups : List Nat)
deriving DecidableEq

namespace Host

def text : Host → List Char
  | .name s => s
  | .version4 n => Address.version4Text n
  | .version6 groups => '[' :: Address.version6Text groups ++ [']']

def bracketed (s : List Char) : Except UrlError Host :=
  match s.getLast?, Address.version6? s.dropLast with
  | some ']', some groups => .ok (.version6 groups)
  | _, _ => .error .badVersion6

-- The host of a scheme whose hosts are domains and addresses.
def ofDomain : List Char → Except UrlError Host
  | '[' :: rest => bracketed rest
  | s =>
    match Domain.toAscii? (Percent.decode (Utf8.encode s)) with
    | none => .error .badDomain
    | some [] => .error .emptyHost
    | some domain =>
      if Address.endsInNumber domain then
        match Address.version4? domain with
        | some n => .ok (.version4 n)
        | none => .error .badVersion4
      else .ok (.name domain)

def isForbiddenOpaque (c : Char) : Bool :=
  c.toNat = 0 || " #/:<>?@[\\]^|".toList.contains c

-- The host of any other scheme: a name that is not looked into.
def ofOpaque : List Char → Except UrlError Host
  | '[' :: rest => bracketed rest
  | s =>
    if s.any isForbiddenOpaque then .error .badHostCharacter
    else .ok (.name (Percent.encode Percent.inControls s))

end Host

-- What stands between the two slashes and the path.
structure Authority where
  username : List Char
  password : Option (List Char)
  host : Option Host
  port : Option Nat
deriving DecidableEq

-- A path is a list of segments, or one text that nothing is relative to.
inductive UrlPath
  | segments (ss : List (List Char))
  | plain (s : List Char)
deriving DecidableEq

structure Url where
  scheme : List Char
  authority : Option Authority
  path : UrlPath
  query : Option (List Char)
  fragment : Option (List Char)
deriving DecidableEq

namespace Url

def defaultPort? (scheme : List Char) : Option Nat :=
  [("ftp", 21), ("http", 80), ("https", 443), ("ws", 80), ("wss", 443)].lookup (String.ofList scheme)

def isFile (scheme : List Char) : Bool := String.ofList scheme == "file"

-- Schemes whose URLs always have an authority and a path.
def isSpecial (scheme : List Char) : Bool := (defaultPort? scheme).isSome || isFile scheme

def userInfo (a : Authority) : List Char :=
  let password := a.password.elim [] (':' :: ·)
  if a.username.isEmpty && a.password.isNone then [] else a.username ++ password ++ ['@']

def authorityText (a : Authority) : List Char :=
  '/' :: '/' :: userInfo a ++ a.host.elim [] Host.text ++ a.port.elim [] fun n => ':' :: Nat.toDigits 10 n

def pathText : UrlPath → List Char
  | .segments ss => ss.flatMap ('/' :: ·)
  | .plain s => s

-- Without an authority, a path that starts with two slashes would read as one.
def pathMark (u : Url) : List Char :=
  match u.authority, u.path with
  | none, .segments ([] :: _ :: _) => ['/', '.']
  | _, _ => []

def chars (u : Url) : List Char :=
  u.scheme ++ ':' :: u.authority.elim [] authorityText ++ u.pathMark ++ pathText u.path
    ++ u.query.elim [] ('?' :: ·) ++ u.fragment.elim [] ('#' :: ·)

def text (u : Url) : String := String.ofList u.chars

def appendPairs (u : Url) (pairs : List (String × String)) : Url :=
  { u with query := some (pairs.foldl Form.append (u.query.getD [])) }

end Url
end CourseFiles
