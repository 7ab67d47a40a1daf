import CourseFiles.Url.Percent

namespace CourseFiles
namespace Form

def isKept (c : Char) : Bool :=
  c.isAlpha || c.isDigit || c = '*' || c = '-' || c = '.' || c = '_'

def encodeChar (c : Char) : List Char := if c = ' ' then ['+'] else Percent.encodeChar (!isKept ·) c

def encodeText (s : String) : List Char := s.toList.flatMap encodeChar

def encodePair (p : String × String) : List Char := encodeText p.1 ++ '=' :: encodeText p.2

-- Puts a pair behind what is there, with a separator unless nothing is there.
def append (query : List Char) (p : String × String) : List Char :=
  if query.isEmpty then encodePair p else query ++ '&' :: encodePair p

def decodeText (s : List Char) : String :=
  let bytes := (Utf8.encode s).map fun b => if b == 43 then 32 else b
  String.ofList (Utf8.decodeLossy (Percent.decode bytes))

-- The parts between the separators, at least one.
def split (mark : Char) : List Char → List (List Char)
  | [] => [[]]
  | c :: rest =>
    if c = mark then [] :: split mark rest
    else
      match split mark rest with
      | [] => [[c]]
      | part :: parts => (c :: part) :: parts

-- A part without an equals sign is a name with an empty value.
def decodePair (part : List Char) : String × String :=
  (decodeText (part.takeWhile (· != '=')), decodeText ((part.dropWhile (· != '=')).drop 1))

-- The pairs of a query; empty parts are none.
def decode (query : String) : List (String × String) :=
  ((split '&' query.toList).filter fun part => !part.isEmpty).map decodePair

end Form
end CourseFiles
