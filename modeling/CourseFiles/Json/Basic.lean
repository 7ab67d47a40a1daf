import CourseFiles.Decimal.Shortest

namespace CourseFiles

-- Whole numbers from -2^63 to 2^64 - 1 stay whole; every other number is a float, and a whole number
-- never equals a float.
inductive Number
  | whole (n : Int)
  | float (x : Binary64)
deriving DecidableEq

def Number.same : Number → Number → Bool
  | .whole a, .whole b => a == b
  | .float x, .float y => x.same y
  | _, _ => false

def Number.text : Number → List Char
  | .whole n => (toString n).toList
  | .float x => x.text

inductive Json
  | null
  | bool (b : Bool)
  | number (n : Number)
  | text (s : String)
  | list (items : List Json)
  | object (members : List (String × Json))

namespace Json

abbrev Members := List (String × Json)

def whole (n : Int) : Json := .number (.whole n)

-- Puts a member at its place, instead of an older one of the same name.
def Members.insert (name : String) (value : Json) : Members → Members
  | [] => [(name, value)]
  | (k, v) :: rest =>
    if name < k then (name, value) :: (k, v) :: rest
    else if name = k then (name, value) :: rest
    else (k, v) :: Members.insert name value rest

def Members.find? (name : String) : Members → Option Json
  | [] => none
  | (k, v) :: rest => if k = name then some v else Members.find? name rest

-- The object of the given members; of two with one name the later stays.
def ofMembers (members : Members) : Json :=
  .object (members.foldl (fun ms m => Members.insert m.1 m.2 ms) [])

-- A member of an object; none for a name it lacks and for what is not an object.
def member? (name : String) : Json → Option Json
  | .object ms => Members.find? name ms
  | _ => none

def text? : Json → Option String
  | .text s => some s
  | _ => none

mutual
-- Equality of values, the two zeros being one number.
def same : Json → Json → Bool
  | .null, .null => true
  | .bool a, .bool b => a == b
  | .number a, .number b => a.same b
  | .text a, .text b => a == b
  | .list a, .list b => sameItems a b
  | .object a, .object b => sameMembers a b
  | _, _ => false

def sameItems : List Json → List Json → Bool
  | [], [] => true
  | a :: as, b :: bs => same a b && sameItems as bs
  | _, _ => false

def sameMembers : List (String × Json) → List (String × Json) → Bool
  | [], [] => true
  | (k, a) :: as, (l, b) :: bs => k == l && same a b && sameMembers as bs
  | _, _ => false
end

instance : BEq Json := ⟨same⟩

instance : Inhabited Json := ⟨.null⟩

end Json
end CourseFiles
