import CourseFiles.Json.Quotation
import CourseFiles.Json.Numeral

namespace CourseFiles
namespace Reader

def deepest : Nat := 127

-- The items of a list after its bracket, up to the closing one. Every round takes a byte.
def items (item : Reader α) : Nat → Bool → Reader (List α)
  | 0, _ => return []
  | rounds + 1, first => do
    if ← anotherItem first then
      let a ← item
      return a :: (← items item rounds false)
    else return []

-- The members of an object after its brace, up to the closing one.
def members (member : String → Reader α) : Nat → Bool → Reader (List α)
  | 0, _ => return []
  | rounds + 1, first => do
    if ← anotherMember first then
      advance
      let name ← quotation
      let a ← member name
      return a :: (← members member rounds false)
    else return []

def list (item : Reader α) : Reader (List α) := do
  advance
  enclosed (items item ((← place).rest.length + 1) true) listEnd

def object (member : String → Reader α) : Reader (List α) := do
  advance
  enclosed (members member ((← place).rest.length + 1) true) objectEnd

-- A value, given how to read one that starts with a bracket.
def valueOf (ofList ofObject : Reader Json) : Reader Json := do
  match ← blanks with
  | none => failNext .endInValue
  | some 'n' => letters ['n', 'u', 'l', 'l']; return .null
  | some 't' => letters ['t', 'r', 'u', 'e']; return .bool true
  | some 'f' => letters ['f', 'a', 'l', 's', 'e']; return .bool false
  | some '"' => advance; return .text (← quotation)
  | some '-' => advance; return .number (← numeral true)
  | some '[' => located ofList
  | some '\x7b' => located ofObject
  | some c => if c.isDigit then return .number (← numeral false) else failNext .noValue

-- A value with at most the given number of brackets open at once.
def value : Nat → Reader Json
  | 0 => valueOf (failNext .tooDeep) (failNext .tooDeep)
  | deeper + 1 =>
    valueOf (.list <$> list (value deeper))
      (Json.ofMembers <$> object fun name => do colon; return (name, ← value deeper))

-- Past a name in an object, its colon included.
def skipName : Reader Unit := do
  match ← blanks with
  | some '"' => advance; skipQuotation; colon
  | some _ => failNext .nameNotText
  | none => failNext .endInObject

-- What the closing bracket is and how its lack is reported.
structure Bracket where
  closing : Char
  noEnd : Grammar
  endInside : Grammar
  name : Reader Unit

def Bracket.ofList : Bracket := ⟨']', .noListEnd, .endInList, return ()⟩
def Bracket.ofObject : Bracket := ⟨'\x7d', .noObjectEnd, .endInObject, skipName⟩

mutual
-- Every round takes a byte.
def skipValue : Nat → Reader Unit
  | 0 => failNext .endInValue
  | rounds + 1 => do
    match ← blanks with
    | none => failNext .endInValue
    | some 'n' => letters ['n', 'u', 'l', 'l']
    | some 't' => letters ['t', 'r', 'u', 'e']
    | some 'f' => letters ['f', 'a', 'l', 's', 'e']
    | some '"' => advance; skipQuotation
    | some '-' => advance; skipNumeral
    | some '[' => advance; skipEntries .ofList rounds true
    | some '\x7b' => advance; skipEntries .ofObject rounds true
    | some c => if c.isDigit then skipNumeral else failNext .noValue

def skipEntries (bracket : Bracket) : Nat → Bool → Reader Unit
  | 0, _ => failNext bracket.endInside
  | rounds + 1, first => do
    match ← blanks with
    | none => failNext bracket.endInside
    | some c =>
      if c = bracket.closing then advance
      else if first then skipEntry bracket rounds
      else if c = ',' then do
        advance
        skipEntry bracket rounds
      else failNext bracket.noEnd

def skipEntry (bracket : Bracket) : Nat → Reader Unit
  | 0 => failNext bracket.endInside
  | rounds + 1 => do
    bracket.name
    skipValue rounds
    skipEntries bracket rounds false
end

-- Past a value of any form.
def skip : Reader Unit := do skipValue (2 * (← place).rest.length + 2)

end Reader

def Json.read (text : List UInt8) : Except Fault Json := Reader.run (Reader.value Reader.deepest) text

end CourseFiles
