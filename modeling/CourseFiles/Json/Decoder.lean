import CourseFiles.Json.Value

namespace CourseFiles

-- The number handed to `ofText` is how many more brackets may be opened.
structure Decoder (α : Type) where
  ofText : Nat → Reader α
  ofJson : Json → Except Mismatch α

namespace Reader

-- A scalar that was not expected is read before it is refused, a list or an object is not.
def found : Reader Found := do
  match ← blanks with
  | some 'n' => letters ['n', 'u', 'l', 'l']; return .null
  | some 't' => letters ['t', 'r', 'u', 'e']; return .bool true
  | some 'f' => letters ['f', 'a', 'l', 's', 'e']; return .bool false
  | some '"' => advance; return .text (← quotation)
  | some '-' => advance; return .ofNumber (← numeral true)
  | some '[' => return .list
  | some '\x7b' => return .object
  | some c => if c.isDigit then return .ofNumber (← numeral false) else failNext .noValue
  | none => failNext .endInValue

def wrongKind (expected : String) : Reader α :=
  located do mismatch (.wrongKind (← found) expected)

-- Opens a bracket, if one more may be open.
def nested (levels : Nat) (inner : Nat → Reader α) : Reader α :=
  match levels with
  | 0 => failNext .tooDeep
  | deeper + 1 => located (inner deeper)

end Reader

namespace Decoder
open Reader

def otherKind (j : Json) (expected : String) : Except Mismatch α :=
  .error (.wrongKind (.ofJson j) expected)

def readText (d : Decoder α) (text : List UInt8) : Except Fault α := run (d.ofText deepest) text

def map (f : α → β) (d : Decoder α) : Decoder β where
  ofText levels := f <$> d.ofText levels
  ofJson j := f <$> d.ofJson j

def json : Decoder Json where
  ofText := value
  ofJson j := .ok j

-- A text, with what its content means and what a value of another kind is told to be.
def textOf (expected : String) (accept : String → Except Mismatch α) : Decoder α where
  ofText _ := do
    match ← blanks with
    | none => failNext .endInValue
    | some '"' =>
      advance
      located do
        let s ← quotation
        match accept s with
        | .ok a => return a
        | .error m => mismatch m
    | some _ => wrongKind expected
  ofJson
    | .text s => accept s
    | j => otherKind j expected

def text : Decoder String := textOf "a string" .ok

-- A whole number below a bound, from what was read as a number.
def naturalOf (bound : Nat) (expected : String) : Number → Except Mismatch Nat
  | .whole n =>
    if 0 ≤ n ∧ n < bound then .ok n.toNat else .error (.wrongValue (.whole n) expected)
  | .float x => .error (.wrongKind (.float x) expected)

def natural (bound : Nat) (expected : String) : Decoder Nat where
  ofText _ := do
    let number (negative : Bool) : Reader Nat := located do
      match naturalOf bound expected (← numeral negative) with
      | .ok n => return n
      | .error m => mismatch m
    match ← blanks with
    | none => failNext .endInValue
    | some '-' => advance; number true
    | some c => if c.isDigit then number false else wrongKind expected
  ofJson
    | .number n => naturalOf bound expected n
    | j => otherKind j expected

def word64 : Decoder Nat := natural (Nat.pow 2 64) "u64"
def word32 : Decoder Nat := natural (Nat.pow 2 32) "u32"

-- Null means that there is none.
def option (d : Decoder α) : Decoder (Option α) where
  ofText levels := do
    match ← blanks with
    | some 'n' => letters ['n', 'u', 'l', 'l']; return none
    | _ => some <$> d.ofText levels
  ofJson
    | .null => .ok none
    | j => some <$> d.ofJson j

def list (d : Decoder α) : Decoder (List α) where
  ofText levels := do
    match ← blanks with
    | none => failNext .endInValue
    | some '[' => nested levels fun deeper => Reader.list (d.ofText deeper)
    | some _ => wrongKind "a sequence"
  ofJson
    | .list js => js.mapM d.ofJson
    | j => otherKind j "a sequence"

def unit : Decoder Unit where
  ofText _ := do
    match ← blanks with
    | none => failNext .endInValue
    | some 'n' => letters ['n', 'u', 'l', 'l']
    | some _ => wrongKind "unit"
  ofJson
    | .null => .ok ()
    | j => otherKind j "unit"

-- One of some names: written as a text, or as an object of that one member, which is null.
def variant (names : List (String × α)) : Decoder α :=
  let pick (s : String) : Except Mismatch α :=
    match names.lookup s with
    | some a => .ok a
    | none => .error (.unknownVariant s (names.map (·.1)))
  let name := textOf "variant identifier" pick
  { ofText := fun levels => do
      match ← blanks with
      | none => failNext .endInValue
      | some '"' => name.ofText levels
      | some '\x7b' =>
        match levels with
        | 0 => failNext .tooDeep
        | deeper + 1 =>
          advance
          let a ← name.ofText deeper
          colon
          unit.ofText deeper
          match ← blanks with
          | some '\x7d' => advance; return a
          | some _ => fail .noValue
          | none => fail .endInObject
      | some _ => failNext .noValue
    ofJson
      | .text s => pick s
      | .object [(s, j)] => do
        let a ← pick s
        unit.ofJson j
        return a
      | .object _ => .error (.wrongValue .object "map with a single key")
      | j => otherKind j "string or map" }

-- Any value that the function accepts; the type is named when it does not.
def untagged (type : String) (accept : Json → Option α) : Decoder α :=
  let pick (j : Json) : Except Mismatch α :=
    match accept j with
    | some a => .ok a
    | none => .error (.noVariant type)
  { ofText := fun levels => do
      match pick (← value levels) with
      | .ok a => return a
      | .error m => mismatch m
    ofJson := pick }

end Decoder
end CourseFiles
