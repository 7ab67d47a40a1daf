import CourseFiles.Json.Mismatch

namespace CourseFiles

inductive Grammar
  | endInValue
  | endInList
  | endInObject
  | endInText
  | noValue
  | noIdent
  | noColon
  | noListEnd
  | noObjectEnd
  | nameNotText
  | trailingComma
  | trailingCharacters
  | badNumber
  | numberTooLarge
  | badEscape
  | loneSurrogate
  | cutEscape
  | controlCharacter
  | badEncoding
  | tooDeep
deriving DecidableEq

def Grammar.message : Grammar → String
  | .endInValue => "EOF while parsing a value"
  | .endInList => "EOF while parsing a list"
  | .endInObject => "EOF while parsing an object"
  | .endInText => "EOF while parsing a string"
  | .noValue => "expected value"
  | .noIdent => "expected ident"
  | .noColon => "expected `:`"
  | .noListEnd => "expected `,` or `]`"
  | .noObjectEnd => "expected `,` or `\x7d`"
  | .nameNotText => "key must be a string"
  | .trailingComma => "trailing comma"
  | .trailingCharacters => "trailing characters"
  | .badNumber => "invalid number"
  | .numberTooLarge => "number out of range"
  | .badEscape => "invalid escape"
  | .loneSurrogate => "lone leading surrogate in hex escape"
  | .cutEscape => "unexpected end of hex escape"
  | .controlCharacter => "control character (\\u0000-\\u001F) found while parsing a string"
  | .badEncoding => "invalid unicode code point"
  | .tooDeep => "recursion limit exceeded"

inductive Cause
  | grammar (g : Grammar)
  | mismatch (m : Mismatch)
deriving DecidableEq

def Cause.message : Cause → String
  | .grammar g => g.message
  | .mismatch m => m.message

-- A cause and how many bytes had been read, if the place is known.
structure Fault where
  cause : Cause
  offset : Option Nat
deriving DecidableEq

-- The bytes after the last line break before the offset are the column.
def columnAt (text : List UInt8) (offset : Nat) : Nat × Nat :=
  let before := text.take offset
  (1 + before.count 10, (before.reverse.takeWhile (· != 10)).length)

def Fault.message (text : List UInt8) (f : Fault) : String :=
  match f.offset with
  | none => f.cause.message
  | some offset =>
    let place := columnAt text offset
    f.cause.message ++ " at line " ++ toString place.1 ++ " column " ++ toString place.2

structure Cursor where
  rest : List UInt8
  offset : Nat

abbrev Reader := ExceptT Fault (StateM Cursor)

namespace Reader

def place : Reader Cursor := get

-- A byte is looked at as the character of the same number.
def asChar (b : UInt8) : Char := Char.ofNat b.toNat

def peek : Reader (Option Char) := do
  return (← place).rest.head?.map asChar

def advance (count : Nat := 1) : Reader Unit :=
  modify fun c => ⟨c.rest.drop count, c.offset + min count c.rest.length⟩

def next : Reader (Option Char) := do
  let c ← peek
  advance
  return c

-- Fails with the bytes read so far.
def fail (g : Grammar) : Reader α := do
  throw ⟨.grammar g, some (← place).offset⟩

-- Fails with the byte that comes next counted too.
def failNext (g : Grammar) : Reader α := do
  let c ← place
  throw ⟨.grammar g, some (c.offset + min 1 c.rest.length)⟩

def mismatch (m : Mismatch) : Reader α := throw ⟨.mismatch m, none⟩

-- Reports a failure that has no place at the place reached.
def located (r : Reader α) : Reader α :=
  tryCatch r fun f => do
    match f.offset with
    | some _ => throw f
    | none => throw { f with offset := some (← place).offset }

def attempt (r : Reader α) : Reader (Except Fault α) :=
  tryCatch (Except.ok <$> r) fun f => pure (.error f)

-- Reads a body and then its end, the end also after a failed body; the body's failure is reported.
def enclosed (body : Reader α) (ending : Reader Unit) : Reader α := do
  let inner ← attempt body
  let outer ← attempt ending
  match inner, outer with
  | .ok a, .ok () => return a
  | .error f, _ => throw f
  | .ok _, .error f => throw f

def isSpace (b : UInt8) : Bool := b == 32 || b == 10 || b == 9 || b == 13

def isDigit (b : UInt8) : Bool := 48 ≤ b && b ≤ 57

-- Skips blanks and looks at what follows.
def blanks : Reader (Option Char) := do
  let c ← place
  let skipped := c.rest.takeWhile isSpace
  advance skipped.length
  peek

-- A run of decimal digits, possibly empty, as their values.
def digitRun : Reader (List Nat) := do
  let c ← place
  let run := c.rest.takeWhile isDigit
  advance run.length
  return run.map fun b => b.toNat - 48

-- Reads the given letters, each of which has to be there.
def letters : List Char → Reader Unit
  | [] => return ()
  | c :: rest => do
    match ← next with
    | none => fail .endInValue
    | some d => if d = c then letters rest else fail .noIdent

def colon : Reader Unit := do
  match ← blanks with
  | some ':' => advance
  | some _ => failNext .noColon
  | none => failNext .endInObject

def listEnd : Reader Unit := do
  match ← blanks with
  | some ']' => advance
  | some ',' =>
    advance
    match ← blanks with
    | some ']' => failNext .trailingComma
    | _ => failNext .trailingCharacters
  | some _ => failNext .trailingCharacters
  | none => failNext .endInList

def objectEnd : Reader Unit := do
  match ← blanks with
  | some '\x7d' => advance
  | some ',' => failNext .trailingComma
  | some _ => failNext .trailingCharacters
  | none => failNext .endInObject

-- Whether a list goes on: past a comma, which has to follow every item but the last.
def anotherItem (first : Bool) : Reader Bool := do
  match ← blanks with
  | none => failNext .endInList
  | some ']' => return false
  | some c =>
    if first then return true
    else if c = ',' then
      advance
      match ← blanks with
      | some ']' => failNext .trailingComma
      | some _ => return true
      | none => failNext .endInValue
    else failNext .noListEnd

-- Whether an object goes on, up to the quotation mark of the next name.
def anotherMember (first : Bool) : Reader Bool := do
  match ← blanks with
  | none => failNext .endInObject
  | some '\x7d' => return false
  | some c =>
    if first then
      if c = '"' then return true else failNext .nameNotText
    else if c = ',' then
      advance
      match ← blanks with
      | some '"' => return true
      | some '\x7d' => failNext .trailingComma
      | some _ => failNext .nameNotText
      | none => failNext .endInValue
    else failNext .noObjectEnd

def textEnd : Reader Unit := do
  match ← blanks with
  | some _ => failNext .trailingCharacters
  | none => return ()

def run (r : Reader α) (text : List UInt8) : Except Fault α :=
  (ExceptT.run (do let a ← r; textEnd; return a)).run ⟨text, 0⟩ |>.1

end Reader
end CourseFiles
