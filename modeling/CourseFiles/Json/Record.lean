import CourseFiles.Json.Decoder

namespace CourseFiles

-- What the lack of a member means. A record that is written as a list may end early only where the
-- members left out are optional.
inductive Presence
  | required
  | nullable
  | optional
deriving DecidableEq

-- A member of a record: decoding it gives the change that it makes to the record.
structure Member (α : Type) where
  name : String
  presence : Presence
  form : Decoder (α → α)

def Member.of (name : String) (presence : Presence) (d : Decoder β) (put : β → α → α) : Member α :=
  ⟨name, presence, d.map put⟩

inductive Others (α : Type)
  | skipped
  | kept (put : String → Json → α → α)

structure Record (α : Type) where
  name : String
  blank : α
  members : List (Member α)
  others : Others α := .skipped

namespace Record

def expected (r : Record α) : String := "struct " ++ r.name

def listExpected (r : Record α) : String :=
  r.expected ++ " with " ++ toString r.members.length
    ++ (if r.members.length = 1 then " element" else " elements")

def find? (r : Record α) (name : String) : Option (Member α) :=
  r.members.find? fun m => m.name == name

-- The first member that has to be there and is not.
def lacking (r : Record α) (seen : List String) : Option String :=
  (r.members.find? fun m => m.presence = .required && !seen.contains m.name).map (·.name)

def complete (r : Record α) (seen : List String) (a : α) : Except Mismatch α :=
  match r.lacking seen with
  | some name => .error (.missingMember name)
  | none => .ok a

def apply (r : Record α) (a : α) (name : String) (j : Json) : Except Mismatch α :=
  match r.find? name with
  | some m => (· a) <$> m.form.ofJson j
  | none =>
    match r.others with
    | .skipped => .ok a
    | .kept put => .ok (put name j a)

def ofMembers (r : Record α) (ms : Json.Members) : Except Mismatch α := do
  let a ← ms.foldlM (fun a m => r.apply a m.1 m.2) r.blank
  r.complete (ms.map (·.1)) a

-- `taken` counts the items that were there.
def ofItems (expected : String) : Nat → List (Member α) → List Json → α → Except Mismatch α
  | _, [], [], a => .ok a
  | taken, [], rest, _ => .error (.wrongLength (taken + rest.length) "fewer elements in array")
  | taken, m :: ms, [], a =>
    if m.presence = .optional then ofItems expected taken ms [] a
    else .error (.wrongLength taken expected)
  | taken, m :: ms, j :: js, a => do
    let change ← m.form.ofJson j
    ofItems expected (taken + 1) ms js (change a)

def ofJson (r : Record α) : Json → Except Mismatch α
  | .object ms => r.ofMembers ms
  | .list js =>
    match r.others with
    | .skipped => ofItems r.listExpected 0 r.members js r.blank
    | .kept _ => Decoder.otherKind (.list js) r.expected
  | j => Decoder.otherKind j r.expected

open Reader

-- The names of the record's own members seen so far come with the record.
def readMembers (r : Record α) (levels : Nat) : Nat → Bool → List String → α → Reader (List String × α)
  | 0, _, seen, a => return (seen, a)
  | rounds + 1, first, seen, a => do
    if ← anotherMember first then
      advance
      let name ← quotation
      match r.find? name with
      | some m =>
        if seen.contains name then mismatch (.repeatedMember name)
        else
          colon
          let change ← m.form.ofText levels
          readMembers r levels rounds false (name :: seen) (change a)
      | none =>
        colon
        match r.others with
        | .skipped =>
          skip
          readMembers r levels rounds false seen a
        | .kept put =>
          let j ← value levels
          readMembers r levels rounds false seen (put name j a)
    else return (seen, a)

def readObject (r : Record α) (levels : Nat) : Reader α := do
  advance
  let body : Reader α := do
    let (seen, a) ← r.readMembers levels ((← place).rest.length + 1) true [] r.blank
    match r.complete seen a with
    | .ok a => return a
    | .error m => mismatch m
  enclosed body objectEnd

def readItems (expected : String) (levels : Nat) : Nat → List (Member α) → α → Reader α
  | _, [], a => return a
  | taken, m :: ms, a => do
    if ← anotherItem (taken == 0) then
      let change ← m.form.ofText levels
      readItems expected levels (taken + 1) ms (change a)
    else if m.presence = .optional then readItems expected levels taken ms a
    else mismatch (.wrongLength taken expected)

def readList (r : Record α) (levels : Nat) : Reader α := do
  advance
  enclosed (readItems r.listExpected levels 0 r.members r.blank) listEnd

def ofText (r : Record α) (levels : Nat) : Reader α := do
  match ← blanks with
  | none => failNext .endInValue
  | some '\x7b' => nested levels r.readObject
  | some '[' =>
    match r.others with
    | .skipped => nested levels r.readList
    | .kept _ => wrongKind r.expected
  | some _ => wrongKind r.expected

def decoder (r : Record α) : Decoder α := ⟨r.ofText, r.ofJson⟩

end Record
end CourseFiles
