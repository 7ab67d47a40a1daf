import CourseFiles.Picker.View

namespace CourseFiles

-- The generation counts the operations that supersede the listings in flight. The snapshots published so
-- far come with the newest first.
structure Picker where
  dialog : Dialog
  attempted : Bool
  selected : Option Item
  trail : Trail
  generation : Nat
  closed : Bool
  published : List Snapshot

structure Launch where
  generation : Nat
  path : String
deriving DecidableEq

namespace Picker

def snapshot (p : Picker) : Snapshot := ⟨p.dialog, p.attempted, p.selected, p.trail.crumbs⟩

def publish (p : Picker) : Picker := { p with published := p.snapshot :: p.published }

-- Nothing has been published; observers start with the first snapshot.
def initial : Picker := ⟨.fetching, false, none, .root, 0, false, []⟩

def turnTo (p : Picker) (d : Dialog) : Picker := publish { p with dialog := d }

def held (p : Picker) : Snapshot := p.published.head?.getD initial.snapshot

-- Asks for the listing of the current folder.
def launch (default : String) (p : Picker) : Picker × Launch :=
  let p := { p with generation := p.generation + 1, selected := none }
  (p.turnTo .fetching, ⟨p.generation, p.trail.path default⟩)

-- Lists again after a change, unless the picker is closed or the change is refused.
def relist? (default : String) (change : Picker → Option Picker) (p : Picker) : Option (Picker × Launch) :=
  if p.closed then none else (change p).map (launch default)

def dialogOf : Except ListingError Listing → Dialog
  | .ok files => .fetched files
  | .error e => if e.requiresAuthorization then .authorizing else .error e

def needsAuthorization : Except ListingError Listing → Bool
  | .ok _ => false
  | .error e => e.requiresAuthorization

-- A listing arrives; one that was superseded changes nothing.
def arrive (l : Launch) (result : Except ListingError Listing) (p : Picker) : Picker :=
  if p.generation = l.generation then
    turnTo { p with attempted := p.attempted && !needsAuthorization result } (dialogOf result)
  else p

def isAuthorizing (p : Picker) : Bool :=
  match p.dialog with
  | .authorizing => true
  | _ => false

def isFetched (p : Picker) : Bool := p.dialog.files?.isSome

-- The changes before a new listing.

def again (p : Picker) : Option Picker := some p

def unlessAuthorizing (p : Picker) : Option Picker := if p.isAuthorizing then none else some p

def fromRoot (p : Picker) : Option Picker := some { p with trail := .root }

def fromRootAt (generation : Nat) (p : Picker) : Option Picker :=
  if p.generation = generation then fromRoot p else none

def into (c : Crumb) (p : Picker) : Option Picker :=
  (unlessAuthorizing p).map fun p => { p with trail := p.trail.push c }

-- Access may be asked for while it is lacking and after an error.
def mayAuthorize (p : Picker) : Bool := !p.closed && (p.isAuthorizing || p.dialog.error?.isSome)

def authorize (p : Picker) : Picker :=
  turnTo { p with generation := p.generation + 1, selected := none } .authorizing

-- A session failed; only the last caller that nothing has superseded says so.
def failed (generation : Nat) (p : Picker) : Picker :=
  if p.closed || p.generation ≠ generation then p else turnTo { p with attempted := true } .authorizing

def select (item : Option Item) (p : Picker) : Picker :=
  if p.closed || !p.isFetched then p else publish { p with selected := item }

def close (p : Picker) : Picker := { p with closed := true, generation := p.generation + 1 }

end Picker
end CourseFiles
