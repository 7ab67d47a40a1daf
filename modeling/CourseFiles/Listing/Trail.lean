import CourseFiles.Listing.Item

namespace CourseFiles

-- A folder on the trail; one without a path of its own stands for the default listing.
structure Crumb where
  id : String
  name : String
  path : Option String
deriving DecidableEq

namespace Crumb

def rootId : String := "__root__"

def root : Crumb := ⟨rootId, "Files", none⟩

def isRoot (c : Crumb) : Bool := c.id == rootId

-- The crumb of a folder; a file has none.
def ofItem? (i : Item) : Option Crumb :=
  if i.isFolder then some ⟨i.id.shown, i.displayName, i.contents.map (·.path)⟩ else none

def encode (c : Crumb) : Json :=
  .ofMembers [("id", .text c.id), ("displayName", .text c.name), ("fetchPath", c.path.elim .null .text)]

def record : Record Crumb :=
  { name := "PathEntry"
    blank := ⟨"", "", none⟩
    members :=
      [ .of "id" .required .text fun s c => { c with id := s },
        .of "displayName" .required .text fun s c => { c with name := s },
        .of "fetchPath" .nullable (.option .text) fun s c => { c with path := s } ] }

def decoder : Decoder Crumb := record.decoder

end Crumb

structure Trail where
  crumbs : List Crumb
  nonempty : crumbs ≠ []
deriving DecidableEq

namespace Trail

def root : Trail := ⟨[Crumb.root], by simp⟩

instance : Inhabited Trail := ⟨root⟩

-- Goes to a folder: it becomes the last, after the crumbs that stood before its own.
def push (t : Trail) (c : Crumb) : Trail := ⟨t.crumbs.takeWhile (·.id != c.id) ++ [c], by simp⟩

def current (t : Trail) : Crumb := t.crumbs.getLast t.nonempty

-- The path to list, given the one of the default listing.
def path (t : Trail) (default : String) : String := t.current.path.getD default

def isRoot (t : Trail) : Bool := t.crumbs.length == 1

end Trail
end CourseFiles
