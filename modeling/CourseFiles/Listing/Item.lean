import CourseFiles.Json.Record
import CourseFiles.Json.Compact
import CourseFiles.Listing.Timestamp

namespace CourseFiles

inductive ItemKind
  | file
  | folder
deriving DecidableEq

def ItemKind.name : ItemKind → String
  | .file => "File"
  | .folder => "Folder"

def ItemKind.decoder : Decoder ItemKind :=
  .variant [(ItemKind.file.name, .file), (ItemKind.folder.name, .folder)]

-- Some services number their entries, others name them.
inductive ItemId
  | number (n : Int)
  | text (s : String)
deriving DecidableEq

namespace ItemId

def shown : ItemId → String
  | .number n => toString n
  | .text s => s

def encode : ItemId → Json
  | .number n => .whole n
  | .text s => .text s

-- A number has to fit 64 bits with a sign.
def ofJson? : Json → Option ItemId
  | .number (.whole n) => if -Int.pow 2 63 ≤ n ∧ n < Int.pow 2 63 then some (.number n) else none
  | .text s => some (.text s)
  | _ => none

def decoder : Decoder ItemId := .untagged "ItemId" ofJson?

end ItemId

structure FolderContents where
  path : String
deriving DecidableEq

namespace FolderContents

def encode (c : FolderContents) : Json := .object [("path", .text c.path)]

def record : Record FolderContents :=
  { name := "FolderContents"
    blank := ⟨""⟩
    members := [.of "path" .required .text fun s c => { c with path := s }] }

def decoder : Decoder FolderContents := record.decoder

end FolderContents

structure Item where
  kind : ItemKind
  id : ItemId
  displayName : String
  updatedAt : Option String
  contents : Option FolderContents
  extras : Json.Members

namespace Item

def file (id : ItemId) (name : String) : Item := ⟨.file, id, name, none, none, []⟩

def folder (id : ItemId) (name path : String) : Item := ⟨.folder, id, name, none, some ⟨path⟩, []⟩

def isFolder (i : Item) : Bool := i.kind == .folder

def lastModified (i : Item) : Option Timestamp := i.updatedAt.bind Timestamp.ofText?

def same (i j : Item) : Bool :=
  i.kind == j.kind && i.id == j.id && i.displayName == j.displayName && i.updatedAt == j.updatedAt
    && i.contents == j.contents && Json.sameMembers i.extras j.extras

instance : BEq Item := ⟨same⟩

-- Nothing is written for a date or contents that are not there.
def members (i : Item) : Json.Members :=
  [("type", .text i.kind.name), ("id", i.id.encode), ("display_name", .text i.displayName)]
    ++ (i.updatedAt.map fun s => ("updated_at", Json.text s)).toList
    ++ (i.contents.map fun c => ("contents", c.encode)).toList
    ++ i.extras

def encode (i : Item) : Json := .ofMembers i.members

-- What an entry is before any of its members is known.
def blank : Item := .file (.text "") ""

def record : Record Item :=
  { name := "LmsItem"
    blank
    members :=
      [ .of "type" .optional ItemKind.decoder fun k i => { i with kind := k },
        .of "id" .optional ItemId.decoder fun d i => { i with id := d },
        .of "display_name" .optional .text fun s i => { i with displayName := s },
        .of "updated_at" .optional (.option .text) fun s i => { i with updatedAt := s },
        .of "contents" .optional (.option FolderContents.decoder) fun c i => { i with contents := c } ]
    others := .kept fun name j i => { i with extras := i.extras.insert name j } }

def decoder : Decoder Item := record.decoder

end Item

abbrev Listing := List Item

namespace Listing

def encode (l : Listing) : Json := .list (l.map Item.encode)

def decoder : Decoder Listing := .list Item.decoder

end Listing
end CourseFiles
