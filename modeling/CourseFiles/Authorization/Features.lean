import CourseFiles.Json.Record

namespace CourseFiles

structure Features where
  width : Nat
  height : Nat
deriving DecidableEq

namespace Features

def standard : Features := ⟨400, 550⟩

-- The corner that puts the popup in the middle; one that is too large starts at the edge.
def corner (f : Features) (screenWidth screenHeight : Nat) : Nat × Nat :=
  ((screenWidth - f.width) / 2, (screenHeight - f.height) / 2)

def shown (f : Features) (screenWidth screenHeight : Nat) : String :=
  let (left, top) := f.corner screenWidth screenHeight
  "left=" ++ toString left ++ ",top=" ++ toString top ++ ",width=" ++ toString f.width
    ++ ",height=" ++ toString f.height

def encode (f : Features) : Json := .ofMembers [("width", .whole f.width), ("height", .whole f.height)]

def record : Record Features :=
  { name := "PopupFeatures"
    blank := ⟨0, 0⟩
    members :=
      [ .of "width" .required .word32 fun n f => { f with width := n },
        .of "height" .required .word32 fun n f => { f with height := n } ] }

def decoder : Decoder Features := record.decoder

end Features
end CourseFiles
