import CourseFiles.Picker.Dialog
import CourseFiles.Settings.Basic

namespace CourseFiles

inductive ButtonAction
  | authorize
  | tryAgain
  | select
  | reload
deriving DecidableEq

namespace ButtonAction

def name : ButtonAction → String
  | .authorize => "authorize"
  | .tryAgain => "try-again"
  | .select => "select"
  | .reload => "reload"

def label : ButtonAction → String
  | .authorize => "Authorize"
  | .tryAgain => "Try again"
  | .select => "Select"
  | .reload => "Reload"

end ButtonAction

structure Button where
  action : ButtonAction
  disabled : Bool
deriving DecidableEq

inductive Notice
  | instructions (text : String)
  | error (summary detail : String)
deriving DecidableEq

structure FileRow where
  name : String
  lastModified : String
  isFolder : Bool
  selected : Bool
deriving DecidableEq

structure NoFiles where
  text : String
  helpLink : String
  inSubfolder : Bool
deriving DecidableEq

structure FileList where
  rows : List FileRow
  isLoading : Bool
  noFiles : Option NoFiles
deriving DecidableEq

structure View where
  title : String
  crumbs : List String
  buttons : List Button
  notice : Option Notice
  fileList : Option FileList
deriving DecidableEq

namespace View

def authorizingTitle : String := "Allow file access"
def selectingTitle : String := "Select a file"

def notYetAuthorized (lmsName : String) : Notice :=
  .instructions
    ("To select a file, you must authorize Hypothesis to access your files in " ++ lmsName ++ ".")

def notAuthorized (lmsName : String) : Notice := .error ("Failed to authorize with " ++ lmsName) ""

def notFetched (e : ListingError) : Notice := .error "There was a problem fetching files" e.detail

def row (selected : Option Item) (file : Item) : FileRow where
  name := file.displayName
  lastModified := (file.lastModified.map Timestamp.dateText).getD ""
  isFolder := file.isFolder
  selected := selected.any (· == file)

def noFiles (s : Snapshot) (settings : Settings) : NoFiles where
  text :=
    if s.inSubfolder then "There are no files in this folder."
    else "There are no supported files in the current " ++ settings.lmsName ++ " course."
  helpLink := settings.helpLink
  inSubfolder := s.inSubfolder

-- An empty folder can only be read again; among files there is one to select first.
def ofSnapshot (s : Snapshot) (settings : Settings) : View :=
  let crumbs := s.crumbs.map (·.name)
  match s.dialog with
  | .authorizing =>
    let (action, notice) :=
      if s.authorizationAttempted then (.tryAgain, notAuthorized settings.lmsName)
      else (.authorize, notYetAuthorized settings.lmsName)
    ⟨authorizingTitle, crumbs, [⟨action, false⟩], some notice, none⟩
  | .error e => ⟨selectingTitle, crumbs, [⟨.tryAgain, false⟩], some (notFetched e), none⟩
  | .fetching => ⟨selectingTitle, crumbs, [⟨.reload, true⟩], none, some ⟨[], true, none⟩⟩
  | .fetched [] =>
    ⟨selectingTitle, crumbs, [⟨.reload, false⟩], none, some ⟨[], false, some (noFiles s settings)⟩⟩
  | .fetched files =>
    ⟨selectingTitle, crumbs, [⟨.select, s.selected.isNone⟩], none,
      some ⟨files.map (row s.selected), false, none⟩⟩

def encodeButton (b : Button) : Json :=
  .ofMembers [("action", .text b.action.name), ("label", .text b.action.label), ("disabled", .bool b.disabled)]

def encodeNotice : Notice → Json
  | .instructions text => .ofMembers [("kind", .text "instructions"), ("text", .text text)]
  | .error summary detail =>
    .ofMembers [("kind", .text "error"), ("summary", .text summary), ("detail", .text detail)]

def encodeRow (r : FileRow) : Json :=
  .ofMembers [("name", .text r.name), ("lastModified", .text r.lastModified),
    ("isFolder", .bool r.isFolder), ("selected", .bool r.selected)]

def encodeNoFiles (n : NoFiles) : Json :=
  .ofMembers [("text", .text n.text), ("helpLink", .text n.helpLink), ("inSubfolder", .bool n.inSubfolder)]

def encodeFileList (l : FileList) : Json :=
  .ofMembers ([("rows", .list (l.rows.map encodeRow)), ("isLoading", .bool l.isLoading)]
    ++ (l.noFiles.map fun n => ("noFiles", encodeNoFiles n)).toList)

def encode (v : View) : Json :=
  .ofMembers ([("title", .text v.title), ("breadcrumbs", .list (v.crumbs.map .text)),
      ("buttons", .list (v.buttons.map encodeButton))]
    ++ (v.notice.map fun n => ("message", encodeNotice n)).toList
    ++ (v.fileList.map fun l => ("fileList", encodeFileList l)).toList)

end View
end CourseFiles
