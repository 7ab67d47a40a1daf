import CourseFiles.Listing.Trail
import CourseFiles.Listing.Failure

namespace CourseFiles

inductive Dialog
  | fetching
  | authorizing
  | fetched (files : Listing)
  | error (e : ListingError)

namespace Dialog

def kind : Dialog → String
  | .fetching => "fetching"
  | .authorizing => "authorizing"
  | .fetched _ => "fetched"
  | .error _ => "error"

def files? : Dialog → Option Listing
  | .fetched files => some files
  | _ => none

def error? : Dialog → Option ListingError
  | .error e => some e
  | _ => none

def isFetching : Dialog → Bool
  | .fetching => true
  | _ => false

end Dialog

structure Snapshot where
  dialog : Dialog
  authorizationAttempted : Bool
  selected : Option Item
  crumbs : List Crumb

namespace Snapshot

def inSubfolder (s : Snapshot) : Bool := 1 < s.crumbs.length

end Snapshot
end CourseFiles
