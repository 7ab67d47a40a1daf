import CourseFiles.Authorization.Session
import CourseFiles.Proofs.Json.Agreement
import CourseFiles.Proofs.Url.Forms
import CourseFiles.Proofs.Url.Origins
import CourseFiles.Service.Client

namespace CourseFiles

namespace Url

variable {u v : Url} {more : List (String × String)}

-- What the query of a URL says.
def pairs (u : Url) : List (String × String) := Form.decode (String.ofList (u.query.getD []))

-- The second URL says more in its query than the first, and is the same otherwise.
structure Adds (u : Url) (more : List (String × String)) (v : Url) : Prop where
  scheme : v.scheme = u.scheme
  authority : v.authority = u.authority
  path : v.path = u.path
  fragment : v.fragment = u.fragment
  origin : v.origin = u.origin
  pairs : v.pairs = u.pairs ++ more

theorem Adds.nothing (u : Url) : u.Adds [] u := ⟨rfl, rfl, rfl, rfl, rfl, (List.append_nil _).symm⟩

theorem appendPairs_adds (u : Url) (more : List (String × String)) : u.Adds more (u.appendPairs more) := by
  refine ⟨rfl, rfl, rfl, rfl, origin_alike rfl rfl rfl, ?_⟩
  exact Form.decode_appended (u.query.getD []) more

end Url

namespace Service

theorem resolve_bare (base : Url) (path : String) (params : List (String × String)) : resolve base path params =
    (resolve base path []).map fun u => if params.isEmpty then u else u.appendPairs params := by
  unfold resolve
  cases Url.resolve (some base) path <;> rfl

-- What is asked for with parameters is what is asked for without them, and the parameters besides; so a popup is opened
-- at the page that it was meant for, and told the token besides.
theorem parameters_are_added (base : Url) (path : String) (params : List (String × String)) (target : Url)
    (token : String) :
    (∀ u, resolve base path [] = .ok u → ∃ v, resolve base path params = .ok v ∧ u.Adds params v) ∧
    (∀ e, resolve base path [] = .error e → resolve base path params = .error e) ∧
    target.Adds [("authorization", token)] (Session.popupUrl target token) := by
  refine ⟨?_, ?_, target.appendPairs_adds _⟩
  · intro u resolved
    refine ⟨if params.isEmpty then u else u.appendPairs params, ?_, ?_⟩
    · rw [resolve_bare, resolved]
      rfl
    · split
      · rename_i none
        rw [List.isEmpty_iff.mp none]
        exact .nothing u
      · exact u.appendPairs_adds params
  · intro e failed
    rw [resolve_bare, failed]
    rfl

-- A service with a page of its own, and a list of it with a query that is not well-formed.
def courseService : Url :=
  ⟨"https".toList, some ⟨[], none, some (.name "lms.example.com".toList), none⟩, .segments ["app".toList, []], none,
    none⟩

def halfList : Url :=
  { courseService with
    path := .segments ["app".toList, "list".toList]
    query := some "half=50%&".toList
    fragment := some "top".toList }

theorem halfList_says_more : resolve courseService "list?half=50%&#top" [] = .ok halfList ∧
    ∃ v, resolve courseService "list?half=50%&#top" [("a&b", "1+1=é"), ("", "")] = .ok v ∧ v.path = halfList.path ∧
      v.pairs = [("half", "50%"), ("a&b", "1+1=é"), ("", "")] := by
  have bare : (resolve courseService "list?half=50%&#top" []).toOption = some halfList := by decide +kernel
  rw [toOption_ok] at bare
  have before : halfList.pairs = [("half", "50%")] := by decide +kernel
  obtain ⟨v, resolved, adds⟩ := (parameters_are_added courseService "list?half=50%&#top"
    [("a&b", "1+1=é"), ("", "")] halfList "auth-token").1 halfList bare
  refine ⟨bare, v, resolved, adds.path, ?_⟩
  rw [adds.pairs, before]
  rfl

end Service
end CourseFiles
