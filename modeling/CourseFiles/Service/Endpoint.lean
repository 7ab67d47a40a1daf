import CourseFiles.Json.Record
import CourseFiles.Url.Origin

namespace CourseFiles

structure Endpoint where
  path : String
  authUrl : Url
deriving DecidableEq

namespace Endpoint

-- A URL inside other data.
def url : Decoder Url :=
  .textOf "a string representing an URL" fun s =>
    (Url.read s).mapError fun e => .refused (e.shown ++ ": " ++ Text.quoted s)

def of (path authUrl : String) : Except UrlError Endpoint := (⟨path, ·⟩) <$> Url.read authUrl

def encode (e : Endpoint) : Json := .ofMembers [("path", .text e.path), ("authUrl", .text e.authUrl.text)]

def blankUrl : Url := ⟨[], none, .plain [], none, none⟩

def record : Record Endpoint :=
  { name := "ListFilesApi"
    blank := ⟨"", blankUrl⟩
    members :=
      [ .of "path" .required .text fun s e => { e with path := s },
        .of "authUrl" .required url fun u e => { e with authUrl := u } ] }

def decoder : Decoder Endpoint := record.decoder

def badUrl (e : UrlError) : String := "Invalid URL in settings: " ++ e.shown

end Endpoint
end CourseFiles
