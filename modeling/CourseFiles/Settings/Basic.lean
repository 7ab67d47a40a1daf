import CourseFiles.Authorization.Features
import CourseFiles.Settings.Paths

namespace CourseFiles

-- Durations are in milliseconds.
structure Settings where
  callTimeout : Nat
  sessionTimeout : Nat
  pollInterval : Nat
  popupWidth : Nat
  popupHeight : Nat
  lmsName : String
  helpLink : String
  logStem : String
deriving DecidableEq

namespace Settings

def standard : Settings where
  callTimeout := 2000
  sessionTimeout := 600000
  pollInterval := 300
  popupWidth := Features.standard.width
  popupHeight := Features.standard.height
  lmsName := "Canvas"
  helpLink :=
    "https://community.canvaslms.com/t5/Instructor-Guide/How-do-I-upload-a-file-to-a-course/ta-p/618"
  logStem := Paths.standardStem

-- Looking again and again without a pause would never end.
def pollPause (s : Settings) : Nat := max s.pollInterval 1

def features (s : Settings) : Features := ⟨s.popupWidth, s.popupHeight⟩

def logPath (s : Settings) (home : String) : String := Paths.log home s.logStem

def encode (s : Settings) : Json :=
  .ofMembers
    [("rpcTimeoutMs", .whole s.callTimeout), ("authTimeoutMs", .whole s.sessionTimeout),
      ("closePollIntervalMs", .whole s.pollInterval), ("popupWidth", .whole s.popupWidth),
      ("popupHeight", .whole s.popupHeight), ("lmsName", .text s.lmsName),
      ("missingFilesHelpLink", .text s.helpLink), ("logFileStem", .text s.logStem)]

def record : Record Settings :=
  { name := "PickerConfig"
    blank := standard
    members :=
      [ .of "rpcTimeoutMs" .optional .word64 fun n s => { s with callTimeout := n },
        .of "authTimeoutMs" .optional .word64 fun n s => { s with sessionTimeout := n },
        .of "closePollIntervalMs" .optional .word64 fun n s => { s with pollInterval := n },
        .of "popupWidth" .optional .word32 fun n s => { s with popupWidth := n },
        .of "popupHeight" .optional .word32 fun n s => { s with popupHeight := n },
        .of "lmsName" .optional .text fun t s => { s with lmsName := t },
        .of "missingFilesHelpLink" .optional .text fun t s => { s with helpLink := t },
        .of "logFileStem" .optional .text fun t s => { s with logStem := t } ] }

def decoder : Decoder Settings := record.decoder

-- What is found where the settings file should be.
inductive Source
  | absent
  | unreadable (reason : String)
  | content (bytes : List UInt8)

inductive LoadError
  | read (reason : String)
  | parse (text : List UInt8) (fault : Fault)

def LoadError.shown : LoadError → String
  | .read reason => "Failed to read settings: " ++ reason
  | .parse text fault => "Failed to parse settings: " ++ fault.message text

-- No file means no differences; a file that is no good is an error and not the standard settings.
def load : Source → Except LoadError Settings
  | .absent => .ok standard
  | .unreadable reason => .error (.read reason)
  | .content bytes => (decoder.readText bytes).mapError (.parse bytes)

end Settings
end CourseFiles
