import CourseFiles.Json.Record
import CourseFiles.Json.Compact

namespace CourseFiles

def protocolVersion : String := "2.0"

structure Request where
  version : String
  method : String
  params : List Json
  id : String

namespace Request

def of (method : String) (params : List Json) (id : String) : Request := ⟨protocolVersion, method, params, id⟩

def encode (r : Request) : Json :=
  .ofMembers [("jsonrpc", .text r.version), ("method", .text r.method), ("params", .list r.params),
    ("id", .text r.id)]

def record : Record Request :=
  { name := "RpcRequest"
    blank := ⟨"", "", [], ""⟩
    members :=
      [ .of "jsonrpc" .required .text fun s r => { r with version := s },
        .of "method" .required .text fun s r => { r with method := s },
        .of "params" .required (.list .json) fun js r => { r with params := js },
        .of "id" .required .text fun s r => { r with id := s } ] }

def decoder : Decoder Request := record.decoder

end Request

-- A reply as it is sent. What arrives is judged as plain JSON, since there a null result is a result.
structure Response where
  version : String
  id : String
  result : Option Json
  error : Option Json

namespace Response

def success (id : String) (result : Json) : Response := ⟨protocolVersion, id, some result, none⟩

def failure (id : String) (error : Json) : Response := ⟨protocolVersion, id, none, some error⟩

def encode (r : Response) : Json :=
  .ofMembers ([("jsonrpc", .text r.version), ("id", .text r.id)]
    ++ (r.result.map fun j => ("result", j)).toList ++ (r.error.map fun j => ("error", j)).toList)

def record : Record Response :=
  { name := "RpcResponse"
    blank := ⟨"", "", none, none⟩
    members :=
      [ .of "jsonrpc" .required .text fun s r => { r with version := s },
        .of "id" .required .text fun s r => { r with id := s },
        .of "result" .nullable (.option .json) fun j r => { r with result := j },
        .of "error" .nullable (.option .json) fun j r => { r with error := j } ] }

def decoder : Decoder Response := record.decoder

end Response

inductive CallError
  | timeout (origin : String)
  | malformedReply
  | remote (payload : Json)
  | post (reason : String)

def CallError.shown : CallError → String
  | .timeout origin => "Request to " ++ origin ++ " timed out"
  | .malformedReply => "RPC reply had no result or error"
  | .remote payload => "RPC call failed: " ++ payload.compactText
  | .post reason => "Failed to post RPC request: " ++ reason

abbrev CallOutcome := Except CallError Json

structure Message where
  origin : String
  data : Json

namespace Message

def text? (j : Json) (name : String) : Option String := (j.member? name).bind Json.text?

-- Whether the message is the reply to a request.
def answers (m : Message) (origin id : String) : Bool :=
  m.origin == origin && text? m.data "jsonrpc" == some protocolVersion && text? m.data "id" == some id

-- What a reply says; an error wins over a result, and null is as good as any other value.
def outcome (m : Message) : CallOutcome :=
  match m.data.member? "error", m.data.member? "result" with
  | some error, _ => .error (.remote error)
  | none, some result => .ok result
  | none, none => .error .malformedReply

-- What the message means for a request: nothing, unless it is the reply.
def reply? (m : Message) (origin id : String) : Option CallOutcome :=
  if m.answers origin id then some m.outcome else none

end Message
end CourseFiles
