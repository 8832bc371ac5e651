import AgentFacts.Json.Shape
import AgentFacts.Server.MediaType
import AgentFacts.Server.Message

namespace AgentFacts

structure CollectRequest where
  agent : String
  discoveryType : String
  payload : Json

namespace CollectRequest

def shape : Json.RecordShape where
  name := "CollectRequest"
  fields := [("agent_id", .text), ("discovery_type", .text), ("payload", .any)]
  optional := ["payload"]

def textField (fields : List (String × Json)) (name : String) : String :=
  match fields.lookup name with
  | some (.text s) => s
  | _ => ""

def ofFields (fields : List (String × Json)) : CollectRequest where
  agent := textField fields "agent_id"
  discoveryType := textField fields "discovery_type"
  payload := (fields.lookup "payload").getD .null

/-- Reads a body that is JSON of the right shape. -/
def parse (body : String) : Except Json.ReadError CollectRequest :=
  ofFields <$> (shape.read Json.depthLimit).run body

def refusal (error : Json.ReadError) : String :=
  (if error.isMalformed then "Failed to parse the request body as JSON: "
    else "Failed to deserialize the JSON body into the target type: ") ++ error.messageWithPath

/-- The number of bytes up to which a body is read. -/
def maxBody : Nat := 2097152

/-- The submission that a request holds, or the reason to refuse it. -/
def ofRequest (request : Request) : Except String CollectRequest :=
  if !(request.contentType.bind MediaType.parse).any MediaType.isJson then
    .error "Expected request with `Content-Type: application/json`"
  else if maxBody < request.body.utf8ByteSize then
    .error "Failed to buffer the request body: length limit exceeded"
  else (parse request.body).mapError refusal

end CollectRequest

end AgentFacts
