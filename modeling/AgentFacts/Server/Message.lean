import AgentFacts.Collector
import AgentFacts.ProjectionError

namespace AgentFacts

structure Request where
  method : String
  path : String
  contentType : Option String
  body : String

inductive ResponseBody where
  | empty
  | json (value : Json)
  | text (text : String)
  | counters

structure Response where
  status : Nat
  headers : List (String × String)
  body : ResponseBody

namespace Response

def json (status : Nat) (value : Json) : Response where
  status
  headers := [("content-type", "application/json")]
  body := .json value

def error (status : Nat) (message : String) : Response :=
  json status (.ofMembers [("error", .text message)])

def plain (status : Nat) (text : String) : Response where
  status
  headers := [("content-type", "text/plain; charset=utf-8")]
  body := .text text

def empty (status : Nat) : Response where
  status
  headers := []
  body := .empty

def withHeader (r : Response) (name value : String) : Response :=
  { r with headers := r.headers ++ [(name, value)] }

def withoutBody (r : Response) : Response :=
  { r with body := .empty }

end Response

/-- Why a request is not served. -/
inductive ServerError where
  | notFound (message : String)
  | badRequest (message : String)
  | collector (error : CollectorError)
  | projection (error : ProjectionError)

namespace ServerError

/-- After how many seconds a request may be made again that found no room. -/
def retryAfter : Nat := 5

/-- The response to a fact that was persisted but not queued: it names the envelope. -/
def unqueued (error : CollectorError) : Response :=
  let members := [
    ("error", Json.text error.message),
    ("envelope_id", .ofOption (error.envelope?.map EnvelopeId.encode))]
  (Response.json 503 (.ofMembers members)).withHeader "retry-after" (toString retryAfter)

/-- The response that tells a client what went wrong. -/
def response : ServerError → Response
  | .notFound message => .error 404 message
  | .badRequest message => .error 400 message
  | .collector error =>
    match error with
    | .invalid _ => .error 400 error.message
    | .store _ => .error 500 error.message
    | .backpressure _ _ => unqueued error
    | .closed _ => unqueued error
  | .projection error => .error 500 error.message

end ServerError

inductive StartupError where
  | database (error : DatabaseError)
  | eventLog (error : EventLogError)
  | registry (error : ProjectionError)
  | io (message : String)
deriving DecidableEq

namespace StartupError

def kind : StartupError → String
  | .database _ => "Database"
  | .eventLog _ => "EventStore"
  | .registry _ => "Registry"
  | .io _ => "Io"

def message : StartupError → String
  | .database error => "Failed to connect to database: " ++ error.message
  | .eventLog error => "Failed to prepare event store: " ++ error.message
  | .registry error => "Failed to build projector registry: " ++ error.message
  | .io message => "Server I/O error: " ++ message

instance : Reported StartupError := ⟨kind, message⟩

end StartupError

end AgentFacts
