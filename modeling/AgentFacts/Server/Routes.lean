import AgentFacts.Server.CollectRequest
import AgentFacts.Server.PathText

namespace AgentFacts

inductive Route where
  | health
  | ping
  | collect
  | heartbeat (agent : String)
  | subscriptions
  | subscriptionsOf (agent : String)
  | metrics
deriving DecidableEq

namespace Route

def segments (path : String) : Option (List (List Char)) :=
  match path.toList with
  | '/' :: rest => some (split [] rest)
  | _ => none
where
  /-- The segment in progress is in reverse. -/
  split (segment : List Char) : List Char → List (List Char)
    | [] => [segment.reverse]
    | '/' :: rest => segment.reverse :: split [] rest
    | c :: rest => split (c :: segment) rest

/-- The route of a path. An agent's id is as it stands in the path; at its end it is not empty. -/
def ofPath? (path : String) : Option Route :=
  match (segments path).map (·.map String.ofList) with
  | some ["health"] => some .health
  | some ["metrics"] => some .metrics
  | some ["api", "ping"] => some .ping
  | some ["api", "collect"] => some .collect
  | some ["api", "hosts", agent, "heartbeat"] => some (.heartbeat agent)
  | some ["api", "subscriptions"] => some .subscriptions
  | some ["api", "subscriptions", agent] =>
    if agent = "" then none else some (.subscriptionsOf agent)
  | _ => none

/-- Whether a route takes something in; the others only show something. -/
def takesIn : Route → Bool
  | .collect => true
  | .heartbeat _ => true
  | _ => false

def allow (route : Route) : String :=
  if route.takesIn then "POST" else "GET,HEAD"

end Route

namespace Server

def countersType : String := "text/plain; version=0.0.4; charset=utf-8"

/-- Submits a fact and tells how that went. -/
def submit (timeout : Span) (payload : Json) (source : AgentId) (eventType : EventType)
    (counter : String → Counter) : Program (Except (Halt ServerError) Response) := do
  match ← (Collector.submit payload source eventType timeout).run with
  | .ok ack =>
    .count (counter "accepted")
    return .ok (.json 202 ack.encode)
  | .error .panic => return .error .panic
  | .error (.error error) =>
    .count (counter "rejected")
    return .ok (ServerError.collector error).response

/-- Calls `serve` with the id of an agent in a path. -/
def withAgent (agent : String) (serve : AgentId → Program (Except (Halt ServerError) Response)) :
    Program (Except (Halt ServerError) Response) :=
  match PathText.decode agent with
  | some id => serve ⟨id⟩
  | none => return .ok (.plain 400 "Invalid URL: Invalid UTF-8 in `agent_id`")

def ledger : Program (Except ProjectionError (List Subscription)) :=
  .ask (.read .subscriptions)

def showSubscriptions (rows : List Subscription) : Response :=
  .json 200 (.list (rows.map Subscription.encode))

def serve (timeout : Span) (request : Request) :
    Route → Program (Except (Halt ServerError) Response)
  | .health => return .ok (.json 200 (.ofMembers [("status", .text "ok")]))
  | .ping => return .ok (.json 200 (.ofMembers [("status", .text "pong")]))
  | .metrics => return .ok ⟨200, [("content-type", countersType)], .counters⟩
  | .collect =>
    match CollectRequest.ofRequest request with
    | .error reason => return .ok (ServerError.badRequest reason).response
    | .ok body =>
      submit timeout body.payload ⟨body.agent⟩ ⟨body.discoveryType⟩ .collectRequest
  | .heartbeat agent =>
    withAgent agent fun source =>
      submit timeout (.object []) source .hostHeartbeat .heartbeatRequest
  | .subscriptions => do
    match ← ledger with
    | .ok rows => return .ok (showSubscriptions rows)
    | .error error => return .ok (ServerError.projection error).response
  | .subscriptionsOf agent =>
    withAgent agent fun source => do
      match ← (Program.ask (.read (.subscriptionsOf source)) :
          Program (Except ProjectionError (List Subscription))) with
      | .error error => return .ok (ServerError.projection error).response
      | .ok [] =>
        let message := "No subscriptions recorded for agent " ++ source.text
        return .ok (ServerError.notFound message).response
      | .ok rows => return .ok (showSubscriptions rows)

def openToAll (r : Response) : Response :=
  r.withHeader "access-control-allow-origin" "*"

/-- The response to the question of what other sites may ask for. -/
def preflight : Response :=
  (((Response.empty 200).withHeader "access-control-allow-origin" "*").withHeader
    "access-control-allow-methods" "*").withHeader "access-control-allow-headers" "*"

def refuseMethod (route : Route) : Response :=
  openToAll ((Response.empty 405).withHeader "allow" route.allow)

def handle (timeout : Span) (request : Request) :
    Program (Except (Halt ServerError) Response) :=
  match Route.ofPath? request.path with
  | none =>
    return .ok (if request.method = "OPTIONS" then preflight else openToAll (.empty 404))
  | some route => do
    let served : Program (Except (Halt ServerError) Response) := do
      return (← serve timeout request route).map openToAll
    if request.method = "OPTIONS" then return .ok (preflight.withHeader "allow" route.allow)
    else if route.takesIn then
      if request.method = "POST" then served else return .ok (refuseMethod route)
    else if request.method = "GET" then served
    else if request.method = "HEAD" then return (← served).map Response.withoutBody
    else return .ok (refuseMethod route)

end Server

end AgentFacts
