import AgentFacts.Retry
import AgentFacts.Text.Blank

namespace AgentFacts

inductive LogFormat where
  | text
  | json
deriving DecidableEq, Inhabited

/-- Refuses a name that is not known; the name is told in lower case, without blanks around it. -/
def LogFormat.parse (s : String) : Except String LogFormat :=
  let name := String.ofList ((Text.trim s.toList).map Char.toLower)
  if name = "text" ∨ name = "pretty" then .ok .text
  else if name = "json" then .ok .json
  else .error ("unknown log format: " ++ name)

structure PipelineSettings where
  workers : Nat
  queueCapacity : Nat
  enqueueTimeout : Span
  shutdownGrace : Span
  retry : RetryPolicy
deriving DecidableEq, Inhabited

structure ServerSettings where
  host : String
  port : Nat
  logLevel : String
  logFormat : LogFormat
  databaseUrl : Option String
  databaseMaxConnections : Nat
  replayOnStart : Bool
  pipeline : PipelineSettings
deriving DecidableEq, Inhabited

/-- The variables that are set, by name. One that is not set, or not of the right form, leaves the
standard value. -/
abbrev Environment := List (String × String)

namespace Environment

/-- A whole number below a bound: digits, perhaps with a plus sign in front. -/
def parseNat (bound : Nat) (s : String) : Option Nat :=
  let digits := match s.toList with
    | '+' :: rest => rest
    | cs => cs
  if digits.isEmpty || digits.any (fun c => c < '0' || '9' < c) then none
  else
    let n := digits.foldl (fun n c => n * 10 + (c.toNat - 48)) 0
    if n < bound then some n else none

def parseBool (s : String) : Option Bool :=
  if s = "true" then some true
  else if s = "false" then some false
  else none

variable (env : Environment)

def text (name standard : String) : String :=
  (env.lookup name).getD standard

def nat (name : String) (bound standard : Nat) : Nat :=
  ((env.lookup name).bind (parseNat bound)).getD standard

def bool (name : String) (standard : Bool) : Bool :=
  ((env.lookup name).bind parseBool).getD standard

def millis (name : String) (standard : Nat) : Span :=
  .ofMillis (nat env name (Nat.pow 2 64) standard)

end Environment

namespace PipelineSettings

def standard : PipelineSettings where
  workers := 8
  queueCapacity := 256
  enqueueTimeout := .ofMillis 2000
  shutdownGrace := .ofMillis 10000
  retry := .standard

def ofEnvironment (env : Environment) : PipelineSettings where
  workers := env.nat "PIPELINE_WORKERS" (Nat.pow 2 64) standard.workers
  queueCapacity := env.nat "PIPELINE_QUEUE_CAPACITY" (Nat.pow 2 64) standard.queueCapacity
  enqueueTimeout := env.millis "PIPELINE_ENQUEUE_TIMEOUT_MS" standard.enqueueTimeout.millis
  shutdownGrace := env.millis "PIPELINE_SHUTDOWN_GRACE_MS" standard.shutdownGrace.millis
  retry := .new
    (env.nat "PIPELINE_MAX_ATTEMPTS" (Nat.pow 2 32) standard.retry.maxAttempts.toNat).toUInt32
    (env.millis "PIPELINE_RETRY_BASE_DELAY_MS" standard.retry.baseDelay.millis)

end PipelineSettings

namespace ServerSettings

def ofEnvironment (env : Environment) : ServerSettings where
  host := env.text "HOST" "0.0.0.0"
  port := env.nat "PORT" (Nat.pow 2 16) 3000
  logLevel := env.text "RUST_LOG" "info"
  logFormat :=
    match env.lookup "LOG_FORMAT" with
    | none => .text
    | some name =>
      match LogFormat.parse name with
      | .ok format => format
      | .error _ => .text
  databaseUrl := (env.lookup "DATABASE_URL").filter fun url => !Text.allBlank url
  databaseMaxConnections := env.nat "DATABASE_MAX_CONNECTIONS" (Nat.pow 2 32) 10
  replayOnStart := env.bool "REPLAY_ON_START" false
  pipeline := .ofEnvironment env

/-- Host and port, to bind to. -/
def address (s : ServerSettings) : String :=
  s.host ++ ":" ++ toString s.port

end ServerSettings

end AgentFacts
