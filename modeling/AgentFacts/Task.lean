namespace AgentFacts

/-- The tasks that run side by side. A client is someone from outside, such as a request or a
replay; the supervisor starts the workers and ends them. -/
inductive TaskId where
  | client (index : Nat)
  | worker (index : Nat)
  | supervisor
deriving DecidableEq, Inhabited, Repr

end AgentFacts
