namespace AgentFacts

/-- An error is reported by the name of its kind and a text. -/
class Reported (ε : Type) where
  kind : ε → String
  message : ε → String

end AgentFacts
