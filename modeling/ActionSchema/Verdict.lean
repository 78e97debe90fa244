/-! What validation says about one action. An exempt type is ignored, whatever the payload; a type
that is declared is accepted or rejected by its payload, if payloads are checked at all. -/

namespace ActionSchema

inductive Verdict
  | ignored
  | accepted
  | rejected
  | unknown
deriving DecidableEq, Repr

namespace Verdict

def isReported : Verdict → Bool
  | rejected | unknown => true
  | ignored | accepted => false

def name : Verdict → String
  | ignored => "Ignored"
  | accepted => "Accepted"
  | rejected => "Rejected"
  | unknown => "Unknown"

end Verdict

end ActionSchema
