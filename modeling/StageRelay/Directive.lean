/-!
# Directives

What becomes of a run after a stage has answered: it goes on with the next
stage, or it ends with a rejection of the request.
-/

namespace StageRelay

abbrev Status := UInt16

inductive Directive where
  /-- Go on with the next stage. -/
  | forward
  /-- End the run and reject the request. -/
  | terminate
deriving DecidableEq, Repr, Inhabited

namespace Directive

def name : Directive → String
  | .forward => "forward"
  | .terminate => "terminate_error"

/-- The names that documents may use, in the order in which messages list them. Each
directive has two of them and is written under one. -/
def names : List (String × Directive) :=
  [("continue", .forward), ("forward", .forward), ("send_error", .terminate),
    ("terminate_error", .terminate)]

end Directive

end StageRelay
