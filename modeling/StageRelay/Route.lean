import StageRelay.Condition

/-!
# Routes

A route applies to the requests that its condition accepts, and lists the
extensions that they pass through, each with a condition of its own. Routes are
tried in their order; one without a name is known by its position.
-/

namespace StageRelay

structure StageRef where
  name : String
  condition : Condition
deriving Inhabited

structure Route where
  name : Option String
  condition : Condition
  stages : List StageRef
deriving Inhabited

/-- The name of a route in messages. A route without a name of its own is called by its
position, counted from zero. -/
def Route.label (r : Route) (index : Nat) : String := r.name.getD s!"#{index}"

end StageRelay
