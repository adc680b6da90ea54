import EventDetection.Text.Blank
import EventDetection.Text.Lowercase

/-!
# Plans

The plan of an organisation limits how many events a project may hold.
-/

namespace EventDetection

/-- The billing plan of an organisation. -/
inductive Plan where
  | pro
  | hobby
  | other (name : String)
deriving DecidableEq, Inhabited

namespace Plan

/-- The plan of a name, blanks at its ends and capitals apart.  No name is the hobby plan. -/
def parse (s : String) : Plan :=
  let name := String.ofList (Text.lowercase (Text.trim s.toList))
  if name = "pro" then .pro
  else if name = "hobby" ∨ name = "" then .hobby
  else .other name

/-- The number of events that a project may hold. -/
def quota : Plan → Nat
  | .pro => 100
  | _ => 10

/-- Whether a project with `count` events may take one more. -/
def hasRoom (p : Plan) (count : Nat) : Bool := count < p.quota

end Plan

end EventDetection
