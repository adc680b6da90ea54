import EventDetection.Text.Blank
import EventDetection.Text.Pieces

/-!
# Category labels

The labels of a category score are given as a list, or as one text with commas
between them.  Pieces of a text are trimmed, items of a list are taken as they are,
and empty labels are left out of both.  Repeated labels stay.
-/

namespace EventDetection

/-- Labels as they are given: a list, or a text with commas between them. -/
inductive Categories where
  | list (labels : List String)
  | text (text : String)
deriving DecidableEq, Inhabited

namespace Categories

/-- No labels were typed in. -/
def none : Categories := .text ""

/-- The labels that are meant. -/
def labels : Categories → List String
  | .list items => items.filter (· ≠ "")
  | .text t =>
    (((Text.pieces ',' t.toList).map Text.trim).filter (· ≠ [])).map String.ofList

def isEmpty (c : Categories) : Bool := c.labels.isEmpty

end Categories

end EventDetection
