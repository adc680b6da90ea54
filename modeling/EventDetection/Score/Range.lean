import EventDetection.Score.Categories

/-!
# Score ranges

The range of the scores of a detector follows from its score type:

| score type | least | greatest         | labels      |
|------------|-------|------------------|-------------|
| confidence | 0     | 1                | none        |
| range      | 1     | 5                | none        |
| category   | 1     | number of labels | one to nine |
-/

namespace EventDetection

/-- What the scores of a detector mean. -/
inductive ScoreType where
  /-- how sure it is that the answer is yes -/
  | confidence
  /-- a grade from 1 to 5 -/
  | range
  /-- one of several labels -/
  | category
deriving DecidableEq, Inhabited

/-- The scores that a detector may give. -/
structure ScoreRange where
  scoreType : ScoreType
  min : Int64
  max : Int64
  categories : List String
deriving DecidableEq, Inhabited

/-- Why no score range can be derived. -/
inductive DerivationError where
  /-- there are no labels, or more than nine -/
  | categoryCount
deriving DecidableEq

/-- The reason, as it is shown beside a field. -/
def DerivationError.reason : DerivationError → String
  | .categoryCount => "Categories must be between 1 and 9."

def DerivationError.message (e : DerivationError) : String := "Derivation error: " ++ e.reason

namespace ScoreRange

def minCategories : Nat := 1
def maxCategories : Nat := 9

def confidence : ScoreRange := ⟨.confidence, 0, 1, []⟩

def range : ScoreRange := ⟨.range, 1, 5, []⟩

/-- The score range of a type.  Labels matter to the category type only. -/
def derive (t : ScoreType) (c : Categories) : Except DerivationError ScoreRange :=
  match t with
  | .confidence => .ok confidence
  | .range => .ok range
  | .category =>
    let labels := c.labels
    if minCategories ≤ labels.length ∧ labels.length ≤ maxCategories then
      .ok ⟨.category, 1, Int64.ofNat labels.length, labels⟩
    else .error .categoryCount

/-- What a new form starts with.  A category has no labels yet, so that it cannot be
submitted before some are typed in. -/
def initial : ScoreType → ScoreRange
  | .confidence => confidence
  | .range => range
  | .category => ⟨.category, 1, 1, []⟩

/-- Whether the range is what its own type and labels give. -/
def isConsistent (s : ScoreRange) : Bool :=
  match derive s.scoreType (.list s.categories) with
  | .ok d => d = s
  | .error _ => false

end ScoreRange

end EventDetection
