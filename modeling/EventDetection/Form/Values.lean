import EventDetection.Definition

/-!
# Form values

What is typed into the form of an event: the members of a definition that a user may
set, with the score still to be derived and the credentials of the webhook in a field
of their own.
-/

namespace EventDetection

/-- A score as it is typed in. -/
structure ScoreInput where
  scoreType : ScoreType := .confidence
  categories : Categories := .none
deriving DecidableEq, Inhabited

/-- A score range as it is shown in a form. -/
def ScoreInput.ofRange (s : ScoreRange) : ScoreInput := ⟨s.scoreType, .list s.categories⟩

/-- The score range that is meant. -/
def ScoreInput.derive (s : ScoreInput) : Except DerivationError ScoreRange :=
  ScoreRange.derive s.scoreType s.categories

/-- The values of the form of an event. -/
structure FormValues where
  name : String := ""
  description : String := ""
  webhook : Option String := none
  authorization : Option String := none
  engine : Engine := .llm
  scope : Scope := .task
  keywords : Option String := none
  regexPattern : Option String := none
  score : Option ScoreInput := none
  lastTaskOnly : Bool := false
deriving DecidableEq, Inhabited

namespace FormValues

/-- The values that describe a definition. -/
def ofDefinition (d : Definition) : FormValues where
  name := d.name
  description := d.description
  webhook := d.webhook
  authorization := d.authorization
  engine := d.engine
  scope := d.scope
  keywords := d.keywords
  regexPattern := d.regexPattern
  score := d.score.map ScoreInput.ofRange
  lastTaskOnly := d.lastTaskOnly

/-- The values with those of a template in place of all but the webhook's.  The engine is the
language model, and a missing score becomes a yes or no. -/
def withTemplate (v : FormValues) (t : Definition) : FormValues :=
  { ofDefinition t with
    webhook := v.webhook
    authorization := v.authorization
    engine := .llm
    score := some (.ofRange (t.score.getD .confidence)) }

end FormValues

end EventDetection
