import EventDetection.Form.Values

/-!
# Validation

Form values describe a definition if the name and the description have a fitting
length and, where the engine reads the score, the score can be derived.  Lengths are
counted in characters.

* `FormValues.validate`: the definition, or every violated constraint in the order of
  the fields.
* `Definition.violations`: the same constraints for a definition that was built elsewhere.
-/

namespace EventDetection

/-- A field of the form that shows errors. -/
inductive FormField where
  | name
  | description
  | categories
deriving DecidableEq

def FormField.path : FormField → String
  | .name => "event_name"
  | .description => "description"
  | .categories => "score_range_settings.categories"

/-- A violated constraint. -/
inductive Violation where
  | nameTooShort
  | nameTooLong
  | descriptionTooShort
  | descriptionTooLong
  | score (e : DerivationError)
deriving DecidableEq

/-- The field that shows a violation. -/
def Violation.field : Violation → FormField
  | .nameTooShort | .nameTooLong => .name
  | .descriptionTooShort | .descriptionTooLong => .description
  | .score _ => .categories

def Violation.message : Violation → String
  | .nameTooShort => "Event name must be at least 2 characters."
  | .nameTooLong => "Event name must be at most 32 characters."
  | .descriptionTooShort => "Description must be at least 10 characters long."
  | .descriptionTooLong => "Description must be at most 1000 characters long."
  | .score e => e.reason

/-- The message behind the field it belongs to. -/
def Violation.text (v : Violation) : String := v.field.path ++ ": " ++ v.message

namespace FormValues

def minName : Nat := 2
def maxName : Nat := 32
def minDescription : Nat := 10
def maxDescription : Nat := 1000

/-- The side on which a length is out of bounds, if it is. -/
def checkLength (least greatest : Nat) (tooShort tooLong : Violation) (s : String) :
    List Violation :=
  if s.length < least then [tooShort] else if greatest < s.length then [tooLong] else []

/-- The score of the definition, and what is wrong with it.  Only the language model reads
the score; for other engines one that cannot be derived is left out. -/
def checkScore (v : FormValues) : Option ScoreRange × List Violation :=
  match v.score with
  | none => (none, [])
  | some s =>
    match s.derive, v.engine with
    | .ok r, _ => (some r, [])
    | .error e, .llm => (none, [.score e])
    | .error _, _ => (none, [])

/-- All violated constraints, in the order of the fields. -/
def violations (v : FormValues) : List Violation :=
  checkLength minName maxName .nameTooShort .nameTooLong v.name ++
    checkLength minDescription maxDescription .descriptionTooShort .descriptionTooLong
      v.description ++
    v.checkScore.2

/-- A text, unless it is empty. -/
def nonEmpty (s : Option String) : Option String := s.filter (· ≠ "")

/-- The definition that the values describe.  It has neither an id nor a job, so that the
server starts a new one for it. -/
def definition (v : FormValues) (projectId orgId : String) : Definition where
  projectId := projectId
  orgId := orgId
  name := v.name
  description := v.description
  engine := v.engine
  scope := v.scope
  keywords := nonEmpty v.keywords
  regexPattern := nonEmpty v.regexPattern
  score := v.checkScore.1
  webhook := nonEmpty v.webhook
  webhookHeaders := (nonEmpty v.authorization).map fun a =>
    Dict.empty.insert Definition.authorizationHeader a
  lastTaskOnly := v.lastTaskOnly

/-- The definition that the values describe, or all violated constraints. -/
def validate (v : FormValues) (projectId orgId : String) :
    Except (List Violation) Definition :=
  match v.violations with
  | [] => .ok (v.definition projectId orgId)
  | vs => .error vs

end FormValues

/-- The constraints that a definition violates, as its form would show them. -/
def Definition.violations (d : Definition) : List Violation :=
  match (FormValues.ofDefinition d).validate d.projectId d.orgId with
  | .ok _ => []
  | .error vs => vs

end EventDetection
