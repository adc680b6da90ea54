import EventDetection.Wire.Definition

/-!
# JSON form of form values

All members may be missing, and all are written.

* `FormValues.set`: one member is replaced in the JSON form, and the result is read again.
-/

namespace EventDetection

open Json (Codec Fields ReadError Value)

namespace FormValues

def fields : Fields (String × String × Option String × Option String × Engine × Scope ×
    Option String × Option String × Option ScoreInput × Bool × Unit) :=
  .withDefault "event_name" .string "" <|
  .withDefault "description" .string "" <|
  .withDefault "webhook" Codec.string.optional none <|
  .withDefault "webhook_auth_header" Codec.string.optional none <|
  .withDefault "detection_engine" Engine.codec .llm <|
  .withDefault "detection_scope" Scope.codec .task <|
  .withDefault "keywords" Codec.string.optional none <|
  .withDefault "regex_pattern" Codec.string.optional none <|
  .withDefault "score_range_settings" ScoreInput.codec.optional none <|
  .withDefault "is_last_task" .bool false .nil

def codec : Codec FormValues :=
  (Codec.record "EventFormValues" fields).convert
    (fun (name, description, webhook, authorization, engine, scope, keywords, regexPattern, score,
        lastTaskOnly, ()) =>
      { name, description, webhook, authorization, engine, scope, keywords, regexPattern, score,
        lastTaskOnly })
    (fun v =>
      (v.name, v.description, v.webhook, v.authorization, v.engine, v.scope, v.keywords,
        v.regexPattern, v.score, v.lastTaskOnly, ()))

/-- The values with one member given anew.  A name that is not a member changes nothing. -/
def set (v : FormValues) (field : String) (value : Value) : Except ReadError FormValues :=
  let members := Dict.ofList (fields.write (v.name, v.description, v.webhook, v.authorization,
    v.engine, v.scope, v.keywords, v.regexPattern, v.score, v.lastTaskOnly, ()))
  codec.ofValue (.ofDict (members.insert field value))

end FormValues

end EventDetection
