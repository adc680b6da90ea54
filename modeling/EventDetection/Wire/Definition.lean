import EventDetection.Project
import EventDetection.Wire.Score

/-!
# JSON forms of definitions and projects

Definitions, settings and projects keep the members that are not declared here.
-/

namespace EventDetection

open Json (Codec Fields Value)

def Engine.wireName : Engine → String
  | .llm => "llm_detection"
  | .keyword => "keyword_detection"
  | .regex => "regex_detection"

def Engine.codec : Codec Engine := .tag [.llm, .keyword, .regex] Engine.wireName

def Scope.wireName : Scope → String
  | .task => "task"
  | .session => "session"
  | .taskInputOnly => "task_input_only"
  | .taskOutputOnly => "task_output_only"

def Scope.codec : Codec Scope :=
  .tag [.task, .session, .taskInputOnly, .taskOutputOnly] Scope.wireName

namespace Definition

def fields : Fields (Option String × String × String × String × String × Engine × Scope ×
    Option String × Option String × Option ScoreRange × Option String × Option (Dict String) ×
    Bool × Option String × Unit) :=
  .omissible "id" .string <|
  .required "project_id" .string <|
  .required "org_id" .string <|
  .required "event_name" .string <|
  .required "description" .string <|
  .withDefault "detection_engine" Engine.codec .llm <|
  .withDefault "detection_scope" Scope.codec .task <|
  .omissible "keywords" .string <|
  .omissible "regex_pattern" .string <|
  .omissible "score_range_settings" ScoreRange.codec <|
  .omissible "webhook" .string <|
  .withDefault "webhook_headers" Codec.string.dict.optional none <|
  .withDefault "is_last_task" .bool false <|
  .omissible "job_id" .string .nil

def codec : Codec Definition :=
  (Codec.openRecord "EventDefinition" fields).convert
    (fun ((id, projectId, orgId, name, description, engine, scope, keywords, regexPattern, score,
        webhook, webhookHeaders, lastTaskOnly, jobId, ()), others) =>
      { id, projectId, orgId, name, description, engine, scope, keywords, regexPattern, score,
        webhook, webhookHeaders, lastTaskOnly, jobId, others })
    (fun d =>
      ((d.id, d.projectId, d.orgId, d.name, d.description, d.engine, d.scope, d.keywords,
        d.regexPattern, d.score, d.webhook, d.webhookHeaders, d.lastTaskOnly, d.jobId, ()),
        d.others))

end Definition

namespace Settings

def fields : Fields (Dict Definition × Unit) :=
  .withDefault "events" Definition.codec.dict Dict.empty .nil

def codec : Codec Settings :=
  (Codec.openRecord "ProjectSettings" fields).convert
    (fun ((events, ()), others) => { events, others }) (fun s => ((s.events, ()), s.others))

end Settings

namespace Project

def fields : Fields (String × String × Option String × Option Settings × Unit) :=
  .required "id" .string <|
  .required "org_id" .string <|
  .omissible "project_name" .string <|
  .withDefault "settings" Settings.codec.optional none .nil

def codec : Codec Project :=
  (Codec.openRecord "Project" fields).convert
    (fun ((id, orgId, name, settings, ()), others) => { id, orgId, name, settings, others })
    (fun p => ((p.id, p.orgId, p.name, p.settings, ()), p.others))

/-- A project in the answer of the server. -/
def answerCodec : Codec Project :=
  (Codec.record "ProjectResponse" (.required "project" codec .nil)).convert
    (fun (p, ()) => p) (fun p => (p, ()))

end Project

end EventDetection
