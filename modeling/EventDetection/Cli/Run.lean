import EventDetection.Cli.Command
import EventDetection.Cli.Report
import EventDetection.Config.EnvFile
import EventDetection.Platform.Services
import EventDetection.Wire.FormValues

/-!
# Running commands

* `Command.run`: what a command reports, and the exchanges that it leaves behind.
* `run`: the same for a command line.
-/

namespace EventDetection.Cli

open Http (Network Trace)

/-- What a command finds: files, variables that are set, and a network. -/
structure World where
  files : Files
  environment : Environment
  network : Network

namespace World

/-- The variables, with those of the file that sets some. -/
def fullEnvironment (w : World) : Environment :=
  match w.files envFile with
  | .ok text => EnvFile.load w.environment text
  | .error _ => w.environment

/-- Reads the configuration. -/
def config (w : World) : Logged (Except Failure Config) := do
  return (← Config.load w.fullEnvironment).mapError .config

/-- Reads the form values of a file. -/
def formValues (w : World) (path : String) : Except Failure FormValues := do
  let text ← (w.files path).mapError (.noFile path)
  (FormValues.codec.read text).mapError .notFormValues

/-- The client of the platform. -/
def platform (_ : World) (c : Config) : Client := Client.ofAddress c.platformUrl c.accessToken

/-- Where feedback goes. -/
def feedbackSink (w : World) (c : Config) : FeedbackSink Trace :=
  match c.telemetryKey with
  | some key => (Client.ofAddress c.telemetryUrl key).feedbackSink w.network
  | none => .disabled

end World

/-- A part of a command that may fail. -/
abbrev Part := ExceptT Failure (Action Trace)

/-- The report of a command that may fail. -/
def Part.report (p : Part Report) : Action Trace Report := do
  match ← p.run with
  | .ok r => return r
  | .error f => return .failure f

namespace Part

def ofExcept {α : Type} (r : Except Failure α) : Part α := ExceptT.mk (pure r)

def ofAction {α : Type} (a : Action Trace (Except Failure α)) : Part α := ExceptT.mk a

def ofLogged {α : Type} (a : Logged (Except Failure α)) : Part α := ExceptT.mk (liftM a)

/-- A part that does not fail. -/
def always {α : Type} (a : Logged α) : Part α := ofLogged (Except.ok <$> a)

end Part

namespace Command

def scoreTypeName : ScoreType → String
  | .confidence => "Confidence"
  | .range => "Range"
  | .category => "Category"

/-- What is told of the score of form values. -/
def scoreNote (f : Form) : List String :=
  match f.derivedScore with
  | none => []
  | some (.ok s) =>
    ["score: " ++ scoreTypeName s.scoreType ++ " " ++ toString s.min.toInt ++ ".." ++
      toString s.max.toInt ++ " " ++ Text.quotedList s.categories]
  | some (.error e) => ["score: " ++ e.message]

def runValidate (w : World) (file : String) : Part Report := do
  let values ← Part.ofExcept (w.formValues file)
  let form := { Form.create none with values }
  let (checked, _) ← Part.always (form.validate "" "")
  let report := match checked with
    | .ok d => Report.json (Definition.codec.write d)
    | .error vs => .failure (.invalid vs)
  return report.withNotes (scoreNote form)

/-- The form that a submission starts from. -/
def openForm (p : Project) (projectId : String) : Option String → Except Failure Form
  | none => .ok (Form.create none)
  | some name =>
    match p.event? name with
    | some d => .ok (Form.edit d)
    | none => .error (.noEvent name projectId)

def runSubmit (w : World) (project : String) (edit : Option String) (file : String) :
    Part Report := do
  let config ← Part.ofLogged w.config
  let store := (w.platform config).projectStore w.network
  let session ← Part.ofAction do
    return (← Session.load store project config.rollback).mapError .service
  let form ← Part.ofExcept (openForm session.project project edit)
  let values ← Part.ofExcept (w.formValues file)
  let d ← Part.ofAction do
    let (r, _) ← session.submit store { form with values } config.plan
    return r.mapError .setup
  return .json (Definition.codec.write d)

/-- The selection of a template with some names toggled, each time that they occur. -/
def selection (config : Config) (project org template : String) (skip : List String)
    (taskId : Option String) : Logged Onboarding := do
  let start : Onboarding := {
    projectId := project, orgId := org, taskId, telemetryProjectId := config.telemetryProjectId }
  return skip.foldl Onboarding.toggle (← start.selectTemplate template)

def runOnboard (w : World) (project org template : String) (skip : List String)
    (taskId : Option String) : Part Report := do
  let config ← Part.ofLogged w.config
  let flow ← Part.always (selection config project org template skip taskId)
  let outcome ← Part.ofAction do
    let r ← flow.confirmAndEmit ((w.platform config).eventSink w.network) (w.feedbackSink config)
    return r.mapError .setup
  return { out := outcome.redirectTo ++ "\n", err := outcome.notice ++ "\n" }

/-- A number at the right end of six places. -/
def padded (n : Nat) : String :=
  let digits := toString n
  "".pushn ' ' (6 - digits.length) ++ digits

def clusterLine (c : Cluster) : String :=
  padded c.size.toNat ++ "  " ++ c.name ++ if c.canBreakDown then " (break down)" else ""

def clustersReport (project org : String) (seed : Bool) : Option ClusterView → Report
  | none => { out := "No clustering yet\n" }
  | some view =>
    if seed then
      .json (Definition.codec.list.write (view.clusters.map fun c => c.seed project org))
    else { out := Report.lines (view.clustering.title :: view.clusters.map clusterLine) }

def runClusters (w : World) (project : String) (clustering : Option String) (seed : Bool)
    (org : String) : Part Report := do
  let config ← Part.ofLogged w.config
  let source := (w.platform config).clusterSource w.network
  let view ← Part.ofAction do
    return (← source.browse project clustering).mapError .service
  return clustersReport project org seed view

/-- Runs a command. -/
def run (w : World) : Command → Action Trace Report
  | .templates name project org =>
    return .json (Definition.codec.list.write ((Template.named name).definitions project org))
  | .starters category project org =>
    return .json (Definition.codec.list.write (Starter.definitions category project org))
  | .validate file => (runValidate w file).report
  | .submit project edit file => (runSubmit w project edit file).report
  | .onboard project org template skip taskId =>
    (runOnboard w project org template skip taskId).report
  | .clusters project clustering seed org => (runClusters w project clustering seed org).report

end Command

/-- Runs a command line. -/
def run (w : World) (args : List String) : Action Trace Report :=
  match Command.parse args with
  | none => return .badArguments Command.usage
  | some c => c.run w

end EventDetection.Cli
