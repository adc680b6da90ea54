import EventDetection.Catalog.Starter
import EventDetection.Catalog.Template
import EventDetection.Cli.Arguments

/-!
# Commands
-/

namespace EventDetection.Cli

inductive Command where
  /-- prints the events of a template -/
  | templates (name project org : String)
  /-- prints the starter catalog -/
  | starters (category project org : String)
  /-- checks the form values of a file -/
  | validate (file : String)
  /-- creates an event from the form values of a file, or edits one -/
  | submit (project : String) (edit : Option String) (file : String)
  /-- adds the events of a template to a project, some of them left out -/
  | onboard (project org template : String) (skip : List String) (taskId : Option String)
  /-- lists the clusters of a clustering, or the events that they are seeds of -/
  | clusters (project : String) (clustering : Option String) (seed : Bool) (org : String)
deriving DecidableEq

namespace Command

def templatesGrammar : Grammar where
  options := [("name", .single), ("project", .single), ("org", .single)]

def startersGrammar : Grammar where
  options := [("category", .single), ("project", .single), ("org", .single)]

def validateGrammar : Grammar where
  options := []
  files := 1

def submitGrammar : Grammar where
  options := [("project", .single), ("edit", .single)]
  files := 1

def onboardGrammar : Grammar where
  options := [("project", .single), ("org", .single), ("template", .single), ("skip", .repeated),
    ("task-id", .single)]

def clustersGrammar : Grammar where
  options := [("project", .single), ("clustering", .single), ("seed", .flag), ("org", .single)]

/-- The command that the arguments ask for. -/
def parse : List String → Option Command
  | "templates" :: args => do
    let g ← templatesGrammar.scan args
    return .templates ((g.value? "name").getD (Template.name .writingAssistant))
      ((g.value? "project").getD "") ((g.value? "org").getD "")
  | "starters" :: args => do
    let g ← startersGrammar.scan args
    return .starters ((g.value? "category").getD Starter.allCategories)
      ((g.value? "project").getD "") ((g.value? "org").getD "")
  | "validate" :: args => do
    let g ← validateGrammar.scan args
    return .validate (← g.files.head?)
  | "submit" :: args => do
    let g ← submitGrammar.scan args
    return .submit (← g.value? "project") (g.value? "edit") (← g.files.head?)
  | "onboard" :: args => do
    let g ← onboardGrammar.scan args
    return .onboard (← g.value? "project") (← g.value? "org") (← g.value? "template")
      (g.values "skip") (g.value? "task-id")
  | "clusters" :: args => do
    let g ← clustersGrammar.scan args
    return .clusters (← g.value? "project") (g.value? "clustering") (g.has "seed")
      ((g.value? "org").getD "")
  | _ => none

/-- How commands are given. -/
def usage : List String := [
  "usage: eventkit templates [--name NAME] [--project ID] [--org ID]",
  "       eventkit starters [--category NAME] [--project ID] [--org ID]",
  "       eventkit validate FILE",
  "       eventkit submit --project ID [--edit NAME] FILE",
  "       eventkit onboard --project ID --org ID --template NAME [--skip NAME]... [--task-id ID]",
  "       eventkit clusters --project ID [--clustering ID] [--seed] [--org ID]"]

/-- The file that a command reads. -/
def file? : Command → Option String
  | .validate file | .submit _ _ file => some file
  | _ => none

end Command

end EventDetection.Cli
