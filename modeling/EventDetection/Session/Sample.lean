import EventDetection.Project

/-!
# Sample projects
-/

namespace EventDetection

/-- A project with one event per name. -/
def Project.sample (id : String) (names : List String) : Project where
  id := id
  orgId := "o1"
  name := some "Test project"
  settings := some <| names.foldl (fun s name =>
    (s.insertEvent
      { projectId := id, orgId := "o1", name, description := "Description of " ++ name }).1) {}

end EventDetection
