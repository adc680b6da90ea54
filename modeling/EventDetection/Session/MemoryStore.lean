import EventDetection.Session.Basic

/-!
# A store in memory

A store that holds projects by their ids and counts the attempts to save one.  It
rejects the attempts that it is told to reject.
-/

namespace EventDetection

/-- Projects by id, with every attempt to save one. -/
structure MemoryStore where
  projects : Dict Project := Dict.empty
  attempts : List Project := []
  /-- whether the attempt of the given number, from 0 on, is rejected -/
  rejects : Nat → Bool := fun _ => false

namespace MemoryStore

/-- Puts a project into the store, in place of one with its id. -/
def put (m : MemoryStore) (p : Project) : MemoryStore :=
  { m with projects := m.projects.insert p.id p }

def get? (m : MemoryStore) (projectId : String) : Option Project := m.projects.get? projectId

/-- The number of attempts to save, rejected ones included. -/
def saveCount (m : MemoryStore) : Nat := m.attempts.length

/-- Loads a project. -/
def load (m : MemoryStore) (projectId : String) : Except String Project :=
  match m.get? projectId with
  | some p => .ok p
  | none => .error ("MemoryProjectStore: no project " ++ projectId)

/-- Saves a project, unless the attempt is to be rejected. -/
def save (m : MemoryStore) (p : Project) : Except String Unit × MemoryStore :=
  let tried := { m with attempts := m.attempts ++ [p] }
  if m.rejects m.saveCount then (.error "MemoryProjectStore: save rejected", tried)
  else (.ok (), tried.put p)

/-- The store that a session uses. -/
def store : ProjectStore MemoryStore where
  load id := fun m => ⟨(m.load id, m), []⟩
  save p := fun m => ⟨m.save p, []⟩

end MemoryStore

end EventDetection
