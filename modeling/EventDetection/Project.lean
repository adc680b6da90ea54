import EventDetection.Definition

/-!
# Projects

A project files its events by name in its settings.

* `Settings.insertEvent` files a definition under its own name and returns the one
  that it replaces, so that a collision of names can be seen.
-/

namespace EventDetection

/-- The settings of a project. -/
structure Settings where
  events : Dict Definition := Dict.empty
  /-- members that are kept as they are -/
  others : Dict Json.Value := Dict.empty
deriving DecidableEq, Inhabited

namespace Settings

def count (s : Settings) : Nat := s.events.size

/-- Leaves out the event of the given name, and returns it. -/
def removeEvent (s : Settings) (name : String) : Settings × Option Definition :=
  ({ s with events := s.events.erase name }, s.events.get? name)

/-- Files a definition under its own name, and returns the one that it replaces. -/
def insertEvent (s : Settings) (d : Definition) : Settings × Option Definition :=
  ({ s with events := s.events.insert d.name d }, s.events.get? d.name)

end Settings

/-- A project of an organisation. -/
structure Project where
  id : String
  orgId : String
  name : Option String := none
  settings : Option Settings := none
  /-- members that are kept as they are -/
  others : Dict Json.Value := Dict.empty
deriving DecidableEq, Inhabited

namespace Project

/-- The event filed under `name`. -/
def event? (p : Project) (name : String) : Option Definition :=
  p.settings.bind fun s => s.events.get? name

/-- The number of events; none without settings. -/
def eventCount (p : Project) : Nat := (p.settings.map Settings.count).getD 0

end Project

end EventDetection
