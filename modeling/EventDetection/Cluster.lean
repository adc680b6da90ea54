import EventDetection.Calendar
import EventDetection.Definition

/-!
# Clusterings

The server groups the tasks of a project into clusters.  A clustering lists them, and
each cluster can be the seed of an event definition.
-/

namespace EventDetection

/-- One grouping of the tasks of a project. -/
structure Clustering where
  id : String
  name : Option String := none
  /-- seconds since the start of 1970 -/
  createdAt : Int64
  clusterCount : Option UInt32 := none
  status : Option String := none
  /-- members that are kept as they are -/
  others : Dict Json.Value := Dict.empty
deriving DecidableEq, Inhabited

namespace Clustering

/-- The time of its creation, or the bare number of seconds where no date can be shown. -/
def creationText (c : Clustering) : String :=
  match Calendar.Moment.ofSeconds? c.createdAt.toInt with
  | some m => String.ofList m.chars
  | none => toString c.createdAt.toInt

/-- The name of a clustering, or the time of its creation. -/
def title (c : Clustering) : String :=
  match c.name with
  | some name => if name = "" then c.creationText else name
  | none => c.creationText

end Clustering

/-- A group of similar tasks. -/
structure Cluster where
  id : String
  clusteringId : String
  name : String
  description : String
  size : UInt64
  /-- members that are kept as they are -/
  others : Dict Json.Value := Dict.empty
deriving DecidableEq, Inhabited

namespace Cluster

/-- Clusters of at most this size are not worth a closer look. -/
def breakDownSize : UInt64 := 5

def canBreakDown (c : Cluster) : Bool := breakDownSize < c.size

/-- An event that detects what the cluster is about, with a yes or no score. -/
def seed (c : Cluster) (projectId orgId : String) : Definition :=
  { projectId, orgId, name := c.name, description := c.description,
    score := some ScoreRange.confidence }

/-- Largest first; clusters of one size keep their order. -/
def bySize (cs : List Cluster) : List Cluster :=
  cs.mergeSort fun a b => b.size ≤ a.size

end Cluster

end EventDetection
