import EventDetection.Browse.Basic

/-!
# Clusterings in memory

A source with a fixed list of clusterings.  Of two with one id both are listed, and
the clusters of the last one are those of both.
-/

namespace EventDetection

/-- Clusterings in order, and the clusters by the id of their clustering. -/
structure MemorySource where
  listed : List Clustering := []
  clustersOf : Dict (List Cluster) := Dict.empty

namespace MemorySource

/-- Appends a clustering with its clusters. -/
def append (m : MemorySource) (c : Clustering) (clusters : List Cluster) : MemorySource where
  listed := m.listed ++ [c]
  clustersOf := m.clustersOf.insert c.id clusters

/-- The clusters of a clustering. -/
def clusters (m : MemorySource) (clusteringId : String) : Except String (List Cluster) :=
  match m.clustersOf.get? clusteringId with
  | some cs => .ok cs
  | none => .error ("MemoryClusterSource: no clustering " ++ clusteringId)

/-- The source that is browsed. -/
def source : ClusterSource MemorySource where
  clusterings _ := fun m => ⟨(.ok m.listed, m), []⟩
  clusters _ id := fun m => ⟨(m.clusters id, m), []⟩

end MemorySource

end EventDetection
