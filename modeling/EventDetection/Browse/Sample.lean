import EventDetection.Cluster

/-!
# Sample clusterings
-/

namespace EventDetection

/-- A clustering without a name. -/
def Clustering.sample (id : String) (createdAt : Int64) : Clustering :=
  { id, createdAt, status := some "completed" }

def Cluster.sample (clusteringId id : String) (size : UInt64) : Cluster :=
  { id, clusteringId, size, name := "Cluster " ++ id
    description := "Users asking about topic " ++ id ++ "." }

end EventDetection
