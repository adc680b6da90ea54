import EventDetection.Cluster
import EventDetection.Log

/-!
# Browsing clusters

The clusters of one clustering are shown with the largest first.  Without an id it is
the latest clustering, which a source lists first.
-/

namespace EventDetection

/-- Where clusterings and their clusters come from.  A failure is a reason. -/
structure ClusterSource (σ : Type) where
  /-- the clusterings of a project, the latest first -/
  clusterings : (projectId : String) → Action σ (Except String (List Clustering))
  clusters : (projectId clusteringId : String) → Action σ (Except String (List Cluster))

/-- The clusters of one clustering. -/
structure ClusterView where
  clustering : Clustering
  clusters : List Cluster
deriving DecidableEq

/-- The clustering that is asked for. -/
def chosen? (clusteringId : Option String) (cs : List Clustering) : Option Clustering :=
  match clusteringId with
  | some id => cs.find? fun c => c.id = id
  | none => cs.head?

/-- Shows a clustering, the latest one unless an id is given. -/
def ClusterSource.browse {σ : Type} (source : ClusterSource σ) (projectId : String)
    (clusteringId : Option String) : Action σ (Except String (Option ClusterView)) := do
  match ← source.clusterings projectId with
  | .error reason => return .error reason
  | .ok cs =>
    match chosen? clusteringId cs with
    | none =>
      Action.event (.nothingToBrowse projectId)
      return .ok none
    | some clustering =>
      match ← source.clusters projectId clustering.id with
      | .error reason => return .error reason
      | .ok clusters =>
        Action.event (.clustersLoaded projectId clustering.title clusters.length)
        return .ok (some ⟨clustering, Cluster.bySize clusters⟩)

end EventDetection
