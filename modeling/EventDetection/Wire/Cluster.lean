import EventDetection.Cluster
import EventDetection.Json.Record

/-!
# JSON forms of clusterings and clusters
-/

namespace EventDetection

open Json (Codec Fields Value)

namespace Clustering

def fields : Fields (String × Option String × Int64 × Option UInt32 × Option String × Unit) :=
  .required "id" .string <|
  .withDefault "name" Codec.string.optional none <|
  .required "created_at" .int64 <|
  .withDefault "nb_clusters" Codec.uint32.optional none <|
  .withDefault "status" Codec.string.optional none .nil

def codec : Codec Clustering :=
  (Codec.openRecord "Clustering" fields).convert
    (fun ((id, name, createdAt, clusterCount, status, ()), others) =>
      { id, name, createdAt, clusterCount, status, others })
    (fun c => ((c.id, c.name, c.createdAt, c.clusterCount, c.status, ()), c.others))

/-- The clusterings in the answer of the server. -/
def answerCodec : Codec (List Clustering) :=
  (Codec.record "Clusterings" (.withDefault "clusterings" codec.list [] .nil)).convert
    (fun (cs, ()) => cs) (fun cs => (cs, ()))

end Clustering

namespace Cluster

def fields : Fields (String × String × String × String × UInt64 × Unit) :=
  .required "id" .string <|
  .required "clustering_id" .string <|
  .required "name" .string <|
  .required "description" .string <|
  .required "size" .uint64 .nil

def codec : Codec Cluster :=
  (Codec.openRecord "Cluster" fields).convert
    (fun ((id, clusteringId, name, description, size, ()), others) =>
      { id, clusteringId, name, description, size, others })
    (fun c => ((c.id, c.clusteringId, c.name, c.description, c.size, ()), c.others))

/-- The clusters in the answer of the server. -/
def answerCodec : Codec (List Cluster) :=
  (Codec.record "Clusters" (.withDefault "clusters" codec.list [] .nil)).convert
    (fun (cs, ()) => cs) (fun cs => (cs, ()))

end Cluster

end EventDetection
