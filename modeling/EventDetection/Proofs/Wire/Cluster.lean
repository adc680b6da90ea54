import EventDetection.Proofs.Json.RoundTrip
import EventDetection.Wire.Cluster

/-!
# What the text of a clustering says

* `Clustering.roundTrips`, `Cluster.roundTrips`: **a written one is read back**, if what it keeps
  of other members is.
* `Clustering.aligned_codec`, `Cluster.aligned_codec`: what is read ends where the object ends.
-/

namespace EventDetection

open Json (Codec Fields)

namespace Clustering

theorem nodup_names : fields.names.Nodup := by decide

theorem aligned_fields : fields.Aligned :=
  have text := Codec.aligned_string
  ⟨text, Codec.aligned_optional text, Codec.aligned_word _ _ _,
    Codec.aligned_optional (Codec.aligned_word _ _ _), Codec.aligned_optional text, trivial⟩

theorem aligned_codec : codec.Aligned :=
  Codec.aligned_convert (Codec.aligned_openRecord aligned_fields nodup_names _) _ _

theorem roundTrips {c : Clustering} (h : fields.Keeps c.others) : codec.RoundTrips c := by
  have text := Codec.roundTrips_string
  have optional {x : Option String} : Codec.string.optional.RoundTrips x :=
    Codec.roundTrips_optional fun s _ => ⟨text s, nofun⟩
  refine Codec.roundTrips_convert (Codec.roundTrips_openRecord nodup_names ?_ h) rfl
  exact ⟨text c.id, optional, Codec.roundTrips_int64 c.createdAt,
    Codec.roundTrips_optional fun n _ => ⟨Codec.roundTrips_uint32 n, nofun⟩, optional, trivial⟩

theorem depth_write {c : Clustering} {room : Nat}
    (h : ∀ k v, c.others.get? k = some v → v.depth ≤ room) :
    (codec.write c).depth ≤ room + 1 :=
  Codec.depth_openRecord "Clustering" ⟨Nat.zero_le _, Codec.depth_optional fun _ _ => Nat.zero_le _,
    Nat.zero_le _, Codec.depth_optional fun _ _ => Nat.zero_le _,
    Codec.depth_optional fun _ _ => Nat.zero_le _, trivial⟩ h

end Clustering

namespace Cluster

theorem nodup_names : fields.names.Nodup := by decide

theorem aligned_fields : fields.Aligned :=
  have text := Codec.aligned_string
  ⟨text, text, text, text, Codec.aligned_word _ _ _, trivial⟩

theorem aligned_codec : codec.Aligned :=
  Codec.aligned_convert (Codec.aligned_openRecord aligned_fields nodup_names _) _ _

theorem roundTrips {c : Cluster} (h : fields.Keeps c.others) : codec.RoundTrips c := by
  have text := Codec.roundTrips_string
  refine Codec.roundTrips_convert (Codec.roundTrips_openRecord nodup_names ?_ h) rfl
  exact ⟨text c.id, text c.clusteringId, text c.name, text c.description,
    Codec.roundTrips_uint64 c.size, trivial⟩

theorem depth_write {c : Cluster} {room : Nat}
    (h : ∀ k v, c.others.get? k = some v → v.depth ≤ room) :
    (codec.write c).depth ≤ room + 1 :=
  Codec.depth_openRecord "Cluster" ⟨Nat.zero_le _, Nat.zero_le _, Nat.zero_le _, Nat.zero_le _,
    Nat.zero_le _, trivial⟩ h

end Cluster

end EventDetection
