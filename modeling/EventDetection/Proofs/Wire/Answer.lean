import EventDetection.Proofs.Wire.Cluster
import EventDetection.Proofs.Wire.Definition

/-!
# Answers

The server wraps what it is asked for: it is the only declared member of the answer.  An answer may
also be a list with that as its only item.

* `Json.Value.wrapped?`: what an answer wraps.
* `Json.Codec.shows_wrapper`: **a wrapper is read as what it wraps**, or as the default if it wraps
  nothing.
* `Project.shows_answer`, `Clustering.shows_answer`, `Cluster.shows_answer`: the answers of the
  platform.  A list keeps its order.
* `Clustering.read_answer_of_lacks`, `Cluster.read_answer_of_lacks`: **a missing list is read as the
  empty one.**
-/

namespace EventDetection

open Json (Codec Field Fields Value)

/-! ### Wrappers -/

/-- What an answer wraps: the member of the given name, or the first item of a list. -/
def Json.Value.wrapped? (name : String) : Value → Option Value
  | .array vs => vs.head?
  | v => v.member? name

/-- An object without a member of the given name. -/
def Json.Value.Lacks (v : Value) (name : String) : Prop :=
  (∃ ms, v = .object ms) ∧ v.member? name = none

namespace Json.Codec

variable {α : Type}

/-- The items are read one by one from those of the list that is given; none is read from none. -/
def ShowsItems (c : Codec α) (xs : List α) : Option Value → Prop
  | none => xs = []
  | some v => ∃ vs, v = .array vs ∧ List.Forall₂ c.Shows xs vs

theorem nodup_names_wrapper (f : Field α) : (Fields.cons f .nil).names.Nodup :=
  List.nodup_cons.2 ⟨List.not_mem_nil, List.nodup_nil⟩

theorem aligned_wrapper {f : Field α} (hf : f.codec.Aligned) (name : String) :
    (record name (.cons f .nil)).Aligned := by
  have haligned : (Fields.cons f .nil).Aligned := ⟨hf, trivial⟩
  exact aligned_record haligned (nodup_names_wrapper f) name

theorem shows_wrapper {f : Field α} (hf : f.codec.Aligned) {name : String} {x : α} {v : Value}
    (h : (record name (.cons f .nil)).Shows (x, ()) v) :
    match v.wrapped? f.name with
      | some w => f.codec.Shows x w
      | none => f.default? = some x := by
  have haligned : (Fields.cons f .nil).Aligned := ⟨hf, trivial⟩
  obtain ⟨d, rfl, hfield, -⟩ | ⟨vs, rfl, hitems⟩ :=
    shows_record haligned (nodup_names_wrapper f) h
  · exact hfield
  · cases vs with
    | nil => exact hitems.1
    | cons w ws => exact hitems.1

theorem showsItems_of_wrapper {c : Codec α} (hc : c.Aligned) {wrapper name : String} {xs : List α}
    {v : Value} (h : (record wrapper (.withDefault name c.list [] .nil)).Shows (xs, ()) v) :
    c.ShowsItems xs (v.wrapped? name) := by
  have hshows := shows_wrapper (aligned_list hc) h
  dsimp only at hshows
  cases hw : v.wrapped? name with
  | none =>
    rw [hw] at hshows
    exact (Option.some.inj hshows).symm
  | some w =>
    rw [hw] at hshows
    exact shows_list hc hshows

theorem scan_wrapper_of_lacks {f : Field α} {x : α} (hf : f.default? = some x) {wrapper : String}
    {v : Value} (hv : v.Lacks f.name) {room : Nat} {cs rest : List Char}
    (h : scanValue room cs = .ok (v, rest)) :
    (record wrapper (.cons f .nil)).scan room cs = .ok ((x, ()), rest) := by
  obtain ⟨⟨ms, rfl⟩, hmember⟩ := hv
  have hfinish : (Fields.cons f .nil).finish (Fields.cons f .nil).blank = .ok (x, ()) := by
    simp only [Fields.finish, Fields.blank, Option.none_or, hf]
    rfl
  refine scan_record_of_absent hfinish (fun k hk => ?_) h
  rw [Fields.names, Fields.names, List.mem_singleton] at hk
  rw [hk, hmember]

end Json.Codec

/-! ### What the platform answers -/

theorem Project.aligned_answer : answerCodec.Aligned :=
  Codec.aligned_convert (Codec.aligned_wrapper aligned_codec _) _ _

theorem Clustering.aligned_answer : answerCodec.Aligned :=
  Codec.aligned_convert (Codec.aligned_wrapper (Codec.aligned_list aligned_codec) _) _ _

theorem Cluster.aligned_answer : answerCodec.Aligned :=
  Codec.aligned_convert (Codec.aligned_wrapper (Codec.aligned_list aligned_codec) _) _ _

/-- A project is read from what stands under its name. -/
theorem Project.shows_answer {p : Project} {v : Value} (h : answerCodec.Shows p v) :
    ∃ w, v.wrapped? "project" = some w ∧ codec.Shows p w := by
  obtain ⟨⟨p', ⟨⟩⟩, hp, rfl⟩ := Codec.shows_convert h
  have hshows := Codec.shows_wrapper aligned_codec hp
  dsimp only at hshows
  cases hw : v.wrapped? "project" with
  | none =>
    rw [hw] at hshows
    exact nomatch hshows
  | some w =>
    rw [hw] at hshows
    exact ⟨w, rfl, hshows⟩

theorem Clustering.shows_answer {cs : List Clustering} {v : Value} (h : answerCodec.Shows cs v) :
    codec.ShowsItems cs (v.wrapped? "clusterings") := by
  obtain ⟨⟨cs', ⟨⟩⟩, hcs, rfl⟩ := Codec.shows_convert h
  exact Codec.showsItems_of_wrapper aligned_codec hcs

theorem Clustering.read_answer_of_lacks {text : String} {v : Value}
    (hv : Value.parse text = .ok v) (h : v.Lacks "clusterings") :
    answerCodec.read text = .ok [] :=
  Codec.read_of_parse (fun hscan =>
    Json.map_eq_ok_iff.2 ⟨_, Codec.scan_wrapper_of_lacks rfl h hscan, rfl⟩) hv

theorem Cluster.shows_answer {cs : List Cluster} {v : Value} (h : answerCodec.Shows cs v) :
    codec.ShowsItems cs (v.wrapped? "clusters") := by
  obtain ⟨⟨cs', ⟨⟩⟩, hcs, rfl⟩ := Codec.shows_convert h
  exact Codec.showsItems_of_wrapper aligned_codec hcs

theorem Cluster.read_answer_of_lacks {text : String} {v : Value}
    (hv : Value.parse text = .ok v) (h : v.Lacks "clusters") :
    answerCodec.read text = .ok [] :=
  Codec.read_of_parse (fun hscan =>
    Json.map_eq_ok_iff.2 ⟨_, Codec.scan_wrapper_of_lacks rfl h hscan, rfl⟩) hv

end EventDetection
