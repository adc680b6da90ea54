import EventDetection.Proofs.Calls

/-!
# What is shown of a clustering

A source lists clusterings, and the first of them is shown, or the first one of a given id.  Its
clusters are asked for once, and all that the source gives are shown, the largest first.

* `Cluster.LargestFirst`: the order in which clusters are shown.
* `Cluster.largestFirst_bySize`: **sorting loses no cluster**, and keeps the order within a size.
* `Chosen`, `Lacking`: which clustering is shown, and when there is none to show.
* `ClusterSource.value_browse_of_error`, `ClusterSource.value_browse_of_lacking`,
  `ClusterSource.value_browse_of_chosen`: one equation for each way that browsing can go.
* `ClusterSource.browse_settles`: all that browsing does, whatever the source does.
-/

namespace EventDetection

/-! ### The order of clusters -/

namespace Cluster

/-- The clusters that were given, from the largest to the smallest.  Those of one size stand in the
order in which they were given. -/
structure LargestFirst (given shown : List Cluster) : Prop where
  perm : shown.Perm given
  descending : shown.Pairwise fun a b => b.size ≤ a.size
  stable : ∀ n, shown.filter (·.size = n) = given.filter (·.size = n)

theorem le_bySize_trans (a b c : Cluster) (hab : decide (b.size ≤ a.size) = true)
    (hbc : decide (c.size ≤ b.size) = true) : decide (c.size ≤ a.size) = true :=
  decide_eq_true (UInt64.le_trans (of_decide_eq_true hbc) (of_decide_eq_true hab))

theorem le_bySize_total (a b : Cluster) :
    (decide (b.size ≤ a.size) || decide (a.size ≤ b.size)) = true := by
  rw [Bool.or_eq_true, decide_eq_true_eq, decide_eq_true_eq]
  exact UInt64.le_total b.size a.size

theorem pairwise_bySize (cs : List Cluster) : (bySize cs).Pairwise fun a b => b.size ≤ a.size :=
  (List.pairwise_mergeSort le_bySize_trans le_bySize_total cs).imp of_decide_eq_true

/-- The clusters of one size are in order already, so that they are a sublist of what is sorted, and
there are no others of that size. -/
theorem filter_bySize (cs : List Cluster) (n : UInt64) :
    (bySize cs).filter (·.size = n) = cs.filter (·.size = n) := by
  have hsame : (cs.filter (·.size = n)).Pairwise fun a b => decide (b.size ≤ a.size) = true := by
    refine List.pairwise_of_forall_mem_list fun a ha b hb => decide_eq_true ?_
    have hsize : b.size = a.size :=
      (of_decide_eq_true (List.mem_filter.1 hb).2).trans
        (of_decide_eq_true (List.mem_filter.1 ha).2).symm
    rw [hsize]
    exact UInt64.le_refl a.size
  have hsub : (cs.filter (·.size = n)).Sublist (bySize cs) :=
    List.sublist_mergeSort le_bySize_trans le_bySize_total hsame List.filter_sublist
  have hfiltered := hsub.filter (·.size = n)
  simp only [List.filter_filter, Bool.and_self] at hfiltered
  exact (hfiltered.eq_of_length ((List.mergeSort_perm cs _).filter _).length_eq.symm).symm

theorem largestFirst_bySize (cs : List Cluster) : LargestFirst cs (bySize cs) where
  perm := List.mergeSort_perm cs _
  descending := pairwise_bySize cs
  stable := filter_bySize cs

end Cluster

/-! ### The clustering that is shown -/

/-- The clustering that is asked for: the first one that is listed, or the first one of an id. -/
inductive Chosen : Option String → List Clustering → Clustering → Prop
  | latest (c : Clustering) (others : List Clustering) : Chosen none (c :: others) c
  | ofId {before : List Clustering} {c : Clustering} (after : List Clustering)
      (hbefore : ∀ b ∈ before, b.id ≠ c.id) : Chosen (some c.id) (before ++ c :: after) c

/-- There is none to show: nothing is listed, or nothing of the id that is asked for. -/
inductive Lacking : Option String → List Clustering → Prop
  | latest : Lacking none []
  | ofId {id : String} {cs : List Clustering} (hcs : ∀ c ∈ cs, c.id ≠ id) : Lacking (some id) cs

variable {clusteringId : Option String} {cs : List Clustering} {c : Clustering}

theorem chosen?_eq_none_iff : chosen? clusteringId cs = none ↔ Lacking clusteringId cs := by
  cases clusteringId with
  | none =>
    rw [chosen?, List.head?_eq_none_iff]
    constructor
    · rintro rfl
      exact .latest
    · intro h
      cases h
      rfl
  | some id =>
    rw [chosen?, List.find?_eq_none]
    constructor
    · intro h
      exact .ofId fun c hc heq => h c hc (decide_eq_true heq)
    · intro h c hc heq
      cases h with
      | ofId hcs => exact hcs c hc (of_decide_eq_true heq)

theorem chosen?_eq_some_iff : chosen? clusteringId cs = some c ↔ Chosen clusteringId cs c := by
  cases clusteringId with
  | none =>
    rw [chosen?, List.head?_eq_some_iff]
    constructor
    · rintro ⟨others, rfl⟩
      exact .latest c others
    · intro h
      cases h with
      | latest _ others => exact ⟨others, rfl⟩
  | some id =>
    rw [chosen?, List.find?_eq_some_iff_append]
    constructor
    · rintro ⟨hid, before, after, rfl, hbefore⟩
      obtain rfl := of_decide_eq_true hid
      exact .ofId after fun b hb heq => by simpa [heq] using hbefore b hb
    · intro h
      cases h with
      | @ofId before _ after hbefore =>
        exact ⟨decide_eq_true rfl, before, after, rfl, fun b hb => by simpa using hbefore b hb⟩

theorem lacking_or_chosen (clusteringId : Option String) (cs : List Clustering) :
    Lacking clusteringId cs ∨ ∃ c, Chosen clusteringId cs c := by
  cases hchosen : chosen? clusteringId cs with
  | none => exact .inl (chosen?_eq_none_iff.1 hchosen)
  | some c => exact .inr ⟨c, chosen?_eq_some_iff.1 hchosen⟩

theorem Chosen.not_lacking (h : Chosen clusteringId cs c) : ¬ Lacking clusteringId cs := by
  rw [← chosen?_eq_none_iff, chosen?_eq_some_iff.2 h]
  exact nofun

/-! ### Browsing -/

namespace ClusterSource

variable {σ : Type} {source : ClusterSource σ} {projectId reason : String} {w w₁ : σ}

theorem value_browse_of_error (clusteringId : Option String)
    (h : (source.clusterings projectId w).value = (.error reason, w₁)) :
    (source.browse projectId clusteringId w).value = (.error reason, w₁) := by
  rw [browse, Action.value_bind, h]
  rfl

theorem value_browse_of_lacking (h : (source.clusterings projectId w).value = (.ok cs, w₁))
    (hlacking : Lacking clusteringId cs) :
    (source.browse projectId clusteringId w).value = (.ok none, w₁) := by
  rw [browse, Action.value_bind, h]
  dsimp only
  rw [chosen?_eq_none_iff.2 hlacking]
  rfl

/-- Once there is a clustering to show, what the source says of its clusters is the answer. -/
theorem value_browse_of_chosen (h : (source.clusterings projectId w).value = (.ok cs, w₁))
    (hchosen : Chosen clusteringId cs c) :
    (source.browse projectId clusteringId w).value =
      let loaded := (source.clusters projectId c.id w₁).value
      (loaded.1.map fun given => some ⟨c, Cluster.bySize given⟩, loaded.2) := by
  rw [browse, Action.value_bind, h]
  dsimp only
  rw [chosen?_eq_some_iff.2 hchosen]
  dsimp only
  rw [Action.value_bind]
  cases (source.clusters projectId c.id w₁).value.1 <;> rfl

theorem value_recorded_clusterings {calls : List SourceCall}
    {listed : Except String (List Clustering)}
    (h : (source.clusterings projectId w).value = (listed, w₁)) :
    (source.recorded.clusterings projectId (w, calls)).value =
      (listed, w₁, calls ++ [.clusterings projectId]) := by
  rw [recorded, Action.value_noting, h]

/-- **What browsing does**, for every source, and whatever it does when it is called.

The clusterings are asked for once.  If the source fails then, so does the call.  There is nothing to
show exactly if nothing is listed, or nothing of the id that is asked for, and no clusters are asked
for then.  Otherwise the clusters of the clustering that is listed first, of those with the id, are
asked for once.  If the source fails then, so does the call, and else that clustering is shown with
all clusters that the source gave, the largest first. -/
theorem browse_settles (source : ClusterSource σ) (projectId : String)
    (clusteringId : Option String) (w : σ) (calls : List SourceCall) :
    ∃ answer w' made,
      (source.browse projectId clusteringId w).value = (answer, w') ∧
      (source.recorded.browse projectId clusteringId (w, calls)).value =
        (answer, w', calls ++ made) ∧
      (∀ reason w₁, (source.clusterings projectId w).value = (.error reason, w₁) →
        answer = .error reason ∧ w' = w₁ ∧ made = [.clusterings projectId]) ∧
      ∀ cs w₁, (source.clusterings projectId w).value = (.ok cs, w₁) →
        (answer = .ok none ↔ Lacking clusteringId cs) ∧
        (Lacking clusteringId cs → w' = w₁ ∧ made = [.clusterings projectId]) ∧
        (¬ Lacking clusteringId cs → ∃ c, Chosen clusteringId cs c ∧
          made = [.clusterings projectId, .clusters projectId c.id] ∧
          (∀ reason w₂, (source.clusters projectId c.id w₁).value = (.error reason, w₂) →
            answer = .error reason ∧ w' = w₂) ∧
          ∀ given w₂, (source.clusters projectId c.id w₁).value = (.ok given, w₂) →
            w' = w₂ ∧ ∃ shown, answer = .ok (some ⟨c, shown⟩) ∧
              Cluster.LargestFirst given shown) := by
  rcases hlisted : (source.clusterings projectId w).value with ⟨reason | cs, w₁⟩
  · refine ⟨.error reason, w₁, [.clusterings projectId], value_browse_of_error _ hlisted,
      value_browse_of_error _ (value_recorded_clusterings hlisted), ?_, fun _ _ => nofun⟩
    rintro _ _ ⟨⟩
    exact ⟨rfl, rfl, rfl⟩
  rcases lacking_or_chosen clusteringId cs with hlacking | ⟨c, hchosen⟩
  · refine ⟨.ok none, w₁, [.clusterings projectId], value_browse_of_lacking hlisted hlacking,
      value_browse_of_lacking (value_recorded_clusterings hlisted) hlacking, fun _ _ => nofun, ?_⟩
    rintro _ _ ⟨⟩
    exact ⟨iff_of_true rfl hlacking, fun _ => ⟨rfl, rfl⟩, absurd hlacking⟩
  · refine ⟨(source.clusters projectId c.id w₁).value.1.map fun given =>
        some ⟨c, Cluster.bySize given⟩, (source.clusters projectId c.id w₁).value.2,
      [.clusterings projectId, .clusters projectId c.id], value_browse_of_chosen hlisted hchosen,
      ?_, fun _ _ => nofun, ?_⟩
    · rw [value_browse_of_chosen (value_recorded_clusterings hlisted) hchosen, recorded,
        Action.value_noting, List.append_assoc]
      rfl
    rintro _ _ ⟨⟩
    refine ⟨iff_of_false ?_ hchosen.not_lacking, fun h => absurd h hchosen.not_lacking,
      fun _ => ⟨c, hchosen, rfl, ?_, ?_⟩⟩
    · cases (source.clusters projectId c.id w₁).value.1 <;> exact nofun
    · intro reason w₂ hloaded
      rw [hloaded]
      exact ⟨rfl, rfl⟩
    · intro given w₂ hloaded
      rw [hloaded]
      exact ⟨rfl, _, rfl, Cluster.largestFirst_bySize given⟩

end ClusterSource

end EventDetection
