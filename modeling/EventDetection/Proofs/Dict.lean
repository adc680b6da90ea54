import EventDetection.Dict

/-!
# Entries of a dictionary

The entries and the look-ups of a dictionary say the same, and filing the entries
again in their order gives the dictionary back.

* `Dict.mem_entries_iff`: an entry is what a look-up of its key finds.
* `Dict.ofList_entries`: **a dictionary is filed from its own entries.**
* `Dict.get?_map`, `Dict.map_insert`, `Dict.map_erase`: changing all values goes along with look-ups
  and updates.
-/

namespace EventDetection.Dict

variable {α β : Type}

theorem eq_empty_of_get? {d : Dict α} (h : ∀ k v, d.get? k ≠ some v) : d = Dict.empty :=
  ext_get? fun k => (Option.eq_none_iff_forall_ne_some.2 (h k)).trans (get?_empty k).symm

/-! ### Entries and look-ups -/

theorem mem_of_find {k : String} {v : α} {es : List (String × α)} (h : find k es = some v) :
    (k, v) ∈ es := by
  induction es with
  | nil => exact nomatch h
  | cons e es ih =>
    rw [find] at h
    split at h
    · next hk =>
      rw [hk, ← Option.some.inj h]
      exact List.mem_cons_self
    · exact List.mem_cons_of_mem _ (ih h)

theorem find_of_mem {k : String} {v : α} {es : List (String × α)}
    (hs : es.Pairwise fun a b => a.1 < b.1) (h : (k, v) ∈ es) : find k es = some v := by
  induction es with
  | nil => exact absurd h List.not_mem_nil
  | cons e es ih =>
    have hpair := List.pairwise_cons.1 hs
    rcases List.mem_cons.1 h with rfl | h
    · rw [find, if_pos rfl]
    · have hne : k ≠ e.1 := fun hk => String.lt_irrefl e.1 (hk ▸ hpair.1 _ h)
      rw [find, if_neg hne]
      exact ih hpair.2 h

theorem mem_entries_iff {d : Dict α} {k : String} {v : α} :
    (k, v) ∈ d.entries ↔ d.get? k = some v :=
  ⟨find_of_mem d.sorted, mem_of_find⟩

/-! ### Filing entries in order -/

/-- A key behind all others is filed at the end. -/
theorem insertEntry_of_forall_lt {k : String} {v : α} {es : List (String × α)}
    (h : ∀ e ∈ es, e.1 < k) : insertEntry k v es = es ++ [(k, v)] := by
  induction es with
  | nil => rfl
  | cons e es ih =>
    have hlt : e.1 < k := h e List.mem_cons_self
    rw [insertEntry, if_neg fun hk : k < e.1 => String.lt_irrefl k (String.lt_trans hk hlt),
      if_neg fun hk : k = e.1 => String.lt_irrefl k (hk ▸ hlt),
      ih fun x hx => h x (List.mem_cons_of_mem _ hx), List.cons_append]

theorem entries_foldl_insert (d : Dict α) (es : List (String × α))
    (h : (d.entries ++ es).Pairwise fun a b => a.1 < b.1) :
    (es.foldl (fun d e => d.insert e.1 e.2) d).entries = d.entries ++ es := by
  induction es generalizing d with
  | nil => exact (List.append_nil _).symm
  | cons e es ih =>
    have hlast : (d.insert e.1 e.2).entries = d.entries ++ [e] :=
      insertEntry_of_forall_lt fun x hx =>
        (List.pairwise_append.1 h).2.2 x hx e List.mem_cons_self
    have hassoc : d.entries ++ e :: es = (d.insert e.1 e.2).entries ++ es := by
      rw [hlast, List.append_assoc, List.singleton_append]
    rw [hassoc] at h ⊢
    exact ih _ h

theorem ofList_entries (d : Dict α) : ofList d.entries = d :=
  Dict.ext ((entries_foldl_insert empty d.entries d.sorted).trans (List.nil_append _))

/-! ### Changing all values -/

/-- The dictionary with `f` applied to all values. -/
def map (f : α → β) (d : Dict α) : Dict β :=
  ⟨d.entries.map fun e => (e.1, f e.2), List.pairwise_map.2 d.sorted⟩

theorem find_map (f : α → β) (k : String) (es : List (String × α)) :
    find k (es.map fun e => (e.1, f e.2)) = (find k es).map f := by
  induction es with
  | nil => rfl
  | cons e es ih =>
    rw [List.map_cons, find, find]
    split
    · rfl
    · exact ih

@[simp] theorem get?_map (f : α → β) (d : Dict α) (k : String) :
    (d.map f).get? k = (d.get? k).map f :=
  find_map f k d.entries

@[simp] theorem size_map (f : α → β) (d : Dict α) : (d.map f).size = d.size :=
  List.length_map _

@[simp] theorem map_empty (f : α → β) : (empty : Dict α).map f = empty := rfl

theorem map_insert (f : α → β) (d : Dict α) (k : String) (v : α) :
    (d.insert k v).map f = (d.map f).insert k (f v) := by
  refine ext_get? fun j => ?_
  rw [get?_map, get?_insert, get?_insert, get?_map]
  split <;> rfl

theorem map_erase (f : α → β) (d : Dict α) (k : String) :
    (d.erase k).map f = (d.map f).erase k := by
  refine ext_get? fun j => ?_
  rw [get?_map, get?_erase, get?_erase, get?_map]
  split <;> rfl

end EventDetection.Dict
