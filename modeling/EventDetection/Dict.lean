/-!
# Dictionaries with text keys

A `Dict α` holds at most one value per key and lists its entries in the order of
the keys, character by character.  It is what a JSON object with free member
names is read into, and what the events of a project are filed in.

* `Dict.get?_insert`, `Dict.get?_erase`: what an update does to every look-up.
* `Dict.size_insert`, `Dict.size_erase`: what it does to the number of entries.
* `Dict.ext_get?`: **a dictionary is determined by its look-ups.**
-/

namespace EventDetection

/-- A map from text to `α`, listed in strictly increasing order of its keys. -/
@[ext]
structure Dict (α : Type) where
  entries : List (String × α)
  sorted : entries.Pairwise fun a b => a.1 < b.1

namespace Dict

variable {α β : Type}

/-! ### Entries in key order -/

/-- Files `v` under `k` in a list of entries in key order, in place of an entry of that key. -/
def insertEntry (k : String) (v : α) : List (String × α) → List (String × α)
  | [] => [(k, v)]
  | e :: es =>
    if k < e.1 then (k, v) :: e :: es
    else if k = e.1 then (k, v) :: es
    else e :: insertEntry k v es

theorem mem_insertEntry {k : String} {v : α} {x : String × α} {es : List (String × α)}
    (h : x ∈ insertEntry k v es) : x = (k, v) ∨ x ∈ es := by
  induction es with
  | nil => simpa [insertEntry] using h
  | cons e es ih =>
    rw [insertEntry] at h
    split at h
    · simpa using h
    · split at h
      · rcases List.mem_cons.1 h with h | h
        · exact .inl h
        · exact .inr (List.mem_cons_of_mem _ h)
      · rcases List.mem_cons.1 h with h | h
        · exact .inr (h ▸ List.mem_cons_self)
        · exact (ih h).imp id (List.mem_cons_of_mem _)

theorem sorted_insertEntry (k : String) (v : α) {es : List (String × α)}
    (h : es.Pairwise fun a b => a.1 < b.1) :
    (insertEntry k v es).Pairwise fun a b => a.1 < b.1 := by
  induction es with
  | nil => simp [insertEntry]
  | cons e es ih =>
    rw [List.pairwise_cons] at h
    rw [insertEntry]
    split
    · next hlt =>
      refine List.pairwise_cons.2 ⟨fun x hx => ?_, List.pairwise_cons.2 h⟩
      rcases List.mem_cons.1 hx with rfl | hx
      · exact hlt
      · exact String.lt_trans hlt (h.1 x hx)
    · split
      · next heq => exact List.pairwise_cons.2 ⟨fun x hx => heq ▸ h.1 x hx, h.2⟩
      · next hnlt hne =>
        refine List.pairwise_cons.2 ⟨fun x hx => ?_, ih h.2⟩
        rcases mem_insertEntry hx with rfl | hx
        · refine (Decidable.em (e.1 < k)).elim id fun hn => ?_
          exact absurd (String.le_antisymm (String.not_lt.1 hn) (String.not_lt.1 hnlt)) hne
        · exact h.1 x hx

/-! ### Operations -/

/-- The value of the first entry of key `k`. -/
def find (k : String) : List (String × α) → Option α
  | [] => none
  | e :: es => if k = e.1 then some e.2 else find k es

def empty : Dict α := ⟨[], .nil⟩

instance : Inhabited (Dict α) := ⟨empty⟩

instance [DecidableEq α] : DecidableEq (Dict α) := fun a b =>
  decidable_of_iff (a.entries = b.entries) ⟨Dict.ext, congrArg entries⟩

/-- The value filed under `k`. -/
def get? (d : Dict α) (k : String) : Option α := find k d.entries

/-- Files `v` under `k`, in place of the value filed there. -/
def insert (d : Dict α) (k : String) (v : α) : Dict α :=
  ⟨insertEntry k v d.entries, sorted_insertEntry k v d.sorted⟩

/-- Leaves out the entry of `k`. -/
def erase (d : Dict α) (k : String) : Dict α :=
  ⟨d.entries.filter (·.1 ≠ k), d.sorted.filter _⟩

def size (d : Dict α) : Nat := d.entries.length

def keys (d : Dict α) : List String := d.entries.map (·.1)

/-- The entries filed one after the other; of several with one key the last stays. -/
def ofList (es : List (String × α)) : Dict α :=
  es.foldl (fun d e => d.insert e.1 e.2) empty

/-! ### Look-ups -/

theorem find_eq_none {k : String} {es : List (String × α)} (h : ∀ e ∈ es, k ≠ e.1) :
    find k es = none := by
  induction es with
  | nil => rfl
  | cons e es ih =>
    rw [find, if_neg (h e List.mem_cons_self)]
    exact ih fun x hx => h x (List.mem_cons_of_mem _ hx)

/-- A key before all others of a list is not among them. -/
theorem find_of_lt {k : String} {es : List (String × α)} (h : ∀ e ∈ es, k < e.1) :
    find k es = none :=
  find_eq_none fun e he hk => String.lt_irrefl k (hk ▸ h e he)

theorem find_insertEntry (k j : String) (v : α) (es : List (String × α)) :
    find j (insertEntry k v es) = if j = k then some v else find j es := by
  induction es with
  | nil => rfl
  | cons e es ih =>
    rw [insertEntry]
    split
    · rfl
    · split
      · next heq =>
        by_cases hj : j = k
        · simp [find, hj]
        · simp [find, hj, ← heq]
      · next hne =>
        by_cases hj : j = e.1
        · have hjk : j ≠ k := fun hk => hne (hk ▸ hj)
          rw [find, if_pos hj, if_neg hjk, find, if_pos hj]
        · rw [find, if_neg hj, ih, find, if_neg hj]

theorem get?_insert (d : Dict α) (k j : String) (v : α) :
    (d.insert k v).get? j = if j = k then some v else d.get? j :=
  find_insertEntry k j v d.entries

@[simp] theorem get?_insert_self (d : Dict α) (k : String) (v : α) :
    (d.insert k v).get? k = some v := by rw [get?_insert, if_pos rfl]

theorem get?_insert_of_ne (d : Dict α) {k j : String} (v : α) (h : j ≠ k) :
    (d.insert k v).get? j = d.get? j := by rw [get?_insert, if_neg h]

theorem find_filter (k j : String) (es : List (String × α)) :
    find j (es.filter (·.1 ≠ k)) = if j = k then none else find j es := by
  induction es with
  | nil => simp [find]
  | cons e es ih =>
    by_cases he : e.1 = k
    · rw [List.filter_cons_of_neg (by simp [he]), ih, find]
      by_cases hj : j = k
      · rw [if_pos hj, if_pos hj]
      · rw [if_neg hj, if_neg hj, if_neg fun h : j = e.1 => hj (h.trans he)]
    · rw [List.filter_cons_of_pos (by simp [he]), find, ih, find]
      by_cases hje : j = e.1
      · rw [if_pos hje, if_pos hje, if_neg fun h => he (hje.symm.trans h)]
      · rw [if_neg hje, if_neg hje]

theorem get?_erase (d : Dict α) (k j : String) :
    (d.erase k).get? j = if j = k then none else d.get? j :=
  find_filter k j d.entries

@[simp] theorem get?_erase_self (d : Dict α) (k : String) : (d.erase k).get? k = none := by
  rw [get?_erase, if_pos rfl]

theorem get?_erase_of_ne (d : Dict α) {k j : String} (h : j ≠ k) :
    (d.erase k).get? j = d.get? j := by rw [get?_erase, if_neg h]

@[simp] theorem get?_empty (k : String) : (empty : Dict α).get? k = none := rfl

/-! ### Numbers of entries -/

theorem length_insertEntry (k : String) (v : α) {es : List (String × α)}
    (h : es.Pairwise fun a b => a.1 < b.1) :
    (insertEntry k v es).length = es.length + if (find k es).isSome then 0 else 1 := by
  induction es with
  | nil => rfl
  | cons e es ih =>
    have hs := List.pairwise_cons.1 h
    rw [insertEntry]
    split
    · next hlt =>
      have hnone : find k (e :: es) = none := find_of_lt fun x hx => by
        rcases List.mem_cons.1 hx with rfl | hx
        · exact hlt
        · exact String.lt_trans hlt (hs.1 x hx)
      simp [hnone]
    · split
      · next heq => simp [find, heq]
      · next hne =>
        rw [find, if_neg hne, List.length_cons, ih hs.2, List.length_cons]
        omega

theorem size_insert (d : Dict α) (k : String) (v : α) :
    (d.insert k v).size = d.size + if (d.get? k).isSome then 0 else 1 :=
  length_insertEntry k v d.sorted

theorem length_filter_key {k : String} {es : List (String × α)}
    (h : es.Pairwise fun a b => a.1 < b.1) :
    (es.filter (·.1 ≠ k)).length + (if (find k es).isSome then 1 else 0) = es.length := by
  induction es with
  | nil => rfl
  | cons e es ih =>
    have hs := List.pairwise_cons.1 h
    by_cases hk : e.1 = k
    · subst hk
      have hall : es.filter (·.1 ≠ e.1) = es := List.filter_eq_self.2 fun x hx => by
        simpa using fun hx' : x.1 = e.1 => String.lt_irrefl e.1 (hx' ▸ hs.1 x hx)
      rw [List.filter_cons_of_neg (by simp), hall, find, if_pos rfl]
      simp
    · have hfind : find k (e :: es) = find k es := if_neg fun he : k = e.1 => hk he.symm
      rw [List.filter_cons_of_pos (by simp [hk]), hfind, List.length_cons, List.length_cons,
        ← ih hs.2]
      omega

theorem size_erase (d : Dict α) (k : String) :
    (d.erase k).size + (if (d.get? k).isSome then 1 else 0) = d.size :=
  length_filter_key d.sorted

/-! ### Extensionality -/

theorem entries_eq_of_find {es fs : List (String × α)}
    (he : es.Pairwise fun a b => a.1 < b.1) (hf : fs.Pairwise fun a b => a.1 < b.1)
    (h : ∀ k, find k es = find k fs) : es = fs := by
  induction es generalizing fs with
  | nil =>
    cases fs with
    | nil => rfl
    | cons f fs => have := h f.1; simp [find] at this
  | cons e es ih =>
    cases fs with
    | nil => have := h e.1; simp [find] at this
    | cons f fs =>
      have hse := List.pairwise_cons.1 he
      have hsf := List.pairwise_cons.1 hf
      -- the first keys agree: the smaller one would be missing on the other side
      have first {a b : String × α} {as bs : List (String × α)}
          (hb : (b :: bs).Pairwise fun x y => x.1 < y.1)
          (hab : find a.1 (a :: as) = find a.1 (b :: bs)) : ¬ a.1 < b.1 := fun hlt => by
        have hnone : find a.1 (b :: bs) = none := find_of_lt fun x hx => by
          rcases List.mem_cons.1 hx with rfl | hx
          · exact hlt
          · exact String.lt_trans hlt ((List.pairwise_cons.1 hb).1 x hx)
        rw [hnone, find, if_pos rfl] at hab
        exact absurd hab nofun
      have hkey : e.1 = f.1 := String.le_antisymm
        (String.not_lt.1 (first he (h f.1).symm)) (String.not_lt.1 (first hf (h e.1)))
      have hval : e = f := by
        have := h e.1
        rw [find, if_pos rfl, find, if_pos hkey] at this
        exact Prod.ext hkey (Option.some.inj this)
      subst hval
      congr 1
      refine ih hse.2 hsf.2 fun k => ?_
      by_cases hk : k = e.1
      · rw [hk, find_of_lt hse.1, find_of_lt hsf.1]
      · have := h k
        rwa [find, if_neg hk, find, if_neg hk] at this

/-- **A dictionary is determined by its look-ups.** -/
theorem ext_get? {d e : Dict α} (h : ∀ k, d.get? k = e.get? k) : d = e :=
  Dict.ext (entries_eq_of_find d.sorted e.sorted h)

end Dict

end EventDetection
