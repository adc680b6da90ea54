import EventDetection.Proofs.Score.Categories
import EventDetection.Score.Range
import Mathlib.Tactic.TFAE

/-!
# Consistent score ranges

A score range is consistent if its type and labels give it again.  Whatever is derived is, since
labels that were derived from are taken over as they are, and nothing else is.

* `ScoreRange.Tabulated`: the table of score types.
* `ScoreRange.derive_eq_error_iff`: only the labels of a category can be too few or too many.
* `ScoreRange.tabulated_of_derive`, `ScoreRange.derive_of_tabulated`: the table lists all that can
  be derived, and no more.
* `ScoreRange.derive_again`: **what was derived is derived again** from its own type and labels.
* `ScoreRange.consistent_iff_derivable`: the check recognises what can be derived.
-/

namespace EventDetection.ScoreRange

/-- The table of score types: what each of them ranges over. -/
inductive Tabulated : ScoreRange → Prop
  | confidence : Tabulated ⟨.confidence, 0, 1, []⟩
  | range : Tabulated ⟨.range, 1, 5, []⟩
  | category {n : Nat} {labels : List String} (hleast : 1 ≤ n) (hgreatest : n ≤ 9)
      (hlength : labels.length = n) (hlabels : ∀ l ∈ labels, l ≠ "") :
      Tabulated ⟨.category, 1, Int64.ofNat n, labels⟩

variable {t : ScoreType} {c : Categories} {s : ScoreRange}

theorem isConsistent_iff_derive :
    s.isConsistent = true ↔ derive s.scoreType (.list s.categories) = .ok s := by
  rw [isConsistent]
  cases derive s.scoreType (.list s.categories) with
  | ok d => simp
  | error e => simp

theorem derive_category (c : Categories) :
    derive .category c =
      if 1 ≤ c.labels.length ∧ c.labels.length ≤ 9 then
        .ok ⟨.category, 1, Int64.ofNat c.labels.length, c.labels⟩
      else .error .categoryCount := rfl

/-- **Nothing but the labels of a category can be wrong**: there are none, or more than nine. -/
theorem derive_eq_error_iff {e : DerivationError} :
    derive t c = .error e ↔
      t = .category ∧ ¬ (1 ≤ c.labels.length ∧ c.labels.length ≤ 9) := by
  cases t with
  | confidence => exact iff_of_false nofun nofun
  | range => exact iff_of_false nofun nofun
  | category =>
    rw [derive_category]
    by_cases hcount : 1 ≤ c.labels.length ∧ c.labels.length ≤ 9
    · rw [if_pos hcount]
      exact iff_of_false nofun fun h => h.2 hcount
    · rw [if_neg hcount]
      cases e
      exact iff_of_true rfl ⟨rfl, hcount⟩

/-! ### What can be derived -/

theorem tabulated_of_derive (h : derive t c = .ok s) : s.Tabulated := by
  cases t with
  | confidence =>
    cases h
    exact .confidence
  | range =>
    cases h
    exact .range
  | category =>
    rw [derive_category] at h
    split at h
    · next hcount =>
      cases h
      exact .category hcount.1 hcount.2 rfl fun _ => Categories.ne_empty_of_mem_labels
    · exact nomatch h

theorem derive_of_tabulated (h : s.Tabulated) :
    derive s.scoreType (.list s.categories) = .ok s := by
  cases h with
  | confidence => rfl
  | range => rfl
  | category hleast hgreatest hlength hlabels =>
    subst hlength
    rw [derive_category, Categories.labels_list_of_ne_empty hlabels,
      if_pos ⟨hleast, hgreatest⟩]

/-- **What was derived is derived again**, whether its labels came from a text or from a list. -/
theorem derive_again (h : derive t c = .ok s) :
    derive s.scoreType (.list s.categories) = .ok s :=
  derive_of_tabulated (tabulated_of_derive h)

theorem isConsistent_of_derive (h : derive t c = .ok s) : s.isConsistent = true :=
  isConsistent_iff_derive.2 (derive_again h)

/-- **The check recognises what can be derived.**  A score range is consistent exactly if some
labels, as a text or as a list, give it for its own type, and that is exactly if it is in the table.
No score range is given only for a category, and only if it has no labels or more than nine. -/
theorem consistent_iff_derivable :
    (∀ s : ScoreRange, List.TFAE [
      s.isConsistent = true,
      ∃ c, derive s.scoreType c = .ok s,
      s.Tabulated]) ∧
    ∀ t c, (∃ e, derive t c = .error e) ↔
      t = .category ∧ (c.labels.length < 1 ∨ 9 < c.labels.length) := by
  refine ⟨fun s => ?_, fun t c => ?_⟩
  · tfae_have 1 → 2 := fun h => ⟨_, isConsistent_iff_derive.1 h⟩
    tfae_have 2 → 3 := by
      rintro ⟨c, h⟩
      exact tabulated_of_derive h
    tfae_have 3 → 1 := fun h => isConsistent_iff_derive.2 (derive_of_tabulated h)
    tfae_finish
  · have hcount : ¬ (1 ≤ c.labels.length ∧ c.labels.length ≤ 9) ↔
        c.labels.length < 1 ∨ 9 < c.labels.length := by
      omega
    rw [← hcount]
    constructor
    · rintro ⟨e, h⟩
      exact derive_eq_error_iff.1 h
    · exact fun h => ⟨.categoryCount, derive_eq_error_iff.2 h⟩

end EventDetection.ScoreRange
