import EventDetection.Onboarding.Basic
import Mathlib.Data.List.Dedup

/-!
# What is selected

Every candidate is ticked at first, and each toggle of a name turns its flag over.  So a name
that was toggled an even number of times is ticked as it was, whatever other names were toggled
in between, and whether or not a candidate has them.

* `Onboarding.isSelected_toggle`, `Onboarding.isSelected_setCandidates`: one step.
* `Onboarding.isSelected_foldl_toggle`: the flag of a name after a list of toggles.
* `Onboarding.selected_foldl_toggle`: **the selected candidates** after a list of toggles.
* `Onboarding.mem_selected_otherNames`: the candidates of any one name can be singled out.
-/

namespace EventDetection.Onboarding

/-! ### One step -/

theorem isSelected_toggle (o : Onboarding) (name n : String) :
    (o.toggle name).isSelected n = if n = name then !o.isSelected n else o.isSelected n := by
  rw [isSelected, toggle, Dict.get?_insert]
  split
  · next h => rw [h, Option.getD_some]
  · rfl

theorem get?_ticked_setCandidates (cs : List Definition) (flags : Dict Bool) (n : String) :
    (cs.foldl (fun flags d => flags.insert d.name true) flags).get? n =
      if n ∈ cs.map (·.name) then some true else flags.get? n := by
  induction cs generalizing flags with
  | nil => rfl
  | cons d ds ih =>
    rw [List.foldl_cons, ih, Dict.get?_insert, List.map_cons]
    by_cases hd : n = d.name
    · simp [hd]
    · simp [hd]

theorem isSelected_setCandidates (o : Onboarding) (cs : List Definition) (n : String) :
    (o.setCandidates cs).isSelected n = decide (n ∈ cs.map (·.name)) := by
  rw [isSelected, setCandidates, get?_ticked_setCandidates]
  by_cases h : n ∈ cs.map (·.name)
  · simp only [h, ↓reduceIte, Option.getD_some, decide_true]
  · simp only [h, ↓reduceIte, Dict.get?_empty, Option.getD_none, decide_false]

/-! ### Toggles -/

/-- Toggles change the flags and nothing else. -/
theorem foldl_toggle_eq (o : Onboarding) (names : List String) :
    names.foldl toggle o = { o with ticked := (names.foldl toggle o).ticked } := by
  induction names generalizing o with
  | nil => rfl
  | cons name names ih => exact ih (o.toggle name)

theorem candidates_foldl_toggle (o : Onboarding) (cs : List Definition) (names : List String) :
    (names.foldl toggle (o.setCandidates cs)).candidates = cs := by
  rw [foldl_toggle_eq]
  rfl

/-- **The flag of a name** is turned over once for each time that the name was toggled. -/
theorem isSelected_foldl_toggle (o : Onboarding) (names : List String) (n : String) :
    (names.foldl toggle o).isSelected n =
      if names.count n % 2 = 0 then o.isSelected n else !o.isSelected n := by
  induction names generalizing o with
  | nil => rfl
  | cons name names ih =>
    rw [List.foldl_cons, ih, isSelected_toggle]
    by_cases hn : n = name
    · subst hn
      rw [if_pos rfl, List.count_cons_self, Bool.not_not]
      -- one toggle more turns an even number into an odd one, and back
      rcases Nat.mod_two_eq_zero_or_one (names.count n) with heven | hodd
      · rw [if_pos heven, if_neg (by omega)]
      · rw [if_neg (by omega), if_pos (by omega)]
    · rw [if_neg hn, List.count_cons_of_ne (Ne.symm hn)]

/-- **A candidate stays selected** if its name was toggled an even number of times. -/
theorem selected_foldl_toggle (o : Onboarding) (cs : List Definition) (names : List String) :
    (names.foldl toggle (o.setCandidates cs)).selected =
      cs.filter fun d => names.count d.name % 2 = 0 := by
  rw [selected, candidates_foldl_toggle]
  refine List.filter_congr fun d hd => ?_
  have hticked : (o.setCandidates cs).isSelected d.name = true := by
    rw [isSelected_setCandidates, decide_eq_true_eq]
    exact List.mem_map_of_mem hd
  rw [isSelected_foldl_toggle, hticked]
  by_cases heven : names.count d.name % 2 = 0
  · simp only [heven, ↓reduceIte, decide_true]
  · simp only [heven, ↓reduceIte, Bool.not_true, decide_false]

/-- The names of the candidates but for one, each of them once. -/
def otherNames (cs : List Definition) (name : String) : List String :=
  ((cs.map (·.name)).filter (· ≠ name)).dedup

/-- Toggles of all other names leave the candidates of one name. -/
theorem mem_selected_otherNames (o : Onboarding) {cs : List Definition} {name : String}
    {c : Definition} :
    c ∈ ((otherNames cs name).foldl toggle (o.setCandidates cs)).selected ↔
      c ∈ cs ∧ c.name = name := by
  rw [selected_foldl_toggle, List.mem_filter, decide_eq_true_eq]
  refine and_congr_right fun hc => ?_
  rw [otherNames, List.count_dedup]
  by_cases hname : c.name = name
  · simp [hname]
  · have hmem : c.name ∈ (cs.map (·.name)).filter (· ≠ name) :=
      List.mem_filter.2 ⟨List.mem_map_of_mem hc, by simpa using hname⟩
    rw [if_pos hmem]
    exact iff_of_false (by decide) hname

end EventDetection.Onboarding
