import EventDetection.Score.Categories

/-!
# Labels of a text

A text stands for the labels between its commas.  Which lists of labels it can stand for is said
without the reader: none of the labels is empty, has a comma in it, or has blanks around it.  Such a
list is written with commas between the labels, and read back as it was.

* `Categories.IsLabel`: what a label of a text looks like.
* `Categories.labels_text_append`: **a comma between two texts keeps their labels apart.**
* `Categories.labels_text_intercalate`: labels are read back from their text.
* `Categories.labels_list_labels`: labels are the same when they are given as a list.
* `Categories.text_stands_for_labels`: the laws of texts and labels.
-/

namespace EventDetection.Categories

/-- A label that a text can give: it is not empty, there is no comma in it, and it neither starts
nor ends with a blank. -/
structure IsLabel (s : String) : Prop where
  nonempty : s ≠ ""
  noComma : ',' ∉ s.toList
  first : ∀ c ∈ s.toList.head?, Text.isBlank c = false
  last : ∀ c ∈ s.toList.getLast?, Text.isBlank c = false

variable {s separator : String} {ls : List String}

/-! ### Reading -/

theorem isLabel_of_mem_text {t : String} (h : s ∈ (text t).labels) : IsLabel s := by
  obtain ⟨cs, hcs, rfl⟩ := List.mem_map.1 h
  obtain ⟨htrimmed, hne⟩ := List.mem_filter.1 hcs
  obtain ⟨p, hp, rfl⟩ := List.mem_map.1 htrimmed
  refine ⟨fun hempty => ?_, ?_, ?_, ?_⟩
  · have hnil : Text.trim p = [] := String.ofList_injective hempty
    exact of_decide_eq_true hne hnil
  · rw [String.toList_ofList]
    exact fun hcomma => Text.not_mem_of_mem_pieces hp (Text.mem_of_mem_trim hcomma)
  · rw [String.toList_ofList]
    exact Text.head?_trim p
  · rw [String.toList_ofList]
    exact Text.getLast?_trim p

/-- **A comma between two texts keeps their labels apart**, and adds none. -/
theorem labels_text_append (a b : String) :
    (text (a ++ "," ++ b)).labels = (text a).labels ++ (text b).labels := by
  have hcomma : (a ++ "," ++ b).toList = a.toList ++ ',' :: b.toList := by
    rw [String.toList_append, String.toList_append, List.append_assoc]
    rfl
  rw [labels, hcomma, Text.pieces_append, List.map_append, List.filter_append, List.map_append]
  rfl

/-- A space in front of a text goes to its first piece, where it is trimmed. -/
theorem labels_text_space (t : String) : (text (" " ++ t)).labels = (text t).labels := by
  have hspace : (" " ++ t).toList = ' ' :: t.toList := by
    rw [String.toList_append]
    rfl
  obtain ⟨p, ps, hp⟩ := List.exists_cons_of_ne_nil (Text.pieces_ne_nil ',' t.toList)
  have hpieces : Text.pieces ',' (" " ++ t).toList = (' ' :: p) :: ps := by
    rw [hspace, Text.pieces, if_neg (by decide), hp]
  rw [labels, labels, hpieces, hp, List.map_cons, List.map_cons,
    Text.trim_cons_of_isBlank (by decide)]

theorem labels_text_append_space (a b : String) :
    (text (a ++ ", " ++ b)).labels = (text a).labels ++ (text b).labels := by
  have hspace : a ++ ", " ++ b = a ++ "," ++ (" " ++ b) := by
    have hseparator : ", " = "," ++ " " := by decide
    rw [hseparator, String.append_assoc, String.append_assoc, String.append_assoc]
  rw [hspace, labels_text_append, labels_text_space]

/-! ### Writing -/

theorem labels_text_of_isLabel (h : IsLabel s) : (text s).labels = [s] := by
  have hne : s.toList ≠ [] := fun hnil => h.nonempty (String.toList_eq_nil_iff.1 hnil)
  rw [labels, Text.pieces_of_not_mem h.noComma, List.map_singleton,
    Text.trim_eq_self h.first h.last, List.filter_cons_of_pos (by simpa using hne),
    List.filter_nil, List.map_singleton, String.ofList_toList]

/-- Labels are read back from their text, whatever separates them keeps texts apart. -/
theorem labels_text_intercalate
    (hseparator : ∀ a b, (text (a ++ separator ++ b)).labels = (text a).labels ++ (text b).labels)
    (h : ∀ l ∈ ls, IsLabel l) : (text (separator.intercalate ls)).labels = ls := by
  induction ls with
  | nil => rfl
  | cons l ls ih =>
    have hlabel : (text l).labels = [l] := labels_text_of_isLabel (h l List.mem_cons_self)
    have hrest : (text (separator.intercalate ls)).labels = ls :=
      ih fun k hk => h k (List.mem_cons_of_mem l hk)
    cases ls with
    | nil => rw [String.intercalate_singleton, hlabel]
    | cons k ls =>
      rw [String.intercalate_cons_cons, hseparator, hlabel, hrest, List.singleton_append]

/-! ### Labels as a list -/

theorem ne_empty_of_mem_labels {c : Categories} (h : s ∈ c.labels) : s ≠ "" := by
  cases c with
  | list items => exact of_decide_eq_true (List.mem_filter.1 h).2
  | text t => exact (isLabel_of_mem_text h).nonempty

theorem labels_list_of_ne_empty (h : ∀ l ∈ ls, l ≠ "") : (list ls).labels = ls :=
  List.filter_eq_self.2 fun l hl => decide_eq_true (h l hl)

/-- None of the labels is empty, so that all of them stay when they are given as a list. -/
theorem labels_list_labels (c : Categories) : (list c.labels).labels = c.labels :=
  labels_list_of_ne_empty fun _ => ne_empty_of_mem_labels

/-! ### Texts and lists -/

/-- **A text stands for a list of labels.**  It gives labels that are not empty, have no comma in
them and no blanks around them, and every list of such labels is what a text gives: the one with
commas between them, with or without a space behind each.  Given as a list they are the same.  Two
texts with a comma between them give the labels of the one and then those of the other.  So labels
that were read once are read again, from a text and from a list. -/
theorem text_stands_for_labels :
    (∀ t, ∀ l ∈ (text t).labels, IsLabel l) ∧
    (∀ a b, (text (a ++ "," ++ b)).labels = (text a).labels ++ (text b).labels) ∧
    (∀ ls : List String, (∀ l ∈ ls, IsLabel l) →
      (text (",".intercalate ls)).labels = ls ∧ (text (", ".intercalate ls)).labels = ls ∧
        (list ls).labels = ls) ∧
    (∀ t, (text (",".intercalate (text t).labels)).labels = (text t).labels ∧
      (text (", ".intercalate (text t).labels)).labels = (text t).labels) ∧
    ∀ c : Categories, (list c.labels).labels = c.labels := by
  have hread (ls : List String) (h : ∀ l ∈ ls, IsLabel l) :
      (text (",".intercalate ls)).labels = ls ∧ (text (", ".intercalate ls)).labels = ls :=
    ⟨labels_text_intercalate labels_text_append h,
      labels_text_intercalate labels_text_append_space h⟩
  refine ⟨fun t l => isLabel_of_mem_text, labels_text_append, fun ls h => ?_,
    fun t => hread _ fun l => isLabel_of_mem_text, labels_list_labels⟩
  exact ⟨(hread ls h).1, (hread ls h).2, labels_list_of_ne_empty fun l hl => (h l hl).nonempty⟩

/-- Commas at the ends, in a row and with blanks around them give no label of their own. -/
example : (text ", happy,, \u00a0very sad ,").labels = ["happy", "very sad"] := by decide +kernel

end EventDetection.Categories
