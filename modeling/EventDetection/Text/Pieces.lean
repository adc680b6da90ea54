/-!
# Pieces of a text

A text is cut at every separator; there is always at least one piece.

* `pieces_append`: **a separator between two texts keeps their pieces apart.**
* `not_mem_of_mem_pieces`, `pieces_of_not_mem`: a piece is a text without a separator.
-/

namespace EventDetection.Text

/-- The pieces of a text between its separators. -/
def pieces (separator : Char) : List Char → List (List Char)
  | [] => [[]]
  | c :: cs =>
    if c = separator then [] :: pieces separator cs
    else
      match pieces separator cs with
      | [] => [[c]]
      | p :: ps => (c :: p) :: ps

theorem pieces_ne_nil (separator : Char) (cs : List Char) : pieces separator cs ≠ [] := by
  induction cs with
  | nil => simp [pieces]
  | cons c cs ih =>
    rw [pieces]
    split
    · simp
    · split <;> simp

theorem pieces_append (separator : Char) (xs ys : List Char) :
    pieces separator (xs ++ separator :: ys) = pieces separator xs ++ pieces separator ys := by
  induction xs with
  | nil => simp [pieces]
  | cons x xs ih =>
    rw [List.cons_append, pieces, pieces, ih]
    split
    · rfl
    · obtain ⟨p, ps, hp⟩ := List.exists_cons_of_ne_nil (pieces_ne_nil separator xs)
      rw [hp]
      rfl

theorem pieces_of_not_mem {separator : Char} {cs : List Char} (h : separator ∉ cs) :
    pieces separator cs = [cs] := by
  induction cs with
  | nil => rfl
  | cons c cs ih =>
    rw [List.mem_cons, not_or] at h
    rw [pieces, if_neg (Ne.symm h.1), ih h.2]

theorem not_mem_of_mem_pieces {separator : Char} {cs p : List Char}
    (hp : p ∈ pieces separator cs) : separator ∉ p := by
  induction cs generalizing p with
  | nil =>
    obtain rfl : p = [] := List.mem_singleton.1 hp
    exact List.not_mem_nil
  | cons c cs ih =>
    rw [pieces] at hp
    split at hp
    · rcases List.mem_cons.1 hp with rfl | hp
      · exact List.not_mem_nil
      · exact ih hp
    · next hc =>
      obtain ⟨q, qs, hq⟩ := List.exists_cons_of_ne_nil (pieces_ne_nil separator cs)
      rw [hq] at hp ih
      -- only the first piece grows, and by no separator
      rcases List.mem_cons.1 hp with rfl | hp
      · rw [List.mem_cons, not_or]
        exact ⟨Ne.symm hc, ih List.mem_cons_self⟩
      · exact ih (List.mem_cons_of_mem q hp)

end EventDetection.Text
