import EventDetection.Text.CharSet

/-!
# Blank characters and trimming

Blanks are the characters with the Unicode property White_Space.  `trim` takes
them off both ends of a text.

* `trim_eq_self`: a text that neither starts nor ends with a blank stays.
* `head?_trim`, `getLast?_trim`: and so it is with every text that was trimmed.
-/

namespace EventDetection.Text

/-- The characters with the property White_Space. -/
def blanks : CharSet where
  ranges := [
    (0x9, 0xD), (0x20, 0x20), (0x85, 0x85), (0xA0, 0xA0), (0x1680, 0x1680), (0x2000, 0x200A),
    (0x2028, 0x2029), (0x202F, 0x202F), (0x205F, 0x205F), (0x3000, 0x3000)]

/-- Whether a character is white space. -/
def isBlank (c : Char) : Bool := blanks.contains c

/-- The text without the blanks at its two ends. -/
def trim (cs : List Char) : List Char :=
  ((cs.dropWhile isBlank).reverse.dropWhile isBlank).reverse

/-- The text without the blanks at its end. -/
def trimEnd (cs : List Char) : List Char := (cs.reverse.dropWhile isBlank).reverse

theorem trim_eq_self {cs : List Char} (hfirst : ∀ c ∈ cs.head?, isBlank c = false)
    (hlast : ∀ c ∈ cs.getLast?, isBlank c = false) : trim cs = cs := by
  have keep {l : List Char} (h : ∀ c ∈ l.head?, isBlank c = false) : l.dropWhile isBlank = l := by
    cases l with
    | nil => rfl
    | cons c l => rw [List.dropWhile_cons, h c rfl]; rfl
  rw [trim, keep hfirst, keep (by simpa using hlast), List.reverse_reverse]

theorem mem_of_mem_trim {c : Char} {cs : List Char} (h : c ∈ trim cs) : c ∈ cs := by
  have hreverse : c ∈ (cs.dropWhile isBlank).reverse :=
    (List.dropWhile_suffix isBlank).mem (List.mem_reverse.1 h)
  exact (List.dropWhile_suffix isBlank).mem (List.mem_reverse.1 hreverse)

theorem trim_cons_of_isBlank {c : Char} (h : isBlank c = true) (cs : List Char) :
    trim (c :: cs) = trim cs := by
  rw [trim, List.dropWhile_cons_of_pos h, trim]

theorem head?_dropWhile_isBlank (cs : List Char) :
    ∀ c ∈ (cs.dropWhile isBlank).head?, isBlank c = false := by
  intro c hc
  have hnot := List.head?_dropWhile_not isBlank cs
  rw [Option.mem_def.1 hc] at hnot
  exact hnot

theorem getLast?_trim (cs : List Char) : ∀ c ∈ (trim cs).getLast?, isBlank c = false := by
  intro c hc
  rw [trim, List.getLast?_reverse] at hc
  exact head?_dropWhile_isBlank _ c hc

/-- Taking blanks off the end does not uncover one at the start. -/
theorem head?_trim (cs : List Char) : ∀ c ∈ (trim cs).head?, isBlank c = false := by
  intro c hc
  obtain ⟨before, hbefore⟩ := List.dropWhile_suffix isBlank (l := (cs.dropWhile isBlank).reverse)
  have hstart : cs.dropWhile isBlank = trim cs ++ before.reverse := by
    rw [trim, ← List.reverse_append, hbefore, List.reverse_reverse]
  refine head?_dropWhile_isBlank cs c ?_
  rw [hstart, List.head?_append, Option.mem_def.1 hc]
  rfl

end EventDetection.Text
