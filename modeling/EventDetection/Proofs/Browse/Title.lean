import EventDetection.Cluster
import EventDetection.Proofs.Calendar.Moment

/-!
# Titles of clusterings

A clustering without a name is shown by the time of its creation.  Two of them that were created at
different times are told apart by that, also where one of the times has no date that can be shown.

* `Clustering.Unnamed`: no name, or an empty one.
* `Clustering.creationText_of_inRange`, `Clustering.creationText_of_outside`: a date with a time of
  day, or a number.
* `Clustering.toString_inj`, `Clustering.chars_ne_toString`: a number is determined by its text,
  which is that of no moment.
* `Clustering.creationText_inj`: **the text of a time of creation determines it.**
* `Clustering.title_tells_creation`: all of it, for the titles of clusterings without a name.
-/

namespace EventDetection.Clustering

open Calendar (Moment firstSecond isDigit_of_mem_padded lastSecond padded padded_inj
  padded_ne_cons)

/-- There is no name, or an empty one. -/
def Unnamed (c : Clustering) : Prop := c.name = none ∨ c.name = some ""

variable {c c' : Clustering}

theorem title_of_unnamed (h : c.Unnamed) : c.title = c.creationText := by
  rw [title]
  rcases h with h | h
  · rw [h]
  · rw [h]
    exact if_pos rfl

/-! ### Two kinds of texts -/

/-- A time that can be shown is that of a moment, whose text is shown. -/
theorem creationText_of_inRange
    (h : firstSecond ≤ c.createdAt.toInt ∧ c.createdAt.toInt ≤ lastSecond) :
    ∃ m : Moment, m.Valid ∧ m.InRange ∧ m.seconds = c.createdAt.toInt ∧
      c.creationText = String.ofList m.chars := by
  obtain ⟨m, hm, -, -⟩ := Moment.exists_ofSeconds? h
  obtain ⟨hvalid, hrange, hseconds⟩ := Moment.ofSeconds?_eq_some_iff.1 hm
  refine ⟨m, hvalid, hrange, hseconds, ?_⟩
  rw [creationText, hm]

theorem creationText_of_outside
    (h : ¬ (firstSecond ≤ c.createdAt.toInt ∧ c.createdAt.toInt ≤ lastSecond)) :
    c.creationText = toString c.createdAt.toInt := by
  rw [creationText, Moment.ofSeconds?_eq_none_iff.2 h]

/-- A number is written with digits, behind a minus sign if it is negative. -/
theorem toList_toString (i : Int) :
    (toString i).toList = (if i < 0 then ['-'] else []) ++ padded 0 i.natAbs := by
  have hdigits (n : Nat) : n.repr.toList = padded 0 n := by
    rw [Nat.repr_eq_ofList_toDigits, String.toList_ofList, padded, Nat.zero_sub]
    rfl
  cases i with
  | ofNat n => exact hdigits n
  | negSucc n =>
    have hsplit : (toString (Int.negSucc n)).toList = '-' :: n.succ.repr.toList :=
      String.toList_append
    rw [hsplit, hdigits, if_pos (Int.negSucc_lt_zero n)]
    rfl

/-- A number is determined by its text: by the sign, if there is one, and the digits. -/
theorem toString_inj {i j : Int} (h : toString i = toString j) : i = j := by
  have hchars := congrArg String.toList h
  rw [toList_toString, toList_toString] at hchars
  by_cases hi : i < 0
  · rw [if_pos hi] at hchars
    by_cases hj : j < 0
    · rw [if_pos hj] at hchars
      have hnumbers := padded_inj (List.cons.inj hchars).2
      omega
    · rw [if_neg hj] at hchars
      exact absurd hchars.symm (padded_ne_cons rfl)
  · rw [if_neg hi] at hchars
    by_cases hj : j < 0
    · rw [if_pos hj] at hchars
      exact absurd hchars (padded_ne_cons rfl)
    · rw [if_neg hj] at hchars
      have hnumbers := padded_inj hchars
      omega

/-- The text of a moment ends with letters, and is that of no number. -/
theorem chars_ne_toString (m : Moment) (i : Int) : String.ofList m.chars ≠ toString i := by
  intro h
  have hmem : 'U' ∈ (toString i).toList := by
    rw [← h, String.toList_ofList, Moment.chars]
    exact List.mem_append_right _ (by decide)
  rw [toList_toString] at hmem
  rcases List.mem_append.1 hmem with hsign | hdigit
  · split at hsign
    · exact absurd hsign (by decide)
    · exact absurd hsign List.not_mem_nil
  · exact absurd (isDigit_of_mem_padded hdigit) (by decide)

/-- **The text of a time of creation determines it**, whether it is that of a moment or a number. -/
theorem creationText_inj (h : c.creationText = c'.creationText) : c.createdAt = c'.createdAt := by
  refine Int64.toInt_inj.1 ?_
  by_cases hc : firstSecond ≤ c.createdAt.toInt ∧ c.createdAt.toInt ≤ lastSecond
  · obtain ⟨m, hm, -, hseconds, htext⟩ := creationText_of_inRange hc
    rw [htext] at h
    by_cases hc' : firstSecond ≤ c'.createdAt.toInt ∧ c'.createdAt.toInt ≤ lastSecond
    · obtain ⟨n, hn, -, hseconds', htext'⟩ := creationText_of_inRange hc'
      rw [htext'] at h
      obtain rfl := Moment.chars_inj hm hn (String.ofList_injective h)
      exact hseconds.symm.trans hseconds'
    · rw [creationText_of_outside hc'] at h
      exact absurd h (chars_ne_toString m _)
  · rw [creationText_of_outside hc] at h
    by_cases hc' : firstSecond ≤ c'.createdAt.toInt ∧ c'.createdAt.toInt ≤ lastSecond
    · obtain ⟨n, -, -, -, htext'⟩ := creationText_of_inRange hc'
      rw [htext'] at h
      exact absurd h.symm (chars_ne_toString n _)
    · rw [creationText_of_outside hc'] at h
      exact toString_inj h

/-! ### Titles -/

/-- A clustering without a name was created at some second.  If it is one of the years that can be
shown, **the title shows the only moment that lies that many seconds from the start of 1970**, and
otherwise the number of seconds.  So the titles of two such clusterings differ whenever their
seconds do. -/
theorem title_tells_creation (hc : c.Unnamed) :
    (firstSecond ≤ c.createdAt.toInt ∧ c.createdAt.toInt ≤ lastSecond →
      ∃ m : Moment, m.Valid ∧ m.InRange ∧ m.seconds = c.createdAt.toInt ∧
        (∀ n : Moment, n.Valid → n.seconds = c.createdAt.toInt → n = m) ∧
        c.title = String.ofList m.chars) ∧
    (¬ (firstSecond ≤ c.createdAt.toInt ∧ c.createdAt.toInt ≤ lastSecond) →
      (∀ n : Moment, n.Valid → n.seconds = c.createdAt.toInt → ¬ n.InRange) ∧
        c.title = toString c.createdAt.toInt) ∧
    ∀ c' : Clustering, c'.Unnamed → c'.createdAt ≠ c.createdAt → c'.title ≠ c.title := by
  rw [title_of_unnamed hc]
  refine ⟨fun hrange => ?_, fun hrange => ⟨?_, creationText_of_outside hrange⟩, ?_⟩
  · obtain ⟨m, hm, hyear, hseconds, htext⟩ := creationText_of_inRange hrange
    refine ⟨m, hm, hyear, hseconds, ?_, htext⟩
    intro n hn hn'
    exact hn.eq_of_seconds hm (hn'.trans hseconds.symm)
  · intro n hn hn' hyear
    exact hrange (hn' ▸ (Moment.inRange_iff hn).1 hyear)
  · intro c' hc' hne htitle
    rw [title_of_unnamed hc'] at htitle
    exact hne (creationText_inj htitle)

/-! ### A leap day, and a second too late -/

/-- A clustering with an empty name. -/
def nameless (seconds : Int64) : Clustering where
  id := "c1"
  name := some ""
  createdAt := seconds

/-- The last second of a leap day. -/
def leapMoment : Moment where
  date := ⟨2000, 2, 29⟩
  hour := 23
  minute := 59
  second := 59

theorem valid_leapMoment : leapMoment.Valid := ⟨⟨by decide, by decide, by decide, by decide⟩,
  by decide, by decide, by decide⟩

theorem seconds_leapMoment : leapMoment.seconds = 951868799 := by
  rw [Moment.seconds, Calendar.Date.dayNumber, Calendar.yearStart_eq]
  rfl

/-- One clustering was created on a leap day of a full century, and one right behind the last second
that can be shown. -/
theorem title_tells_creation_leapDay :
    (nameless 951868799).Unnamed ∧ (nameless 8210266876800).Unnamed ∧
      (nameless 951868799).title = "2000-02-29 23:59:59 UTC" ∧
      (nameless 8210266876800).title = "8210266876800" ∧
      (nameless 8210266876800).title ≠ (nameless 951868799).title := by
  have hleap : (nameless 951868799).Unnamed := .inr rfl
  have hlate : (nameless 8210266876800).Unnamed := .inr rfl
  obtain ⟨hshown, -, hdiffer⟩ := title_tells_creation hleap
  obtain ⟨-, hnumber, -⟩ := title_tells_creation hlate
  refine ⟨hleap, hlate, ?_, ?_, hdiffer _ hlate (by decide)⟩
  · obtain ⟨m, -, -, -, hunique, htitle⟩ := hshown (by decide)
    rw [htitle, ← hunique leapMoment valid_leapMoment seconds_leapMoment]
    decide +kernel
  · rw [(hnumber (by decide)).2]
    rfl

end EventDetection.Clustering
