import EventDetection.Json.Printer
import EventDetection.Proofs.Json.Scanner

/-!
# Written tokens

A string or an integer is read back from its text, whatever follows it there.

* `scanString_escaped`: **a written string is read back.**
* `scanNumber_natChars`: the digits of a number that fits a word are read back as far as
  they go.
-/

namespace EventDetection.Json

/-- What may follow a value in a text without blanks. -/
inductive Follows : List Char → Prop
  | nil : Follows []
  | comma (cs : List Char) : Follows (',' :: cs)
  | bracket (cs : List Char) : Follows (']' :: cs)
  | brace (cs : List Char) : Follows ('\x7d' :: cs)

/-! ### Strings -/

theorem hexValue?_digitChar : ∀ d < 16, hexValue? (Nat.digitChar d) = some d := by decide

theorem utf8Size_digitChar : ∀ d < 16, (Nat.digitChar d).utf8Size = 1 := by decide

/-- An escaped character is read as the character. -/
theorem scanStringFrom_escapedChar (c : Char) (acc cs : List Char) :
    scanStringFrom .plain acc (escapedChar c ++ cs) = scanStringFrom .plain (c :: acc) cs := by
  unfold escapedChar
  split
  · next h => subst h; rfl
  split
  · next h => subst h; rfl
  split
  · next h => subst h; rfl
  split
  · next h => subst h; rfl
  split
  · next h => subst h; rfl
  split
  · next h => subst h; rfl
  split
  · next h => subst h; rfl
  split
  · next h =>
    have hhigh := hexValue?_digitChar (c.toNat / 16) (by omega)
    have hlow := hexValue?_digitChar (c.toNat % 16) (by omega)
    have hlong : tooShortForHex
        ('0' :: '0' :: Nat.digitChar (c.toNat / 16) :: Nat.digitChar (c.toNat % 16) :: cs) =
          false := by
      have hsize : ('0' : Char).utf8Size = 1 := by decide
      simp [tooShortForHex, hsize, utf8Size_digitChar (c.toNat / 16) (by omega),
        utf8Size_digitChar (c.toNat % 16) (by omega)]
    have hzero : hexValue? '0' = some 0 := by decide
    have hc : 16 * (c.toNat / 16) + c.toNat % 16 = c.toNat := by omega
    have hlone : ¬ (0xDC00 ≤ c.toNat ∧ c.toNat ≤ 0xDFFF) := by omega
    have hpair : ¬ (0xD800 ≤ c.toNat ∧ c.toNat ≤ 0xDBFF) := by omega
    simp [scanStringFrom, hlong, hzero, hhigh, hlow, hc, hlone, hpair]
  · next hquote hback _ _ _ _ _ hcontrol =>
    simp [scanStringFrom, hquote, hback, hcontrol]

theorem scanStringFrom_escaped (cs acc rest : List Char) :
    scanStringFrom .plain acc (cs.flatMap escapedChar ++ '"' :: rest) =
      .ok (acc.reverse ++ cs, rest) := by
  induction cs generalizing acc with
  | nil => simp [scanStringFrom]
  | cons c cs ih =>
    rw [List.flatMap_cons, List.append_assoc, scanStringFrom_escapedChar, ih, List.reverse_cons,
      List.append_assoc, List.singleton_append]

/-- **A written string is read back.** -/
theorem scanString_escaped (s : String) (rest : List Char) :
    scanString (s.toList.flatMap escapedChar ++ '"' :: rest) = .ok (s, rest) := by
  rw [scanString, scanStringFrom_escaped]
  exact congrArg (fun t => Except.ok (t, rest)) String.ofList_toList

theorem stringChars_append (s : String) (rest : List Char) :
    stringChars s ++ rest = '"' :: (s.toList.flatMap escapedChar ++ '"' :: rest) := by
  simp [stringChars]

/-! ### Numbers -/

theorem digitValue_digitChar : ∀ d < 10, digitValue (Nat.digitChar d) = d := by decide

theorem natChars_eq_if (n : Nat) :
    natChars n =
      if n < 10 then [Nat.digitChar n] else natChars (n / 10) ++ [Nat.digitChar (n % 10)] :=
  Nat.toDigits_eq_if (by omega)

/-- Only zero starts with the digit zero. -/
theorem natChars_eq_cons (n : Nat) : ∃ c cs, natChars n = c :: cs ∧ (c = '0' → n = 0) := by
  induction n using Nat.strongRecOn with
  | ind n ih =>
    rw [natChars_eq_if]
    split
    · exact ⟨_, _, rfl, Nat.digitChar_eq_zero.1⟩
    · next hn =>
      obtain ⟨c, cs, hcs, hc⟩ := ih (n / 10) (by omega)
      rw [hcs]
      refine ⟨c, _, List.cons_append, fun hzero => ?_⟩
      have := hc hzero
      omega

theorem isDigit_of_mem_natChars {n : Nat} {c : Char} (h : c ∈ natChars n) : c.isDigit = true :=
  Nat.isDigit_of_mem_toDigits (by omega) (by omega) h

theorem absorb_append {m a : Nat} {cs ds : List Char} (h : absorb m cs = (a, [])) :
    absorb m (cs ++ ds) = absorb a ds := by
  induction cs generalizing m with
  | nil =>
    cases h
    rfl
  | cons c cs ih =>
    rw [absorb] at h
    rw [List.cons_append, absorb]
    split at h
    · next hm => rw [if_pos hm, ih h]
    · exact nomatch h

/-- The digits of a number that fits a word are taken into it. -/
theorem absorb_natChars {n : Nat} (h : n < UInt64.size) : absorb 0 (natChars n) = (n, []) := by
  induction n using Nat.strongRecOn with
  | ind n ih =>
    have hlast {m d : Nat} (hd : d < 10) (hm : 10 * m + d < UInt64.size) :
        absorb m [Nat.digitChar d] = (10 * m + d, []) := by
      rw [absorb, digitValue_digitChar d hd]
      exact if_pos hm
    rw [natChars_eq_if]
    split
    · next hn =>
      have hdigit := hlast (m := 0) hn (by omega)
      rwa [Nat.mul_zero, Nat.zero_add] at hdigit
    · next hn =>
      have hn' : 10 * (n / 10) + n % 10 = n := by omega
      rw [absorb_append (ih (n / 10) (by omega) (by omega)), hlast (by omega) (by omega), hn']

/-- The digits of a number that fits a word are read as far as they go. -/
theorem scanNumber_natChars (positive : Bool) {n : Nat} (hn : n < UInt64.size) {rest : List Char}
    (hrest : Follows rest) :
    scanNumber positive (natChars n ++ rest) = wordNumber positive n rest := by
  obtain ⟨c, cs, hcs, hzero⟩ := natChars_eq_cons n
  have hdigits : ∀ c ∈ natChars n, c.isDigit = true := fun c hc => isDigit_of_mem_natChars hc
  have htake : (natChars n ++ rest).takeWhile Char.isDigit = natChars n := by
    rw [List.takeWhile_append_of_pos hdigits]
    cases hrest <;> exact List.append_nil _
  have hdrop : (natChars n ++ rest).dropWhile Char.isDigit = rest := by
    rw [List.dropWhile_append_of_pos hdigits]
    cases hrest <;> rfl
  simp only [scanNumber, htake, hdrop]
  split
  · next h => exact absurd (hcs.symm.trans h) (List.cons_ne_nil _ _)
  · next h =>
    -- zero has one digit
    have h0 := hzero (List.cons.inj (hcs.symm.trans h)).1
    rw [h0] at h
    exact nomatch h
  · simp only [absorb_natChars hn]
    cases hrest <;> rfl

/-- **A written integer is read back**, if it fits a word. -/
theorem scanNumber_integer {k : Int} (h : (Number.integer k).isWord = true) {rest : List Char}
    (hrest : Follows rest) :
    (∃ n : Nat, k = n ∧ (Number.integer k).chars = natChars n ∧
      scanNumber true (natChars n ++ rest) = .ok (.integer k, rest)) ∨
    (∃ cs, (Number.integer k).chars = '-' :: cs ∧
      scanNumber false (cs ++ rest) = .ok (.integer k, rest)) := by
  simp only [Number.isWord, Bool.and_eq_true, decide_eq_true_eq] at h
  cases k with
  | ofNat n =>
    have hn : n < UInt64.size := Int.ofNat_lt.1 h.2
    refine .inl ⟨n, rfl, rfl, ?_⟩
    rw [scanNumber_natChars true hn hrest]
    rfl
  | negSucc n =>
    have hn : n + 1 ≤ 0x8000000000000000 := by
      have := h.1
      omega
    refine .inr ⟨natChars (n + 1), rfl, ?_⟩
    rw [scanNumber_natChars false (Nat.lt_of_le_of_lt hn (by decide)) hrest, wordNumber]
    have hword : ¬ (decide (n + 1 = 0) || decide (0x8000000000000000 < n + 1)) = true := by
      simp only [Bool.or_eq_true, decide_eq_true_eq]
      omega
    rw [if_neg Bool.false_ne_true, if_neg hword]
    rfl

end EventDetection.Json
