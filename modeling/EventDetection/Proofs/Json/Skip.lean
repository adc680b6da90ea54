import EventDetection.Json.Skip
import EventDetection.Proofs.Json.Scanner

/-!
# Passing over what can be read

Where a value can be read, it can be passed over, up to the same place.

* `skipString_of_scanString`, `skipNumber_of_scanNumber`: single tokens.
* `SkipsTo`: a stretch of the text, with the steps that it takes.  Two for each character are
  enough.
* `skipsTo_of_scanValue`: a value inside of open containers.
* `skipValue_of_scanValue`: **what can be read can be passed over.**
-/

namespace EventDetection.Json

/-! ### Blanks -/

theorem skipFrom_skipSpaces (fuel : Nat) (stack : List Container) (cs : List Char) :
    skipFrom fuel stack .value (skipSpaces cs) = skipFrom fuel stack .value cs := by
  cases fuel with
  | zero => rfl
  | succ fuel => rw [skipFrom, skipFrom, skipSpaces_skipSpaces]

theorem length_skipSpaces_le (cs : List Char) : (skipSpaces cs).length ≤ cs.length :=
  (List.dropWhile_suffix isSpace).length_le

theorem length_lt_of_skipSpaces {cs ds : List Char} {c : Char} (h : skipSpaces cs = c :: ds) :
    ds.length < cs.length := by
  have hspaces := length_skipSpaces_le cs
  rw [h, List.length_cons] at hspaces
  exact hspaces

/-! ### Tokens -/

/-- Where passing over a string stands when reading it stands at a place.  The second half of a
surrogate pair is an escape like any other. -/
def Pending.skipped : Pending → SkipPending
  | .plain | .lowBackslash _ => .plain
  | .letter | .lowLetter _ => .letter
  | .hex count _ | .lowHex _ count _ => .hex count

theorem skipString_of_scanStringFrom {p : Pending} {acc cs s rest : List Char}
    (h : scanStringFrom p acc cs = .ok (s, rest)) : skipString p.skipped cs = .ok rest := by
  fun_induction scanStringFrom p acc cs
  -- each place of reading takes one character, and so does the place where passing over stands
  all_goals grind [Pending.skipped, skipString, syntaxError]

theorem skipString_of_scanString {cs rest : List Char} {s : String}
    (h : scanString cs = .ok (s, rest)) : skipString .plain cs = .ok rest := by
  obtain ⟨⟨t, r⟩, ht, h⟩ := bind_eq_ok_iff.1 h
  cases h
  exact skipString_of_scanStringFrom ht

theorem rest_of_realNumber {positive : Bool} {significand : Nat} {exponent : Int} {n : Number}
    {cs rest : List Char} (h : realNumber positive significand exponent cs = .ok (n, rest)) :
    rest = cs := by
  rw [realNumber] at h
  split at h
  · cases h
    rfl
  · exact nomatch h

theorem rest_of_wordNumber {positive : Bool} {m : Nat} {n : Number} {cs rest : List Char}
    (h : wordNumber positive m cs = .ok (n, rest)) : rest = cs := by
  rw [wordNumber] at h
  split at h
  · cases h
    rfl
  · split at h
    · exact rest_of_realNumber h
    · cases h
      rfl

theorem skipExponent_of_scanExponent {positive : Bool} {significand : Nat} {exponent : Int}
    {n : Number} {cs rest : List Char}
    (h : scanExponent positive significand exponent cs = .ok (n, rest)) :
    skipExponent cs = .ok rest := by
  unfold scanExponent at h
  split at h
  next upward ds hsign =>
  cases ds with
  | nil => exact nomatch h
  | cons c r =>
    dsimp only at h
    split at h
    · exact nomatch h
    · next hc =>
      have hdigit : c.isDigit = true := by simpa using hc
      have hrest : rest = r.dropWhile Char.isDigit := by
        rw [List.dropWhile_cons_of_pos hdigit] at h
        split at h
        · split at h
          · exact nomatch h
          · cases h
            rfl
        · exact rest_of_realNumber h
      rw [hrest]
      -- the sign, if there is one, stands before the digits
      split at hsign
      · cases hsign
        exact if_pos hdigit
      · cases hsign
        exact if_pos hdigit
      · next hplus hminus =>
        cases hsign
        unfold skipExponent
        split
        · next heq => exact absurd heq (hplus _)
        · next heq => exact absurd heq (hminus _)
        · exact if_pos hdigit

theorem skipAfterDigits_of_scanAfterDigits {positive : Bool} {significand : Nat} {exponent : Int}
    {n : Number} {cs rest : List Char}
    (h : scanAfterDigits positive significand exponent cs = .ok (n, rest)) :
    skipAfterDigits cs = .ok rest := by
  cases cs with
  | nil => rw [skipAfterDigits, rest_of_realNumber h]
  | cons c r =>
    simp only [scanAfterDigits] at h
    simp only [skipAfterDigits]
    split at h
    · next hc => exact (if_pos hc).trans (skipExponent_of_scanExponent h)
    · next hc => rw [if_neg hc, rest_of_realNumber h]

/-- Passes over what may follow the first digits of a number, a point included. -/
def skipAfterWhole : List Char → Except ReadError (List Char)
  | '.' :: r =>
    if (r.takeWhile Char.isDigit).isEmpty then syntaxError .invalidNumber
    else skipAfterDigits (r.dropWhile Char.isDigit)
  | cs => skipAfterDigits cs

theorem skipAfterWhole_of_ne {c : Char} {cs : List Char} (hc : c ≠ '.') :
    skipAfterWhole (c :: cs) = skipAfterDigits (c :: cs) := by
  unfold skipAfterWhole
  split
  · next heq => exact absurd (List.cons.inj heq).1 hc
  · rfl

/-- Behind digits that may start a number, passing over goes on with what follows them. -/
theorem skipNumber_of_takeWhile {cs : List Char} (hnil : cs.takeWhile Char.isDigit ≠ [])
    (hzero : ∀ c r, cs.takeWhile Char.isDigit ≠ '0' :: c :: r) :
    skipNumber cs = skipAfterWhole (cs.dropWhile Char.isDigit) := by
  unfold skipNumber
  -- the two hypotheses leave the last case of the definition only
  simp only
  rfl

theorem skipAfterWhole_of_scanFraction {positive : Bool} {significand left : Nat}
    {n : Number} {cs rest : List Char}
    (h : scanFraction positive significand left cs = .ok (n, rest)) :
    skipAfterWhole ('.' :: cs) = .ok rest := by
  simp only [scanFraction] at h
  simp only [skipAfterWhole]
  split at h
  · split at h <;> exact nomatch h
  · next hdigits => exact (if_neg hdigits).trans (skipAfterDigits_of_scanAfterDigits h)

theorem skipNumber_of_scanNumber {positive : Bool} {n : Number} {cs rest : List Char}
    (h : scanNumber positive cs = .ok (n, rest)) : skipNumber cs = .ok rest := by
  simp only [scanNumber] at h
  split at h
  · split at h <;> exact nomatch h
  · exact nomatch h
  · next hnil hzero =>
    rw [skipNumber_of_takeWhile hnil hzero]
    split at h
    · next r hr =>
      rw [hr]
      exact skipAfterWhole_of_scanFraction h
    · next c r hpoint hr =>
      rw [hr, skipAfterWhole_of_ne hpoint, skipAfterDigits]
      split at h
      · next hc => exact (if_pos hc).trans (skipExponent_of_scanExponent h)
      · next hc =>
        rw [if_neg hc]
        split at h
        · rw [rest_of_wordNumber h, hr]
        · rw [rest_of_realNumber h, hr]
    · next hr =>
      have hnone : skipAfterWhole [] = .ok [] := rfl
      rw [hr, hnone]
      split at h
      · rw [rest_of_wordNumber h]
      · rw [rest_of_realNumber h]

/-! ### Lengths -/

theorem length_lt_of_scanColon {cs rest : List Char} (h : scanColon cs = .ok rest) :
    rest.length < cs.length := by
  unfold scanColon at h
  split at h
  · exact nomatch h
  · next heq =>
    cases h
    exact length_lt_of_skipSpaces heq
  · exact nomatch h

theorem length_le_of_scanWord {word cs rest : List Char} (h : scanWord word cs = .ok rest) :
    rest.length ≤ cs.length := by
  fun_induction scanWord word cs with
  | case1 cs =>
    cases h
    exact Nat.le_refl _
  | case2 => exact nomatch h
  | case3 _ _ _ ih => exact Nat.le_succ_of_le (ih h)
  | case4 => exact nomatch h

theorem length_le_of_skipString {p : SkipPending} {cs rest : List Char}
    (h : skipString p cs = .ok rest) : rest.length ≤ cs.length := by
  fun_induction skipString p cs
  -- each place takes one character and goes on, or ends
  all_goals grind [syntaxError]

theorem length_dropWhile_digit_le (cs : List Char) :
    (cs.dropWhile Char.isDigit).length ≤ cs.length :=
  (List.dropWhile_suffix Char.isDigit).length_le

theorem length_le_of_skipExponent {cs rest : List Char} (h : skipExponent cs = .ok rest) :
    rest.length ≤ cs.length := by
  unfold skipExponent at h
  dsimp only at h
  split at h
  · exact nomatch h
  · next c r hsign =>
    have hlength : (c :: r).length ≤ cs.length := by
      rw [← hsign]
      split
      · exact Nat.le_succ _
      · exact Nat.le_succ _
      · exact Nat.le_refl _
    split at h
    · cases h
      exact Nat.le_trans (length_dropWhile_digit_le r) (Nat.le_of_succ_le hlength)
    · exact nomatch h

theorem length_le_of_skipAfterDigits {cs rest : List Char} (h : skipAfterDigits cs = .ok rest) :
    rest.length ≤ cs.length := by
  cases cs with
  | nil =>
    cases h
    exact Nat.le_refl _
  | cons c r =>
    rw [skipAfterDigits] at h
    split at h
    · exact Nat.le_succ_of_le (length_le_of_skipExponent h)
    · cases h
      exact Nat.le_refl _

theorem length_le_of_skipAfterWhole {cs rest : List Char} (h : skipAfterWhole cs = .ok rest) :
    rest.length ≤ cs.length := by
  unfold skipAfterWhole at h
  split at h
  · next r =>
    split at h
    · exact nomatch h
    · exact Nat.le_trans (length_le_of_skipAfterDigits h)
        (Nat.le_succ_of_le (length_dropWhile_digit_le r))
  · exact length_le_of_skipAfterDigits h

/-- A number has a digit at least. -/
theorem length_lt_of_skipNumber {cs rest : List Char} (h : skipNumber cs = .ok rest) :
    rest.length < cs.length := by
  have hcut := List.takeWhile_append_dropWhile (p := Char.isDigit) (l := cs)
  have hlength := congrArg List.length hcut
  rw [List.length_append] at hlength
  unfold skipNumber at h
  dsimp only at h
  split at h
  · exact nomatch h
  · exact nomatch h
  · next hnil _ =>
    have hdigits : 0 < (cs.takeWhile Char.isDigit).length := List.length_pos_iff.2 hnil
    have hrest : rest.length ≤ (cs.dropWhile Char.isDigit).length := length_le_of_skipAfterWhole h
    omega

/-! ### Values -/

/-- Behind a bracket, or behind an item. -/
def inside (first : Bool) : SkipState := if first then .opened else .ended

/-- The steps that take no character: the one from a bracket to what stands behind it. -/
def SkipState.free : SkipState → Nat
  | .opened => 1
  | .value | .ended => 0

/-- From one place on, values are passed over up to another one, in two steps for each character
in between at most. -/
def SkipsTo (state : SkipState) (stack : List Container) (cs : List Char)
    (state' : SkipState) (stack' : List Container) (rest : List Char) : Prop :=
  ∃ steps, steps + 2 * rest.length + state'.free ≤ 2 * cs.length + state.free ∧
    ∀ fuel, skipFrom (fuel + steps) stack state cs = skipFrom fuel stack' state' rest

section SkipsTo

variable {state state' state'' : SkipState} {stack stack' stack'' : List Container}
  {cs cs' cs'' rest : List Char}

theorem SkipsTo.step
    (h : ∀ fuel, skipFrom (fuel + 1) stack state cs = skipFrom fuel stack' state' rest)
    (hlength : 1 + 2 * rest.length + state'.free ≤ 2 * cs.length + state.free) :
    SkipsTo state stack cs state' stack' rest :=
  ⟨1, hlength, h⟩

theorem SkipsTo.trans (h : SkipsTo state stack cs state' stack' cs')
    (h' : SkipsTo state' stack' cs' state'' stack'' cs'') :
    SkipsTo state stack cs state'' stack'' cs'' := by
  obtain ⟨m, hm, hskip⟩ := h
  obtain ⟨n, hn, hskip'⟩ := h'
  refine ⟨n + m, by omega, fun fuel => ?_⟩
  rw [← Nat.add_assoc, hskip, hskip']

theorem SkipsTo.of_skipSpaces (h : SkipsTo .value stack (skipSpaces cs) state' stack' rest) :
    SkipsTo .value stack cs state' stack' rest := by
  obtain ⟨n, hn, hskip⟩ := h
  have hspaces := length_skipSpaces_le cs
  refine ⟨n, by omega, fun fuel => ?_⟩
  rw [← skipFrom_skipSpaces, hskip]

/-- A token is passed over in one step. -/
theorem SkipsTo.token {token : Except ReadError (List Char)}
    (h : ∀ fuel, skipFrom (fuel + 1) stack .value cs = token >>= skipFrom fuel stack .ended)
    (htoken : token = .ok rest) (hlength : rest.length < cs.length) :
    SkipsTo .value stack cs .ended stack rest := by
  subst htoken
  refine .step h ?_
  simp only [SkipState.free]
  omega

end SkipsTo

theorem skipsTo_listStart {stack : List Container} {cs : List Char} :
    SkipsTo .value stack ('[' :: cs) .opened (.list :: stack) cs := by
  refine .step (fun fuel => ?_) ?_
  · rw [skipFrom, skipSpaces_cons rfl]
    rfl
  · simp only [SkipState.free, List.length_cons]
    omega

theorem skipsTo_listEnd {first : Bool} {stack : List Container} {cs rest : List Char}
    (h : skipSpaces cs = ']' :: rest) :
    SkipsTo (inside first) (.list :: stack) cs .ended stack rest := by
  have hlength := length_lt_of_skipSpaces h
  refine .step (fun fuel => ?_) ?_
  · cases first <;> simp [inside, skipFrom, h]
  · simp only [SkipState.free]
    omega

theorem skipsTo_item {first : Bool} {stack : List Container} {cs ds start : List Char} {c : Char}
    (h : skipSpaces cs = c :: ds) (hc : c ≠ ']') (hstart : nextItem first (c :: ds) = .ok start) :
    SkipsTo (inside first) (.list :: stack) cs .value (.list :: stack) start := by
  have hlength := length_lt_of_skipSpaces h
  rcases nextItem_eq_ok hstart with ⟨rfl, rfl⟩ | ⟨rfl, rfl, rfl⟩
  · refine .step (fun fuel => ?_) ?_
    · simp [inside, skipFrom, h, hc]
    · simp only [inside, SkipState.free, List.length_cons, if_true]
      omega
  · have hspaces := length_skipSpaces_le ds
    refine .step (fun fuel => ?_) ?_
    · rw [skipFrom_skipSpaces]
      simp [inside, skipFrom, h]
    · simp only [SkipState.free]
      omega

theorem skipsTo_items {item : List Char → Except ReadError (Value × List Char)}
    (hitem : ∀ {cs v mid} stack, item cs = .ok (v, mid) → SkipsTo .value stack cs .ended stack mid)
    {first : Bool} {cs rest : List Char} {vs : List Value} (h : ItemsRun item first cs vs rest)
    (stack : List Container) : SkipsTo (inside first) (.list :: stack) cs .ended stack rest := by
  induction h with
  | done h => exact skipsTo_listEnd h
  | next h hc hstart hv _ ih =>
    exact ((skipsTo_item h hc hstart).trans (hitem _ hv)).trans ih

theorem skipsTo_objectStart {stack : List Container} {cs : List Char} :
    SkipsTo .value stack ('\x7b' :: cs) .opened (.object :: stack) cs := by
  refine .step (fun fuel => ?_) ?_
  · rw [skipFrom, skipSpaces_cons rfl]
    rfl
  · simp only [SkipState.free, List.length_cons]
    omega

theorem skipsTo_objectEnd {first : Bool} {stack : List Container} {cs rest : List Char}
    (h : skipSpaces cs = '\x7d' :: rest) :
    SkipsTo (inside first) (.object :: stack) cs .ended stack rest := by
  have hlength := length_lt_of_skipSpaces h
  refine .step (fun fuel => ?_) ?_
  · cases first <;> simp [inside, skipFrom, h]
  · simp only [SkipState.free]
    omega

/-- A name and the colon behind it are passed over. -/
theorem skipsTo_name {first : Bool} {stack : List Container} {cs ds start behind mid : List Char}
    {c : Char} {name : String} (h : skipSpaces cs = c :: ds) (hc : c ≠ '\x7d')
    (hstart : nextName first (c :: ds) = .ok start)
    (hname : scanString start = .ok (name, behind)) (hcolon : scanColon behind = .ok mid) :
    SkipsTo (inside first) (.object :: stack) cs .value (.object :: stack) mid := by
  have hskip := skipString_of_scanString hname
  have hquote {ds : List Char} (hds : skipSpaces ds = '"' :: start) : skipName ds = .ok mid := by
    rw [skipName, hds]
    exact bind_eq_ok_iff.2 ⟨behind, hskip, hcolon⟩
  have hlength := length_lt_of_skipSpaces h
  have hbehind := length_le_of_skipString hskip
  have hmid := length_lt_of_scanColon hcolon
  rcases nextName_eq_ok hstart with ⟨rfl, rfl, rfl⟩ | ⟨rfl, rfl, hds⟩
  · have hskipName := hquote (skipSpaces_cons rfl start)
    refine .step (fun fuel => ?_) ?_
    · simp [inside, skipFrom, h, hskipName, ok_bind]
    · simp only [SkipState.free]
      omega
  · have hskipName := hquote hds
    have hstart := length_lt_of_skipSpaces hds
    refine .step (fun fuel => ?_) ?_
    · simp [inside, skipFrom, h, hskipName, ok_bind]
    · simp only [SkipState.free]
      omega

theorem skipsTo_members {σ : Type}
    {member : String → σ → List Char → Except ReadError (σ × List Char)}
    (hmember : ∀ {name s cs t mid} stack, member name s cs = .ok (t, mid) →
      ∃ start, scanColon cs = .ok start ∧ SkipsTo .value stack start .ended stack mid)
    {first : Bool} {s t : σ} {cs rest : List Char} (h : MembersRun member first s cs t rest)
    (stack : List Container) : SkipsTo (inside first) (.object :: stack) cs .ended stack rest := by
  induction h with
  | done h => exact skipsTo_objectEnd h
  | next h hc hstart hname ht _ ih =>
    obtain ⟨start, hcolon, hvalue⟩ := hmember (.object :: stack) ht
    exact ((skipsTo_name h hc hstart hname hcolon).trans hvalue).trans ih

theorem skipsTo_of_reads {room : Nat}
    (hinner : ∀ {inner cs v mid} stack, room = inner + 1 → scanValue inner cs = .ok (v, mid) →
      SkipsTo .value stack cs .ended stack mid)
    {cs rest : List Char} {v : Value} (h : Reads room (skipSpaces cs) v rest)
    (stack : List Container) : SkipsTo .value stack cs .ended stack rest := by
  refine .of_skipSpaces ?_
  generalize skipSpaces cs = ds at h
  cases h with
  | null hw =>
    refine .token (fun fuel => ?_) hw (Nat.lt_succ_of_le (length_le_of_scanWord hw))
    rw [skipFrom, skipSpaces_cons rfl]
    rfl
  | yes hw =>
    refine .token (fun fuel => ?_) hw (Nat.lt_succ_of_le (length_le_of_scanWord hw))
    rw [skipFrom, skipSpaces_cons rfl]
    rfl
  | no hw =>
    refine .token (fun fuel => ?_) hw (Nat.lt_succ_of_le (length_le_of_scanWord hw))
    rw [skipFrom, skipSpaces_cons rfl]
    rfl
  | string hs =>
    have hskip := skipString_of_scanString hs
    refine .token (fun fuel => ?_) hskip (Nat.lt_succ_of_le (length_le_of_skipString hskip))
    rw [skipFrom, skipSpaces_cons rfl]
    rfl
  | negative hn =>
    have hskip := skipNumber_of_scanNumber hn
    refine .token (fun fuel => ?_) hskip (Nat.lt_succ_of_lt (length_lt_of_skipNumber hskip))
    rw [skipFrom, skipSpaces_cons rfl]
    rfl
  | @positive c cs n _ hc hn =>
    have hskip := skipNumber_of_scanNumber hn
    refine .token (fun fuel => ?_) hskip (length_lt_of_skipNumber hskip)
    rw [skipFrom, skipSpaces_cons (isSpace_of_isDigit hc)]
    split
    -- no other value starts with a digit
    all_goals first
      | (next heq => cases heq; exact absurd hc (by decide))
      | (next heq => cases heq; done)
      | skip
    next heq =>
      cases heq
      rw [if_pos hc]
  | array hroom hitems =>
    have hruns := scanItems_eq_ok hitems
    exact skipsTo_listStart.trans
      (skipsTo_items (fun stack hv => hinner stack hroom hv) hruns stack)
  | object hroom hmembers =>
    have hruns := scanMembers_eq_ok hmembers
    refine skipsTo_objectStart.trans (skipsTo_members (fun stack he => ?_) hruns stack)
    obtain ⟨start, x, hcolon, hx, -⟩ := scanEntry_eq_ok_iff.1 he
    exact ⟨start, hcolon, hinner stack hroom hx⟩

/-- Where a value can be read, passing over it inside of open containers ends where reading it
ends. -/
theorem skipsTo_of_scanValue {room : Nat} {cs rest : List Char} {v : Value}
    (h : scanValue room cs = .ok (v, rest)) (stack : List Container) :
    SkipsTo .value stack cs .ended stack rest := by
  induction room generalizing cs v rest stack with
  | zero =>
    refine skipsTo_of_reads (fun _ hroom _ => ?_) (scanValue_eq_ok_iff.1 h) stack
    exact absurd hroom (Nat.succ_ne_zero _).symm
  | succ room ih =>
    refine skipsTo_of_reads (fun stack hroom hv => ?_) (scanValue_eq_ok_iff.1 h) stack
    cases hroom
    exact ih hv stack

/-- **What can be read can be passed over**, up to where reading it ends. -/
theorem skipValue_of_scanValue {room : Nat} {cs rest : List Char} {v : Value}
    (h : scanValue room cs = .ok (v, rest)) : skipValue cs = .ok rest := by
  obtain ⟨steps, hsteps, hskip⟩ := skipsTo_of_scanValue h []
  simp only [SkipState.free] at hsteps
  -- there is fuel for one step more, which is the one that ends it
  obtain ⟨left, hleft⟩ : ∃ left, 2 * cs.length + 2 = left + 1 + steps :=
    ⟨2 * cs.length + 1 - steps, by omega⟩
  rw [skipValue, hleft, hskip, skipFrom]

end EventDetection.Json
