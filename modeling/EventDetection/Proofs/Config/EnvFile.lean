import EventDetection.Config.EnvFile

/-!
# Environment files in two environments

The lines of a file that set variables are the same in every environment.  Only a dollar makes a
value depend on other variables, and it does so by putting texts together.  So what relates the
variables of two environments, and is kept when texts are put together, relates them still when a
file has set more.

* `EnvFile.lines`, `EnvFile.load_eq`: **a file is read as its lines**, one after the other.
* `EnvFile.readValue_rel`: related look-ups give related values.
* `Environment.SetsAlike`: two environments that set the same variables, to related values.
* `EnvFile.load_rel`: **a file keeps two environments related**, if each of its lines gives related
  values (`EnvFile.KeepsAlike`).
* `EnvFile.readAssignment_congr`, `EnvFile.mem_of_mem_lines`: a line without a dollar looks nothing
  up, and the lines of a file are made of its characters.
-/

namespace EventDetection

/-! ### Two environments -/

section Relations

variable {α : Type} {R S : α → α → Prop} {x y : Option α}

theorem rel_refl (h : ∀ a, R a a) (x : Option α) : Option.Rel R x x := by
  cases x with
  | none => exact .none
  | some a => exact .some (h a)

theorem rel_imp (hRS : ∀ a b, R a b → S a b) (h : Option.Rel R x y) : Option.Rel S x y := by
  cases h with
  | none => exact .none
  | some h => exact .some (hRS _ _ h)

theorem eq_of_rel (hR : ∀ a b, R a b → a = b) (h : Option.Rel R x y) : x = y := by
  cases h with
  | none => rfl
  | some h => rw [hR _ _ h]

theorem isSome_eq_of_rel (h : Option.Rel R x y) : x.isSome = y.isSome := by
  cases h <;> rfl

end Relations

namespace Environment

/-- Two environments set the same variables, to values that are related. -/
def SetsAlike (R : String → String → String → Prop) (env env' : Environment) : Prop :=
  ∀ name, Option.Rel (R name) (env.get? name) (env'.get? name)

variable {R : String → String → String → Prop} {env env' : Environment}

theorem setsAlike_refl (hR : ∀ name value, R name value value) (env : Environment) :
    env.SetsAlike R env := fun name => rel_refl (hR name) _

theorem setsAlike_empty (R : String → String → String → Prop) :
    SetsAlike R Dict.empty Dict.empty := by
  intro name
  rw [Dict.get?_empty]
  exact .none

theorem setsAlike_insert (h : env.SetsAlike R env') {name value value' : String}
    (hvalue : R name value value') :
    Environment.SetsAlike R (Dict.insert env name value) (Dict.insert env' name value') := by
  intro other
  rw [Dict.get?_insert, Dict.get?_insert]
  split
  · next hname =>
    subst hname
    exact .some hvalue
  · exact h other

end Environment

namespace EnvFile

/-- No name is being read. -/
def ValueState.IsOutsideNames : ValueState → Prop
  | .name .. | .braced .. => False
  | _ => True

variable {lookup lookup' : String → String}

/-! ### Values -/

/-- A value without a dollar is read without looking anything up. -/
theorem readValue_congr {s : ValueState} (hs : s.IsOutsideNames) (out : List Char)
    {cs : List Char} (h : '$' ∉ cs) :
    readValue lookup s out cs = readValue lookup' s out cs := by
  induction cs generalizing s out with
  | nil =>
    cases s with
    | text quoted => cases quoted <;> rfl
    | escaped quoted => cases quoted <;> rfl
    | single => rfl
    | done => rfl
    | name quoted n => exact False.elim hs
    | braced quoted n => exact False.elim hs
  | cons c cs ih =>
    have hc : c ≠ '$' := fun hc => h (hc ▸ List.mem_cons_self)
    have hcs : '$' ∉ cs := fun hmem => h (List.mem_cons_of_mem c hmem)
    have next (s' : ValueState) (hs' : s'.IsOutsideNames) (out' : List Char) :
        readValue lookup s' out' cs = readValue lookup' s' out' cs := ih hs' out' hcs
    cases s with
    | text quoted =>
      simp only [readValue, if_neg hc]
      rw [next (.escaped quoted) trivial, next (.text !quoted) trivial, next (.text true) trivial,
        next .single trivial, next .done trivial, next (.text false) trivial]
    | single =>
      simp only [readValue]
      rw [next (.text false) trivial, next .single trivial]
    | escaped quoted =>
      simp only [readValue]
      rw [next (.text quoted) trivial, next (.text quoted) trivial]
    | done =>
      simp only [readValue]
      rw [next .done trivial]
    | name quoted n => exact False.elim hs
    | braced quoted n => exact False.elim hs

/-! ### Lines -/

theorem subset_dropLine (cs : List Char) : dropLine cs ⊆ cs :=
  fun _ hc => (List.dropWhile_suffix _).mem (List.mem_of_mem_drop hc)

theorem mem_of_mem_finishLine {c : Char} {before : List Char} (h : c ∈ finishLine before) :
    c ∈ before := by
  unfold finishLine at h
  split at h
  · exact List.mem_cons_of_mem _ (List.mem_reverse.1 h)
  · exact List.mem_reverse.1 h

/-- A line and what follows it are made of the characters of the text. -/
theorem mem_of_takeLine {s : LineState} {before cs line rest : List Char}
    (h : takeLine s before cs = some (line, rest)) :
    (∀ c ∈ line, c ∈ before ∨ c ∈ cs) ∧ ∀ c ∈ rest, c ∈ cs := by
  induction cs generalizing s before with
  | nil =>
    rw [takeLine] at h
    split at h
    · cases h
      exact ⟨fun c hc => .inl (List.mem_reverse.1 hc), nofun⟩
    · exact nomatch h
  | cons d cs ih =>
    rw [takeLine] at h
    split at h
    · cases h
      exact ⟨fun c hc => .inl (List.mem_reverse.1 hc),
        fun c hc => List.mem_cons_of_mem d (subset_dropLine cs hc)⟩
    · split at h
      · cases h
        exact ⟨fun c hc => .inl (mem_of_mem_finishLine hc), fun c => List.mem_cons_of_mem d⟩
      · obtain ⟨hline, hrest⟩ := ih h
        refine ⟨fun c hc => ?_, fun c hc => List.mem_cons_of_mem d (hrest c hc)⟩
        rcases hline c hc with hbefore | hcs
        · rcases List.mem_cons.1 hbefore with rfl | hbefore
          · exact .inr List.mem_cons_self
          · exact .inl hbefore
        · exact .inr (List.mem_cons_of_mem d hcs)

theorem mem_of_takeName {name : String} {cs rest : List Char}
    (h : takeName cs = some (name, rest)) :
    ∀ c ∈ rest, c ∈ cs := by
  cases cs with
  | nil => exact nomatch h
  | cons d cs =>
    rw [takeName] at h
    split at h
    · cases h
      exact fun c hc => (List.dropWhile_suffix _).mem hc
    · exact nomatch h

theorem mem_of_takeEquals {cs rest : List Char} (h : takeEquals cs = some rest) :
    ∀ c ∈ rest, c ∈ cs := by
  unfold takeEquals at h
  split at h
  · cases h
    exact fun c => List.mem_cons_of_mem _
  · exact nomatch h

theorem mem_of_mem_skipBlanks {c : Char} {cs : List Char} (h : c ∈ skipBlanks cs) : c ∈ cs :=
  (List.dropWhile_suffix _).mem h

/-- The text of a value is a part of its line. -/
theorem mem_of_takeTarget {name : String} {cs value : List Char}
    (h : takeTarget cs = some (name, value)) : ∀ c ∈ value, c ∈ cs := by
  unfold takeTarget at h
  obtain ⟨⟨first, rest⟩, hfirst, h⟩ := Option.bind_eq_some_iff.1 h
  dsimp only at h
  split at h
  · next behind hbehind =>
    cases h
    intro c hc
    have hc' := mem_of_takeEquals hbehind c (mem_of_mem_skipBlanks hc)
    exact mem_of_takeName hfirst c (mem_of_mem_skipBlanks hc')
  · obtain ⟨⟨second, rest'⟩, hsecond, h⟩ := Option.bind_eq_some_iff.1 h
    obtain ⟨behind, hbehind, h⟩ := Option.bind_eq_some_iff.1 h
    cases h
    intro c hc
    have hc' := mem_of_takeEquals hbehind c (mem_of_mem_skipBlanks hc)
    have hc'' := mem_of_takeName hsecond c (mem_of_mem_skipBlanks hc')
    exact mem_of_takeName hfirst c (mem_of_mem_skipBlanks hc'')
  · exact nomatch h

/-- An assignment without a dollar is read without looking anything up. -/
theorem readAssignment_congr {line : List Char} (h : '$' ∉ line) :
    readAssignment lookup line = readAssignment lookup' line := by
  unfold readAssignment
  cases htarget : takeTarget line with
  | none => rfl
  | some target =>
    obtain ⟨name, value⟩ := target
    have hvalue : '$' ∉ value := fun hmem => h (mem_of_takeTarget htarget _ hmem)
    rw [Option.bind_eq_bind, Option.bind_eq_bind, Option.bind_some, Option.bind_some]
    dsimp only
    have hstart : (ValueState.text false).IsOutsideNames := trivial
    have hread : readValue lookup (.text false) [] value =
        readValue lookup' (.text false) [] value :=
      readValue_congr hstart [] hvalue
    rw [hread]

/-! ### The lines of a file -/

/-- The lines of a text that set variables, up to the first one that is not closed. -/
def linesFrom : (fuel : Nat) → List Char → List (List Char)
  | 0, _ => []
  | fuel + 1, cs =>
    if cs.isEmpty then []
    else if isRemark (skipBlanks (cs.takeWhile (· ≠ '\n'))) then linesFrom fuel (dropLine cs)
    else
      match takeLine .plain [] cs with
      | none => []
      | some (line, cs) => skipBlanks (Text.trimEnd line) :: linesFrom fuel cs

def lines (file : String) : List (List Char) :=
  let cs := match file.toList with
    | '\ufeff' :: cs => cs
    | cs => cs
  linesFrom (cs.length + 1) cs

/-- What a name stands for, given the values that the file gave before. -/
def valueOf (env given : Environment) (name : String) : String :=
  ((env.get? name).or (given.get? name)).getD ""

/-- The environment with a variable set, unless it is set already. -/
def setIfMissing (env : Environment) (name value : String) : Environment :=
  if (env.get? name).isSome then env else env.insert name value

/-- Sets the variables of lines, up to the first one that cannot be read. -/
def setLines : (env given : Environment) → List (List Char) → Environment
  | env, _, [] => env
  | env, given, line :: lines =>
    match readAssignment (valueOf env given) line with
    | none => env
    | some (name, value) => setLines (setIfMissing env name value) (given.insert name value) lines

theorem loadLines_eq (fuel : Nat) (env given : Environment) (cs : List Char) :
    loadLines fuel env given cs = setLines env given (linesFrom fuel cs) := by
  induction fuel generalizing env given cs with
  | zero => rfl
  | succ fuel ih =>
    rw [loadLines, linesFrom]
    split
    · rfl
    split
    · exact ih env given _
    cases takeLine .plain [] cs with
    | none => rfl
    | some parts =>
      obtain ⟨line, rest⟩ := parts
      dsimp only
      rw [setLines]
      change (match readAssignment (valueOf env given) (skipBlanks (Text.trimEnd line)) with
        | none => env
        | some (name, value) =>
          loadLines fuel (setIfMissing env name value) (given.insert name value) rest) = _
      cases readAssignment (valueOf env given) (skipBlanks (Text.trimEnd line)) with
      | none => rfl
      | some assignment => exact ih _ _ rest

/-- **A file is read as its lines**, in any environment. -/
theorem load_eq (env : Environment) (file : String) :
    load env file = setLines env Dict.empty (lines file) :=
  loadLines_eq _ _ _ _

theorem mem_of_mem_linesFrom {fuel : Nat} {c : Char} {line cs : List Char}
    (hline : line ∈ linesFrom fuel cs) (hc : c ∈ line) : c ∈ cs := by
  induction fuel generalizing cs with
  | zero => exact absurd hline List.not_mem_nil
  | succ fuel ih =>
    rw [linesFrom] at hline
    split at hline
    · exact absurd hline List.not_mem_nil
    split at hline
    · exact subset_dropLine cs (ih hline)
    split at hline
    · exact absurd hline List.not_mem_nil
    · next taken rest htake =>
      obtain ⟨hmem, hrest⟩ := mem_of_takeLine htake
      rcases List.mem_cons.1 hline with rfl | hline
      · have htrimmed := mem_of_mem_skipBlanks hc
        rw [Text.trimEnd, List.mem_reverse] at htrimmed
        have htaken : c ∈ taken := List.mem_reverse.1 ((List.dropWhile_suffix _).mem htrimmed)
        exact (hmem c htaken).resolve_left List.not_mem_nil
      · exact hrest c (ih hline)

/-- The lines of a file are made of its characters. -/
theorem mem_of_mem_lines {c : Char} {line : List Char} {file : String} (hline : line ∈ lines file)
    (hc : c ∈ line) : c ∈ file.toList := by
  have hmem := mem_of_mem_linesFrom hline hc
  split at hmem
  · next heq =>
    rw [heq]
    exact List.mem_cons_of_mem _ hmem
  · exact hmem

/-! ### Values in two environments -/

section Values

/-- A relation of texts that are put together from related pieces. -/
structure Joins (R : List Char → List Char → Prop) : Prop where
  refl : ∀ cs, R cs cs
  append : ∀ {as as' bs bs'}, R as as' → R bs bs' → R (as ++ bs) (as' ++ bs')

variable {R : List Char → List Char → Prop}

theorem Joins.snoc (hR : Joins R) {out out' : List Char} (h : R out.reverse out'.reverse)
    (c : Char) : R (c :: out).reverse (c :: out').reverse := by
  rw [List.reverse_cons, List.reverse_cons]
  exact hR.append h (hR.refl [c])

theorem Joins.looked (hR : Joins R) {out out' found found' : List Char}
    (h : R out.reverse out'.reverse) (hfound : R found found') :
    R (found.reverse ++ out).reverse (found'.reverse ++ out').reverse := by
  rw [List.reverse_append, List.reverse_append, List.reverse_reverse, List.reverse_reverse]
  exact hR.append h hfound

/-- **Related look-ups give related values**, or none in both cases. -/
theorem readValue_rel (hR : Joins R) (hlookup : ∀ n, R (lookup n).toList (lookup' n).toList)
    (s : ValueState) {out out' : List Char} (hout : R out.reverse out'.reverse) (cs : List Char) :
    Option.Rel R (readValue lookup s out cs) (readValue lookup' s out' cs) := by
  -- The two values so far may differ and are kept backwards: what is kept up is that their
  -- reverses are related, in every state.
  induction cs generalizing s out out' with
  | nil =>
    cases s with
    | text quoted =>
      cases quoted with
      | false => exact .some hout
      | true => exact .none
    | escaped quoted =>
      cases quoted with
      | false => exact .some hout
      | true => exact .none
    | name quoted n =>
      cases quoted with
      | false => exact .some (hR.append hout (hlookup _))
      | true => exact .none
    | done => exact .some hout
    | single => exact .none
    | braced quoted n => exact .none
  | cons c cs ih =>
    have hnext := hR.snoc hout
    have hfound (n : List Char) := hR.looked hout (hlookup (String.ofList n.reverse))
    cases s with
    | done =>
      simp only [readValue]
      split
      · exact ih .done hout
      split
      · exact .some hout
      · exact .none
    | escaped quoted =>
      simp only [readValue]
      split
      · exact ih _ (hnext _)
      split
      · exact ih _ (hnext _)
      · exact .none
    | single =>
      simp only [readValue]
      split
      · exact ih _ hout
      · exact ih _ (hnext _)
    | name quoted n =>
      simp only [readValue]
      split
      · exact ih _ hout
      split
      · exact ih _ hout
      split
      · exact ih _ (hfound n)
      · exact ih _ (hR.snoc (hfound n) c)
    | braced quoted n =>
      simp only [readValue]
      split
      · exact ih _ (hfound n)
      · exact ih _ hout
    | text quoted =>
      simp only [readValue]
      split
      · exact ih _ hout
      split
      · exact ih _ hout
      split
      · exact ih _ hout
      split
      · exact ih _ (hnext _)
      split
      · exact ih _ hout
      split
      · exact ih _ hout
      · exact ih _ (hnext _)

/-- Related look-ups make a line set the same variable to a related value, or none. -/
theorem readAssignment_rel (hR : Joins R) (hlookup : ∀ n, R (lookup n).toList (lookup' n).toList)
    (line : List Char) :
    Option.Rel (fun a a' => a.1 = a'.1 ∧ R a.2.toList a'.2.toList) (readAssignment lookup line)
      (readAssignment lookup' line) := by
  unfold readAssignment
  rcases takeTarget line with _ | ⟨name, text⟩
  · exact .none
  · rw [Option.bind_eq_bind, Option.bind_eq_bind, Option.bind_some, Option.bind_some]
    dsimp only
    split
    · exact .some ⟨rfl, hR.refl _⟩
    · have hstart : R (List.reverse []) (List.reverse []) := hR.refl []
      have hvalue := readValue_rel hR hlookup (.text false) hstart text
      generalize readValue lookup (.text false) [] text = value at hvalue
      generalize readValue lookup' (.text false) [] text = value' at hvalue
      cases hvalue with
      | none => exact .none
      | some h =>
        refine .some ⟨rfl, ?_⟩
        rw [String.toList_ofList, String.toList_ofList]
        exact h

end Values

/-! ### Lines in two environments -/

section Lines

variable {R : String → String → String → Prop} {env env' given given' : Environment}

theorem setsAlike_setIfMissing (h : env.SetsAlike R env') {name value value' : String}
    (hvalue : R name value value') :
    (setIfMissing env name value).SetsAlike R (setIfMissing env' name value') := by
  rw [setIfMissing, setIfMissing, isSome_eq_of_rel (h name)]
  split
  · exact h
  · exact Environment.setsAlike_insert h hvalue

/-- A name stands for related values. -/
theorem valueOf_rel (henv : env.SetsAlike R env') (hgiven : given.SetsAlike R given')
    {name : String} (hempty : R name "" "") :
    R name (valueOf env given name) (valueOf env' given' name) := by
  have hname := henv name
  have hbefore := hgiven name
  rw [valueOf, valueOf]
  generalize env.get? name = x at hname
  generalize env'.get? name = x' at hname
  generalize given.get? name = y at hbefore
  generalize given'.get? name = y' at hbefore
  cases hname with
  | some h => exact h
  | none =>
    cases hbefore with
    | some h => exact h
    | none => exact hempty

/-- A line sets a variable to related values, or it sets none, wherever all that it can look up is
related. -/
def KeepsAlike (R : String → String → String → Prop) (line : List Char) : Prop :=
  ∀ {env env' given given' : Environment}, env.SetsAlike R env' → given.SetsAlike R given' →
    Option.Rel (fun a a' => a.1 = a'.1 ∧ R a.1 a.2 a'.2)
      (readAssignment (valueOf env given) line) (readAssignment (valueOf env' given') line)

theorem setLines_rel {lines : List (List Char)} (hlines : ∀ line ∈ lines, KeepsAlike R line)
    (henv : env.SetsAlike R env') (hgiven : given.SetsAlike R given') :
    (setLines env given lines).SetsAlike R (setLines env' given' lines) := by
  induction lines generalizing env env' given given' with
  | nil => exact henv
  | cons line lines ih =>
    have hread := hlines line List.mem_cons_self henv hgiven
    rw [setLines, setLines]
    generalize readAssignment (valueOf env given) line = a at hread
    generalize readAssignment (valueOf env' given') line = a' at hread
    cases hread with
    | none => exact henv
    | @some a a' h =>
      obtain ⟨name, value⟩ := a
      obtain ⟨name', value'⟩ := a'
      obtain ⟨rfl, hvalue⟩ : name = name' ∧ R name value value' := h
      exact ih (fun line hmem => hlines line (List.mem_cons_of_mem _ hmem))
        (setsAlike_setIfMissing henv hvalue) (Environment.setsAlike_insert hgiven hvalue)

/-- **A file keeps two environments related**, if each of its lines does. -/
theorem load_rel {file : String} (hlines : ∀ line ∈ lines file, KeepsAlike R line)
    (h : env.SetsAlike R env') : (load env file).SetsAlike R (load env' file) := by
  rw [load_eq, load_eq]
  exact setLines_rel hlines h (Environment.setsAlike_empty R)

end Lines

end EnvFile

end EventDetection
