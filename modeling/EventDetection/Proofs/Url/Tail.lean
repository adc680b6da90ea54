import EventDetection.Proofs.Url.Encode
import EventDetection.Proofs.Url.Step

/-!
# What stands below `/api`

Steps below `/api` are encoded one by one and stay in their order.  That is so wherever they end up:
in the path, or in the query or the fragment if the text in front of them has a mark.

* `Url.IsStep`: what a text is made of that stays one step.
* `Url.stepsText_injective`: the steps can be read off their text.
* `Url.exists_endsWith`: **what a URL of the web ends with** is the text of the encoded steps,
  behind something that does not depend on them.
* `Url.decode_of_tail_eq`: **URLs with one beginning that end alike have been made of steps that
  stand for the same bytes.**
-/

namespace EventDetection.Url

/-- A text that stays one step of a path: nothing in it is passed over or taken for a mark, and it
does not lead anywhere else. -/
structure IsStep (cs : List Char) : Prop where
  plain : ∀ c ∈ cs, isPassedOver c = false ∧ c ∉ ['/', '\\', '#', '?']
  ending : ∀ c ∈ cs.getLast?, isEnd c = false
  down : isUp cs = false
  moves : isStay cs = false

theorem isStep_iff {cs : List Char} :
    IsStep cs ↔
      (cs.all (fun c => !isPassedOver c && decide (c ∉ ['/', '\\', '#', '?'])) &&
        cs.getLast?.all (!isEnd ·) && !isUp cs && !isStay cs) = true := by
  simp only [Bool.and_eq_true, List.all_eq_true, Option.all_eq_true, Bool.not_eq_true',
    decide_eq_true_eq]
  constructor
  · exact fun h => ⟨⟨⟨h.plain, h.ending⟩, h.down⟩, h.moves⟩
  · exact fun h => ⟨h.1.1.1, h.1.1.2, h.1.2, h.2⟩

instance (cs : List Char) : Decidable (IsStep cs) := decidable_of_iff _ isStep_iff.symm

/-- The text of steps, each behind its slash. -/
def stepsText (steps : List (List Char)) : List Char := steps.flatMap ('/' :: ·)

/-- What a URL ends with, from its path on. -/
def tail (u : Url) : List Char := u.path.text ++ u.queryText ++ u.fragmentText

variable {scheme place xs step : List Char} {steps steps' path : List (List Char)} {u : Url}

theorem IsStep.not_mem (h : IsStep step) {mark : Char} (hmark : mark ∈ ['/', '\\', '#', '?']) :
    mark ∉ step :=
  fun hmem => (h.plain mark hmem).2 hmark

/-! ### Texts of steps -/

theorem stepsText_cons (s : List Char) (steps : List (List Char)) :
    stepsText (s :: steps) = '/' :: (s ++ stepsText steps) := by
  rw [stepsText, List.flatMap_cons, List.cons_append, stepsText]

theorem stepsText_append (steps steps' : List (List Char)) :
    stepsText (steps ++ steps') = stepsText steps ++ stepsText steps' :=
  List.flatMap_append

theorem pieces_append_stepsText (hxs : '/' ∉ xs) (h : ∀ s ∈ steps, '/' ∉ s) :
    Text.pieces '/' (xs ++ stepsText steps) = xs :: steps := by
  induction steps generalizing xs with
  | nil =>
    rw [stepsText, List.flatMap_nil, List.append_nil]
    exact Text.pieces_of_not_mem hxs
  | cons s steps ih =>
    obtain ⟨hs, hsteps⟩ := List.forall_mem_cons.1 h
    rw [stepsText_cons, Text.pieces_append, Text.pieces_of_not_mem hxs, ih hs hsteps,
      List.singleton_append]

/-- Steps without slashes can be read off their text. -/
theorem stepsText_injective (h : ∀ s ∈ steps, '/' ∉ s) (h' : ∀ s ∈ steps', '/' ∉ s)
    (heq : stepsText steps = stepsText steps') : steps = steps' := by
  have hpieces : Text.pieces '/' ([] ++ stepsText steps) = [] :: steps :=
    pieces_append_stepsText List.not_mem_nil h
  have hpieces' : Text.pieces '/' ([] ++ stepsText steps') = [] :: steps' :=
    pieces_append_stepsText List.not_mem_nil h'
  rw [heq] at hpieces
  exact (List.cons.inj (hpieces.symm.trans hpieces')).2

theorem mem_stepsText {c : Char} (hc : c ∈ stepsText steps) : c = '/' ∨ ∃ s ∈ steps, c ∈ s := by
  obtain ⟨s, hs, hmem⟩ := List.mem_flatMap.1 hc
  rcases List.mem_cons.1 hmem with rfl | hmem
  · exact .inl rfl
  · exact .inr ⟨s, hs, hmem⟩

theorem mark_not_mem_stepsText {mark : Char} (hmark : mark ∈ ['\\', '#', '?'])
    (h : ∀ s ∈ steps, IsStep s) : mark ∉ stepsText steps := by
  intro hmem
  rcases mem_stepsText hmem with rfl | ⟨s, hs, hmem⟩
  · exact absurd hmark (by decide)
  · exact (h s hs).not_mem (List.mem_cons_of_mem _ hmark) hmem

theorem isEnd_getLast?_stepsText (h : ∀ s ∈ steps, IsStep s) :
    ∀ c ∈ (stepsText steps).getLast?, isEnd c = false := by
  induction steps with
  | nil => exact fun c hc => nomatch hc
  | cons s steps ih =>
    obtain ⟨hs, hsteps⟩ := List.forall_mem_cons.1 h
    intro c hc
    rw [stepsText_cons, ← List.cons_append, List.getLast?_append, Option.mem_def,
      Option.or_eq_some_iff] at hc
    rcases hc with hc | ⟨-, hc⟩
    · exact ih hsteps c hc
    · rw [List.getLast?_cons] at hc
      cases hlast : s.getLast? with
      | none =>
        rw [hlast] at hc
        obtain rfl := Option.some.inj hc
        decide
      | some d =>
        rw [hlast] at hc
        obtain rfl := Option.some.inj hc
        exact hs.ending d hlast

theorem trimmed_eq_self (hplain : ∀ c ∈ xs, isPassedOver c = false)
    (hending : ∀ c ∈ xs.getLast?, isEnd c = false) : trimmed xs = xs := by
  have hends : xs.reverse.dropWhile isEnd = xs.reverse := by
    rcases hreverse : xs.reverse with _ | ⟨c, cs⟩
    · rfl
    · have hc : xs.getLast? = some c := by
        rw [← List.head?_reverse, hreverse, List.head?_cons]
      exact List.dropWhile_cons_of_neg (by simp [hending c hc])
  rw [trimmed, hends, List.reverse_reverse, joined, List.filter_eq_self]
  intro c hc
  simp [hplain c hc]

/-- Nothing is passed over in the text of steps. -/
theorem trimmed_steps (hstep : IsStep step) (h : ∀ s ∈ steps, IsStep s) :
    trimmed (step ++ stepsText steps) = step ++ stepsText steps := by
  have hall : ∀ s ∈ step :: steps, IsStep s := List.forall_mem_cons.2 ⟨hstep, h⟩
  refine trimmed_eq_self (fun c hc => ?_) fun c hc => ?_
  · rcases List.mem_append.1 hc with hc | hc
    · exact (hstep.plain c hc).1
    · rcases mem_stepsText hc with rfl | ⟨s, hs, hc⟩
      · decide
      · exact ((h s hs).plain c hc).1
  · refine isEnd_getLast?_stepsText hall c ?_
    rw [stepsText_cons, List.getLast?_cons, hc]
    rfl

theorem encode_stepsText {set : Char → Bool} (hslash : set '/' = false)
    (steps : List (List Char)) :
    encode set (stepsText steps) = stepsText (steps.map (encode set)) := by
  induction steps with
  | nil => rfl
  | cons s steps ih =>
    rw [stepsText_cons, encode_cons_of_not hslash, encode_append, ih, List.map_cons, stepsText_cons]

/-! ### Paths -/

theorem takeStep_of_isStep (hfile : scheme ≠ file) (h : IsStep step) (last : Bool)
    (path : List (List Char)) : takeStep scheme last path step = path ++ [encode pathSet step] := by
  have hnotFirst : ¬ (scheme = file ∧ path = []) := fun hfirst => hfile hfirst.1
  have hnotFile : ¬ (scheme = file ∧ path = [] ∧ isDrive step) := fun hdrive => hfile hdrive.1
  have hjoined : joined step = step := by
    rw [joined, List.filter_eq_self]
    intro c hc
    simp [(h.plain c hc).1]
  rw [takeStep, if_neg hnotFirst]
  dsimp only
  rw [hjoined, takePlainStep, if_neg (by simp [h.down]), if_neg (by simp [h.moves]),
    if_neg hnotFile]

theorem takeSteps_of_isStep (hfile : scheme ≠ file) (h : ∀ s ∈ steps, IsStep s)
    (path : List (List Char)) :
    takeSteps scheme path steps = path ++ steps.map (encode pathSet) := by
  induction steps generalizing path with
  | nil => exact (List.append_nil path).symm
  | cons s steps ih =>
    obtain ⟨hs, hsteps⟩ := List.forall_mem_cons.1 h
    by_cases hnil : steps = []
    · subst hnil
      exact takeStep_of_isStep hfile hs true path
    · rw [takeSteps_cons hnil, takeStep_of_isStep hfile hs, ih hsteps, List.append_assoc]
      rfl

theorem takeSteps_append (hsteps' : steps' ≠ []) (steps : List (List Char))
    (path : List (List Char)) :
    takeSteps scheme path (steps ++ steps') =
      takeSteps scheme (steps.foldl (takeStep scheme false) path) steps' := by
  induction steps generalizing path with
  | nil => rfl
  | cons s steps ih =>
    have hne : steps ++ steps' ≠ [] := List.append_ne_nil_of_right_ne_nil steps hsteps'
    rw [List.cons_append, takeSteps_cons hne, ih, List.foldl_cons]

theorem map_backslash_stepsText (h : ∀ s ∈ steps, IsStep s) :
    (stepsText steps).map (fun c => if c = '\\' then '/' else c) = stepsText steps := by
  refine (List.map_congr_left fun c hc => ?_).trans (List.map_id _)
  exact if_neg fun hbackslash => mark_not_mem_stepsText (by simp) h (hbackslash ▸ hc)

/-- Behind any text, steps are added to the path as they are. -/
theorem exists_parseSteps (hfile : scheme ≠ file) (hspecial : isSpecial scheme = true)
    (xs : List Char) :
    ∃ init, ∀ steps, steps ≠ [] → (∀ s ∈ steps, IsStep s) →
      parseSteps scheme (xs ++ stepsText steps) = init ++ steps.map (encode pathSet) := by
  have hslash {steps : List (List Char)} (h : ∀ s ∈ steps, IsStep s) : ∀ s ∈ steps, '/' ∉ s :=
    fun s hs => (h s hs).not_mem List.mem_cons_self
  by_cases hxs : xs = []
  · -- the slash in front of the first step is the one that the path starts with
    refine ⟨[], fun steps hne h => ?_⟩
    obtain ⟨s, steps, rfl⟩ := List.exists_cons_of_ne_nil hne
    obtain ⟨hs, hsteps⟩ := List.forall_mem_cons.1 h
    have hbehind : behindSlash true (stepsText (s :: steps)) = s ++ stepsText steps := by
      rw [stepsText_cons]
      rfl
    have hmap := map_backslash_stepsText h
    rw [stepsText_cons, List.map_cons] at hmap
    have hnil : stepsText (s :: steps) ≠ [] := by
      rw [stepsText_cons]
      exact List.cons_ne_nil _ _
    have hpieces : Text.pieces '/' (s ++ stepsText steps) = s :: steps :=
      pieces_append_stepsText (hs.not_mem List.mem_cons_self) (hslash hsteps)
    rw [hxs, List.nil_append, parseSteps, if_neg hnil, hspecial, hbehind, stepsBehindSlash,
      hspecial, splitSteps, if_pos rfl, (List.cons.inj hmap).2, hpieces,
      takeSteps_of_isStep hfile h]
  · refine ⟨(Text.pieces '/' ((behindSlash true xs).map fun c => if c = '\\' then '/' else c)).foldl
      (takeStep scheme false) [], fun steps hne h => ?_⟩
    have hpieces (ys : List Char) :
        Text.pieces '/' (ys ++ stepsText steps) = Text.pieces '/' ys ++ steps := by
      obtain ⟨s, steps, rfl⟩ := List.exists_cons_of_ne_nil hne
      obtain ⟨hs, hsteps⟩ := List.forall_mem_cons.1 h
      rw [stepsText_cons, Text.pieces_append,
        pieces_append_stepsText (hs.not_mem List.mem_cons_self) (hslash hsteps)]
    rw [parseSteps, if_neg fun hnil => hxs (List.append_eq_nil_iff.1 hnil).1, hspecial,
      behindSlash_append true hxs, stepsBehindSlash, hspecial, splitSteps, if_pos rfl,
      List.map_append, map_backslash_stepsText h, hpieces, takeSteps_append hne,
      takeSteps_of_isStep hfile h]

/-! ### Queries and fragments -/

theorem splitMark_append_cons {mark : Char} (h : mark ∉ xs) (ys : List Char) :
    splitMark mark (xs ++ mark :: ys) = (xs, some ys) := by
  have hmark : decide (mark ≠ mark) = false := decide_eq_false (not_not_intro rfl)
  have hdrop : xs.dropWhile (· ≠ mark) = [] := by
    rw [List.dropWhile_eq_nil_iff]
    intro c hc
    exact decide_eq_true fun hcmark => h (hcmark ▸ hc)
  have htake : xs.takeWhile (· ≠ mark) = xs := by
    have happend := List.takeWhile_append_dropWhile (p := (· ≠ mark)) (l := xs)
    rwa [hdrop, List.append_nil] at happend
  rw [splitMark, dropWhile_append_cons hmark, takeWhile_append_cons hmark, hdrop, htake]
  rfl

theorem splitTail_fst (cs : List Char) :
    (splitTail cs).1 = (cs.takeWhile (· ≠ '#')).takeWhile (· ≠ '?') := by
  rw [← splitMark_fst, ← splitMark_fst]
  rfl

theorem not_mem_takeWhile_ne (mark : Char) (cs : List Char) : mark ∉ cs.takeWhile (· ≠ mark) := by
  intro hmem
  have hne := List.mem_takeWhile_imp (p := fun c => decide (c ≠ mark)) hmem
  exact of_decide_eq_true hne rfl

/-- Query and fragment do not matter to what stands in front of them. -/
theorem parseWithAuthority?_eq (scheme cs : List Char) :
    parseWithAuthority? scheme cs =
      (parseWithAuthority? scheme (splitTail cs).1).map fun u =>
        u.withTail (splitTail cs).2.1 (splitTail cs).2.2 := by
  have hhash : '#' ∉ (splitTail cs).1 := by
    rw [splitTail_fst]
    exact fun hmem => not_mem_takeWhile_ne '#' cs ((List.takeWhile_sublist _).subset hmem)
  have hquestion : '?' ∉ (splitTail cs).1 := by
    rw [splitTail_fst]
    exact not_mem_takeWhile_ne '?' _
  rw [parseWithAuthority?, parseWithAuthority?, splitTail_of_not_mem hhash hquestion]
  rcases splitTail cs with ⟨path, query, fragment⟩
  dsimp only
  split
  · rfl
  · rcases Host.parse? _ _ with _ | host
    · rfl
    · rcases parsePort? scheme _ with _ | ⟨port, rest⟩
      · rfl
      · rfl

theorem fragment_parseWithAuthority? {cs : List Char} (h : '#' ∉ cs)
    (hu : parseWithAuthority? scheme cs = some u) : u.fragment = none := by
  rw [parseWithAuthority?_eq] at hu
  obtain ⟨v, -, rfl⟩ := Option.map_eq_some_iff.1 hu
  rw [splitTail, splitMark_of_not_mem h]
  rfl

/-! ### What a URL ends with -/

/-- URLs of the web with steps behind `place` end with `front` and the encoded steps. -/
def EndsWith (scheme place front : List Char) (set : Char → Bool) : Prop :=
  ∀ steps u, steps ≠ [] → (∀ s ∈ steps, IsStep s) →
    parseWithAuthority? scheme (place ++ stepsText steps) = some u →
      u.tail = front ++ stepsText (steps.map (encode set))

/-- Behind a number sign, steps are part of the fragment. -/
theorem exists_endsWith_fragment (scheme : List Char) {xs : List Char} (hxs : '#' ∉ xs)
    (ys : List Char) :
    ∃ front, EndsWith scheme (xs ++ '#' :: ys) front fragmentSet := by
  have hsplit (steps : List (List Char)) :
      splitTail (xs ++ '#' :: ys ++ stepsText steps) =
        ((splitMark '?' xs).1, (splitMark '?' xs).2, some (ys ++ stepsText steps)) := by
    rw [List.append_assoc, List.cons_append, splitTail, splitMark_append_cons hxs]
  cases hv : parseWithAuthority? scheme (splitMark '?' xs).1 with
  | none =>
    refine ⟨[], fun steps u _ _ hu => ?_⟩
    rw [parseWithAuthority?_eq, hsplit, hv] at hu
    cases hu
  | some v =>
    refine ⟨v.path.text ++ (v.withTail (splitMark '?' xs).2 none).queryText ++
      '#' :: encode fragmentSet ys, fun steps u _ _ hu => ?_⟩
    rw [parseWithAuthority?_eq, hsplit, hv] at hu
    obtain rfl := Option.some.inj hu
    have hfragment : encode fragmentSet (ys ++ stepsText steps) =
        encode fragmentSet ys ++ stepsText (steps.map (encode fragmentSet)) := by
      rw [encode_append, encode_stepsText (by decide)]
    rw [List.append_assoc, List.cons_append, ← hfragment]
    rfl

/-- Behind a question mark, steps are part of the query. -/
theorem exists_endsWith_query (hspecial : isSpecial scheme = true) {xs ys : List Char}
    (hxs : '?' ∉ xs) (hhash : '#' ∉ xs ++ '?' :: ys) :
    ∃ front, EndsWith scheme (xs ++ '?' :: ys) front specialQuerySet := by
  have hsplit (steps : List (List Char)) (h : ∀ s ∈ steps, IsStep s) :
      splitTail (xs ++ '?' :: ys ++ stepsText steps) =
        (xs, some (ys ++ stepsText steps), none) := by
    have hno : '#' ∉ xs ++ '?' :: ys ++ stepsText steps := by
      rw [List.mem_append, not_or]
      exact ⟨hhash, mark_not_mem_stepsText (by simp) h⟩
    rw [splitTail, splitMark_of_not_mem hno, List.append_assoc, List.cons_append]
    dsimp only
    rw [splitMark_append_cons hxs]
  cases hv : parseWithAuthority? scheme xs with
  | none =>
    refine ⟨[], fun steps u _ h hu => ?_⟩
    rw [parseWithAuthority?_eq, hsplit steps h, hv] at hu
    cases hu
  | some v =>
    refine ⟨v.path.text ++ '?' :: encode specialQuerySet ys, fun steps u _ h hu => ?_⟩
    rw [parseWithAuthority?_eq, hsplit steps h, hv] at hu
    obtain rfl := Option.some.inj hu
    have hquery : encode specialQuerySet (ys ++ stepsText steps) =
        encode specialQuerySet ys ++ stepsText (steps.map (encode specialQuerySet)) := by
      rw [encode_append, encode_stepsText (by decide)]
    have hset : isSpecial v.scheme = true := by
      rw [scheme_parseWithAuthority? hv, hspecial]
    have htext : (v.withTail (some (ys ++ stepsText steps)) none).queryText =
        '?' :: encode specialQuerySet (ys ++ stepsText steps) := by
      rw [withTail, if_pos hset]
      rfl
    have hpath : (v.withTail (some (ys ++ stepsText steps)) none).path = v.path := rfl
    have hfragment : (v.withTail (some (ys ++ stepsText steps)) none).fragmentText = [] := rfl
    rw [tail, hpath, hfragment, htext, hquery, List.append_nil, List.append_assoc, List.cons_append]

/-- Without a mark in front of them, steps are part of the path. -/
theorem exists_endsWith_path (hfile : scheme ≠ file) (hspecial : isSpecial scheme = true)
    (hhash : '#' ∉ place) (hquestion : '?' ∉ place) :
    ∃ front, EndsWith scheme place front pathSet := by
  obtain ⟨init, hinit⟩ := exists_parseSteps hfile hspecial
    (behindPort scheme place ++ place.dropWhile (!isSlash true ·))
  refine ⟨stepsText init, fun steps u hne h hu => ?_⟩
  have hno {mark : Char} (hmark : mark ∈ ['\\', '#', '?']) (hplace : mark ∉ place) :
      mark ∉ place ++ stepsText steps := by
    rw [List.mem_append, not_or]
    exact ⟨hplace, mark_not_mem_stepsText hmark h⟩
  have hsplit := splitTail_of_not_mem (hno (by simp) hhash) (hno (by simp) hquestion)
  have hslash : ∃ zs, stepsText steps = '/' :: zs := by
    obtain ⟨s, steps, rfl⟩ := List.exists_cons_of_ne_nil hne
    exact ⟨_, stepsText_cons s steps⟩
  have hport : behindPort scheme (place ++ stepsText steps) = behindPort scheme place := by
    obtain ⟨zs, hzs⟩ := hslash
    rw [behindPort, hzs, authority_append_slash, behindPort]
  have hdrop : (place ++ stepsText steps).dropWhile (!isSlash true ·) =
      place.dropWhile (!isSlash true ·) ++ stepsText steps := by
    obtain ⟨zs, hzs⟩ := hslash
    rw [hzs, dropWhile_append_cons (by decide)]
  have hpath : u.path = .steps (init ++ steps.map (encode pathSet)) := by
    rw [path_parseWithAuthority? hu, hsplit, hport, hspecial, hdrop, ← List.append_assoc,
      hinit steps hne h]
  have hmarks : u.queryText = [] ∧ u.fragmentText = [] := by
    rw [parseWithAuthority?_eq, hsplit] at hu
    obtain ⟨v, -, rfl⟩ := Option.map_eq_some_iff.1 hu
    exact ⟨rfl, rfl⟩
  rw [tail, hpath, hmarks.1, hmarks.2, List.append_nil, List.append_nil]
  exact stepsText_append init _

/-- **What a URL of the web ends with** is the text of the encoded steps, behind something that does
not depend on them. -/
theorem exists_endsWith (hfile : scheme ≠ file) (hspecial : isSpecial scheme = true)
    (place : List Char) :
    ∃ front set, IsEncodable set ∧ EndsWith scheme place front set := by
  by_cases hhash : '#' ∈ place
  · obtain ⟨xs, ys, rfl, hxs⟩ := List.eq_append_cons_of_mem hhash
    obtain ⟨front, hends⟩ := exists_endsWith_fragment scheme hxs ys
    exact ⟨front, fragmentSet, isEncodable_fragmentSet, hends⟩
  · by_cases hquestion : '?' ∈ place
    · obtain ⟨xs, ys, rfl, hxs⟩ := List.eq_append_cons_of_mem hquestion
      obtain ⟨front, hends⟩ := exists_endsWith_query hspecial hxs hhash
      exact ⟨front, specialQuerySet, isEncodable_specialQuerySet, hends⟩
    · obtain ⟨front, hends⟩ := exists_endsWith_path hfile hspecial hhash hquestion
      exact ⟨front, pathSet, isEncodable_pathSet, hends⟩

/-- A URL of the web with steps below `/api` is read from where its authority starts, steps and
all. -/
theorem parse?_steps {s : String} {base begin : List Char}
    (hs : s.toList = base ++ '/' :: 'a' :: 'p' :: 'i' :: stepsText steps) (hne : steps ≠ [])
    (h : ∀ x ∈ steps, IsStep x)
    (htake : takeScheme? (joined (base.dropWhile isEnd)) = some (scheme, begin))
    (hweb : scheme = http ∨ scheme = https) :
    parse? s = parseWithAuthority? scheme
      (((begin ++ ['/']).dropWhile (isSlash true) ++ ['a', 'p', 'i']) ++ stepsText steps) := by
  obtain ⟨x, steps, rfl⟩ := List.exists_cons_of_ne_nil hne
  obtain ⟨hx, hsteps⟩ := List.forall_mem_cons.1 h
  rw [stepsText_cons] at hs ⊢
  rw [parse?_api hs htake hweb, trimmed_steps hx hsteps]

/-- The scheme of a URL stands in the text in front of `/api`. -/
theorem exists_takeScheme? {s : String} {base : List Char}
    (hs : s.toList = base ++ '/' :: 'a' :: 'p' :: 'i' :: stepsText steps) (hne : steps ≠ [])
    (hu : parse? s = some u) :
    ∃ begin, takeScheme? (joined (base.dropWhile isEnd)) = some (u.scheme, begin) := by
  obtain ⟨x, steps, rfl⟩ := List.exists_cons_of_ne_nil hne
  rw [stepsText_cons] at hs
  obtain ⟨cs, hcs⟩ := scheme_parse? hu
  rw [takeScheme?_api hs] at hcs
  obtain ⟨⟨scheme, begin⟩, htake, hpair⟩ := Option.map_eq_some_iff.1 hcs
  obtain rfl : scheme = u.scheme := (Prod.mk.inj hpair).1
  exact ⟨begin, htake⟩

theorem mem_of_takeScheme? {cs rest : List Char} (h : takeScheme? cs = some (scheme, rest))
    {c : Char} (hc : c ∈ rest) : c ∈ cs := by
  unfold takeScheme? at h
  dsimp only at h
  split at h
  · next hdrop _ =>
    split at h
    · obtain ⟨-, rfl⟩ := Prod.mk.inj (Option.some.inj h)
      refine List.mem_of_mem_drop (hdrop ▸ List.mem_cons_of_mem _ hc)
    · exact nomatch h
  · exact nomatch h

/-- **URLs of the web below `/api` that end alike have been made of steps that stand for the same
bytes.** -/
theorem decode_of_tail_eq {s s' : String} {base : List Char} {u' : Url}
    (hs : s.toList = base ++ '/' :: 'a' :: 'p' :: 'i' :: stepsText steps)
    (hs' : s'.toList = base ++ '/' :: 'a' :: 'p' :: 'i' :: stepsText steps')
    (hne : steps ≠ []) (hne' : steps' ≠ []) (h : ∀ x ∈ steps, IsStep x)
    (h' : ∀ x ∈ steps', IsStep x) (hu : parse? s = some u) (hu' : parse? s' = some u')
    (hweb : u.scheme = http ∨ u.scheme = https) (htail : u.tail = u'.tail) :
    steps.map decode = steps'.map decode := by
  obtain ⟨begin, htake⟩ := exists_takeScheme? hs hne hu
  have hfile : u.scheme ≠ file := by
    rcases hweb with hweb | hweb <;> rw [hweb] <;> decide
  have hspecial : isSpecial u.scheme = true := by
    rcases hweb with hweb | hweb <;> rw [hweb] <;> decide
  obtain ⟨front, set, hset, hends⟩ := exists_endsWith hfile hspecial
    ((begin ++ ['/']).dropWhile (isSlash true) ++ ['a', 'p', 'i'])
  rw [parse?_steps hs hne h htake hweb] at hu
  rw [parse?_steps hs' hne' h' htake hweb] at hu'
  rw [hends steps u hne h hu, hends steps' u' hne' h' hu'] at htail
  have hslash {steps : List (List Char)} (h : ∀ x ∈ steps, IsStep x) :
      ∀ x ∈ steps.map (encode set), '/' ∉ x := by
    intro x hx
    obtain ⟨y, hy, rfl⟩ := List.mem_map.1 hx
    exact slash_not_mem_encode set ((h y hy).not_mem List.mem_cons_self)
  have hencoded := stepsText_injective (hslash h) (hslash h') (List.append_cancel_left htail)
  have hdecode (steps : List (List Char)) :
      steps.map decode = (steps.map (encode set)).map decode := by
    rw [List.map_map]
    exact List.map_congr_left fun x _ => (decode_encode hset x).symm
  rw [hdecode steps, hencoded, ← hdecode]

/-- Without a fragment in front of the steps, all that a URL ends with is sent to its host. -/
theorem tail_eq_target {s : String} {base : List Char}
    (hs : s.toList = base ++ '/' :: 'a' :: 'p' :: 'i' :: stepsText steps) (hne : steps ≠ [])
    (h : ∀ x ∈ steps, IsStep x) (hu : parse? s = some u)
    (hweb : u.scheme = http ∨ u.scheme = https) (hhash : '#' ∉ base) :
    u.tail = u.target.toList := by
  obtain ⟨begin, htake⟩ := exists_takeScheme? hs hne hu
  have hbegin : '#' ∉ begin := fun hmem =>
    hhash ((List.dropWhile_sublist isEnd).subset
      (List.mem_filter.1 (mem_of_takeScheme? htake hmem)).1)
  have hplace : '#' ∉ (begin ++ ['/']).dropWhile (isSlash true) := fun hmem => by
    rcases List.mem_append.1 ((List.dropWhile_sublist _).subset hmem) with hmem | hmem
    · exact hbegin hmem
    · exact absurd (List.mem_singleton.1 hmem) (by decide)
  rw [parse?_steps hs hne h htake hweb] at hu
  have hfragment : u.fragment = none := by
    refine fragment_parseWithAuthority? (fun hmem => ?_) hu
    rcases List.mem_append.1 hmem with hmem | hmem
    · rcases List.mem_append.1 hmem with hmem | hmem
      · exact hplace hmem
      · exact absurd hmem (by decide)
    · exact mark_not_mem_stepsText (by simp) h hmem
  rw [target, String.toList_ofList, tail, fragmentText, hfragment, List.append_nil]

end EventDetection.Url
