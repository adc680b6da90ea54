import EventDetection.Proofs.Url.Authority

/-!
# The last step of a URL

A name of plain characters at the end of a URL is the last step of its path, however long it is.

* `Url.IsPlain`, `Url.IsName`: what a name is made of, so that nothing in it is a mark or is passed
  over.
* `Url.path_parse?_api`: **the name below `/api/` is the last step of the path.**
* `Url.length_le_size_text`: a URL is at least as long as its last step.
-/

namespace EventDetection.Url

/-- A character of a name, which is no blank and no mark between the parts of a URL. -/
def IsPlain (c : Char) : Prop :=
  isEnd c = false ∧ isPassedOver c = false ∧ c ∉ ['/', '\\', '#', '?']

instance (c : Char) : Decidable (IsPlain c) :=
  inferInstanceAs (Decidable (isEnd c = false ∧ isPassedOver c = false ∧ c ∉ ['/', '\\', '#', '?']))

/-- A text of plain characters that goes down a step. -/
structure IsName (step : List Char) : Prop where
  plain : ∀ c ∈ step, IsPlain c
  down : isUp step = false
  moves : isStay step = false

variable {step xs ys : List Char} {u : Url}

/-! ### What is passed over -/

theorem joined_of_plain (h : ∀ c ∈ step, IsPlain c) : joined step = step := by
  rw [joined, List.filter_eq_self]
  intro c hc
  simp [(h c hc).2.1]

theorem trimmed_of_plain (h : ∀ c ∈ step, IsPlain c) : trimmed step = step := by
  have hends : step.reverse.dropWhile isEnd = step.reverse := by
    rcases hreverse : step.reverse with _ | ⟨c, cs⟩
    · rfl
    · have hc : c ∈ step := List.mem_reverse.1 (hreverse ▸ List.mem_cons_self)
      exact List.dropWhile_cons_of_neg (by simp [(h c hc).1])
  rw [trimmed, hends, List.reverse_reverse, joined_of_plain h]

theorem splitMark_of_not_mem {mark : Char} {cs : List Char} (h : mark ∉ cs) :
    splitMark mark cs = (cs, none) := by
  have hall : cs.dropWhile (· ≠ mark) = [] := by
    rw [List.dropWhile_eq_nil_iff]
    intro c hc
    exact decide_eq_true fun hmark => h (hmark ▸ hc)
  rw [splitMark, hall]

theorem splitTail_of_not_mem {cs : List Char} (hhash : '#' ∉ cs) (hquestion : '?' ∉ cs) :
    splitTail cs = (cs, none, none) := by
  simp only [splitTail, splitMark_of_not_mem hhash, splitMark_of_not_mem hquestion]

/-! ### Steps -/

theorem takeStep_of_isName {scheme : List Char} (hscheme : scheme ≠ file) (h : IsName step)
    (path : List (List Char)) :
    takeStep scheme true path step = path ++ [encode pathSet step] := by
  have hnotFirst : ¬ (scheme = file ∧ path = []) := fun hfirst => hscheme hfirst.1
  have hnotFile : ¬ (scheme = file ∧ path = [] ∧ isDrive step) := fun hfile => hscheme hfile.1
  rw [takeStep, if_neg hnotFirst]
  dsimp only
  rw [joined_of_plain h.plain, takePlainStep, if_neg (by simp [h.down]),
    if_neg (by simp [h.moves]), if_neg hnotFile]

theorem takeSteps_cons {steps : List (List Char)} (h : steps ≠ []) (scheme : List Char)
    (path : List (List Char)) (s : List Char) :
    takeSteps scheme path (s :: steps) = takeSteps scheme (takeStep scheme false path s) steps := by
  obtain ⟨t, ts, rfl⟩ := List.exists_cons_of_ne_nil h
  rfl

/-- A name at the end stays there, wherever the steps in front of it lead. -/
theorem takeSteps_append_name {scheme : List Char} (hscheme : scheme ≠ file) (h : IsName step)
    (path steps : List (List Char)) :
    ∃ init, takeSteps scheme path (steps ++ [step]) = init ++ [encode pathSet step] := by
  induction steps generalizing path with
  | nil => exact ⟨path, takeStep_of_isName hscheme h path⟩
  | cons s ss ih =>
    obtain ⟨init, hinit⟩ := ih (takeStep scheme false path s)
    refine ⟨init, ?_⟩
    rw [List.cons_append, takeSteps_cons (List.append_ne_nil_of_right_ne_nil ss (by simp)), hinit]

theorem behindSlash_append (special : Bool) (hxs : xs ≠ []) :
    behindSlash special (xs ++ ys) = behindSlash special xs ++ ys := by
  obtain ⟨x, xs, rfl⟩ := List.exists_cons_of_ne_nil hxs
  rw [behindSlash, behindSlash, List.cons_append, List.head?_cons, List.head?_cons]
  split <;> rfl

/-- The steps of a path that ends with a slash and a name. -/
theorem parseSteps_append_name {scheme : List Char} (hscheme : scheme ≠ file)
    (hspecial : isSpecial scheme = true) (h : IsName step) (hxs : xs ≠ []) :
    ∃ init, parseSteps scheme (xs ++ '/' :: step) = init ++ [encode pathSet step] := by
  have hslash : '/' ∉ step := fun hmem => (h.plain _ hmem).2.2 (by simp)
  have hmap : step.map (fun c => if c = '\\' then '/' else c) = step := by
    refine (List.map_congr_left fun c hc => ?_).trans (List.map_id step)
    exact if_neg fun hbackslash => (h.plain c hc).2.2 (by simp [hbackslash])
  rw [parseSteps, if_neg (by simp), hspecial, behindSlash_append true hxs, stepsBehindSlash,
    hspecial, splitSteps, if_pos rfl, List.map_append, List.map_cons, hmap, if_neg (by decide),
    Text.pieces_append, Text.pieces_of_not_mem hslash]
  exact takeSteps_append_name hscheme h [] _

/-- What stands behind the number of a port, which is where a path may start. -/
def behindPort (scheme cs : List Char) : List Char :=
  let place := (splitLast '@' (authority (isSpecial scheme) cs)).2
  ((parsePort? scheme (splitPort false place).2).map Prod.snd).getD []

theorem path_parseWithAuthority? {scheme cs : List Char}
    (h : parseWithAuthority? scheme cs = some u) :
    u.path = .steps (parseSteps scheme (behindPort scheme cs ++
      (splitTail cs).1.dropWhile (!isSlash (isSpecial scheme) ·))) := by
  unfold parseWithAuthority? at h
  dsimp only at h
  split at h
  · exact nomatch h
  · obtain ⟨host, -, h⟩ := Option.bind_eq_some_iff.1 h
    obtain ⟨⟨port, rest⟩, hport, h⟩ := Option.bind_eq_some_iff.1 h
    obtain rfl := Option.some.inj h
    have hrest : behindPort scheme cs = rest := by
      rw [behindPort, authority, hport]
      rfl
    rw [hrest]
    rfl

/-- **A name at the end of a URL below `/api/` is the last step of its path**, if there is no query
and no fragment before it. -/
theorem path_parse?_api {s : String} {base begin scheme front : List Char}
    (hs : s.toList = base ++ '/' :: 'a' :: 'p' :: 'i' :: '/' :: (front ++ '/' :: step))
    (htake : takeScheme? (joined (base.dropWhile isEnd)) = some (scheme, begin))
    (hweb : scheme = http ∨ scheme = https) (hhash : '#' ∉ begin) (hquestion : '?' ∉ begin)
    (hfront : ∀ c ∈ front, IsPlain c) (h : IsName step) (hu : parse? s = some u) :
    ∃ init, u.path = .steps (init ++ [encode pathSet step]) := by
  have hfile : scheme ≠ file := by
    rcases hweb with rfl | rfl <;> decide
  have hspecial : isSpecial scheme = true := by
    rcases hweb with rfl | rfl <;> decide
  have htrimmed : trimmed (front ++ '/' :: step) = front ++ '/' :: step := by
    rw [trimmed_append_cons (by decide) (by decide), joined_of_plain hfront,
      trimmed_of_plain h.plain]
  rw [parse?_api hs htake hweb, htrimmed] at hu
  generalize hplace : (begin ++ ['/']).dropWhile (isSlash true) ++ ['a', 'p', 'i'] = place at hu
  have hno (c : Char) (hc : c ∈ ['#', '?']) (hbegin : c ∉ begin) :
      c ∉ place ++ '/' :: (front ++ '/' :: step) := by
    have hmarks : c ∈ ['/', '\\', '#', '?'] := List.mem_cons_of_mem _ (List.mem_cons_of_mem _ hc)
    have hslash : c ≠ '/' ∧ c ∉ ['a', 'p', 'i'] := by
      obtain rfl | hc := List.mem_cons.1 hc
      · decide
      · obtain rfl := List.mem_singleton.1 hc
        decide
    have hplace : c ∉ place := by
      rw [← hplace, List.mem_append, not_or]
      refine ⟨fun hmem => ?_, hslash.2⟩
      have hsub := (List.dropWhile_sublist (isSlash true)).subset hmem
      rcases List.mem_append.1 hsub with hmem | hmem
      · exact hbegin hmem
      · exact hslash.1 (List.mem_singleton.1 hmem)
    simp only [List.mem_append, List.mem_cons, not_or]
    exact ⟨hplace, hslash.1, fun hmem => (hfront c hmem).2.2 hmarks, hslash.1,
      fun hmem => (h.plain c hmem).2.2 hmarks⟩
  have hpath := path_parseWithAuthority? hu
  generalize behindPort _ _ = rest at hpath
  rw [splitTail_of_not_mem (hno _ (by simp) hhash) (hno _ (by simp) hquestion), hspecial] at hpath
  dsimp only at hpath
  rw [dropWhile_append_cons (by decide)] at hpath
  have hlist : rest ++ (place.dropWhile (!isSlash true ·) ++ '/' :: (front ++ '/' :: step)) =
      (rest ++ place.dropWhile (!isSlash true ·) ++ '/' :: front) ++ '/' :: step := by
    simp
  have hne : rest ++ place.dropWhile (!isSlash true ·) ++ '/' :: front ≠ [] := by simp
  obtain ⟨init, hinit⟩ := parseSteps_append_name hfile hspecial h hne
  exact ⟨init, by rw [hpath, hlist, hinit]⟩

/-! ### Lengths -/

theorem length_le_length_encode (set : Char → Bool) (cs : List Char) :
    cs.length ≤ (encode set cs).length := by
  induction cs with
  | nil => exact Nat.le_refl 0
  | cons c cs ih =>
    have hsplit : encode set (c :: cs) =
        (if set c then (String.utf8EncodeChar c).flatMap encodeByte else [c]) ++ encode set cs :=
      List.flatMap_cons
    have hfirst : 1 ≤
        (if set c then (String.utf8EncodeChar c).flatMap encodeByte else [c]).length := by
      split
      · obtain ⟨b, bs, hb⟩ := List.exists_cons_of_ne_nil (String.utf8EncodeChar_ne_nil (c := c))
        rw [hb]
        simp [encodeByte]
      · exact Nat.le_refl 1
    rw [hsplit, List.length_append, List.length_cons]
    omega

theorem length_le_utf8ByteSize (cs : List Char) : cs.length ≤ (String.ofList cs).utf8ByteSize := by
  induction cs with
  | nil => exact Nat.zero_le _
  | cons c cs ih =>
    rw [String.ofList_cons, String.utf8ByteSize_append, String.utf8ByteSize_singleton,
      List.length_cons]
    have hsize := Char.utf8Size_pos c
    omega

/-- A URL is at least as long as its last step. -/
theorem length_le_size_text {init : List (List Char)} (h : u.path = .steps (init ++ [step])) :
    step.length ≤ u.text.utf8ByteSize := by
  refine Nat.le_trans ?_ (length_le_utf8ByteSize _)
  simp only [h, Path.text, List.flatMap_append, List.length_append, List.length_cons,
    List.flatMap_cons, List.flatMap_nil]
  omega

end EventDetection.Url
