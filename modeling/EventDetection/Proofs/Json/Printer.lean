import EventDetection.Json.Codec
import EventDetection.Proofs.Json.Token

/-!
# Written values

The text of a value is read back as the value, with the members of its objects in the
order of their names.

* `scanItems_itemChars`, `scanMembers_memberChars`: the loops over written items and members.
* `scanValue_chars`: **a written value is read back**, if its numbers are integers that fit
  a word and there is room for its containers.
-/

namespace EventDetection.Json

namespace Value

/-! ### First characters -/

/-- The text of a value starts with no blank and does not end a list, and only null starts like a
null. -/
theorem chars_eq_cons {v : Value} (h : v.Integral) :
    ∃ c cs, v.chars = c :: cs ∧ isSpace c = false ∧ c ≠ ']' ∧ (c = 'n' → v = null) := by
  cases v with
  | null => exact ⟨_, _, rfl, rfl, by decide, fun _ => rfl⟩
  | bool b => cases b <;> exact ⟨_, _, rfl, rfl, by decide, fun hn => absurd hn (by decide)⟩
  | string s => exact ⟨_, _, rfl, rfl, by decide, fun hn => absurd hn (by decide)⟩
  | array items => exact ⟨_, _, rfl, rfl, by decide, fun hn => absurd hn (by decide)⟩
  | object members => exact ⟨_, _, rfl, rfl, by decide, fun hn => absurd hn (by decide)⟩
  | number n =>
    cases n with
    | real x => exact absurd (isWord_of_integral h) Bool.false_ne_true
    | integer k =>
      cases k with
      | negSucc n => exact ⟨_, _, rfl, rfl, by decide, fun hn => absurd hn (by decide)⟩
      | ofNat n =>
        obtain ⟨c, cs, hcs, -⟩ := natChars_eq_cons n
        have hc : c.isDigit = true := isDigit_of_mem_natChars (hcs ▸ List.mem_cons_self)
        exact ⟨c, cs, hcs, isSpace_of_isDigit hc, fun h => absurd (h ▸ hc) (by decide),
          fun h => absurd (h ▸ hc) (by decide)⟩

/-! ### Items and members -/

/-- The text of a member. -/
def memberText (m : String × Value) : List Char := stringChars m.1 ++ ':' :: m.2.chars

theorem itemChars_cons (v : Value) (vs : List Value) :
    itemChars (v :: vs) = v.chars ++ vs.flatMap fun w => ',' :: w.chars := by
  induction vs generalizing v with
  | nil => exact (List.append_nil _).symm
  | cons w ws ih =>
    rw [itemChars, ih, List.flatMap_cons, List.cons_append]
    exact List.cons_ne_nil w ws

theorem memberChars_cons (m : String × Value) (ms : List (String × Value)) :
    memberChars (m :: ms) = memberText m ++ ms.flatMap fun n => ',' :: memberText n := by
  induction ms generalizing m with
  | nil => exact (List.append_nil _).symm
  | cons n ns ih =>
    rw [memberChars, ih, List.flatMap_cons]
    · simp only [memberText, List.append_assoc, List.cons_append]
    · exact List.cons_ne_nil n ns

theorem length_le_flatMap {β : Type} (g : β → List Char) (xs : List β) :
    xs.length ≤ (xs.flatMap fun x => ',' :: g x).length := by
  induction xs with
  | nil => exact Nat.le_refl _
  | cons x xs ih =>
    rw [List.flatMap_cons, List.length_append, List.length_cons, List.length_cons]
    omega

/-- There are no more items than characters, so that the fuel suffices. -/
theorem length_le_itemChars {vs : List Value} (h : ∀ v ∈ vs, v.Integral) :
    vs.length ≤ (itemChars vs).length := by
  cases vs with
  | nil => exact Nat.le_refl _
  | cons v vs =>
    obtain ⟨c, cs, hcs, -⟩ := chars_eq_cons (List.forall_mem_cons.1 h).1
    have hvs := length_le_flatMap chars vs
    rw [itemChars_cons, hcs, List.length_append, List.length_cons, List.length_cons]
    omega

theorem length_le_memberChars (ms : List (String × Value)) :
    ms.length ≤ (memberChars ms).length := by
  cases ms with
  | nil => exact Nat.le_refl _
  | cons m ms =>
    have hms := length_le_flatMap memberText ms
    rw [memberChars_cons, memberText, List.length_append, List.length_append, List.length_cons,
      List.length_cons]
    omega

end Value

/-! ### Loops -/

theorem follows_items (vs : List Value) (rest : List Char) :
    Follows ((vs.flatMap fun w => ',' :: w.chars) ++ ']' :: rest) := by
  cases vs with
  | nil => exact .bracket rest
  | cons v vs => exact .comma _

theorem follows_members (ms : List (String × Value)) (rest : List Char) :
    Follows ((ms.flatMap fun m => ',' :: Value.memberText m) ++ '\x7d' :: rest) := by
  cases ms with
  | nil => exact .brace rest
  | cons m ms => exact .comma _

section Items

variable {α β : Type} {item : List Char → Except ReadError (α × List Char)} {w : β → Value}
  {g : β → α}

theorem scanItems_moreItems {xs : List β}
    (hitem : ∀ x ∈ xs, ∀ rest, Follows rest → item ((w x).chars ++ rest) = .ok (g x, rest))
    (hw : ∀ x ∈ xs, (w x).Integral) {fuel : Nat} (hfuel : xs.length < fuel) (rest : List Char) :
    scanItems item fuel false (((xs.map w).flatMap fun v => ',' :: v.chars) ++ ']' :: rest) =
      .ok (xs.map g, rest) := by
  induction xs generalizing fuel with
  | nil =>
    cases fuel with
    | zero => exact absurd hfuel (Nat.not_lt_zero _)
    | succ fuel => rfl
  | cons x xs ih =>
    cases fuel with
    | zero => exact absurd hfuel (Nat.not_lt_zero _)
    | succ fuel =>
      obtain ⟨hx, hxs⟩ := List.forall_mem_cons.1 hitem
      obtain ⟨hwx, hwxs⟩ := List.forall_mem_cons.1 hw
      obtain ⟨c, cs, hcs, hspace, hend, -⟩ := Value.chars_eq_cons hwx
      have hmore := ih hxs hwxs (Nat.lt_of_succ_lt_succ hfuel)
      rw [List.map_cons, List.flatMap_cons, List.cons_append, List.cons_append, List.append_assoc]
      have hstart (ds : List Char) :
          nextItem false (',' :: ((w x).chars ++ ds)) = .ok ((w x).chars ++ ds) := by
        simp only [nextItem, hcs, List.cons_append, skipSpaces_cons hspace]
        split
        · next heq => exact nomatch heq
        · next heq => exact absurd (List.cons.inj heq).1 hend
        · rfl
      rw [scanItems_next (skipSpaces_cons rfl _) (by decide) (hstart _)
        (hx _ (follows_items (xs.map w) rest)), hmore]
      rfl

/-- Written items are read back. -/
theorem scanItems_itemChars {xs : List β}
    (hitem : ∀ x ∈ xs, ∀ rest, Follows rest → item ((w x).chars ++ rest) = .ok (g x, rest))
    (hw : ∀ x ∈ xs, (w x).Integral) {fuel : Nat} (hfuel : xs.length < fuel) (rest : List Char) :
    scanItems item fuel true (Value.itemChars (xs.map w) ++ ']' :: rest) =
      .ok (xs.map g, rest) := by
  cases fuel with
  | zero => exact absurd hfuel (Nat.not_lt_zero _)
  | succ fuel =>
    cases xs with
    | nil => rfl
    | cons x xs =>
      obtain ⟨hx, hxs⟩ := List.forall_mem_cons.1 hitem
      obtain ⟨hwx, hwxs⟩ := List.forall_mem_cons.1 hw
      obtain ⟨c, cs, hcs, hspace, hend, -⟩ := Value.chars_eq_cons hwx
      have hmore := scanItems_moreItems hxs hwxs (Nat.lt_of_succ_lt_succ hfuel) rest
      have hskip (ds : List Char) : skipSpaces ((w x).chars ++ ds) = c :: (cs ++ ds) := by
        rw [hcs, List.cons_append, skipSpaces_cons hspace]
      have hstart (ds : List Char) :
          nextItem true (c :: (cs ++ ds)) = .ok ((w x).chars ++ ds) := by
        rw [hcs, List.cons_append]
        rfl
      rw [List.map_cons, Value.itemChars_cons, List.append_assoc]
      rw [scanItems_next (hskip _) hend (hstart _) (hx _ (follows_items (xs.map w) rest)), hmore]
      rfl

/-- The length of the text is fuel enough for its items. -/
theorem scanItems_array {xs : List β}
    (hitem : ∀ x ∈ xs, ∀ rest, Follows rest → item ((w x).chars ++ rest) = .ok (g x, rest))
    (hw : ∀ x ∈ xs, (w x).Integral) (rest : List Char) :
    scanItems item ((Value.itemChars (xs.map w) ++ ']' :: rest).length + 1) true
      (Value.itemChars (xs.map w) ++ ']' :: rest) = .ok (xs.map g, rest) := by
  refine scanItems_itemChars hitem hw ?_ rest
  have hlength := Value.length_le_itemChars (List.forall_mem_map.2 hw)
  rw [List.length_map] at hlength
  rw [List.length_append]
  omega

end Items

/-- A fold of a relation over a list of members. -/
inductive Chain {σ : Type} (step : σ → String × Value → σ → Prop) :
    σ → List (String × Value) → σ → Prop
  | nil (s : σ) : Chain step s [] s
  | cons {s t u : σ} {m : String × Value} {ms : List (String × Value)} (hm : step s m t)
      (hms : Chain step t ms u) : Chain step s (m :: ms) u

/-- A member that is written is taken by `member` from one state to another. -/
def Takes {σ : Type} (member : String → σ → List Char → Except ReadError (σ × List Char)) (s : σ)
    (m : String × Value) (t : σ) : Prop :=
  ∀ rest, Follows rest → member m.1 s (':' :: (m.2.chars ++ rest)) = .ok (t, rest)

section Members

variable {σ : Type} {member : String → σ → List Char → Except ReadError (σ × List Char)}

theorem scanString_memberText (m : String × Value) (ds : List Char) :
    ∃ start, Value.memberText m ++ ds = '"' :: start ∧
      scanString start = .ok (m.1, ':' :: (m.2.chars ++ ds)) := by
  refine ⟨_, ?_, scanString_escaped m.1 _⟩
  rw [Value.memberText, List.append_assoc, stringChars_append, List.cons_append]

theorem scanMembers_moreMembers {s t : σ} {ms : List (String × Value)}
    (h : Chain (Takes member) s ms t) {fuel : Nat} (hfuel : ms.length < fuel) (rest : List Char) :
    scanMembers member fuel false s
      ((ms.flatMap fun m => ',' :: Value.memberText m) ++ '\x7d' :: rest) = .ok (t, rest) := by
  induction h generalizing fuel with
  | nil =>
    cases fuel with
    | zero => exact absurd hfuel (Nat.not_lt_zero _)
    | succ fuel => rfl
  | @cons s t u m ms hm _ ih =>
    cases fuel with
    | zero => exact absurd hfuel (Nat.not_lt_zero _)
    | succ fuel =>
      have hmore := ih (Nat.lt_of_succ_lt_succ hfuel)
      rw [List.flatMap_cons, List.cons_append, List.cons_append, List.append_assoc]
      obtain ⟨start, hstart, hname⟩ := scanString_memberText m
        ((ms.flatMap fun n => ',' :: Value.memberText n) ++ '\x7d' :: rest)
      rw [hstart, scanMembers_next (skipSpaces_cons rfl _) (by decide) rfl hname
        (hm _ (follows_members ms rest)), hmore]

/-- Written members are read back. -/
theorem scanMembers_memberChars {s t : σ} {ms : List (String × Value)}
    (h : Chain (Takes member) s ms t) {fuel : Nat} (hfuel : ms.length < fuel) (rest : List Char) :
    scanMembers member fuel true s (Value.memberChars ms ++ '\x7d' :: rest) = .ok (t, rest) := by
  cases fuel with
  | zero => exact absurd hfuel (Nat.not_lt_zero _)
  | succ fuel =>
    cases h with
    | nil => rfl
    | @cons _ t _ m ms hm hms =>
      have hmore := scanMembers_moreMembers hms (Nat.lt_of_succ_lt_succ hfuel) rest
      rw [Value.memberChars_cons, List.append_assoc]
      obtain ⟨start, hstart, hname⟩ := scanString_memberText m
        ((ms.flatMap fun n => ',' :: Value.memberText n) ++ '\x7d' :: rest)
      rw [hstart, scanMembers_next (skipSpaces_cons rfl _) (by decide) rfl hname
        (hm _ (follows_members ms rest)), hmore]

/-- The length of the text is fuel enough for its members. -/
theorem scanMembers_object {s t : σ} {ms : List (String × Value)}
    (h : Chain (Takes member) s ms t) (rest : List Char) :
    scanMembers member ((Value.memberChars ms ++ '\x7d' :: rest).length + 1) true s
      (Value.memberChars ms ++ '\x7d' :: rest) = .ok (t, rest) := by
  refine scanMembers_memberChars h ?_ rest
  have hlength := Value.length_le_memberChars ms
  rw [List.length_append]
  omega

end Members

/-! ### Values -/

theorem takes_scanEntry {α : Type} {value : List Char → Except ReadError (α × List Char)}
    {name : String} {v : Value} {x : α}
    (h : ∀ rest, Follows rest → value (v.chars ++ rest) = .ok (x, rest)) (d : Dict α) :
    Takes (scanEntry value) d (name, v) (d.insert name x) := fun rest hrest =>
  scanEntry_eq_ok_iff.2 ⟨_, x, rfl, h rest hrest, rfl⟩

theorem chain_scanEntry {α β : Type} {value : List Char → Except ReadError (α × List Char)}
    (w : β → Value) (g : β → α) {es : List (String × β)}
    (h : ∀ e ∈ es, ∀ rest, Follows rest → value ((w e.2).chars ++ rest) = .ok (g e.2, rest))
    (d : Dict α) :
    Chain (Takes (scanEntry value)) d (es.map fun e => (e.1, w e.2))
      ((es.map fun e => (e.1, g e.2)).foldl (fun d e => d.insert e.1 e.2) d) := by
  induction es generalizing d with
  | nil => exact .nil d
  | cons e es ih =>
    obtain ⟨he, hes⟩ := List.forall_mem_cons.1 h
    exact .cons (takes_scanEntry he d) (ih hes _)

/-- **A written value is read back**, with the members of its objects in the order of their
names. -/
theorem scanValue_chars {v : Value} (hv : v.Integral) {room : Nat} (hroom : v.depth ≤ room)
    {rest : List Char} (hrest : Follows rest) :
    scanValue room (v.chars ++ rest) = .ok (v.inOrder, rest) := by
  induction v using Value.recursion generalizing room rest with
  | null => exact scanValue_eq_ok_iff.2 (.null rfl)
  | bool b =>
    cases b with
    | true => exact scanValue_eq_ok_iff.2 (.yes rfl)
    | false => exact scanValue_eq_ok_iff.2 (.no rfl)
  | string s =>
    rw [Value.chars, stringChars_append]
    exact scanValue_eq_ok_iff.2 (.string (scanString_escaped s rest))
  | number n =>
    cases n with
    | real x => exact absurd (Value.isWord_of_integral hv) Bool.false_ne_true
    | integer k =>
      rw [Value.chars]
      rcases scanNumber_integer (Value.isWord_of_integral hv) hrest with
        ⟨n, rfl, hchars, hscan⟩ | ⟨cs, hchars, hscan⟩
      · obtain ⟨c, cs, hcs, -⟩ := natChars_eq_cons n
        have hc : c.isDigit = true := isDigit_of_mem_natChars (hcs ▸ List.mem_cons_self)
        rw [hchars, scanValue_eq_ok_iff]
        rw [hcs, List.cons_append] at hscan ⊢
        rw [skipSpaces_cons (isSpace_of_isDigit hc)]
        exact .positive hc hscan
      · rw [hchars]
        exact scanValue_eq_ok_iff.2 (.negative hscan)
  | array items ih =>
    obtain ⟨inner, rfl, hdepth⟩ := Value.depth_array_le_iff.1 hroom
    have hitems := Value.integral_array.1 hv
    have hscan := scanItems_array (fun v hmem rest hrest =>
      ih v hmem (hitems v hmem) (hdepth v hmem) hrest) hitems rest
    rw [List.map_id'] at hscan
    rw [Value.chars, Value.inOrder, Value.inOrderItems_eq, List.cons_append, List.append_assoc]
    exact scanValue_eq_ok_iff.2 (.array rfl hscan)
  | object members ih =>
    obtain ⟨inner, rfl, hdepth⟩ := Value.depth_object_le_iff.1 hroom
    have hmembers := Value.integral_object.1 hv
    have hchain := chain_scanEntry (fun v => v) Value.inOrder (fun m hmem rest hrest =>
      ih m hmem (hmembers m hmem) (hdepth m hmem) hrest) Dict.empty
    rw [List.map_id'] at hchain
    rw [Value.chars, Value.inOrder, Value.inOrderMembers_eq, List.cons_append, List.append_assoc]
    exact scanValue_eq_ok_iff.2 (.object rfl (scanMembers_object hchain rest))

end EventDetection.Json
