import EventDetection.Json.Scanner
import EventDetection.Proofs.Json.Value
import Mathlib.Data.List.Forall2

/-!
# What a scanner has read

A scanner that succeeds has read a value at the start of a text.  The relations below
say which, case by case, without the fuel of the loops.

* `Reads`: a value of any shape, behind the blanks before it.
* `ItemsRun`, `MembersRun`: the items of a list and the members of an object.
* `scanValue_eq_ok_iff`, `scanItems_eq_ok`, `scanMembers_eq_ok`: **a scanner succeeds exactly on
  what these relations say.**
* `ItemsRun.simulate`, `MembersRun.simulate`: two ways of reading one text, side by side.
-/

namespace EventDetection.Json

/-! ### Results -/

theorem ok_bind {ε α β : Type} (a : α) (f : α → Except ε β) : (Except.ok a >>= f) = f a := rfl

theorem error_bind {ε α β : Type} (e : ε) (f : α → Except ε β) :
    (Except.error e >>= f) = .error e := rfl

theorem bind_eq_ok_iff {ε α β : Type} {x : Except ε α} {f : α → Except ε β} {b : β} :
    x >>= f = .ok b ↔ ∃ a, x = .ok a ∧ f a = .ok b := by
  cases x with
  | error e => exact ⟨nofun, fun ⟨a, ha, _⟩ => nomatch ha⟩
  | ok a => exact ⟨fun h => ⟨a, rfl, h⟩, fun ⟨b, hb, h⟩ => Except.ok.inj hb ▸ h⟩

theorem map_eq_ok_iff {ε α β : Type} {x : Except ε α} {f : α → β} {b : β} :
    x.map f = .ok b ↔ ∃ a, x = .ok a ∧ f a = b := by
  cases x with
  | error e => exact ⟨nofun, fun ⟨a, ha, _⟩ => nomatch ha⟩
  | ok a =>
    exact ⟨fun h => ⟨a, rfl, Except.ok.inj h⟩, fun ⟨b, hb, h⟩ => Except.ok.inj hb ▸ congrArg _ h⟩

theorem mapError_eq_ok_iff {ε ε' α : Type} {x : Except ε α} {f : ε → ε'} {a : α} :
    x.mapError f = .ok a ↔ x = .ok a := by
  cases x with
  | error e =>
    constructor
    · intro h
      cases h
    · intro h
      cases h
  | ok b =>
    constructor
    · intro h
      exact congrArg _ (Except.ok.inj h)
    · intro h
      exact congrArg _ (Except.ok.inj h)

theorem exists_of_isOk {ε α : Type} {x : Except ε α} (h : x.isOk = true) : ∃ a, x = .ok a := by
  cases x with
  | error e => cases h
  | ok a => exact ⟨a, rfl⟩

theorem eq_ok_of_toOption {ε α : Type} {x : Except ε α} {a : α} (h : x.toOption = some a) :
    x = .ok a := by
  cases x with
  | error e => exact nomatch h
  | ok b => exact congrArg _ (Option.some.inj h)

/-! ### Blanks -/

theorem skipSpaces_cons {c : Char} (h : isSpace c = false) (cs : List Char) :
    skipSpaces (c :: cs) = c :: cs :=
  List.dropWhile_cons_of_neg (by simp [h])

theorem isSpace_of_isDigit {c : Char} (h : c.isDigit = true) : isSpace c = false := by
  rw [Bool.eq_false_iff]
  intro hspace
  simp only [isSpace, Bool.or_eq_true, decide_eq_true_eq] at hspace
  rcases hspace with ((rfl | rfl) | rfl) | rfl <;> exact absurd h (by decide)

/-- No blank stands behind the blanks. -/
theorem isSpace_of_skipSpaces {cs ds : List Char} {c : Char} (h : skipSpaces cs = c :: ds) :
    isSpace c = false := by
  induction cs with
  | nil => exact nomatch h
  | cons b cs ih =>
    by_cases hb : isSpace b = true
    · rw [skipSpaces, List.dropWhile_cons_of_pos hb] at h
      exact ih h
    · rw [skipSpaces, List.dropWhile_cons_of_neg hb] at h
      rw [← (List.cons.inj h).1]
      exact Bool.not_eq_true _ ▸ hb

theorem skipSpaces_skipSpaces (cs : List Char) : skipSpaces (skipSpaces cs) = skipSpaces cs := by
  cases h : skipSpaces cs with
  | nil => rfl
  | cons c ds => exact skipSpaces_cons (isSpace_of_skipSpaces h) ds

/-! ### Values -/

/-- At the start of a text that no blank begins, a value is read with `room` containers to open
at most. -/
inductive Reads (room : Nat) : List Char → Value → List Char → Prop
  | null {cs rest} (h : scanWord ['u', 'l', 'l'] cs = .ok rest) : Reads room ('n' :: cs) .null rest
  | yes {cs rest} (h : scanWord ['r', 'u', 'e'] cs = .ok rest) :
      Reads room ('t' :: cs) (.bool true) rest
  | no {cs rest} (h : scanWord ['a', 'l', 's', 'e'] cs = .ok rest) :
      Reads room ('f' :: cs) (.bool false) rest
  | string {cs s rest} (h : scanString cs = .ok (s, rest)) :
      Reads room ('"' :: cs) (.string s) rest
  | negative {cs n rest} (h : scanNumber false cs = .ok (n, rest)) :
      Reads room ('-' :: cs) (.number n) rest
  | positive {c cs n rest} (hc : c.isDigit = true) (h : scanNumber true (c :: cs) = .ok (n, rest)) :
      Reads room (c :: cs) (.number n) rest
  | array {inner cs items rest} (hroom : room = inner + 1)
      (h : scanItems (scanValue inner) (cs.length + 1) true cs = .ok (items, rest)) :
      Reads room ('[' :: cs) (.array items) rest
  | object {inner cs d rest} (hroom : room = inner + 1)
      (h : scanMembers (scanEntry (scanValue inner)) (cs.length + 1) true Dict.empty cs =
        .ok (d, rest)) :
      Reads room ('\x7b' :: cs) (.ofDict d) rest

theorem scanValue_eq_ok_iff {room : Nat} {cs rest : List Char} {v : Value} :
    scanValue room cs = .ok (v, rest) ↔ Reads room (skipSpaces cs) v rest := by
  constructor
  · intro h
    rw [scanValue] at h
    split at h
    · exact nomatch h
    · next heq =>
      obtain ⟨r, hr, h⟩ := bind_eq_ok_iff.1 h
      cases h
      exact heq ▸ .null hr
    · next heq =>
      obtain ⟨r, hr, h⟩ := bind_eq_ok_iff.1 h
      cases h
      exact heq ▸ .yes hr
    · next heq =>
      obtain ⟨r, hr, h⟩ := bind_eq_ok_iff.1 h
      cases h
      exact heq ▸ .no hr
    · next heq =>
      obtain ⟨⟨s, r⟩, hr, h⟩ := bind_eq_ok_iff.1 h
      cases h
      exact heq ▸ .string hr
    · next heq =>
      obtain ⟨⟨n, r⟩, hr, h⟩ := bind_eq_ok_iff.1 h
      cases h
      exact heq ▸ .negative hr
    · next heq =>
      split at h
      · exact nomatch h
      · obtain ⟨⟨items, r⟩, hr, h⟩ := bind_eq_ok_iff.1 h
        cases h
        exact heq ▸ .array rfl hr
    · next heq =>
      split at h
      · exact nomatch h
      · obtain ⟨⟨d, r⟩, hr, h⟩ := bind_eq_ok_iff.1 h
        cases h
        exact heq ▸ .object rfl hr
    · next c r _ _ _ _ _ _ _ heq =>
      split at h
      · next hc =>
        obtain ⟨⟨n, r⟩, hr, h⟩ := bind_eq_ok_iff.1 h
        cases h
        exact heq ▸ .positive hc hr
      · exact nomatch h
  · intro h
    rw [scanValue]
    generalize skipSpaces cs = ds at h
    cases h with
    | null h => simp only [h]; rfl
    | yes h => simp only [h]; rfl
    | no h => simp only [h]; rfl
    | string h => simp only [h]; rfl
    | negative h => simp only [h]; rfl
    | positive hc h =>
      split
      -- no other value starts with a digit
      all_goals first
        | (next heq => cases heq; exact absurd hc (by decide))
        | (next heq => cases heq; done)
        | skip
      next heq =>
        cases heq
        simp only [if_pos hc, h]
        rfl
    | array hroom h => subst hroom; simp only [h]; rfl
    | object hroom h => subst hroom; simp only [h]; rfl

/-! ### Lists -/

/-- The first item stands behind the bracket, and each other one behind a comma. -/
theorem nextItem_eq_ok {first : Bool} {c : Char} {ds start : List Char}
    (h : nextItem first (c :: ds) = .ok start) :
    (first = true ∧ start = c :: ds) ∨ (first = false ∧ c = ',' ∧ start = skipSpaces ds) := by
  cases first with
  | true =>
    cases h
    exact .inl ⟨rfl, rfl⟩
  | false =>
    unfold nextItem at h
    split at h
    · next heq => exact nomatch heq
    · next heq =>
      cases heq
      split at h
      · exact nomatch h
      · exact nomatch h
      · cases h
        exact .inr ⟨rfl, rfl, rfl⟩
    · exact nomatch h

/-- From a text on, behind a bracket or (unless `first`) an item, the items of a list are read
up to its closing bracket. -/
inductive ItemsRun {α : Type} (item : List Char → Except ReadError (α × List Char)) :
    Bool → List Char → List α → List Char → Prop
  | done {first cs rest} (h : skipSpaces cs = ']' :: rest) : ItemsRun item first cs [] rest
  | next {first cs c ds start x mid xs rest} (h : skipSpaces cs = c :: ds) (hc : c ≠ ']')
      (hstart : nextItem first (c :: ds) = .ok start) (hx : item start = .ok (x, mid))
      (hxs : ItemsRun item false mid xs rest) : ItemsRun item first cs (x :: xs) rest

section Items

variable {α β : Type} {item : List Char → Except ReadError (α × List Char)}
  {other : List Char → Except ReadError (β × List Char)}

theorem scanItems_eq_ok {fuel : Nat} {first : Bool} {cs rest : List Char} {xs : List α}
    (h : scanItems item fuel first cs = .ok (xs, rest)) : ItemsRun item first cs xs rest := by
  induction fuel generalizing first cs xs with
  | zero => exact nomatch h
  | succ fuel ih =>
    rw [scanItems] at h
    split at h
    · exact nomatch h
    · next heq =>
      cases h
      exact .done heq
    · next hnil hend =>
      obtain ⟨start, hstart, h⟩ := bind_eq_ok_iff.1 h
      obtain ⟨⟨x, mid⟩, hx, h⟩ := bind_eq_ok_iff.1 h
      obtain ⟨⟨ys, r⟩, hys, h⟩ := bind_eq_ok_iff.1 h
      cases h
      cases hds : skipSpaces cs with
      | nil => exact absurd hds hnil
      | cons c ds =>
        have hc : c ≠ ']' := fun hc => hend ds (hc ▸ hds)
        exact .next hds hc (hds ▸ hstart) hx (ih hys)

/-- One item is read. -/
theorem scanItems_next {fuel : Nat} {first : Bool} {cs ds start mid : List Char} {c : Char} {x : α}
    (h : skipSpaces cs = c :: ds) (hc : c ≠ ']') (hstart : nextItem first (c :: ds) = .ok start)
    (hx : item start = .ok (x, mid)) :
    scanItems item (fuel + 1) first cs =
      (scanItems item fuel false mid).map fun r => (x :: r.1, r.2) := by
  rw [scanItems, h]
  split
  · next heq => exact nomatch heq
  · next heq => exact absurd (List.cons.inj heq).1 hc
  · rw [hstart]
    change (item start >>= _) = _
    rw [hx]
    change (scanItems item fuel false mid >>= _) = _
    cases scanItems item fuel false mid <;> rfl

/-- Two ways of reading the items agree on where the list ends and keep to a relation of the items,
if they do so for each item. -/
theorem ItemsRun.simulate (R : α → β → Prop)
    (hitem : ∀ {cs x mid y mid'}, item cs = .ok (x, mid) → other cs = .ok (y, mid') →
      mid' = mid ∧ R x y)
    {first : Bool} {cs rest rest' : List Char} {xs : List α} {ys : List β}
    (h : ItemsRun item first cs xs rest) (h' : ItemsRun other first cs ys rest') :
    rest' = rest ∧ List.Forall₂ R xs ys := by
  induction h generalizing ys with
  | done h =>
    cases h' with
    | done k => exact ⟨(List.cons.inj (k.symm.trans h)).2, .nil⟩
    | next k hc => exact absurd (List.cons.inj (k.symm.trans h)).1 hc
  | next h hc hstart hx _ ih =>
    cases h' with
    | done k => exact absurd (List.cons.inj (h.symm.trans k)).1 hc
    | next k _ kstart ky hys =>
      rw [h] at k
      cases k
      cases hstart.symm.trans kstart
      obtain ⟨rfl, hR⟩ := hitem hx ky
      obtain ⟨hrest, hall⟩ := ih hys
      exact ⟨hrest, .cons hR hall⟩

theorem ItemsRun.forall {P : α → Prop} (hitem : ∀ {cs x mid}, item cs = .ok (x, mid) → P x)
    {first : Bool} {cs rest : List Char} {xs : List α} (h : ItemsRun item first cs xs rest) :
    ∀ x ∈ xs, P x := by
  induction h with
  | done => exact fun _ hx => absurd hx List.not_mem_nil
  | next _ _ _ hx _ ih => exact List.forall_mem_cons.2 ⟨hitem hx, ih⟩

end Items

/-! ### Objects -/

/-- The first name stands behind the brace, and each other one behind a comma. -/
theorem nextName_eq_ok {first : Bool} {c : Char} {ds start : List Char}
    (h : nextName first (c :: ds) = .ok start) :
    (first = true ∧ c = '"' ∧ start = ds) ∨
      (first = false ∧ c = ',' ∧ skipSpaces ds = '"' :: start) := by
  unfold nextName at h
  split at h
  · next heq =>
    cases heq
    cases h
    exact .inl ⟨rfl, rfl, rfl⟩
  · exact nomatch h
  · next heq =>
    cases heq
    split at h
    · exact nomatch h
    · next hr =>
      cases h
      exact .inr ⟨rfl, rfl, hr⟩
    · exact nomatch h
    · exact nomatch h
  · exact nomatch h

/-- From a text on, behind a brace or (unless `first`) a member, the members of an object are
read up to its closing brace. -/
inductive MembersRun {σ : Type}
    (member : String → σ → List Char → Except ReadError (σ × List Char)) :
    Bool → σ → List Char → σ → List Char → Prop
  | done {first s cs rest} (h : skipSpaces cs = '\x7d' :: rest) :
      MembersRun member first s cs s rest
  | next {first s cs c ds start name behind t mid u rest} (h : skipSpaces cs = c :: ds)
      (hc : c ≠ '\x7d') (hstart : nextName first (c :: ds) = .ok start)
      (hname : scanString start = .ok (name, behind)) (ht : member name s behind = .ok (t, mid))
      (hu : MembersRun member false t mid u rest) : MembersRun member first s cs u rest

section Members

variable {σ τ : Type} {member : String → σ → List Char → Except ReadError (σ × List Char)}
  {other : String → τ → List Char → Except ReadError (τ × List Char)}

theorem scanMembers_eq_ok {fuel : Nat} {first : Bool} {s t : σ} {cs rest : List Char}
    (h : scanMembers member fuel first s cs = .ok (t, rest)) :
    MembersRun member first s cs t rest := by
  induction fuel generalizing first s cs with
  | zero => exact nomatch h
  | succ fuel ih =>
    rw [scanMembers] at h
    split at h
    · exact nomatch h
    · next heq =>
      cases h
      exact .done heq
    · next hnil hend =>
      obtain ⟨start, hstart, h⟩ := bind_eq_ok_iff.1 h
      obtain ⟨⟨name, behind⟩, hname, h⟩ := bind_eq_ok_iff.1 h
      obtain ⟨⟨u, mid⟩, hu, h⟩ := bind_eq_ok_iff.1 h
      cases hds : skipSpaces cs with
      | nil => exact absurd hds hnil
      | cons c ds =>
        have hc : c ≠ '\x7d' := fun hc => hend ds (hc ▸ hds)
        exact .next hds hc (hds ▸ hstart) hname hu (ih h)

/-- One member is read. -/
theorem scanMembers_next {fuel : Nat} {first : Bool} {s t : σ} {cs ds start behind mid : List Char}
    {c : Char} {name : String} (h : skipSpaces cs = c :: ds) (hc : c ≠ '\x7d')
    (hstart : nextName first (c :: ds) = .ok start)
    (hname : scanString start = .ok (name, behind)) (ht : member name s behind = .ok (t, mid)) :
    scanMembers member (fuel + 1) first s cs = scanMembers member fuel false t mid := by
  rw [scanMembers, h]
  split
  · next heq => exact nomatch heq
  · next heq => exact absurd (List.cons.inj heq).1 hc
  · rw [hstart]
    change (scanString start >>= _) = _
    rw [hname]
    change (member name s behind >>= _) = _
    rw [ht]
    rfl

/-- Two ways of reading the members keep to a relation of what they have made of them, if each
member keeps to it. -/
theorem MembersRun.simulate (R : σ → τ → Prop)
    (hmember : ∀ {name s t cs s' mid t' mid'}, R s t → member name s cs = .ok (s', mid) →
      other name t cs = .ok (t', mid') → mid' = mid ∧ R s' t')
    {first : Bool} {s s' : σ} {t t' : τ} {cs rest rest' : List Char}
    (h : MembersRun member first s cs s' rest) (h' : MembersRun other first t cs t' rest')
    (hR : R s t) : rest' = rest ∧ R s' t' := by
  induction h generalizing t with
  | done h =>
    cases h' with
    | done k => exact ⟨(List.cons.inj (k.symm.trans h)).2, hR⟩
    | next k hc => exact absurd (List.cons.inj (k.symm.trans h)).1 hc
  | next h hc hstart hname ht _ ih =>
    cases h' with
    | done k => exact absurd (List.cons.inj (h.symm.trans k)).1 hc
    | next k _ kstart kname kt hys =>
      rw [h] at k
      cases k
      cases hstart.symm.trans kstart
      cases hname.symm.trans kname
      obtain ⟨rfl, hR'⟩ := hmember hR ht kt
      exact ih hys hR'

theorem MembersRun.invariant (P : σ → Prop)
    (hmember : ∀ {name s cs s' mid}, P s → member name s cs = .ok (s', mid) → P s')
    {first : Bool} {s s' : σ} {cs rest : List Char} (h : MembersRun member first s cs s' rest)
    (hs : P s) : P s' :=
  (h.simulate (fun s t => P s ∧ s = t) (fun hR k k' => by
    obtain ⟨hP, rfl⟩ := hR
    cases k.symm.trans k'
    exact ⟨rfl, hmember hP k, rfl⟩) h ⟨hs, rfl⟩).2.1

/-- Another way of reading the members ends where this one does, if it takes each member as far.
What it makes of them stays as it is, and what this one makes of them is known from the end. -/
theorem scanMembers_follow {P : σ → Prop} {u : τ}
    (hmember : ∀ {name s cs s' mid}, member name s cs = .ok (s', mid) → P s' →
      P s ∧ other name u cs = .ok (u, mid))
    {fuel : Nat} {first : Bool} {s t : σ} {cs rest : List Char}
    (h : scanMembers member fuel first s cs = .ok (t, rest)) (ht : P t) :
    P s ∧ scanMembers other fuel first u cs = .ok (u, rest) := by
  induction fuel generalizing first s cs with
  | zero => exact nomatch h
  | succ fuel ih =>
    rw [scanMembers] at h
    split at h
    · exact nomatch h
    · next heq =>
      cases h
      refine ⟨ht, ?_⟩
      rw [scanMembers, heq]
      rfl
    · next hnil hend =>
      obtain ⟨start, hstart, h⟩ := bind_eq_ok_iff.1 h
      obtain ⟨⟨name, behind⟩, hname, h⟩ := bind_eq_ok_iff.1 h
      obtain ⟨⟨v, mid⟩, hv, h⟩ := bind_eq_ok_iff.1 h
      obtain ⟨hP, hothers⟩ := ih h
      obtain ⟨hs, hother⟩ := hmember hv hP
      cases hds : skipSpaces cs with
      | nil => exact absurd hds hnil
      | cons c ds =>
        have hc : c ≠ '\x7d' := fun hc => hend ds (hc ▸ hds)
        exact ⟨hs, (scanMembers_next hds hc (hds ▸ hstart) hname hother).trans hothers⟩

end Members

theorem scanEntry_eq_ok_iff {α : Type} {value : List Char → Except ReadError (α × List Char)}
    {name : String} {d e : Dict α} {cs rest : List Char} :
    scanEntry value name d cs = .ok (e, rest) ↔
      ∃ start x, scanColon cs = .ok start ∧ value start = .ok (x, rest) ∧
        e = d.insert name x := by
  simp only [scanEntry, bind_eq_ok_iff]
  constructor
  · rintro ⟨start, hstart, ⟨x, mid⟩, hx, h⟩
    cases h
    exact ⟨start, x, hstart, hx, rfl⟩
  · rintro ⟨start, x, hstart, hx, rfl⟩
    exact ⟨start, hstart, ⟨x, rest⟩, hx, rfl⟩

/-! ### What is read -/

/-- A value that was read lists the members of its objects by name, and it nests no more
containers than there was room for. -/
theorem ordered_and_depth_of_scanValue {room : Nat} {cs rest : List Char} {v : Value}
    (h : scanValue room cs = .ok (v, rest)) : v.Ordered ∧ v.depth ≤ room := by
  induction room generalizing cs v rest with
  | zero =>
    have hreads := scanValue_eq_ok_iff.1 h
    generalize skipSpaces cs = ds at hreads
    cases hreads with
    | array hroom => exact absurd hroom (Nat.succ_ne_zero _).symm
    | object hroom => exact absurd hroom (Nat.succ_ne_zero _).symm
    | _ => exact ⟨rfl, Nat.zero_le _⟩
  | succ room ih =>
    have hreads := scanValue_eq_ok_iff.1 h
    generalize skipSpaces cs = ds at hreads
    cases hreads with
    | array hroom h =>
      cases hroom
      have hitems := (scanItems_eq_ok h).forall (P := fun v => v.Ordered ∧ v.depth ≤ room) ih
      exact ⟨Value.ordered_array fun v hv => (hitems v hv).1,
        Value.depth_array_le_iff.2 ⟨room, rfl, fun v hv => (hitems v hv).2⟩⟩
    | object hroom h =>
      cases hroom
      have hmembers := (scanMembers_eq_ok h).invariant
        (fun d => ∀ k v, d.get? k = some v → v.Ordered ∧ v.depth ≤ room) ?_ ?_
      · exact ⟨Value.ordered_ofDict fun k v hv => (hmembers k v hv).1,
          Value.depth_object_le_iff.2 ⟨room, rfl, fun m hm =>
            (hmembers m.1 m.2 (Dict.mem_entries_iff.1 hm)).2⟩⟩
      · intro name d cs e mid hd he k v hv
        obtain ⟨start, x, -, hx, rfl⟩ := scanEntry_eq_ok_iff.1 he
        rw [Dict.get?_insert] at hv
        split at hv
        · exact Option.some.inj hv ▸ ih hx
        · exact hd k v hv
      · exact fun k v hv => nomatch (Dict.get?_empty k).symm.trans hv
    | _ => exact ⟨rfl, Nat.zero_le _⟩

end EventDetection.Json
