import EventDetection.Json.Codec
import EventDetection.Proofs.Json.Skip

/-!
# Two ways of reading one text

A text may be read by a codec, or as a value of any shape.  Where both succeed they
end at one place (`Codec.Aligned`), so that what the codec made of a part of the text
can be compared with the value of that part (`Codec.Shows`).

* `Codec.aligned_list`, `Codec.aligned_dict` and so on: **every codec is aligned, if its parts
  are.**
* `Codec.shows_list`, `Codec.shows_dict`: a list is read from a list of the same length, and a
  dictionary from an object with the same names.
-/

namespace EventDetection.Json

theorem scanValue_skipSpaces (room : Nat) (cs : List Char) :
    scanValue room (skipSpaces cs) = scanValue room cs := by
  rw [scanValue, scanValue, skipSpaces_skipSpaces]

namespace Codec

variable {α β : Type}

/-- What the codec reads ends where the value ends. -/
structure Aligned (c : Codec α) : Prop where
  rest_eq : ∀ {room cs x rest v rest'}, c.scan room cs = .ok (x, rest) →
    scanValue room cs = .ok (v, rest') → rest' = rest

/-- At some place of a text, the codec reads `x` where the value `v` stands. -/
def Shows (c : Codec α) (x : α) (v : Value) : Prop :=
  ∃ room cs rest, c.scan room cs = .ok (x, rest) ∧ scanValue room cs = .ok (v, rest)

theorem Aligned.shows {c : Codec α} (hc : c.Aligned) {room : Nat} {cs rest rest' : List Char}
    {x : α} {v : Value} (hx : c.scan room cs = .ok (x, rest))
    (hv : scanValue room cs = .ok (v, rest')) : rest' = rest ∧ c.Shows x v := by
  have hrest := hc.rest_eq hx hv
  exact ⟨hrest, room, cs, rest, hx, hrest ▸ hv⟩

theorem eq_of_atEnd {x y : α} {rest : List Char} (h : atEnd (x, rest) = .ok y) : x = y := by
  rw [atEnd] at h
  split at h
  · exact Except.ok.inj h
  · exact nomatch h

/-- A whole text is read by the codec and as a value. -/
theorem Aligned.shows_of_read {c : Codec α} (hc : c.Aligned) {text : String} {x : α} {v : Value}
    (hx : c.read text = .ok x) (hv : Value.parse text = .ok v) : c.Shows x v := by
  obtain ⟨⟨x', rest⟩, hx', hend⟩ := bind_eq_ok_iff.1 hx
  obtain ⟨⟨v', rest'⟩, hv', hend'⟩ := bind_eq_ok_iff.1 hv
  cases eq_of_atEnd hend
  cases eq_of_atEnd hend'
  exact (hc.shows hx' hv').2

theorem atEnd_congr {x : α} {y y' : β} {rest : List Char} (h : atEnd (y, rest) = .ok y') :
    atEnd (x, rest) = .ok x := by
  rw [atEnd] at h ⊢
  split at h
  · next hend => exact if_pos hend
  · exact nomatch h

/-- A whole text that is JSON is read by a codec that ends where the value ends. -/
theorem read_of_parse {c : Codec α} {text : String} {x : α} {v : Value}
    (hscan : ∀ {room cs rest}, scanValue room cs = .ok (v, rest) → c.scan room cs = .ok (x, rest))
    (hv : Value.parse text = .ok v) : c.read text = .ok x := by
  obtain ⟨⟨v', rest⟩, hv', hend⟩ := bind_eq_ok_iff.1 hv
  cases eq_of_atEnd hend
  exact bind_eq_ok_iff.2 ⟨_, hscan hv', atEnd_congr hend⟩

theorem aligned_convert {c : Codec α} (hc : c.Aligned) (f : α → β) (back : β → α) :
    (c.convert f back).Aligned where
  rest_eq := by
    intro room cs y rest v rest' hy hv
    obtain ⟨⟨x, r⟩, hx, h⟩ := map_eq_ok_iff.1 hy
    cases h
    exact hc.rest_eq hx hv

theorem shows_convert {c : Codec α} {f : α → β} {back : β → α} {y : β} {v : Value}
    (h : (c.convert f back).Shows y v) : ∃ x, c.Shows x v ∧ f x = y := by
  obtain ⟨room, cs, rest, hy, hv⟩ := h
  obtain ⟨⟨x, r⟩, hx, h⟩ := map_eq_ok_iff.1 hy
  cases h
  exact ⟨x, ⟨room, cs, _, hx, hv⟩, rfl⟩

/-! ### Scalars -/

theorem aligned_string : string.Aligned where
  rest_eq := by
    intro room cs s rest v rest' hs hv
    have hreads := scanValue_eq_ok_iff.1 hv
    simp only [string] at hs
    split at hs
    · next r heq =>
      rw [heq] at hreads
      cases hreads with
      | string h =>
        cases hs.symm.trans h
        rfl
      | positive hc => exact absurd hc (by decide)
    · exact nomatch hs

theorem aligned_bool : bool.Aligned where
  rest_eq := by
    intro room cs b rest v rest' hb hv
    have hreads := scanValue_eq_ok_iff.1 hv
    simp only [bool] at hb
    split at hb
    · next r heq =>
      rw [heq] at hreads
      obtain ⟨r', hr, hb⟩ := bind_eq_ok_iff.1 hb
      cases hb
      cases hreads with
      | yes h =>
        cases hr.symm.trans h
        rfl
      | positive hc => exact absurd hc (by decide)
    · next r heq =>
      rw [heq] at hreads
      obtain ⟨r', hr, hb⟩ := bind_eq_ok_iff.1 hb
      cases hb
      cases hreads with
      | no h =>
        cases hr.symm.trans h
        rfl
      | positive hc => exact absurd hc (by decide)
    · exact nomatch hb

theorem aligned_word (name : String) (toInt : α → Int) (ofInt? : Int → Option α) :
    (word name toInt ofInt?).Aligned where
  rest_eq := by
    intro room cs x rest v rest' hx hv
    have hreads := scanValue_eq_ok_iff.1 hv
    simp only [word] at hx
    split at hx
    · next r heq =>
      rw [heq] at hreads
      obtain ⟨⟨n, r'⟩, hn, hx⟩ := bind_eq_ok_iff.1 hx
      obtain ⟨y, hy, hx⟩ := bind_eq_ok_iff.1 hx
      cases hx
      cases hreads with
      | negative h =>
        cases hn.symm.trans h
        rfl
      | positive hc => exact absurd hc (by decide)
    · next c r hminus heq =>
      rw [heq] at hreads
      split at hx
      · next hc =>
        obtain ⟨⟨n, r'⟩, hn, hx⟩ := bind_eq_ok_iff.1 hx
        obtain ⟨y, hy, hx⟩ := bind_eq_ok_iff.1 hx
        cases hx
        cases hreads with
        | positive _ h =>
          cases hn.symm.trans h
          rfl
        | _ => exact absurd hc (by decide)
      · exact nomatch hx
    · exact nomatch hx

/-! ### Choices and containers -/

theorem aligned_optional {c : Codec α} (hc : c.Aligned) : c.optional.Aligned where
  rest_eq := by
    intro room cs x rest v rest' hx hv
    simp only [optional] at hx
    split at hx
    · next r heq =>
      have hreads := scanValue_eq_ok_iff.1 hv
      rw [heq] at hreads
      obtain ⟨r', hr, hx⟩ := bind_eq_ok_iff.1 hx
      cases hx
      cases hreads with
      | null h =>
        cases hr.symm.trans h
        rfl
      | positive hc => exact absurd hc (by decide)
    · obtain ⟨⟨y, r⟩, hy, hx⟩ := bind_eq_ok_iff.1 hx
      cases hx
      exact hc.rest_eq hy ((scanValue_skipSpaces room cs).trans hv)

theorem shows_of_optional {c : Codec α} {x : α} {v : Value} (h : c.optional.Shows (some x) v) :
    c.Shows x v := by
  obtain ⟨room, cs, rest, hx, hv⟩ := h
  simp only [optional] at hx
  split at hx
  · obtain ⟨r, -, hx⟩ := bind_eq_ok_iff.1 hx
    exact nomatch hx
  · obtain ⟨⟨y, r⟩, hy, hx⟩ := bind_eq_ok_iff.1 hx
    cases hx
    exact ⟨room, skipSpaces cs, _, hy, (scanValue_skipSpaces room cs).trans hv⟩

/-- The only member of an object ends where its brace is. -/
theorem rest_eq_of_scanMembers {α : Type} {value : List Char → Except ReadError (α × List Char)}
    {cs r behind start mid rest rest' : List Char} {name : String} {x : α}
    {fuel : Nat} {d : Dict α} (hcs : skipSpaces cs = '"' :: r)
    (hname : scanString r = .ok (name, behind)) (hcolon : scanColon behind = .ok start)
    (hx : value start = .ok (x, mid)) (hend : skipSpaces mid = '\x7d' :: rest)
    (h : scanMembers (scanEntry value) fuel true Dict.empty cs = .ok (d, rest')) :
    rest' = rest := by
  cases scanMembers_eq_ok h with
  | done h' => exact nomatch hcs.symm.trans h'
  | next h' _ hstart' hname' ht' hu' =>
    cases hcs.symm.trans h'
    cases hstart'
    cases hname.symm.trans hname'
    obtain ⟨start', x', hcolon', hx', -⟩ := scanEntry_eq_ok_iff.1 ht'
    cases hcolon.symm.trans hcolon'
    cases hx.symm.trans hx'
    cases hu' with
    | done h'' =>
      cases hend.symm.trans h''
      rfl
    | next h'' hc =>
      cases hend.symm.trans h''
      exact absurd rfl hc

theorem aligned_tag (all : List α) (name : α → String) : (tag all name).Aligned where
  rest_eq := by
    intro room cs x rest v rest' hx hv
    have hreads := scanValue_eq_ok_iff.1 hv
    simp only [tag] at hx
    split at hx
    · exact nomatch hx
    · next r heq =>
      rw [heq] at hreads
      obtain ⟨⟨s, r'⟩, hs, hx⟩ := bind_eq_ok_iff.1 hx
      obtain ⟨y, hy, hx⟩ := bind_eq_ok_iff.1 hx
      cases hx
      cases hreads with
      | string h =>
        cases hs.symm.trans h
        rfl
      | positive hc => exact absurd hc (by decide)
    · next r heq =>
      rw [heq] at hreads
      split at hx
      · exact nomatch hx
      · split at hx
        · exact nomatch hx
        · next hquote =>
          obtain ⟨⟨s, behind⟩, hs, hx⟩ := bind_eq_ok_iff.1 hx
          obtain ⟨y, hy, hx⟩ := bind_eq_ok_iff.1 hx
          obtain ⟨start, hcolon, hx⟩ := bind_eq_ok_iff.1 hx
          split at hx
          · next hnull =>
            obtain ⟨mid, hmid, hx⟩ := bind_eq_ok_iff.1 hx
            split at hx
            · exact nomatch hx
            · next hend =>
              cases hx
              cases hreads with
              | @object inner _ _ _ hroom hmembers =>
                have hvalue : scanValue inner start = .ok (.null, mid) :=
                  scanValue_eq_ok_iff.2 (hnull ▸ .null hmid)
                exact rest_eq_of_scanMembers hquote hs hcolon hvalue hend hmembers
              | positive hc => exact absurd hc (by decide)
            · exact nomatch hx
          · exact nomatch hx
        · exact nomatch hx
        · exact nomatch hx
    · exact nomatch hx

theorem list_scan {c : Codec α} (hc : c.Aligned) {room : Nat} {cs rest rest' : List Char}
    {xs : List α} {v : Value} (hxs : c.list.scan room cs = .ok (xs, rest))
    (hv : scanValue room cs = .ok (v, rest')) :
    rest' = rest ∧ ∃ vs, v = .array vs ∧ List.Forall₂ c.Shows xs vs := by
  have hreads := scanValue_eq_ok_iff.1 hv
  simp only [list] at hxs
  split at hxs
  · next r heq =>
    rw [heq] at hreads
    split at hxs
    · exact nomatch hxs
    · cases hreads with
      | array hroom hitems =>
        cases hroom
        have hsim := (scanItems_eq_ok hxs).simulate c.Shows hc.shows (scanItems_eq_ok hitems)
        exact ⟨hsim.1, _, rfl, hsim.2⟩
      | positive hc => exact absurd hc (by decide)
  · exact nomatch hxs

theorem aligned_list {c : Codec α} (hc : c.Aligned) : c.list.Aligned where
  rest_eq hxs hv := (list_scan hc hxs hv).1

/-- **A list is read from a list**, and each item from the item at its place. -/
theorem shows_list {c : Codec α} (hc : c.Aligned) {xs : List α} {v : Value}
    (h : c.list.Shows xs v) : ∃ vs, v = .array vs ∧ List.Forall₂ c.Shows xs vs := by
  obtain ⟨room, cs, rest, hxs, hv⟩ := h
  exact (list_scan hc hxs hv).2

theorem entries_shows {c : Codec α} (hc : c.Aligned) {room : Nat} {first : Bool}
    {cs rest rest' : List Char} {d : Dict α} {D : Dict Value}
    (h : MembersRun (scanEntry (c.scan room)) first Dict.empty cs d rest)
    (h' : MembersRun (scanEntry (scanValue room)) first Dict.empty cs D rest') :
    rest' = rest ∧ ∀ k, Option.Rel c.Shows (d.get? k) (D.get? k) := by
  refine h.simulate (fun d D => ∀ k, Option.Rel c.Shows (d.get? k) (D.get? k)) ?_ h' ?_
  · intro name d D cs e mid E mid' hR he hE
    obtain ⟨start, x, hcolon, hx, rfl⟩ := scanEntry_eq_ok_iff.1 he
    obtain ⟨start', v, hcolon', hv, rfl⟩ := scanEntry_eq_ok_iff.1 hE
    cases hcolon.symm.trans hcolon'
    obtain ⟨hmid, hshows⟩ := hc.shows hx hv
    refine ⟨hmid, fun k => ?_⟩
    rw [Dict.get?_insert, Dict.get?_insert]
    split
    · exact .some hshows
    · exact hR k
  · intro k
    rw [Dict.get?_empty, Dict.get?_empty]
    exact .none

theorem dict_scan {c : Codec α} (hc : c.Aligned) {room : Nat} {cs rest rest' : List Char}
    {d : Dict α} {v : Value} (hd : c.dict.scan room cs = .ok (d, rest))
    (hv : scanValue room cs = .ok (v, rest')) :
    rest' = rest ∧ ∀ k, Option.Rel c.Shows (d.get? k) (v.member? k) := by
  have hreads := scanValue_eq_ok_iff.1 hv
  simp only [dict] at hd
  split at hd
  · next r heq =>
    rw [heq] at hreads
    split at hd
    · exact nomatch hd
    · cases hreads with
      | object hroom hmembers =>
        cases hroom
        exact entries_shows hc (scanMembers_eq_ok hd) (scanMembers_eq_ok hmembers)
      | positive hc => exact absurd hc (by decide)
  · exact nomatch hd

theorem aligned_dict {c : Codec α} (hc : c.Aligned) : c.dict.Aligned where
  rest_eq hd hv := (dict_scan hc hd hv).1

/-- **A dictionary is read from an object with the same names**, and each entry from the member of
its name. -/
theorem shows_dict {c : Codec α} (hc : c.Aligned) {d : Dict α} {v : Value}
    (h : c.dict.Shows d v) (k : String) : Option.Rel c.Shows (d.get? k) (v.member? k) := by
  obtain ⟨room, cs, rest, hd, hv⟩ := h
  exact (dict_scan hc hd hv).2 k

end Codec

end EventDetection.Json
