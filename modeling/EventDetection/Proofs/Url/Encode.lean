import EventDetection.Url.Percent

/-!
# Encoding keeps what is meant

A text is encoded without a look at what is encoded in it already.  So encoding is no injection:
two texts are encoded alike if they are alike up to characters that are given in their encoded form.
That is what decoding tells.

* `Url.decode_encode`: **decoding a text that was encoded is decoding the text.**
* `Url.eq_of_decode_eq`: texts that stand for the same bytes are the same if nothing in them is
  encoded.
* `Url.slash_not_mem_encode`: encoding adds no slash.
-/

namespace EventDetection.Url

/-- A set of characters to be encoded that leaves alone what encoding itself writes. -/
def IsEncodable (set : Char → Bool) : Prop :=
  set '%' = false ∧ ∀ c, (hexValue? c).isSome = true → set c = false

variable {set : Char → Bool} {c : Char} {cs : List Char}

/-! ### Characters -/

theorem encode_cons (set : Char → Bool) (c : Char) (cs : List Char) :
    encode set (c :: cs) =
      (if set c then (String.utf8EncodeChar c).flatMap encodeByte else [c]) ++ encode set cs :=
  List.flatMap_cons

theorem encode_append (set : Char → Bool) (xs ys : List Char) :
    encode set (xs ++ ys) = encode set xs ++ encode set ys :=
  List.flatMap_append

theorem encode_cons_of_not (h : set c = false) (cs : List Char) :
    encode set (c :: cs) = c :: encode set cs := by
  rw [encode_cons, h]
  rfl

theorem hexValue?_hexDigit {n : Nat} (h : n < 16) : hexValue? (hexDigit n) = some n := by
  have hall : ∀ m : Fin 16, hexValue? (hexDigit m) = some m.val := by decide
  exact hall ⟨n, h⟩

/-- Whether two hexadecimal digits come first. -/
def startsWithByte : List Char → Bool
  | a :: b :: _ => (hexValue? a).isSome && (hexValue? b).isSome
  | _ => false

theorem decode_byte {a b : Char} {x y : Nat} (ha : hexValue? a = some x) (hb : hexValue? b = some y)
    (cs : List Char) : decode ('%' :: a :: b :: cs) = UInt8.ofNat (16 * x + y) :: decode cs := by
  rw [decode, ha, hb]

theorem decode_percent (h : startsWithByte cs = false) :
    decode ('%' :: cs) = String.utf8EncodeChar '%' ++ decode cs := by
  match cs with
  | [] => rfl
  | [a] => exact decode.eq_2 '%' [a] fun _ _ _ _ h => nomatch h
  | a :: b :: cs =>
    rw [decode]
    rw [startsWithByte] at h
    cases ha : hexValue? a with
    | none => rfl
    | some x =>
      cases hb : hexValue? b with
      | none => rfl
      | some y =>
        rw [ha, hb] at h
        exact nomatch h

theorem decode_cons_of_ne (h : c ≠ '%') (cs : List Char) :
    decode (c :: cs) = String.utf8EncodeChar c ++ decode cs :=
  decode.eq_2 c cs fun _ _ _ hc => absurd hc h

theorem decode_encodeByte (b : UInt8) (cs : List Char) :
    decode (encodeByte b ++ cs) = b :: decode cs := by
  have hb : b.toNat < 256 := b.toNat_lt
  have hbyte := decode_byte (hexValue?_hexDigit (n := b.toNat / 16) (by omega))
    (hexValue?_hexDigit (n := b.toNat % 16) (by omega)) cs
  have hsum : 16 * (b.toNat / 16) + b.toNat % 16 = b.toNat := by omega
  rw [hsum, UInt8.ofNat_toNat] at hbyte
  exact hbyte

theorem decode_encodeBytes (bs : List UInt8) (cs : List Char) :
    decode (bs.flatMap encodeByte ++ cs) = bs ++ decode cs := by
  induction bs with
  | nil => rfl
  | cons b bs ih =>
    rw [List.flatMap_cons, List.append_assoc, decode_encodeByte, ih, List.cons_append]

/-! ### Texts -/

/-- What is encoded starts with a percent sign. -/
theorem encode_cons_of_mem (h : set c = true) (cs : List Char) :
    ∃ ds, encode set (c :: cs) = '%' :: ds := by
  obtain ⟨b, bs, hb⟩ := List.exists_cons_of_ne_nil (String.utf8EncodeChar_ne_nil (c := c))
  refine ⟨[hexDigit (b.toNat / 16), hexDigit (b.toNat % 16)] ++ bs.flatMap encodeByte ++
    encode set cs, ?_⟩
  rw [encode_cons, h, hb]
  rfl

/-- Encoding makes no hexadecimal digits. -/
theorem startsWithByte_encode (h : startsWithByte cs = false) :
    startsWithByte (encode set cs) = false := by
  match cs with
  | [] => rfl
  | a :: cs =>
    cases ha : set a with
    | true =>
      obtain ⟨ds, hds⟩ := encode_cons_of_mem ha cs
      rw [hds]
      cases ds <;> rfl
    | false =>
      rw [encode_cons_of_not ha]
      match cs with
      | [] => rfl
      | b :: cs =>
        cases hb : set b with
        | true =>
          obtain ⟨ds, hds⟩ := encode_cons_of_mem hb cs
          rw [hds]
          exact Bool.and_false _
        | false =>
          rw [encode_cons_of_not hb]
          exact h

/-- **Decoding a text that was encoded is decoding the text.** -/
theorem decode_encode (hset : IsEncodable set) (cs : List Char) :
    decode (encode set cs) = decode cs := by
  have hpercent (cs : List Char) (h : startsWithByte cs = false)
      (ih : decode (encode set cs) = decode cs) :
      decode (encode set ('%' :: cs)) = decode ('%' :: cs) := by
    rw [encode_cons_of_not hset.1, decode_percent (startsWithByte_encode h), decode_percent h, ih]
  induction cs using decode.induct with
  | case1 a b cs x y hb ha ih =>
    have hdigit {d : Char} {n : Nat} (hd : hexValue? d = some n) : set d = false :=
      hset.2 d (hd ▸ rfl)
    rw [encode_cons_of_not hset.1, encode_cons_of_not (hdigit ha), encode_cons_of_not (hdigit hb),
      decode_byte ha hb, decode_byte ha hb, ih]
  | case2 a b cs hno ih =>
    refine hpercent _ ?_ ih
    rw [startsWithByte]
    cases ha : hexValue? a with
    | none => rfl
    | some x =>
      cases hb : hexValue? b with
      | none => rfl
      | some y => exact absurd hb (hno x y ha)
  | case3 c cs hno ih =>
    by_cases hc : c = '%'
    · subst hc
      refine hpercent cs ?_ ih
      match cs with
      | [] => rfl
      | [a] => rfl
      | a :: b :: cs => exact absurd rfl (hno a b cs rfl)
    · rw [encode_cons, decode_cons_of_ne hc, ← ih]
      split
      · exact decode_encodeBytes _ _
      · exact decode_cons_of_ne hc _
  | case4 => rfl

/-- Without percent signs, a text is decoded to its UTF-8 form. -/
theorem decode_of_not_mem (h : '%' ∉ cs) : decode cs = cs.flatMap String.utf8EncodeChar := by
  induction cs with
  | nil => rfl
  | cons c cs ih =>
    rw [List.mem_cons, not_or] at h
    rw [decode_cons_of_ne (Ne.symm h.1), ih h.2, List.flatMap_cons]

theorem eq_of_decode_eq {xs ys : List Char} (hxs : '%' ∉ xs) (hys : '%' ∉ ys)
    (h : decode xs = decode ys) : xs = ys := by
  rw [decode_of_not_mem hxs, decode_of_not_mem hys] at h
  have hbytes : (String.ofList xs).toByteArray = (String.ofList ys).toByteArray := by
    rw [String.toByteArray_ofList, String.toByteArray_ofList, List.utf8Encode, List.utf8Encode, h]
  exact String.ofList_inj.1 (String.toByteArray_inj.1 hbytes)

/-- **Encoding adds no slash.** -/
theorem slash_not_mem_encode (set : Char → Bool) (h : '/' ∉ cs) : '/' ∉ encode set cs := by
  have hdigit : ∀ m : Fin 16, '/' ≠ hexDigit m := by decide
  intro hmem
  obtain ⟨c, hc, hmem⟩ := List.mem_flatMap.1 hmem
  split at hmem
  · obtain ⟨b, -, hb⟩ := List.mem_flatMap.1 hmem
    have hlt : b.toNat < 256 := b.toNat_lt
    simp only [encodeByte, List.mem_cons, List.not_mem_nil, or_false] at hb
    rcases hb with hb | hb | hb
    · exact absurd hb (by decide)
    · exact hdigit ⟨b.toNat / 16, by omega⟩ hb
    · exact hdigit ⟨b.toNat % 16, by omega⟩ hb
  · exact h (List.mem_singleton.1 hmem ▸ hc)

/-! ### The sets of the parts of a URL -/

/-- A set leaves the digits alone if it does so among ASCII. -/
theorem isEncodable_of_ascii (hpercent : set '%' = false)
    (h : ∀ n : Fin 128, (hexValue? (Char.ofNat n)).isSome = true → set (Char.ofNat n) = false) :
    IsEncodable set := by
  refine ⟨hpercent, fun c hc => ?_⟩
  have hlt : c.toNat < 128 := by
    rw [hexValue?] at hc
    split at hc
    · next hdigit =>
      exact Nat.lt_of_le_of_lt (Char.isDigit_iff_toNat.1 hdigit).2 (by decide)
    · split at hc
      · next hsmall => exact Nat.lt_of_le_of_lt (Char.le_def.1 hsmall.2) (by decide)
      · split at hc
        · next hcapital => exact Nat.lt_of_le_of_lt (Char.le_def.1 hcapital.2) (by decide)
        · exact nomatch hc
  have hchar := h ⟨c.toNat, hlt⟩
  rw [Char.ofNat_toNat] at hchar
  exact hchar hc

theorem isEncodable_pathSet : IsEncodable pathSet := isEncodable_of_ascii (by decide) (by decide)

theorem isEncodable_specialQuerySet : IsEncodable specialQuerySet :=
  isEncodable_of_ascii (by decide) (by decide)

theorem isEncodable_fragmentSet : IsEncodable fragmentSet :=
  isEncodable_of_ascii (by decide) (by decide)

end EventDetection.Url
