import EventDetection.Json.Record
import EventDetection.Proofs.Json.Printer
import EventDetection.Proofs.Json.Record

/-!
# Written values are read back

A codec reads what it has written (`Codec.RoundTrips`), wherever there is room for the
containers of it.

* `Codec.roundTrips_list`, `Codec.roundTrips_dict` and so on: **a container is read back if all
  that stands in it is.**
* `Fields.RoundTrips`: a record is read back if its members are, and if every member that is
  left out stands for the value that it had.
* `Codec.read_text`: the whole text of a value.
-/

namespace EventDetection.Json

namespace Codec

variable {α β : Type}

/-- What is written of `x` is read back as `x`, whatever follows. -/
structure RoundTrips (c : Codec α) (x : α) : Prop where
  integral : (c.write x).Integral
  scan_chars : ∀ {room rest}, (c.write x).depth ≤ room → Follows rest →
    c.scan room ((c.write x).chars ++ rest) = .ok (x, rest)

/-- **The whole text of a value is read back.** -/
theorem read_text {c : Codec α} {x : α} (h : c.RoundTrips x)
    (hdepth : (c.write x).depth ≤ maxDepth) : c.read (c.text x) = .ok x := by
  have hscan := h.scan_chars hdepth .nil
  rw [List.append_nil] at hscan
  rw [read, text, Value.compact, String.toList_ofList, hscan]
  rfl

/-- The whole text of a value is JSON. -/
theorem parse_text {c : Codec α} {x : α} (h : c.RoundTrips x)
    (hdepth : (c.write x).depth ≤ maxDepth) :
    Value.parse (c.text x) = .ok (c.write x).inOrder := by
  have hscan := scanValue_chars h.integral hdepth .nil
  rw [List.append_nil] at hscan
  rw [Value.parse, text, Value.compact, String.toList_ofList, hscan]
  rfl

theorem roundTrips_convert {c : Codec α} {f : α → β} {back : β → α} {y : β}
    (h : c.RoundTrips (back y)) (hf : f (back y) = y) : (c.convert f back).RoundTrips y where
  integral := h.integral
  scan_chars := by
    intro room rest hdepth hrest
    refine map_eq_ok_iff.2 ⟨_, h.scan_chars hdepth hrest, ?_⟩
    rw [hf]

theorem roundTrips_value {v : Value} (hv : v.Integral) (horder : v.Ordered) :
    value.RoundTrips v where
  integral := hv
  scan_chars := by
    intro room rest hdepth hrest
    exact (scanValue_chars hv hdepth hrest).trans (by rw [horder])

/-! ### Scalars -/

theorem integral_of_numbers {v : Value} (h : v.numbers = []) : v.Integral := by
  intro n hn
  rw [h] at hn
  exact absurd hn List.not_mem_nil

theorem roundTrips_string (s : String) : string.RoundTrips s where
  integral := integral_of_numbers rfl
  scan_chars := by
    intro room rest _ _
    change string.scan room (stringChars s ++ rest) = _
    rw [stringChars_append]
    exact scanString_escaped s rest

theorem roundTrips_bool (b : Bool) : bool.RoundTrips b where
  integral := integral_of_numbers rfl
  scan_chars := by
    intro room rest _ _
    cases b <;> rfl

theorem roundTrips_word {name : String} {toInt : α → Int} {ofInt? : Int → Option α} {x : α}
    (hword : (Number.integer (toInt x)).isWord = true) (hx : ofInt? (toInt x) = some x) :
    (word name toInt ofInt?).RoundTrips x where
  integral := by
    intro n hn
    rw [List.mem_singleton.1 hn]
    exact hword
  scan_chars := by
    intro room rest _ hrest
    have hof : wordOf name ofInt? (.integer (toInt x)) = .ok x := by
      simp only [wordOf, hx]
    change (word name toInt ofInt?).scan room ((Number.integer (toInt x)).chars ++ rest) = _
    rcases scanNumber_integer hword hrest with ⟨n, -, hchars, hscan⟩ | ⟨cs, hchars, hscan⟩
    · obtain ⟨c, cs, hcs, -⟩ := natChars_eq_cons n
      have hc : c.isDigit = true := isDigit_of_mem_natChars (hcs ▸ List.mem_cons_self)
      rw [hchars]
      rw [hcs, List.cons_append] at hscan ⊢
      simp only [word, skipSpaces_cons (isSpace_of_isDigit hc)]
      split
      · next heq =>
        cases heq
        exact absurd hc (by decide)
      · next heq =>
        cases heq
        rw [if_pos hc]
        exact bind_eq_ok_iff.2 ⟨_, hscan, bind_eq_ok_iff.2 ⟨x, hof, rfl⟩⟩
      · next heq => exact absurd heq (List.cons_ne_nil _ _)
    · rw [hchars]
      exact bind_eq_ok_iff.2 ⟨_, hscan, bind_eq_ok_iff.2 ⟨x, hof, rfl⟩⟩

theorem roundTrips_int64 (x : Int64) : int64.RoundTrips x := by
  have hleast := x.minValue_le_toInt
  have hgreatest := x.toInt_le
  refine roundTrips_word ?_ ?_
  · have hleast' := x.le_toInt
    have hgreatest' := x.toInt_lt
    simp only [Number.isWord, Bool.and_eq_true, decide_eq_true_eq]
    exact ⟨by omega, Int.lt_trans hgreatest' (by decide)⟩
  · rw [if_pos ⟨hleast, hgreatest⟩, Int64.ofInt_toInt]

/-- A natural number below the bound of the unsigned words fits a word. -/
theorem isWord_natCast {n : Nat} (h : n < UInt64.size) : (Number.integer n).isWord = true := by
  simp only [Number.isWord, Bool.and_eq_true, decide_eq_true_eq]
  exact ⟨by omega, Int.ofNat_lt.2 h⟩

theorem roundTrips_uint32 (x : UInt32) : uint32.RoundTrips x := by
  have hlt : x.toNat < UInt32.size := x.toNat_lt
  refine roundTrips_word (isWord_natCast (Nat.lt_trans hlt (by decide))) ?_
  rw [if_pos ⟨Int.natCast_nonneg _, hlt⟩, Int.toNat_natCast, UInt32.ofNat_toNat]

theorem roundTrips_uint64 (x : UInt64) : uint64.RoundTrips x := by
  have hlt : x.toNat < UInt64.size := x.toNat_lt
  refine roundTrips_word (isWord_natCast hlt) ?_
  rw [if_pos ⟨Int.natCast_nonneg _, hlt⟩, Int.toNat_natCast, UInt64.ofNat_toNat]

/-! ### Choices and containers -/

theorem roundTrips_none (c : Codec α) : c.optional.RoundTrips none where
  integral := integral_of_numbers rfl
  scan_chars := by
    intro room rest _ _
    rfl

/-- A value that is not written as null is told from a missing one. -/
theorem roundTrips_some {c : Codec α} {x : α} (h : c.RoundTrips x) (hnull : c.write x ≠ .null) :
    c.optional.RoundTrips (some x) where
  integral := h.integral
  scan_chars := by
    intro room rest hdepth hrest
    have hscan := h.scan_chars hdepth hrest
    obtain ⟨c', cs, hcs, hspace, -, hn⟩ := Value.chars_eq_cons h.integral
    change c.optional.scan room ((c.write x).chars ++ rest) = _
    rw [hcs, List.cons_append] at hscan ⊢
    simp only [optional, skipSpaces_cons hspace]
    split
    · next heq => exact absurd (hn (List.cons.inj heq).1) hnull
    · exact bind_eq_ok_iff.2 ⟨_, hscan, rfl⟩

theorem roundTrips_optional {c : Codec α} {x : Option α}
    (h : ∀ y, x = some y → c.RoundTrips y ∧ c.write y ≠ .null) : c.optional.RoundTrips x := by
  cases x with
  | none => exact roundTrips_none c
  | some y =>
    obtain ⟨hy, hnull⟩ := h y rfl
    exact roundTrips_some hy hnull

theorem roundTrips_tag {all : List α} {name : α → String} {x : α}
    (h : tagOf all name (name x) = .ok x) : (tag all name).RoundTrips x where
  integral := integral_of_numbers rfl
  scan_chars := by
    intro room rest _ _
    change (tag all name).scan room (stringChars (name x) ++ rest) = _
    rw [stringChars_append]
    exact bind_eq_ok_iff.2 ⟨_, scanString_escaped (name x) rest, bind_eq_ok_iff.2 ⟨x, h, rfl⟩⟩

theorem roundTrips_list {c : Codec α} {xs : List α} (h : ∀ x ∈ xs, c.RoundTrips x) :
    c.list.RoundTrips xs where
  integral := Value.integral_array.2 (List.forall_mem_map.2 fun x hx => (h x hx).integral)
  scan_chars := by
    intro room rest hdepth _
    obtain ⟨inner, rfl, hinner⟩ := Value.depth_array_le_iff.1 hdepth
    have hscan := scanItems_array (fun x hx rest hrest =>
      (h x hx).scan_chars (hinner _ (List.mem_map_of_mem hx)) hrest)
      (fun x hx => (h x hx).integral) rest
    rw [List.map_id'] at hscan
    change c.list.scan _ ((Value.array (xs.map c.write)).chars ++ rest) = _
    rw [Value.chars, List.cons_append, List.append_assoc]
    exact hscan

theorem roundTrips_dict {c : Codec α} {d : Dict α}
    (h : ∀ k x, d.get? k = some x → c.RoundTrips x) : c.dict.RoundTrips d where
  integral := Value.integral_object.2 (List.forall_mem_map.2 fun e he =>
    (h e.1 e.2 (Dict.mem_entries_iff.1 he)).integral)
  scan_chars := by
    intro room rest hdepth _
    obtain ⟨inner, rfl, hinner⟩ := Value.depth_object_le_iff.1 hdepth
    have hchain := chain_scanEntry c.write id (fun e he rest hrest =>
      (h e.1 e.2 (Dict.mem_entries_iff.1 he)).scan_chars
        (hinner _ (List.mem_map_of_mem he)) hrest) Dict.empty
    have hentries : (d.entries.map fun e => (e.1, id e.2)).foldl
        (fun d e => d.insert e.1 e.2) Dict.empty = d :=
      (congrArg Dict.ofList (List.map_id' d.entries)).trans d.ofList_entries
    rw [hentries] at hchain
    change c.dict.scan _
      ((Value.object (d.entries.map fun e => (e.1, c.write e.2))).chars ++ rest) = _
    rw [Value.chars, List.cons_append, List.append_assoc]
    exact scanMembers_object hchain rest

end Codec

/-! ### Records -/

namespace Chain

variable {σ τ : Type} {step : σ → String × Value → σ → Prop} {step' : τ → String × Value → τ → Prop}

theorem append {s t u : σ} {ms ns : List (String × Value)} (h : Chain step s ms t)
    (h' : Chain step t ns u) : Chain step s (ms ++ ns) u := by
  induction h with
  | nil => exact h'
  | cons hm _ ih => exact .cons hm (ih h')

theorem lift (g : σ → τ) {s t : σ} {ms : List (String × Value)} (h : Chain step s ms t)
    (hstep : ∀ {s m t}, m ∈ ms → step s m t → step' (g s) m (g t)) :
    Chain step' (g s) ms (g t) := by
  induction h with
  | nil => exact .nil _
  | cons hm _ ih =>
    exact .cons (hstep List.mem_cons_self hm) (ih fun hmem => hstep (List.mem_cons_of_mem _ hmem))

end Chain

namespace Fields

variable {σ : Type}

/-- Every member is read back, and what is left out stands for its value. -/
def RoundTrips : {σ : Type} → Fields σ → σ → Prop
  | _, .nil, _ => True
  | _, .cons f rest, (x, xs) =>
    (if f.omitted x then f.default? = some x else f.codec.RoundTrips x) ∧ rest.RoundTrips xs

/-- A member that is left out when it has no value. -/
theorem roundTrips_omissible {α : Type} {c : Codec α} {x : Option α}
    (h : ∀ y, x = some y → c.RoundTrips y ∧ c.write y ≠ .null) :
    if x.isNone then some none = some x else c.optional.RoundTrips x := by
  cases x with
  | none => rfl
  | some y => exact Codec.roundTrips_optional h

/-- Kept members are not declared, and their text is read back as it was. -/
def Keeps (fs : Fields σ) (others : Dict Value) : Prop :=
  ∀ k v, others.get? k = some v → k ∉ fs.names ∧ v.Integral ∧ v.Ordered

/-- What is kept of an object that was read is read back. -/
theorem keeps_of_member? {fs : Fields σ} {others : Dict Value} {v : Value}
    (h : ∀ k, others.get? k = if k ∈ fs.names then none else v.member? k) (hv : v.Integral)
    (horder : v.Ordered) : fs.Keeps others := by
  intro k w hw
  rw [h] at hw
  split at hw
  · exact nomatch hw
  · next hk =>
    exact ⟨hk, Value.of_member? Value.integral_of_mem hw hv,
      Value.of_member? Value.ordered_of_mem hw horder⟩

/-- The draft that holds the members that are written. -/
def written : {σ : Type} → (fs : Fields σ) → σ → fs.Draft
  | _, .nil, _ => ()
  | _, .cons f rest, (x, xs) => (if f.omitted x then none else some x, rest.written xs)

theorem mem_names_of_mem_write {fs : Fields σ} {x : σ} {m : String × Value} (h : m ∈ fs.write x) :
    m.1 ∈ fs.names := by
  induction fs with
  | nil => exact absurd h List.not_mem_nil
  | cons f rest ih =>
    obtain ⟨y, ys⟩ := x
    rw [write] at h
    split at h
    · exact List.mem_cons_of_mem _ (ih h)
    · rcases List.mem_cons.1 h with rfl | h
      · exact List.mem_cons_self
      · exact List.mem_cons_of_mem _ (ih h)

theorem integral_write {fs : Fields σ} {x : σ} (h : fs.RoundTrips x) :
    ∀ m ∈ fs.write x, m.2.Integral := by
  induction fs with
  | nil => exact fun m hm => absurd hm List.not_mem_nil
  | cons f rest ih =>
    obtain ⟨y, ys⟩ := x
    obtain ⟨hy, hys⟩ := h
    rw [write]
    split
    · exact ih hys
    · next homitted =>
      rw [if_neg homitted] at hy
      exact List.forall_mem_cons.2 ⟨hy.integral, ih hys⟩

theorem finish_written {fs : Fields σ} {x : σ} (h : fs.RoundTrips x) :
    fs.finish (fs.written x) = .ok x := by
  induction fs with
  | nil => rfl
  | cons f rest ih =>
    obtain ⟨y, ys⟩ := x
    obtain ⟨hy, hys⟩ := h
    have hvalue : (if f.omitted y then none else some y).or f.default? = some y := by
      split
      · next homitted =>
        rw [if_pos homitted] at hy
        exact hy
      · rfl
    simp only [finish, written, hvalue, ih hys]
    rfl

/-- A member that is written is filled in. -/
def Fills (fs : Fields σ) (room : Nat) (d : fs.Draft) (m : String × Value) (d' : fs.Draft) : Prop :=
  ∀ rest, Follows rest →
    fs.fill m.1 (fun c => scanColon (':' :: (m.2.chars ++ rest)) >>= c.scan room) d =
      some (.ok (d', rest))

theorem chain_fills {fs : Fields σ} (hnames : fs.names.Nodup) {room : Nat} {x : σ}
    (h : fs.RoundTrips x) (hdepth : ∀ m ∈ fs.write x, m.2.depth ≤ room) :
    Chain (fs.Fills room) fs.blank (fs.write x) (fs.written x) := by
  induction fs with
  | nil => exact .nil _
  | cons f rest ih =>
    obtain ⟨y, ys⟩ := x
    obtain ⟨hy, hys⟩ := h
    rw [names, List.nodup_cons] at hnames
    -- the members behind the first one have other names, and leave it as it is
    have hlift (z : Option _) (hdepth : ∀ m ∈ rest.write ys, m.2.depth ≤ room) :
        Chain ((cons f rest).Fills room) (z, rest.blank) (rest.write ys) (z, rest.written ys) := by
      refine (ih hnames.2 hys hdepth).lift (fun d => (z, d)) ?_
      intro d m d' hm hd tail htail
      have hne : m.1 ≠ f.name := fun heq => hnames.1 (heq ▸ mem_names_of_mem_write hm)
      rw [fill_cons_of_ne f rest _ hne, hd tail htail]
      rfl
    rw [write] at hdepth ⊢
    by_cases homitted : f.omitted y
    · rw [if_pos homitted] at hdepth ⊢
      have hwritten : (cons f rest).written (y, ys) = (none, rest.written ys) := by
        rw [written, if_pos homitted]
      rw [hwritten]
      exact hlift none hdepth
    · rw [if_neg homitted] at hdepth hy ⊢
      obtain ⟨hdepthy, hdepths⟩ := List.forall_mem_cons.1 hdepth
      have hwritten : (cons f rest).written (y, ys) = (some y, rest.written ys) := by
        rw [written, if_neg homitted]
      rw [hwritten]
      refine .cons ?_ (hlift (some y) hdepths)
      intro tail htail
      have hscan : scanColon (':' :: ((f.codec.write y).chars ++ tail)) >>= f.codec.scan room =
          .ok (y, tail) :=
        bind_eq_ok_iff.2 ⟨_, rfl, hy.scan_chars hdepthy htail⟩
      change (cons f rest).fill f.name _ (none, rest.blank) = _
      rw [fill_cons_self, hscan]
      rfl

end Fields

namespace Codec

variable {σ : Type}

theorem takes_openMember {fs : Fields σ} {room : Nat} {d d' : fs.Draft} {m : String × Value}
    (h : fs.Fills room d m d') (others : Dict Value) :
    Takes (openMember fs room) (d, others) m (d', others) := by
  intro rest hrest
  rw [openMember, h rest hrest]
  rfl

/-- The others of a record stand behind its declared members. -/
theorem chain_others {fs : Fields σ} {room : Nat} (d : fs.Draft) {others : Dict Value}
    (h : fs.Keeps others) (hdepth : ∀ k v, others.get? k = some v → v.depth ≤ room) :
    Chain (Takes (openMember fs room)) (d, Dict.empty) others.entries (d, others) := by
  have hscan : ∀ e ∈ others.entries, ∀ rest, Follows rest →
      scanValue room (e.2.chars ++ rest) = .ok (id e.2, rest) := by
    intro e he rest hrest
    have hmem := Dict.mem_entries_iff.1 he
    obtain ⟨-, hv, horder⟩ := h e.1 e.2 hmem
    exact (roundTrips_value hv horder).scan_chars (hdepth e.1 e.2 hmem) hrest
  have hchain := chain_scanEntry (fun v => v) id hscan Dict.empty
  have hentries : (others.entries.map fun e => (e.1, id e.2)).foldl
      (fun d e => d.insert e.1 e.2) Dict.empty = others :=
    (congrArg Dict.ofList (List.map_id' others.entries)).trans others.ofList_entries
  rw [hentries, List.map_id'] at hchain
  refine hchain.lift (fun o => (d, o)) ?_
  intro o m o' hm ho rest hrest
  have hname := (h m.1 m.2 (Dict.mem_entries_iff.1 hm)).1
  rw [openMember, Fields.fill_eq_none_iff.2 hname]
  exact map_eq_ok_iff.2 ⟨_, ho rest hrest, rfl⟩

/-- **A record that keeps all members is read back**, if its others avoid the declared names. -/
theorem roundTrips_openRecord {name : String} {fs : Fields σ} (hnames : fs.names.Nodup) {x : σ}
    {others : Dict Value} (hx : fs.RoundTrips x) (hothers : fs.Keeps others) :
    (openRecord name fs).RoundTrips (x, others) where
  integral := by
    refine Value.integral_object.2 fun m hm => ?_
    rcases List.mem_append.1 hm with hm | hm
    · exact Fields.integral_write hx m hm
    · exact (hothers m.1 m.2 (Dict.mem_entries_iff.1 hm)).2.1
  scan_chars := by
    intro room rest hdepth _
    obtain ⟨inner, rfl, hinner⟩ := Value.depth_object_le_iff.1 hdepth
    have hwritten := (Fields.chain_fills hnames hx fun m hm =>
      hinner m (List.mem_append_left _ hm)).lift (fun d => (d, (Dict.empty : Dict Value)))
      fun _ h => takes_openMember h Dict.empty
    have hkept : Chain (Takes (openMember fs inner)) (fs.written x, Dict.empty) others.entries
        (fs.written x, others) :=
      chain_others _ hothers fun k v hv =>
        hinner (k, v) (List.mem_append_right _ (Dict.mem_entries_iff.2 hv))
    have hscan := scanMembers_object (hwritten.append hkept) rest
    change (openRecord name fs).scan _
      ((Value.object (fs.write x ++ others.entries)).chars ++ rest) = _
    rw [Value.chars, List.cons_append, List.append_assoc]
    exact bind_eq_ok_iff.2 ⟨_, hscan, bind_eq_ok_iff.2 ⟨x, Fields.finish_written hx, rfl⟩⟩

/-- **A record is read back.** -/
theorem roundTrips_record {name : String} {fs : Fields σ} (hnames : fs.names.Nodup) {x : σ}
    (hx : fs.RoundTrips x) : (record name fs).RoundTrips x where
  integral := Value.integral_object.2 (Fields.integral_write hx)
  scan_chars := by
    intro room rest hdepth _
    obtain ⟨inner, rfl, hinner⟩ := Value.depth_object_le_iff.1 hdepth
    have hwritten : Chain (Takes (closedMember fs inner)) fs.blank (fs.write x) (fs.written x) := by
      refine (Fields.chain_fills hnames hx hinner).lift id ?_
      intro d m d' _ hd tail htail
      rw [closedMember, id, hd tail htail]
      rfl
    have hscan := scanMembers_object hwritten rest
    change (record name fs).scan _ ((Value.object (fs.write x)).chars ++ rest) = _
    rw [Value.chars, List.cons_append, List.append_assoc]
    exact bind_eq_ok_iff.2 ⟨_, hscan, bind_eq_ok_iff.2 ⟨x, Fields.finish_written hx, rfl⟩⟩

end Codec

/-! ### Room -/

namespace Fields

variable {σ : Type}

/-- There is room for what is written of every member. -/
def Fits (room : Nat) : {σ : Type} → Fields σ → σ → Prop
  | _, .nil, _ => True
  | _, .cons f rest, (x, xs) => (f.codec.write x).depth ≤ room ∧ rest.Fits room xs

theorem depth_le_of_mem_write {room : Nat} {fs : Fields σ} {x : σ} (h : fs.Fits room x) :
    ∀ m ∈ fs.write x, m.2.depth ≤ room := by
  induction fs with
  | nil => exact fun m hm => absurd hm List.not_mem_nil
  | cons f rest ih =>
    obtain ⟨y, ys⟩ := x
    obtain ⟨hy, hys⟩ := h
    rw [write]
    split
    · exact ih hys
    · exact List.forall_mem_cons.2 ⟨hy, ih hys⟩

end Fields

namespace Codec

variable {α σ : Type} {room : Nat}

theorem depth_optional {c : Codec α} {x : Option α}
    (h : ∀ y, x = some y → (c.write y).depth ≤ room) : (c.optional.write x).depth ≤ room := by
  cases x with
  | none => exact Nat.zero_le _
  | some y => exact h y rfl

theorem depth_list {c : Codec α} {xs : List α} (h : ∀ x ∈ xs, (c.write x).depth ≤ room) :
    (c.list.write xs).depth ≤ room + 1 :=
  Value.depth_array_le_iff.2 ⟨room, rfl, List.forall_mem_map.2 h⟩

theorem depth_dict {c : Codec α} {d : Dict α}
    (h : ∀ k x, d.get? k = some x → (c.write x).depth ≤ room) :
    (c.dict.write d).depth ≤ room + 1 :=
  Value.depth_object_le_iff.2 ⟨room, rfl, List.forall_mem_map.2 fun e he =>
    h e.1 e.2 (Dict.mem_entries_iff.1 he)⟩

theorem depth_record (name : String) {fs : Fields σ} {x : σ} (h : fs.Fits room x) :
    ((record name fs).write x).depth ≤ room + 1 :=
  Value.depth_object_le_iff.2 ⟨room, rfl, Fields.depth_le_of_mem_write h⟩

theorem depth_openRecord (name : String) {fs : Fields σ} {x : σ} {others : Dict Value}
    (h : fs.Fits room x) (hothers : ∀ k v, others.get? k = some v → v.depth ≤ room) :
    ((openRecord name fs).write (x, others)).depth ≤ room + 1 := by
  refine Value.depth_object_le_iff.2 ⟨room, rfl, fun m hm => ?_⟩
  rcases List.mem_append.1 hm with hm | hm
  · exact Fields.depth_le_of_mem_write h m hm
  · exact hothers m.1 m.2 (Dict.mem_entries_iff.1 hm)

end Codec

end EventDetection.Json
