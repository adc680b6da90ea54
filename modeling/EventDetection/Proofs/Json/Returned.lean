import EventDetection.Proofs.Json.Record

/-!
# What a codec returns

A codec reads texts and values (`Codec.Returns`).  What it returns of either has parts that its
own parts return, each with less room.

* `Codec.returns_of_dict`, `Codec.returns_of_optional` and so on: the parts of what is returned.
* `Codec.returns_of_openRecord`: **what a record keeps of other members avoids the declared names**,
  on either way of reading.
-/

namespace EventDetection.Json

namespace Codec

variable {α β : Type}

/-- The codec returns `x`, from a text or from a value, with `room` containers to open at most. -/
inductive Returns (c : Codec α) (room : Nat) (x : α) : Prop
  | text {cs rest : List Char} (h : c.scan room cs = .ok (x, rest))
  | value {v : Value} (horder : v.Ordered) (hdepth : v.depth ≤ room) (h : c.ofValue v = .ok x)

theorem returns_of_read {c : Codec α} {text : String} {x : α} (h : c.read text = .ok x) :
    c.Returns maxDepth x := by
  obtain ⟨⟨y, rest⟩, hy, hend⟩ := bind_eq_ok_iff.1 h
  cases eq_of_atEnd hend
  exact .text hy

theorem returns_of_convert {c : Codec α} {f : α → β} {back : β → α} {room : Nat} {y : β}
    (h : (c.convert f back).Returns room y) : ∃ x, c.Returns room x ∧ f x = y := by
  cases h with
  | text h =>
    obtain ⟨⟨x, rest⟩, hx, h⟩ := map_eq_ok_iff.1 h
    cases h
    exact ⟨x, .text hx, rfl⟩
  | value horder hdepth h =>
    obtain ⟨x, hx, rfl⟩ := map_eq_ok_iff.1 h
    exact ⟨x, .value horder hdepth hx, rfl⟩

theorem returns_of_optional {c : Codec α} {room : Nat} {x : α}
    (h : c.optional.Returns room (some x)) : c.Returns room x := by
  cases h with
  | text h =>
    simp only [optional] at h
    split at h
    · obtain ⟨rest, -, h⟩ := bind_eq_ok_iff.1 h
      cases h
    · obtain ⟨⟨y, rest⟩, hy, h⟩ := bind_eq_ok_iff.1 h
      cases h
      exact .text hy
  | value horder hdepth h =>
    simp only [optional] at h
    split at h
    · cases h
    · obtain ⟨y, hy, h⟩ := map_eq_ok_iff.1 h
      cases h
      exact .value horder hdepth hy

/-! ### Dictionaries -/

theorem forall_get?_insert {P : α → Prop} {d : Dict α} {name : String} {x : α}
    (hd : ∀ k y, d.get? k = some y → P y) (hx : P x) {k : String} {y : α}
    (h : (d.insert name x).get? k = some y) : P y := by
  rw [Dict.get?_insert] at h
  split at h
  · exact Option.some.inj h ▸ hx
  · exact hd k y h

theorem forall_get?_fileMembers {c : Codec α} {P : α → Prop} {ms : List (String × Value)}
    {d e : Dict α} (hms : ∀ m ∈ ms, ∀ x, c.ofValue m.2 = .ok x → P x)
    (hd : ∀ k x, d.get? k = some x → P x) (h : c.fileMembers d ms = .ok e) :
    ∀ k x, e.get? k = some x → P x := by
  induction ms generalizing d with
  | nil =>
    cases h
    exact hd
  | cons m ms ih =>
    obtain ⟨x, hx, h⟩ := bind_eq_ok_iff.1 h
    obtain ⟨hm, hms⟩ := List.forall_mem_cons.1 hms
    exact ih hms (fun k y hy => forall_get?_insert hd (hm x hx) hy) h

/-- Every entry of a dictionary is returned with less room. -/
theorem returns_of_dict {c : Codec α} {room : Nat} {d : Dict α} (h : c.dict.Returns room d) :
    ∃ inner, room = inner + 1 ∧ ∀ k x, d.get? k = some x → c.Returns inner x := by
  have hempty (P : α → Prop) (k : String) (x : α) (h : Dict.empty.get? k = some x) : P x :=
    nomatch (Dict.get?_empty k).symm.trans h
  cases h with
  | text h =>
    simp only [dict] at h
    split at h
    · split at h
      · cases h
      · next inner =>
        refine ⟨inner, rfl, (scanMembers_eq_ok h).invariant
          (fun d => ∀ k x, d.get? k = some x → c.Returns inner x) ?_ (hempty _)⟩
        intro name d cs e mid hd he k x hx
        obtain ⟨start, y, -, hy, rfl⟩ := scanEntry_eq_ok_iff.1 he
        exact forall_get?_insert hd (.text hy) hx
    · cases h
  | value horder hdepth h =>
    simp only [dict] at h
    split at h
    · next ms =>
      obtain ⟨inner, rfl, hinner⟩ := Value.depth_object_le_iff.1 hdepth
      refine ⟨inner, rfl, forall_get?_fileMembers (fun m hm x hx => ?_) (hempty _) h⟩
      exact .value (Value.ordered_of_mem horder hm) (hinner m hm) hx
    · cases h

end Codec

/-! ### Members -/

namespace Fields

variable {σ : Type}

/-- Every member was returned, or stands for a missing one. -/
def Returns (room : Nat) : {σ : Type} → Fields σ → σ → Prop
  | _, .nil, _ => True
  | _, .cons f rest, (x, xs) =>
    (f.default? = some x ∨ f.codec.Returns room x) ∧ rest.Returns room xs

/-- The members of a draft were returned. -/
def Filled (room : Nat) : {σ : Type} → (fs : Fields σ) → fs.Draft → Prop
  | _, .nil, _ => True
  | _, .cons (α := α) f rest, draft =>
    let d : Option α × rest.Draft := draft
    (∀ x, d.1 = some x → f.codec.Returns room x) ∧ rest.Filled room d.2

/-- What is left to the others of a record: values that were read, with names that are not
declared. -/
def Leaves (fs : Fields σ) (room : Nat) (others : Dict Value) : Prop :=
  ∀ k v, others.get? k = some v → k ∉ fs.names ∧ v.Ordered ∧ v.depth ≤ room

theorem filled_blank (room : Nat) (fs : Fields σ) : fs.Filled room fs.blank := by
  induction fs with
  | nil => trivial
  | cons f rest ih => exact ⟨nofun, ih⟩

theorem filled_of_fill {ρ : Type} {read : {α : Type} → Codec α → Except ReadError (α × ρ)}
    {room : Nat} (hread : ∀ {α : Type} {c : Codec α} {x : α} {r : ρ},
      read c = .ok (x, r) → c.Returns room x)
    {fs : Fields σ} {name : String} {d d' : fs.Draft} {r : ρ} (hd : fs.Filled room d)
    (h : fs.fill name read d = some (.ok (d', r))) : fs.Filled room d' := by
  induction fs with
  | nil => exact nomatch h
  | cons f rest ih =>
    obtain ⟨x, d⟩ := d
    by_cases hname : name = f.name
    · subst hname
      rw [fill_cons_self, Option.some.injEq] at h
      cases x with
      | some y => exact nomatch h
      | none =>
        obtain ⟨⟨y, r'⟩, hy, h⟩ := map_eq_ok_iff.1 h
        cases h
        refine ⟨fun z hz => ?_, hd.2⟩
        cases hz
        exact hread hy
    · rw [fill_cons_of_ne f rest read hname] at h
      obtain ⟨e, he, h⟩ := Option.map_eq_some_iff.1 h
      obtain ⟨⟨d'', r'⟩, rfl, h⟩ := map_eq_ok_iff.1 h
      cases h
      exact ⟨hd.1, ih hd.2 he⟩

theorem returns_of_finish {room : Nat} {fs : Fields σ} {d : fs.Draft} {x : σ}
    (hd : fs.Filled room d) (h : fs.finish d = .ok x) : fs.Returns room x := by
  induction fs with
  | nil => trivial
  | cons f rest ih =>
    obtain ⟨y, d⟩ := d
    rw [finish] at h
    split at h
    · next z hz =>
      obtain ⟨xs, hxs, rfl⟩ := map_eq_ok_iff.1 h
      refine ⟨?_, ih hd.2 hxs⟩
      cases y with
      | none => exact .inl hz
      | some y => exact .inr (Option.some.inj hz ▸ hd.1 y rfl)
    · cases h

end Fields

/-! ### Records -/

namespace Codec

variable {σ : Type}

/-- What a record that keeps all members has made of those that were met. -/
def Gathers (fs : Fields σ) (room : Nat) (s : fs.Draft × Dict Value) : Prop :=
  fs.Filled room s.1 ∧ fs.Leaves room s.2

theorem gathers_blank (fs : Fields σ) (room : Nat) : Gathers fs room (fs.blank, Dict.empty) :=
  ⟨fs.filled_blank room, fun k _ h => nomatch (Dict.get?_empty k).symm.trans h⟩

/-- A member that is not declared is kept. -/
theorem Gathers.insert {fs : Fields σ} {room : Nat} {s : fs.Draft × Dict Value}
    (hs : Gathers fs room s) {name : String} (hname : name ∉ fs.names) {v : Value}
    (horder : v.Ordered) (hdepth : v.depth ≤ room) :
    Gathers fs room (s.1, s.2.insert name v) := by
  refine ⟨hs.1, fun k w hw => ?_⟩
  rw [Dict.get?_insert] at hw
  split at hw
  · next hk =>
    cases hw
    exact ⟨hk ▸ hname, horder, hdepth⟩
  · exact hs.2 k w hw

theorem gathers_openMember {fs : Fields σ} {room : Nat} {name : String}
    {s t : fs.Draft × Dict Value} {cs rest : List Char} (hs : Gathers fs room s)
    (h : openMember fs room name s cs = .ok (t, rest)) : Gathers fs room t := by
  unfold openMember at h
  split at h
  · next r hfill =>
    obtain ⟨⟨d, r'⟩, rfl, h⟩ := map_eq_ok_iff.1 h
    cases h
    refine ⟨Fields.filled_of_fill (fun hread => ?_) hs.1 hfill, hs.2⟩
    obtain ⟨start, -, hx⟩ := bind_eq_ok_iff.1 hread
    exact .text hx
  · next hfill =>
    obtain ⟨⟨others, r'⟩, hothers, h⟩ := map_eq_ok_iff.1 h
    cases h
    obtain ⟨start, v, -, hv, rfl⟩ := scanEntry_eq_ok_iff.1 hothers
    obtain ⟨horder, hdepth⟩ := ordered_and_depth_of_scanValue hv
    exact hs.insert (Fields.fill_eq_none_iff.1 hfill) horder hdepth

theorem gathers_fillOpenMembers {fs : Fields σ} {room : Nat} {ms : List (String × Value)}
    (hms : ∀ m ∈ ms, m.2.Ordered ∧ m.2.depth ≤ room) {s t : fs.Draft × Dict Value}
    (hs : Gathers fs room s) (h : fillOpenMembers fs s ms = .ok t) : Gathers fs room t := by
  induction ms generalizing s with
  | nil =>
    cases h
    exact hs
  | cons m ms ih =>
    obtain ⟨⟨horder, hdepth⟩, hms⟩ := List.forall_mem_cons.1 hms
    rw [fillOpenMembers] at h
    split at h
    · next r hfill =>
      obtain ⟨⟨d, u⟩, hr, hnext⟩ := bind_eq_ok_iff.1 h
      have hfilled : fs.Filled room d := by
        refine Fields.filled_of_fill (fun hread => ?_) hs.1 (hr ▸ hfill)
        obtain ⟨x, hx, hread⟩ := map_eq_ok_iff.1 hread
        cases hread
        exact .value horder hdepth hx
      exact ih (s := (d, s.2)) hms ⟨hfilled, hs.2⟩ hnext
    · next hfill => exact ih hms (hs.insert (Fields.fill_eq_none_iff.1 hfill) horder hdepth) h

/-- **What a record keeps of other members avoids the declared names**, and the declared members
were returned. -/
theorem returns_of_openRecord {name : String} {fs : Fields σ} {room : Nat} {x : σ}
    {others : Dict Value} (h : (openRecord name fs).Returns room (x, others)) :
    ∃ inner, room = inner + 1 ∧ fs.Returns inner x ∧ fs.Leaves inner others := by
  cases h with
  | text h =>
    simp only [openRecord] at h
    split at h
    · split at h
      · cases h
      · next inner =>
        obtain ⟨⟨⟨d, o⟩, r⟩, hd, h⟩ := bind_eq_ok_iff.1 h
        obtain ⟨y, hy, h⟩ := bind_eq_ok_iff.1 h
        cases h
        have hrun : MembersRun (openMember fs inner) true (fs.blank, Dict.empty) _ (d, o) r :=
          scanMembers_eq_ok hd
        obtain ⟨hfilled, hothers⟩ :=
          hrun.invariant (Gathers fs inner) gathers_openMember (gathers_blank fs inner)
        exact ⟨inner, rfl, Fields.returns_of_finish hfilled hy, hothers⟩
    · cases h
  | value horder hdepth h =>
    simp only [openRecord] at h
    split at h
    · next ms =>
      obtain ⟨inner, rfl, hinner⟩ := Value.depth_object_le_iff.1 hdepth
      obtain ⟨⟨d, o⟩, hd, h⟩ := bind_eq_ok_iff.1 h
      obtain ⟨y, hy, h⟩ := bind_eq_ok_iff.1 h
      cases h
      obtain ⟨hfilled, hothers⟩ := gathers_fillOpenMembers
        (fun m hm => ⟨Value.ordered_of_mem horder hm, hinner m hm⟩) (gathers_blank fs inner) hd
      exact ⟨inner, rfl, Fields.returns_of_finish hfilled hy, hothers⟩
    · cases h

end Codec

end EventDetection.Json
