import EventDetection.Proofs.Dict
import EventDetection.Json.Value

/-!
# The parts of a value

* `Value.recursion`: induction over the items of arrays and the members of objects.
* `Value.depth`: the number of containers that a value nests.
* `Value.numbers`, `Value.Integral`: its numbers, which may all be integers that fit a word.
* `Value.Ordered`: the members of its objects are listed as a text is read into them.
* `Value.at?`: what stands behind a path of names.
-/

namespace EventDetection.Json

/-- Whether a number is an integer that fits a signed or an unsigned 64-bit word.  The text `-0`
is no such number, but a floating point one. -/
def Number.isWord : Number → Bool
  | .integer n => -0x8000000000000000 ≤ n && n < UInt64.size
  | .real _ => false

namespace Value

/-! ### Induction -/

/-- What holds of a container, if it holds of all that stands in it, holds of all values. -/
@[elab_as_elim]
theorem recursion {P : Value → Prop} (null : P .null) (bool : ∀ b, P (.bool b))
    (number : ∀ n, P (.number n)) (string : ∀ s, P (.string s))
    (array : ∀ items, (∀ v ∈ items, P v) → P (.array items))
    (object : ∀ members, (∀ m ∈ members, P m.2) → P (.object members)) (v : Value) : P v :=
  @Value.rec P (fun items => ∀ v ∈ items, P v) (fun members => ∀ m ∈ members, P m.2)
    (fun m => P m.2) null bool number string array object
    (fun _ h => absurd h List.not_mem_nil) (fun _ _ hv hvs => List.forall_mem_cons.2 ⟨hv, hvs⟩)
    (fun _ h => absurd h List.not_mem_nil) (fun _ _ hm hms => List.forall_mem_cons.2 ⟨hm, hms⟩)
    (fun _ _ hv => hv) v

/-! ### Depth -/

mutual

/-- The number of containers that a value nests. -/
def depth : Value → Nat
  | .array items => depthItems items + 1
  | .object members => depthMembers members + 1
  | .null | .bool _ | .number _ | .string _ => 0

def depthItems : List Value → Nat
  | [] => 0
  | v :: vs => max v.depth (depthItems vs)

def depthMembers : List (String × Value) → Nat
  | [] => 0
  | (_, v) :: ms => max v.depth (depthMembers ms)

end

theorem depthItems_le_iff {items : List Value} {n : Nat} :
    depthItems items ≤ n ↔ ∀ v ∈ items, v.depth ≤ n := by
  induction items with
  | nil => simp [depthItems]
  | cons v vs ih => rw [depthItems, Nat.max_le, ih, List.forall_mem_cons]

theorem depthMembers_le_iff {members : List (String × Value)} {n : Nat} :
    depthMembers members ≤ n ↔ ∀ m ∈ members, m.2.depth ≤ n := by
  induction members with
  | nil => simp [depthMembers]
  | cons m ms ih => rw [depthMembers, Nat.max_le, ih, List.forall_mem_cons]

theorem depth_array_le_iff {items : List Value} {room : Nat} :
    (array items).depth ≤ room ↔ ∃ inner, room = inner + 1 ∧ ∀ v ∈ items, v.depth ≤ inner := by
  simp only [depth, ← depthItems_le_iff]
  constructor
  · intro h
    exact ⟨room - 1, by omega, by omega⟩
  · rintro ⟨inner, rfl, h⟩
    omega

theorem depth_object_le_iff {members : List (String × Value)} {room : Nat} :
    (object members).depth ≤ room ↔
      ∃ inner, room = inner + 1 ∧ ∀ m ∈ members, m.2.depth ≤ inner := by
  simp only [depth, ← depthMembers_le_iff]
  constructor
  · intro h
    exact ⟨room - 1, by omega, by omega⟩
  · rintro ⟨inner, rfl, h⟩
    omega

/-! ### Numbers -/

mutual

/-- The numbers of a value, in the order of its text. -/
def numbers : Value → List Number
  | .number n => [n]
  | .array items => numbersItems items
  | .object members => numbersMembers members
  | .null | .bool _ | .string _ => []

def numbersItems : List Value → List Number
  | [] => []
  | v :: vs => v.numbers ++ numbersItems vs

def numbersMembers : List (String × Value) → List Number
  | [] => []
  | (_, v) :: ms => v.numbers ++ numbersMembers ms

end

theorem mem_numbers_array {items : List Value} {n : Number} :
    n ∈ (array items).numbers ↔ ∃ v ∈ items, n ∈ v.numbers := by
  rw [numbers]
  induction items with
  | nil => simp [numbersItems]
  | cons v vs ih => simp only [numbersItems, List.mem_append, ih, List.mem_cons, exists_eq_or_imp]

theorem mem_numbers_object {members : List (String × Value)} {n : Number} :
    n ∈ (object members).numbers ↔ ∃ m ∈ members, n ∈ m.2.numbers := by
  rw [numbers]
  induction members with
  | nil => simp [numbersMembers]
  | cons m ms ih => simp only [numbersMembers, List.mem_append, ih, List.mem_cons, exists_eq_or_imp]

/-- Every number of the value is an integer that fits a word. -/
def Integral (v : Value) : Prop := ∀ n ∈ v.numbers, n.isWord = true

theorem integral_array {items : List Value} :
    (array items).Integral ↔ ∀ v ∈ items, v.Integral := by
  simp only [Integral, mem_numbers_array]
  exact ⟨fun h v hv n hn => h n ⟨v, hv, hn⟩, fun h n ⟨v, hv, hn⟩ => h v hv n hn⟩

theorem integral_object {members : List (String × Value)} :
    (object members).Integral ↔ ∀ m ∈ members, m.2.Integral := by
  simp only [Integral, mem_numbers_object]
  exact ⟨fun h m hm n hn => h n ⟨m, hm, hn⟩, fun h n ⟨m, hm, hn⟩ => h m hm n hn⟩

theorem integral_of_mem {members : List (String × Value)} {m : String × Value}
    (h : (object members).Integral) (hm : m ∈ members) : m.2.Integral :=
  integral_object.1 h m hm

theorem isWord_of_integral {n : Number} (h : (number n).Integral) : n.isWord = true :=
  h n (List.mem_singleton.2 rfl)

/-! ### Order -/

theorem inOrderItems_eq (items : List Value) : inOrderItems items = items.map inOrder := by
  induction items with
  | nil => rfl
  | cons v vs ih => rw [inOrderItems, ih, List.map_cons]

theorem inOrderMembers_eq (members : List (String × Value)) :
    inOrderMembers members = members.map fun m => (m.1, m.2.inOrder) := by
  induction members with
  | nil => rfl
  | cons m ms ih => rw [inOrderMembers, ih, List.map_cons]

/-- Values as a text is read into them: the members of every object are listed by name. -/
def Ordered (v : Value) : Prop := v.inOrder = v

theorem ordered_array {items : List Value} (h : ∀ v ∈ items, v.Ordered) :
    (array items).Ordered := by
  rw [Ordered, inOrder, inOrderItems_eq, List.map_congr_left h, List.map_id']

theorem ordered_ofDict {d : Dict Value} (h : ∀ k v, d.get? k = some v → v.Ordered) :
    (ofDict d).Ordered := by
  have hentries : d.entries.map (fun m => (m.1, m.2.inOrder)) = d.entries := by
    refine (List.map_congr_left fun m hm => ?_).trans (List.map_id' _)
    exact Prod.ext rfl (h m.1 m.2 (Dict.mem_entries_iff.1 hm))
  rw [Ordered, ofDict, inOrder, inOrderMembers_eq, hentries, Dict.ofList_entries, ofDict]

theorem ordered_of_mem {members : List (String × Value)} {m : String × Value}
    (h : (object members).Ordered) (hm : m ∈ members) : m.2.Ordered := by
  rw [Ordered, inOrder, inOrderMembers_eq, ofDict, object.injEq] at h
  -- the members are entries of a dictionary, and so they stay in their places
  have hsorted : (members.map fun m => (m.1, m.2.inOrder)).Pairwise fun a b => a.1 < b.1 := by
    rw [List.pairwise_map, ← h]
    exact (Dict.ofList _).sorted
  have hentries := Dict.entries_foldl_insert Dict.empty _ hsorted
  have hmap : (members.map fun m => (m.1, m.2.inOrder)) = members := hentries.symm.trans h
  have hmem : (fun m : String × Value => (m.1, m.2.inOrder)) m = id m :=
    List.map_inj_left.1 (hmap.trans (List.map_id members).symm) m hm
  exact congrArg Prod.snd hmem

/-! ### Paths -/

/-- What stands in a value behind a path of names. -/
def at? : Value → List String → Option Value
  | v, [] => some v
  | v, k :: ks => (v.member? k).bind fun w => w.at? ks

@[simp] theorem at?_nil (v : Value) : v.at? [] = some v := rfl

@[simp] theorem at?_cons (v : Value) (k : String) (ks : List String) :
    v.at? (k :: ks) = (v.member? k).bind fun w => w.at? ks := rfl

theorem at?_singleton (v : Value) (k : String) : v.at? [k] = v.member? k := by
  rw [at?_cons]
  cases v.member? k <;> rfl

theorem at?_append (v : Value) (ks js : List String) :
    v.at? (ks ++ js) = (v.at? ks).bind fun w => w.at? js := by
  induction ks generalizing v with
  | nil => rfl
  | cons k ks ih =>
    rw [List.cons_append, at?_cons, at?_cons, Option.bind_assoc]
    exact congrArg _ (funext fun w => ih w)

theorem mem_of_member? {v w : Value} {k : String} (h : v.member? k = some w) :
    ∃ members, v = object members ∧ (k, w) ∈ members := by
  cases v with
  | object members => exact ⟨members, rfl, Dict.mem_of_find h⟩
  | _ => exact nomatch h

/-- What holds of the members of an object, if it holds of the object, holds behind a path. -/
theorem of_at? {P : Value → Prop}
    (hP : ∀ {members m}, P (object members) → m ∈ members → P m.2) {v w : Value}
    {ks : List String} (h : v.at? ks = some w) (hv : P v) : P w := by
  induction ks generalizing v with
  | nil => exact Option.some.inj h ▸ hv
  | cons k ks ih =>
    obtain ⟨u, hu, hw⟩ := Option.bind_eq_some_iff.1 h
    obtain ⟨members, rfl, hmem⟩ := mem_of_member? hu
    exact ih hw (hP hv hmem)

theorem of_member? {P : Value → Prop}
    (hP : ∀ {members m}, P (object members) → m ∈ members → P m.2) {v w : Value} {k : String}
    (h : v.member? k = some w) (hv : P v) : P w :=
  of_at? hP ((at?_singleton v k).trans h) hv

theorem depth_at? {v w : Value} {ks : List String} (h : v.at? ks = some w) :
    w.depth + ks.length ≤ v.depth := by
  induction ks generalizing v with
  | nil =>
    cases h
    exact Nat.le_refl _
  | cons k ks ih =>
    obtain ⟨u, hu, hw⟩ := Option.bind_eq_some_iff.1 h
    obtain ⟨members, rfl, hmem⟩ := mem_of_member? hu
    obtain ⟨inner, hinner, hdepth⟩ := depth_object_le_iff.1 (Nat.le_refl (object members).depth)
    have hle := ih hw
    have hlt : u.depth ≤ inner := hdepth _ hmem
    rw [List.length_cons, hinner]
    omega

@[simp] theorem member?_ofDict (d : Dict Value) (k : String) :
    (ofDict d).member? k = d.get? k := rfl

end Value

end EventDetection.Json
