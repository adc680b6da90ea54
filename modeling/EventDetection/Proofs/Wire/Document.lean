import EventDetection.Proofs.Json.Returned
import EventDetection.Proofs.Wire.Closed
import EventDetection.Proofs.Wire.Cluster

/-!
# Documents

The kinds of records that are exchanged as JSON, taken together.  Some of them keep members that
they do not declare, on one level or on several (`Document.kept`).  An object that is kept stands
for its members by name; the list that holds them is in that order (`Kept.Ordered`), as it is in
all values that are read.

* `Faithful`: what a codec has to do for what is kept.
* `faithful_of_closed`, `faithful_of_open`: the records of one level.
* `Settings.faithful`, `Project.faithful`: those that hold others.
* `Document.written_is_read`: **what is written is read back**, if what is kept avoids the declared
  names, and it does in all that is read.
-/

namespace EventDetection

open Json (Codec Fields Value maxDepth)

/-! ### What is kept -/

/-- The members that one record keeps beside those that it declares. -/
structure Kept where
  declared : List String
  others : Dict Value

namespace Kept

/-- No declared name is among the others. -/
def Avoids (m : Kept) : Prop := ∀ e ∈ m.others.entries, e.1 ∉ m.declared

/-- Every number among the others is an integer that fits a word. -/
def Integral (m : Kept) : Prop := ∀ e ∈ m.others.entries, e.2.Integral

/-- The others are listed as a text is read into them. -/
def Ordered (m : Kept) : Prop := ∀ e ∈ m.others.entries, e.2.Ordered

section Fields

variable {σ : Type} {fs : Fields σ} {others : Dict Value}

theorem keeps_of_avoids
    (h : Avoids ⟨fs.names, others⟩ ∧ Integral ⟨fs.names, others⟩ ∧ Ordered ⟨fs.names, others⟩) :
    fs.Keeps others := by
  obtain ⟨havoids, hintegral, horder⟩ := h
  intro k v hv
  have hmem : (k, v) ∈ others.entries := Dict.mem_entries_iff.2 hv
  exact ⟨havoids _ hmem, hintegral _ hmem, horder _ hmem⟩

theorem avoids_of_leaves {room : Nat} (h : fs.Leaves room others) :
    Avoids ⟨fs.names, others⟩ ∧ Ordered ⟨fs.names, others⟩ := by
  constructor
  · intro e he
    exact (h e.1 e.2 (Dict.mem_entries_iff.1 he)).1
  · intro e he
    exact (h e.1 e.2 (Dict.mem_entries_iff.1 he)).2.1

end Fields

end Kept

def Definition.kept (d : Definition) : List Kept := [⟨fields.names, d.others⟩]

def Settings.kept (s : Settings) : List Kept :=
  ⟨fields.names, s.others⟩ :: s.events.entries.flatMap fun e => e.2.kept

def Project.kept (p : Project) : List Kept :=
  ⟨fields.names, p.others⟩ :: p.settings.toList.flatMap Settings.kept

def Clustering.kept (c : Clustering) : List Kept := [⟨fields.names, c.others⟩]

def Cluster.kept (c : Cluster) : List Kept := [⟨fields.names, c.others⟩]

section Levels

variable {P : Kept → Prop}

theorem Definition.forall_kept {d : Definition} :
    (∀ m ∈ d.kept, P m) ↔ P ⟨fields.names, d.others⟩ :=
  List.forall_mem_singleton

theorem Settings.forall_kept {s : Settings} :
    (∀ m ∈ s.kept, P m) ↔ P ⟨fields.names, s.others⟩ ∧
      ∀ name d, s.events.get? name = some d → ∀ m ∈ d.kept, P m := by
  rw [kept, List.forall_mem_cons]
  refine and_congr_right fun _ => ?_
  constructor
  · intro h name d hd m hm
    exact h m (List.mem_flatMap.2 ⟨(name, d), Dict.mem_entries_iff.2 hd, hm⟩)
  · intro h m hm
    obtain ⟨⟨name, d⟩, hd, hm⟩ := List.mem_flatMap.1 hm
    exact h name d (Dict.mem_entries_iff.1 hd) m hm

theorem Project.forall_kept {p : Project} :
    (∀ m ∈ p.kept, P m) ↔ P ⟨fields.names, p.others⟩ ∧
      ∀ s, p.settings = some s → ∀ m ∈ s.kept, P m := by
  rw [kept, List.forall_mem_cons]
  refine and_congr_right fun _ => ?_
  constructor
  · intro h s hs m hm
    exact h m (List.mem_flatMap.2 ⟨s, Option.mem_toList.2 hs, hm⟩)
  · intro h m hm
    obtain ⟨s, hs, hm⟩ := List.mem_flatMap.1 hm
    exact h s (Option.mem_toList.1 hs) m hm

end Levels

/-! ### Faithful codecs -/

/-- What is written is read back, if what is kept allows for it, and what is returned keeps only
what does. -/
structure Faithful {α : Type} (c : Codec α) (kept : α → List Kept) : Prop where
  roundTrips : ∀ {x}, (∀ m ∈ kept x, m.Avoids ∧ m.Integral ∧ m.Ordered) → c.RoundTrips x
  avoids : ∀ {room x}, c.Returns room x → ∀ m ∈ kept x, m.Avoids ∧ m.Ordered
  depth_write : ∀ {x}, c.Returns maxDepth x → (c.write x).depth ≤ maxDepth

/-- A record that keeps nothing else. -/
theorem faithful_of_closed {α : Type} {c : Codec α} (hread : ∀ x, c.RoundTrips x)
    (hdepth : ∀ x, (c.write x).depth ≤ maxDepth) : Faithful c fun _ => [] where
  roundTrips _ := hread _
  avoids _ _ hm := absurd hm List.not_mem_nil
  depth_write _ := hdepth _

section Open

variable {σ α : Type} {name : String} {fs : Fields σ} {f : σ × Dict Value → α}
  {back : α → σ × Dict Value} {others : α → Dict Value}

theorem leaves_of_returns (hothers : ∀ x o, others (f (x, o)) = o) {room : Nat} {y : α}
    (h : ((Codec.openRecord name fs).convert f back).Returns room y) :
    ∃ inner, room = inner + 1 ∧ fs.Leaves inner (others y) := by
  obtain ⟨⟨x, o⟩, hx, rfl⟩ := Codec.returns_of_convert h
  obtain ⟨inner, hroom, -, ho⟩ := Codec.returns_of_openRecord hx
  rw [hothers]
  exact ⟨inner, hroom, ho⟩

/-- A record that keeps other members on its own level only. -/
theorem faithful_of_open (hothers : ∀ x o, others (f (x, o)) = o)
    (hread : ∀ y, fs.Keeps (others y) →
      ((Codec.openRecord name fs).convert f back).RoundTrips y)
    (hdepth : ∀ y, (∀ k v, (others y).get? k = some v → v.depth ≤ 126) →
      (((Codec.openRecord name fs).convert f back).write y).depth ≤ maxDepth) :
    Faithful ((Codec.openRecord name fs).convert f back) fun y => [⟨fs.names, others y⟩] where
  roundTrips := by
    intro y h
    exact hread y (Kept.keeps_of_avoids (h _ List.mem_cons_self))
  avoids := by
    intro room y h
    obtain ⟨inner, -, hleaves⟩ := leaves_of_returns hothers h
    exact List.forall_mem_singleton.2 (Kept.avoids_of_leaves hleaves)
  depth_write := by
    intro y h
    obtain ⟨inner, hroom, hleaves⟩ := leaves_of_returns hothers h
    cases hroom
    exact hdepth y fun k v hv => (hleaves k v hv).2.2

end Open

theorem Clustering.faithful : Faithful codec kept :=
  faithful_of_open (fun _ _ => rfl) (fun _ h => roundTrips h) fun _ h => depth_write h

theorem Cluster.faithful : Faithful codec kept :=
  faithful_of_open (fun _ _ => rfl) (fun _ h => roundTrips h) fun _ h => depth_write h

theorem Definition.faithful : Faithful codec kept :=
  faithful_of_open (fun _ _ => rfl) (fun _ h => roundTrips h) fun _ h => depth_write h

/-! ### Projects -/

/-- A definition is written with as much room as it was read with, if that is enough for a
score. -/
theorem Definition.depth_write_of_returns {d : Definition} {room : Nat}
    (h : codec.Returns (room + 3) d) : (codec.write d).depth ≤ room + 3 := by
  have hparts : ∃ inner, room + 3 = inner + 1 ∧ fields.Leaves inner d.others :=
    leaves_of_returns (fun _ _ => rfl) h
  obtain ⟨inner, hroom, hleaves⟩ := hparts
  cases hroom
  exact depth_write fun k v hv => (hleaves k v hv).2.2

namespace Settings

theorem parts_of_returns {s : Settings} {room : Nat} (h : codec.Returns room s) :
    ∃ inner, room = inner + 1 ∧ fields.Leaves inner s.others ∧
      ∀ name d, s.events.get? name = some d →
        ∃ innermost, inner = innermost + 1 ∧ Definition.codec.Returns innermost d := by
  obtain ⟨⟨⟨events, ⟨⟩⟩, others⟩, hx, rfl⟩ := Codec.returns_of_convert h
  obtain ⟨inner, hroom, ⟨hevents, -⟩, hothers⟩ := Codec.returns_of_openRecord hx
  refine ⟨inner, hroom, hothers, fun name d hd => ?_⟩
  rcases hevents with hempty | hevents
  · cases hempty
    exact nomatch (Dict.get?_empty name).symm.trans hd
  · obtain ⟨innermost, hinner, hevents⟩ := Codec.returns_of_dict hevents
    exact ⟨innermost, hinner, hevents name d hd⟩

theorem depth_write_of_returns {s : Settings} {room : Nat} (h : codec.Returns (room + 5) s) :
    (codec.write s).depth ≤ room + 5 := by
  obtain ⟨inner, hroom, hothers, hevents⟩ := parts_of_returns h
  cases hroom
  refine depth_write (fun k v hv => (hothers k v hv).2.2) fun name d hd => ?_
  obtain ⟨innermost, hinner, hd⟩ := hevents name d hd
  cases hinner
  exact Definition.depth_write_of_returns hd

theorem exact_of_kept {s : Settings} (h : ∀ m ∈ s.kept, m.Avoids ∧ m.Integral ∧ m.Ordered) :
    s.Exact := by
  obtain ⟨hothers, hevents⟩ := forall_kept.1 h
  refine ⟨Kept.keeps_of_avoids hothers, fun name d hd => ?_⟩
  exact Kept.keeps_of_avoids (Definition.forall_kept.1 (hevents name d hd))

theorem faithful : Faithful codec kept where
  roundTrips h := roundTrips (exact_of_kept h)
  avoids := by
    intro room s h
    obtain ⟨inner, -, hothers, hevents⟩ := parts_of_returns h
    refine forall_kept.2 ⟨Kept.avoids_of_leaves hothers, fun name d hd => ?_⟩
    obtain ⟨innermost, -, hd⟩ := hevents name d hd
    exact Definition.faithful.avoids hd
  depth_write h := depth_write_of_returns h

end Settings

namespace Project

theorem parts_of_returns {p : Project} {room : Nat} (h : codec.Returns room p) :
    ∃ inner, room = inner + 1 ∧ fields.Leaves inner p.others ∧
      ∀ s, p.settings = some s → Settings.codec.Returns inner s := by
  obtain ⟨⟨⟨id, orgId, name, settings, ⟨⟩⟩, others⟩, hx, rfl⟩ := Codec.returns_of_convert h
  obtain ⟨inner, hroom, ⟨-, -, -, hsettings, -⟩, hothers⟩ := Codec.returns_of_openRecord hx
  refine ⟨inner, hroom, hothers, fun s hs => ?_⟩
  have hs : settings = some s := hs
  subst hs
  rcases hsettings with hnone | hsettings
  · exact nomatch hnone
  · exact Codec.returns_of_optional hsettings

theorem faithful : Faithful codec kept where
  roundTrips := by
    intro p h
    obtain ⟨hothers, hsettings⟩ := forall_kept.1 h
    refine roundTrips ⟨Kept.keeps_of_avoids hothers, fun s hs => ?_⟩
    exact Settings.exact_of_kept (hsettings s hs)
  avoids := by
    intro room p h
    obtain ⟨inner, -, hothers, hsettings⟩ := parts_of_returns h
    refine forall_kept.2 ⟨Kept.avoids_of_leaves hothers, fun s hs => ?_⟩
    exact Settings.faithful.avoids (hsettings s hs)
  depth_write := by
    intro p h
    obtain ⟨inner, hroom, hothers, hsettings⟩ := parts_of_returns h
    cases hroom
    refine depth_write (fun k v hv => (hothers k v hv).2.2) fun s hs => ?_
    have hs : Settings.codec.Returns (121 + 5) s := hsettings s hs
    exact Settings.depth_write_of_returns hs

end Project

/-! ### All kinds -/

/-- The kinds of records that are exchanged. -/
inductive Document where
  | definition | scoreRange | settings | project | clustering | cluster
  | categories | scoreInput | formValues | feedback
deriving DecidableEq

namespace Document

/-- The values of a kind. -/
def Carrier : Document → Type
  | .definition => Definition
  | .scoreRange => ScoreRange
  | .settings => Settings
  | .project => Project
  | .clustering => Clustering
  | .cluster => Cluster
  | .categories => Categories
  | .scoreInput => ScoreInput
  | .formValues => FormValues
  | .feedback => Feedback

def codec : (t : Document) → Codec t.Carrier
  | .definition => Definition.codec
  | .scoreRange => ScoreRange.codec
  | .settings => Settings.codec
  | .project => Project.codec
  | .clustering => Clustering.codec
  | .cluster => Cluster.codec
  | .categories => Categories.codec
  | .scoreInput => ScoreInput.codec
  | .formValues => FormValues.codec
  | .feedback => Feedback.codec

/-- The members that are kept beside the declared ones, level by level. -/
def kept : (t : Document) → t.Carrier → List Kept
  | .definition => Definition.kept
  | .settings => Settings.kept
  | .project => Project.kept
  | .clustering => Clustering.kept
  | .cluster => Cluster.kept
  | .scoreRange | .categories | .scoreInput | .formValues | .feedback => fun _ => []

theorem faithful (t : Document) : Faithful t.codec t.kept := by
  cases t with
  | definition => exact Definition.faithful
  | settings => exact Settings.faithful
  | project => exact Project.faithful
  | clustering => exact Clustering.faithful
  | cluster => exact Cluster.faithful
  | scoreRange =>
    exact faithful_of_closed ScoreRange.roundTrips fun s => (s.depth_write : _ ≤ 125 + 2)
  | categories =>
    exact faithful_of_closed Categories.roundTrips fun c => (c.depth_write : _ ≤ 126 + 1)
  | scoreInput =>
    exact faithful_of_closed ScoreInput.roundTrips fun s => (s.depth_write : _ ≤ 125 + 2)
  | formValues =>
    exact faithful_of_closed FormValues.roundTrips fun v => (v.depth_write : _ ≤ 124 + 3)
  | feedback =>
    exact faithful_of_closed Feedback.roundTrips fun f => (f.depth_write : _ ≤ 126 + 1)

/-- **What is written is read back**, for every kind of document: if what it keeps of other members
avoids the declared names and holds integers only, and if there is room for its containers.  What
was read, from a text or from a value, keeps no declared name, and so it is written and read again
without a change. -/
theorem written_is_read (t : Document) :
    (∀ x : t.Carrier, (∀ m ∈ t.kept x, m.Avoids ∧ m.Integral ∧ m.Ordered) →
      (t.codec.write x).depth ≤ maxDepth → t.codec.read (t.codec.text x) = .ok x) ∧
    (∀ text x, t.codec.read text = .ok x →
      (∀ m ∈ t.kept x, m.Avoids ∧ m.Ordered) ∧
        ((∀ m ∈ t.kept x, m.Integral) → t.codec.read (t.codec.text x) = .ok x)) ∧
    ∀ v : Value, v.Ordered → ∀ x, t.codec.ofValue v = .ok x →
      (∀ m ∈ t.kept x, m.Avoids ∧ m.Ordered) ∧
        (v.depth ≤ maxDepth → (∀ m ∈ t.kept x, m.Integral) →
          t.codec.read (t.codec.text x) = .ok x) := by
  have hread {x : t.Carrier} (hx : ∀ m ∈ t.kept x, m.Avoids ∧ m.Integral ∧ m.Ordered)
      (hdepth : (t.codec.write x).depth ≤ maxDepth) : t.codec.read (t.codec.text x) = .ok x :=
    Codec.read_text (t.faithful.roundTrips hx) hdepth
  -- what was returned allows for a round trip, as soon as its numbers do
  have hagain {x : t.Carrier} (hx : t.codec.Returns maxDepth x)
      (hintegral : ∀ m ∈ t.kept x, m.Integral) : t.codec.read (t.codec.text x) = .ok x := by
    refine hread (fun m hm => ?_) (t.faithful.depth_write hx)
    obtain ⟨havoids, horder⟩ := t.faithful.avoids hx m hm
    exact ⟨havoids, hintegral m hm, horder⟩
  refine ⟨fun x => hread, fun text x hx => ?_, fun v horder x hx => ?_⟩
  · have hreturns := Codec.returns_of_read hx
    exact ⟨t.faithful.avoids hreturns, hagain hreturns⟩
  · refine ⟨t.faithful.avoids (.value horder (Nat.le_refl _) hx), fun hdepth => ?_⟩
    exact hagain (.value horder hdepth hx)

/-! ### Members on three levels -/

/-- An event with a member that holds the least number that a word takes. -/
def pricedEvent : Definition where
  projectId := "p1"
  orgId := "o1"
  name := "Alpha"
  description := "The user asks about a refund."
  score := some ScoreRange.range
  others := Dict.empty.insert "price" (.array [.number (.integer (-0x8000000000000000)), .null])

/-- The value that the event is read from: its engine and its scope are missing. -/
def pricedValue : Value :=
  .ofDict <| Dict.ofList [("project_id", .string "p1"), ("org_id", .string "o1"),
    ("event_name", .string "Alpha"), ("description", .string "The user asks about a refund."),
    ("score_range_settings", .ofDict <| Dict.ofList [("score_type", .string "range"),
      ("min", .number (.integer 1)), ("max", .number (.integer 5))]),
    ("price", .array [.number (.integer (-0x8000000000000000)), .null])]

/-- A project with members that are not declared on each of its levels. -/
def pricedProject : Project where
  id := "p1"
  orgId := "o1"
  settings := some
    { events := Dict.empty.insert "Alpha" pricedEvent
      others := Dict.empty.insert "id" (.string "declared on another level") }
  others := Dict.empty.insert "limits" <|
    .ofDict <| Dict.empty.insert "greatest" (.number (.integer 0xffffffffffffffff))

/-- It is read back from its text, and the event from its own text, once it was read from its
value. -/
theorem written_is_read_priced :
    Project.codec.read (Project.codec.text pricedProject) = .ok pricedProject ∧
      Definition.codec.ofValue pricedValue = .ok pricedEvent ∧
      Definition.codec.read (Definition.codec.text pricedEvent) = .ok pricedEvent := by
  have hkept : ∀ m ∈ kept .project pricedProject, m.Avoids ∧ m.Integral ∧ m.Ordered := by
    simp only [kept, Kept.Avoids, Kept.Integral, Kept.Ordered, Value.Integral, Value.Ordered]
    decide +kernel
  have hdepth : (Project.codec.write pricedProject).depth ≤ maxDepth := by decide +kernel
  have hevent : Definition.codec.ofValue pricedValue = .ok pricedEvent :=
    Json.eq_ok_of_toOption (by decide +kernel)
  have horder : pricedValue.Ordered := by
    unfold Value.Ordered
    decide +kernel
  have hintegral : ∀ m ∈ kept .definition pricedEvent, m.Integral := by
    simp only [kept, Kept.Integral, Value.Integral]
    decide +kernel
  obtain ⟨-, hagain⟩ := (written_is_read .definition).2.2 pricedValue horder pricedEvent hevent
  exact ⟨(written_is_read .project).1 pricedProject hkept hdepth, hevent,
    hagain (by decide +kernel) hintegral⟩

end Document

end EventDetection
