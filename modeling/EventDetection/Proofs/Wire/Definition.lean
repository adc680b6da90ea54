import EventDetection.Proofs.Json.RoundTrip
import EventDetection.Wire.Definition

/-!
# What the text of a project says

A project is read from an object, and written to one.  What it keeps of members that are
not declared here is what stands there, on each of its levels.

* `Definition.others_of_shows`, `Settings.others_of_shows`, `Project.others_of_shows`: **the
  others are the members that are not declared.**
* `Settings.events_of_shows`: the events are filed under the names of the members of theirs.
* `Project.roundTrips`: **a written project is read back**, if its others are.
-/

namespace EventDetection

open Json (Codec Fields Value)

/-! ### Scores -/

theorem ScoreType.aligned_codec : ScoreType.codec.Aligned := Codec.aligned_tag _ _

theorem ScoreType.roundTrips (t : ScoreType) : ScoreType.codec.RoundTrips t := by
  cases t <;> exact Codec.roundTrips_tag rfl

theorem ScoreRange.aligned_fields : ScoreRange.fields.Aligned :=
  ⟨ScoreType.aligned_codec, Codec.aligned_word _ _ _, Codec.aligned_word _ _ _,
    Codec.aligned_list Codec.aligned_string, trivial⟩

theorem ScoreRange.aligned_codec : ScoreRange.codec.Aligned :=
  Codec.aligned_convert (Codec.aligned_record aligned_fields (by decide) _) _ _

theorem ScoreRange.roundTrips (s : ScoreRange) : ScoreRange.codec.RoundTrips s :=
  Codec.roundTrips_convert (Codec.roundTrips_record (by decide)
    ⟨ScoreType.roundTrips s.scoreType, Codec.roundTrips_int64 s.min, Codec.roundTrips_int64 s.max,
      Codec.roundTrips_list fun c _ => Codec.roundTrips_string c, trivial⟩) rfl

theorem ScoreRange.depth_write (s : ScoreRange) {room : Nat} :
    (ScoreRange.codec.write s).depth ≤ room + 2 :=
  Codec.depth_record "ScoreRangeSettings" ⟨Nat.zero_le _, Nat.zero_le _, Nat.zero_le _,
    Codec.depth_list fun _ _ => Nat.zero_le _, trivial⟩

/-! ### Definitions -/

theorem Engine.aligned_codec : Engine.codec.Aligned := Codec.aligned_tag _ _

theorem Engine.roundTrips (e : Engine) : Engine.codec.RoundTrips e := by
  cases e <;> exact Codec.roundTrips_tag rfl

theorem Scope.aligned_codec : Scope.codec.Aligned := Codec.aligned_tag _ _

theorem Scope.roundTrips (s : Scope) : Scope.codec.RoundTrips s := by
  cases s <;> exact Codec.roundTrips_tag rfl

namespace Definition

theorem nodup_names : fields.names.Nodup := by decide

theorem aligned_fields : fields.Aligned :=
  have text := Codec.aligned_string
  ⟨Codec.aligned_optional text, text, text, text, text, Engine.aligned_codec, Scope.aligned_codec,
    Codec.aligned_optional text, Codec.aligned_optional text,
    Codec.aligned_optional ScoreRange.aligned_codec, Codec.aligned_optional text,
    Codec.aligned_optional (Codec.aligned_dict text), Codec.aligned_bool,
    Codec.aligned_optional text, trivial⟩

theorem aligned_codec : codec.Aligned :=
  Codec.aligned_convert (Codec.aligned_openRecord aligned_fields nodup_names _) _ _

/-- **The others of a definition are the members that are not declared.** -/
theorem others_of_shows {d : Definition} {v : Value} (h : codec.Shows d v) (k : String) :
    d.others.get? k = if k ∈ fields.names then none else v.member? k := by
  obtain ⟨⟨x, others⟩, hx, rfl⟩ := Codec.shows_convert h
  exact (Codec.shows_openRecord aligned_fields nodup_names hx).2 k

/-- What the definition keeps of other members is read back as it was. -/
def Exact (d : Definition) : Prop := fields.Keeps d.others

theorem exact_of_shows {d : Definition} {v : Value} (h : codec.Shows d v) (hv : v.Integral)
    (horder : v.Ordered) : d.Exact :=
  Fields.keeps_of_member? (others_of_shows h) hv horder

theorem roundTrips {d : Definition} (h : d.Exact) : codec.RoundTrips d := by
  have text := Codec.roundTrips_string
  have omissible {x : Option String} :=
    Fields.roundTrips_omissible (x := x) fun s _ => ⟨text s, nofun⟩
  refine Codec.roundTrips_convert (Codec.roundTrips_openRecord nodup_names ?_ h) rfl
  refine ⟨omissible, text d.projectId, text d.orgId, text d.name, text d.description,
    Engine.roundTrips d.engine, Scope.roundTrips d.scope, omissible, omissible,
    Fields.roundTrips_omissible fun s _ => ⟨ScoreRange.roundTrips s, nofun⟩, omissible,
    Codec.roundTrips_optional fun headers _ => ⟨Codec.roundTrips_dict fun _ s _ => text s, nofun⟩,
    Codec.roundTrips_bool d.lastTaskOnly, omissible, trivial⟩

theorem depth_write {d : Definition} {room : Nat}
    (h : ∀ k v, d.others.get? k = some v → v.depth ≤ room + 2) :
    (codec.write d).depth ≤ room + 3 := by
  have text {x : Option String} : (Codec.string.optional.write x).depth ≤ room + 2 :=
    Codec.depth_optional fun _ _ => Nat.zero_le _
  refine Codec.depth_openRecord "EventDefinition" ?_ h
  refine ⟨text, Nat.zero_le _, Nat.zero_le _, Nat.zero_le _, Nat.zero_le _, Nat.zero_le _,
    Nat.zero_le _, text, text, Codec.depth_optional fun s _ => s.depth_write, text,
    Codec.depth_optional fun _ _ => Codec.depth_dict fun _ _ _ => Nat.zero_le _, Nat.zero_le _,
    text, trivial⟩

end Definition

/-! ### Settings -/

namespace Settings

theorem nodup_names : fields.names.Nodup := by decide

theorem aligned_fields : fields.Aligned := ⟨Codec.aligned_dict Definition.aligned_codec, trivial⟩

theorem aligned_codec : codec.Aligned :=
  Codec.aligned_convert (Codec.aligned_openRecord aligned_fields nodup_names _) _ _

theorem others_of_shows {s : Settings} {v : Value} (h : codec.Shows s v) (k : String) :
    s.others.get? k = if k ∈ fields.names then none else v.member? k := by
  obtain ⟨⟨x, others⟩, hx, rfl⟩ := Codec.shows_convert h
  exact (Codec.shows_openRecord aligned_fields nodup_names hx).2 k

/-- **The events are filed under the names of the members of theirs**, none if they are missing. -/
theorem events_of_shows {s : Settings} {v : Value} (h : codec.Shows s v) (name : String) :
    Option.Rel Definition.codec.Shows (s.events.get? name) (v.at? ["events", name]) := by
  obtain ⟨⟨⟨events, ⟨⟩⟩, others⟩, hx, rfl⟩ := Codec.shows_convert h
  obtain ⟨hevents, -⟩ := Codec.shows_openRecord aligned_fields nodup_names hx
  rw [Value.at?_cons]
  change Option.Rel _ (events.get? name) _
  cases hv : v.member? "events" with
  | none =>
    have hempty : Dict.empty = events := Option.some.inj (hevents.of_none hv)
    rw [← hempty, Dict.get?_empty]
    exact .none
  | some w =>
    rw [Option.bind_some, Value.at?_singleton]
    exact Codec.shows_dict Definition.aligned_codec (hevents.of_some hv) name

/-- What the settings keep of other members, and their events, are read back as they were. -/
def Exact (s : Settings) : Prop :=
  fields.Keeps s.others ∧ ∀ name d, s.events.get? name = some d → d.Exact

theorem exact_of_shows {s : Settings} {v : Value} (h : codec.Shows s v) (hv : v.Integral)
    (horder : v.Ordered) : s.Exact := by
  refine ⟨Fields.keeps_of_member? (others_of_shows h) hv horder, fun name d hd => ?_⟩
  have hevent := events_of_shows h name
  rw [hd] at hevent
  generalize hw : v.at? ["events", name] = w at hevent
  cases hevent with
  | some hshows =>
    exact Definition.exact_of_shows hshows (Value.of_at? Value.integral_of_mem hw hv)
      (Value.of_at? Value.ordered_of_mem hw horder)

theorem roundTrips {s : Settings} (h : s.Exact) : codec.RoundTrips s :=
  Codec.roundTrips_convert (Codec.roundTrips_openRecord nodup_names
    ⟨Codec.roundTrips_dict fun name d hd => Definition.roundTrips (h.2 name d hd), trivial⟩ h.1) rfl

theorem depth_write {s : Settings} {room : Nat}
    (hothers : ∀ k v, s.others.get? k = some v → v.depth ≤ room + 1)
    (hevents : ∀ name d, s.events.get? name = some d → (Definition.codec.write d).depth ≤ room) :
    (codec.write s).depth ≤ room + 2 :=
  Codec.depth_openRecord "ProjectSettings" ⟨Codec.depth_dict hevents, trivial⟩ hothers

end Settings

/-! ### Projects -/

namespace Project

theorem nodup_names : fields.names.Nodup := by decide

theorem aligned_fields : fields.Aligned :=
  have text := Codec.aligned_string
  ⟨text, text, Codec.aligned_optional text, Codec.aligned_optional Settings.aligned_codec, trivial⟩

theorem aligned_codec : codec.Aligned :=
  Codec.aligned_convert (Codec.aligned_openRecord aligned_fields nodup_names _) _ _

theorem others_of_shows {p : Project} {v : Value} (h : codec.Shows p v) (k : String) :
    p.others.get? k = if k ∈ fields.names then none else v.member? k := by
  obtain ⟨⟨x, others⟩, hx, rfl⟩ := Codec.shows_convert h
  exact (Codec.shows_openRecord aligned_fields nodup_names hx).2 k

theorem settings_of_shows {p : Project} {v : Value} (h : codec.Shows p v) {s : Settings}
    (hs : p.settings = some s) : ∃ w, v.member? "settings" = some w ∧ Settings.codec.Shows s w := by
  obtain ⟨⟨⟨id, orgId, name, settings, ⟨⟩⟩, others⟩, hx, rfl⟩ := Codec.shows_convert h
  obtain ⟨⟨-, -, -, hsettings⟩, -⟩ := Codec.shows_openRecord aligned_fields nodup_names hx
  cases hv : v.member? "settings" with
  | none => exact nomatch (Option.some.inj (Fields.Shows.of_none hsettings hv)).trans hs
  | some w =>
    have hw := Fields.Shows.of_some hsettings hv
    rw [show settings = some s from hs] at hw
    exact ⟨w, rfl, Codec.shows_of_optional hw⟩

/-! The levels of a project, seen from its whole value. -/

section Paths

variable {p : Project} {v : Value} (h : codec.Shows p v) {s : Settings} (hs : p.settings = some s)

include h

theorem others_eq_at? (k : String) :
    p.others.get? k = if k ∈ fields.names then none else v.at? [k] := by
  rw [Value.at?_singleton]
  exact others_of_shows h k

include hs

theorem settings_others_eq_at? (k : String) :
    s.others.get? k = if k ∈ Settings.fields.names then none else v.at? ["settings", k] := by
  obtain ⟨w, hw, hshows⟩ := settings_of_shows h hs
  rw [Value.at?_cons, hw, Option.bind_some, Value.at?_singleton]
  exact Settings.others_of_shows hshows k

theorem event_rel_at? (name : String) :
    Option.Rel Definition.codec.Shows (s.events.get? name)
      (v.at? ["settings", "events", name]) := by
  obtain ⟨w, hw, hshows⟩ := settings_of_shows h hs
  rw [Value.at?_cons, hw, Option.bind_some]
  exact Settings.events_of_shows hshows name

theorem isSome_event_at? (name : String) :
    (v.at? ["settings", "events", name]).isSome = (s.events.get? name).isSome := by
  have hevent := event_rel_at? h hs name
  generalize v.at? ["settings", "events", name] = w at hevent
  generalize s.events.get? name = d at hevent
  cases hevent <;> rfl

theorem event_others_eq_at? {name : String} {d : Definition} (hd : s.events.get? name = some d)
    (k : String) :
    d.others.get? k =
      if k ∈ Definition.fields.names then none else v.at? ["settings", "events", name, k] := by
  have hevent := event_rel_at? h hs name
  rw [hd] at hevent
  rw [show ["settings", "events", name, k] = ["settings", "events", name] ++ [k] from rfl,
    Value.at?_append]
  generalize v.at? ["settings", "events", name] = w at hevent
  cases hevent with
  | some hshows =>
    rw [Option.bind_some, Value.at?_singleton]
    exact Definition.others_of_shows hshows k

/-- The members of an event that are not declared. -/
theorem event_at?_eq {name k : String} (hk : k ∉ Definition.fields.names) :
    v.at? ["settings", "events", name, k] =
      (s.events.get? name).bind fun d => d.others.get? k := by
  cases hd : s.events.get? name with
  | none =>
    have hnone := isSome_event_at? h hs name
    rw [hd, Option.isSome_none, Option.isSome_eq_false_iff, Option.isNone_iff_eq_none] at hnone
    rw [show ["settings", "events", name, k] = ["settings", "events", name] ++ [k] from rfl,
      Value.at?_append, hnone]
    rfl
  | some d => rw [Option.bind_some, event_others_eq_at? h hs hd, if_neg hk]

end Paths

/-- What the project keeps of other members, on all of its levels, is read back as it was. -/
def Exact (p : Project) : Prop :=
  fields.Keeps p.others ∧ ∀ s, p.settings = some s → s.Exact

theorem exact_of_shows {p : Project} {v : Value} (h : codec.Shows p v) (hv : v.Integral)
    (horder : v.Ordered) : p.Exact := by
  refine ⟨Fields.keeps_of_member? (others_of_shows h) hv horder, fun s hs => ?_⟩
  obtain ⟨w, hw, hshows⟩ := settings_of_shows h hs
  exact Settings.exact_of_shows hshows (Value.of_member? Value.integral_of_mem hw hv)
    (Value.of_member? Value.ordered_of_mem hw horder)

/-- **A written project is read back**, if what it keeps of other members is. -/
theorem roundTrips {p : Project} (h : p.Exact) : codec.RoundTrips p := by
  have text := Codec.roundTrips_string
  refine Codec.roundTrips_convert (Codec.roundTrips_openRecord nodup_names ?_ h.1) rfl
  exact ⟨text p.id, text p.orgId, Fields.roundTrips_omissible fun s _ => ⟨text s, nofun⟩,
    Codec.roundTrips_optional fun s hs => ⟨Settings.roundTrips (h.2 s hs), nofun⟩, trivial⟩

theorem depth_write {p : Project} {room : Nat}
    (hothers : ∀ k v, p.others.get? k = some v → v.depth ≤ room)
    (hsettings : ∀ s, p.settings = some s → (Settings.codec.write s).depth ≤ room) :
    (codec.write p).depth ≤ room + 1 :=
  Codec.depth_openRecord "Project" ⟨Nat.zero_le _, Nat.zero_le _,
    Codec.depth_optional fun _ _ => Nat.zero_le _, Codec.depth_optional hsettings, trivial⟩ hothers

end Project

end EventDetection
