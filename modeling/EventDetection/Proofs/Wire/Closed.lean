import EventDetection.Proofs.Wire.Definition
import EventDetection.Wire.Feedback
import EventDetection.Wire.FormValues

/-!
# Records that keep nothing else

Forms and feedback have declared members only, and so all of them are read back.

* `Categories.ofValue_write`: labels are told apart by what they are written as.
* `FormValues.roundTrips`: **what was typed into a form is read back**, whatever it is.
* `Feedback.roundTrips`: so is the feedback on an onboarding task.
-/

namespace EventDetection

open Json (Codec Fields Value)

/-! ### Labels -/

namespace Categories

theorem ofValue_strings (items : List String) :
    Codec.string.list.ofValue (.array (items.map .string)) = .ok items := by
  change (items.map Value.string).mapM Codec.string.ofValue = .ok items
  induction items with
  | nil => rfl
  | cons s items ih =>
    rw [List.map_cons, List.mapM_cons, ih]
    rfl

/-- A list of labels is read as a list, and a text as a text. -/
theorem ofValue_write (c : Categories) : ofValue (codec.write c) = .ok c := by
  cases c with
  | text t => rfl
  | list items =>
    change ofValue (.array (items.map .string)) = _
    simp only [ofValue, ofValue_strings]

theorem integral_write (c : Categories) : (codec.write c).Integral := by
  cases c with
  | text t => exact Codec.integral_of_numbers rfl
  | list items =>
    exact (Codec.roundTrips_list fun s _ => Codec.roundTrips_string s).integral

theorem ordered_write (c : Categories) : (codec.write c).Ordered := by
  cases c with
  | text t => rfl
  | list items => exact Value.ordered_array (List.forall_mem_map.2 fun _ _ => rfl)

theorem roundTrips (c : Categories) : codec.RoundTrips c where
  integral := integral_write c
  scan_chars := by
    intro room rest hdepth hrest
    have hscan := Json.scanValue_chars (integral_write c) hdepth hrest
    rw [ordered_write c] at hscan
    exact Json.bind_eq_ok_iff.2
      ⟨_, hscan, Json.bind_eq_ok_iff.2 ⟨c, ofValue_write c, rfl⟩⟩

theorem depth_write (c : Categories) {room : Nat} : (codec.write c).depth ≤ room + 1 := by
  cases c with
  | text t => exact Nat.zero_le _
  | list items => exact Codec.depth_list fun _ _ => Nat.zero_le _

end Categories

/-! ### Forms -/

namespace ScoreInput

theorem roundTrips (s : ScoreInput) : codec.RoundTrips s :=
  Codec.roundTrips_convert (Codec.roundTrips_record (by decide)
    ⟨ScoreType.roundTrips s.scoreType, Categories.roundTrips s.categories, trivial⟩) rfl

theorem depth_write (s : ScoreInput) {room : Nat} : (codec.write s).depth ≤ room + 2 :=
  Codec.depth_record "ScoreRangeInput" ⟨Nat.zero_le _, s.categories.depth_write, trivial⟩

end ScoreInput

namespace FormValues

theorem roundTrips (v : FormValues) : codec.RoundTrips v := by
  have text := Codec.roundTrips_string
  have optional {x : Option String} : Codec.string.optional.RoundTrips x :=
    Codec.roundTrips_optional fun s _ => ⟨text s, nofun⟩
  refine Codec.roundTrips_convert (Codec.roundTrips_record (by decide) ?_) rfl
  exact ⟨text v.name, text v.description, optional, optional, Engine.roundTrips v.engine,
    Scope.roundTrips v.scope, optional, optional,
    Codec.roundTrips_optional fun s _ => ⟨ScoreInput.roundTrips s, nofun⟩,
    Codec.roundTrips_bool v.lastTaskOnly, trivial⟩

theorem depth_write (v : FormValues) {room : Nat} : (codec.write v).depth ≤ room + 3 := by
  have text {x : Option String} : (Codec.string.optional.write x).depth ≤ room + 2 :=
    Codec.depth_optional fun _ _ => Nat.zero_le _
  exact Codec.depth_record "EventFormValues" ⟨Nat.zero_le _, Nat.zero_le _, text, text,
    Nat.zero_le _, Nat.zero_le _, text, text, Codec.depth_optional fun s _ => s.depth_write,
    Nat.zero_le _, trivial⟩

end FormValues

/-! ### Feedback -/

theorem FeedbackFlag.roundTrips (f : FeedbackFlag) : FeedbackFlag.codec.RoundTrips f := by
  cases f <;> exact Codec.roundTrips_tag rfl

theorem FeedbackSource.roundTrips (s : FeedbackSource) : FeedbackSource.codec.RoundTrips s := by
  cases s
  exact Codec.roundTrips_tag rfl

namespace Feedback

theorem roundTrips (f : Feedback) : codec.RoundTrips f := by
  have text := Codec.roundTrips_string
  exact Codec.roundTrips_convert (Codec.roundTrips_record (by decide)
    ⟨text f.taskId, text f.projectId, FeedbackFlag.roundTrips f.flag,
      FeedbackSource.roundTrips f.source, text f.notes, trivial⟩) rfl

theorem depth_write (f : Feedback) {room : Nat} : (codec.write f).depth ≤ room + 1 :=
  Codec.depth_record "UserFeedback" ⟨Nat.zero_le _, Nat.zero_le _, Nat.zero_le _, Nat.zero_le _,
    Nat.zero_le _, trivial⟩

end Feedback

end EventDetection
