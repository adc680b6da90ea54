import EventDetection.Proofs.Form.Submission
import EventDetection.Proofs.Score.Range

/-!
# The constraints of a form

Three things are asked of the values of a form: a name of 2 to 32 characters, a description of 10
to 1000, and, if the language model is to give a category, one to nine labels for it.

* `FormValues.Fits`: the three constraints.
* `FormValues.Faulty`: a violated constraint, as the field that shows it and the message.
* `FormValues.Reports`: a list tells every violated constraint once, in the order of the fields.
* `FormValues.violations_eq_nil_iff`: **the values are accepted exactly if they fit.**
* `FormValues.reports_violations`: **what is found tells what is violated**, no more and no less.
* `FormValues.violations_congr`: nothing but the name, the description, the engine and the score is
  looked at.
-/

namespace EventDetection

namespace ScoreInput

/-- A category without labels, or with more than nine. -/
def Miscounted (s : ScoreInput) : Prop :=
  s.scoreType = .category ∧ ¬ (1 ≤ s.categories.labels.length ∧ s.categories.labels.length ≤ 9)

theorem derive_eq_error_iff {s : ScoreInput} {e : DerivationError} :
    s.derive = .error e ↔ s.Miscounted :=
  ScoreRange.derive_eq_error_iff

/-- Any other score can be derived. -/
theorem miscounted_iff {s : ScoreInput} : s.Miscounted ↔ ∀ r, s.derive ≠ .ok r := by
  cases hderive : s.derive with
  | ok r =>
    refine iff_of_false (fun hcount => ?_) fun h => h r rfl
    have herror : s.derive = .error .categoryCount := derive_eq_error_iff.2 hcount
    exact nomatch hderive.symm.trans herror
  | error e => exact iff_of_true (derive_eq_error_iff.1 hderive) fun _ => nofun

end ScoreInput

namespace FormValues

/-- The values meet all constraints. -/
structure Fits (v : FormValues) : Prop where
  name : 2 ≤ v.name.length ∧ v.name.length ≤ 32
  description : 10 ≤ v.description.length ∧ v.description.length ≤ 1000
  score : ∀ s, v.score = some s → ¬ (v.engine = .llm ∧ s.Miscounted)

/-- A constraint is violated: the field that shows it, and the message for the side on which it is
violated. -/
inductive Faulty (v : FormValues) : FormField → String → Prop
  | nameTooShort (h : v.name.length < 2) :
    Faulty v .name "Event name must be at least 2 characters."
  | nameTooLong (h : 32 < v.name.length) :
    Faulty v .name "Event name must be at most 32 characters."
  | descriptionTooShort (h : v.description.length < 10) :
    Faulty v .description "Description must be at least 10 characters long."
  | descriptionTooLong (h : 1000 < v.description.length) :
    Faulty v .description "Description must be at most 1000 characters long."
  | miscounted {s : ScoreInput} (hllm : v.engine = .llm) (hscore : v.score = some s)
      (hcount : s.Miscounted) :
    Faulty v .categories "Categories must be between 1 and 9."

/-- A list tells all that is wrong with the values and nothing else, in the order of the fields and
at most once for each of them. -/
structure Reports (v : FormValues) (vs : List Violation) : Prop where
  inOrder : (vs.map Violation.field).Sublist [.name, .description, .categories]
  exact : ∀ field message,
    (∃ x ∈ vs, x.field = field ∧ x.message = message) ↔ v.Faulty field message

/-! ### Lengths -/

section Length

variable {least greatest : Nat} {short long : Violation} {s : String}

theorem mem_checkLength {x : Violation} (h : least ≤ greatest) :
    x ∈ checkLength least greatest short long s ↔
      (s.length < least ∧ x = short) ∨ (greatest < s.length ∧ x = long) := by
  rw [checkLength]
  by_cases hshort : s.length < least
  · have hlong : ¬ greatest < s.length := by omega
    simp [hshort, hlong]
  · by_cases hlong : greatest < s.length <;> simp [hshort, hlong]

theorem checkLength_eq_nil_iff :
    checkLength least greatest short long s = [] ↔ least ≤ s.length ∧ s.length ≤ greatest := by
  rw [checkLength]
  split
  · simp
    omega
  · split <;> simp <;> omega

theorem fields_checkLength {field : FormField} (hshort : short.field = field)
    (hlong : long.field = field) :
    ((checkLength least greatest short long s).map Violation.field).Sublist [field] := by
  rw [checkLength]
  split
  · simp [hshort]
  · split <;> simp [hlong]

end Length

/-! ### The score -/

variable {v : FormValues} {s : ScoreInput}

theorem checkScore_snd_of_miscounted (hllm : v.engine = .llm) (hscore : v.score = some s)
    (hcount : s.Miscounted) : v.checkScore.2 = [.score .categoryCount] := by
  have hderive : s.derive = .error .categoryCount := ScoreInput.derive_eq_error_iff.2 hcount
  simp only [checkScore, hscore, hderive, hllm]

/-- Only the language model minds a score that cannot be derived. -/
theorem checkScore_snd_eq_nil (h : ∀ s, v.score = some s → ¬ (v.engine = .llm ∧ s.Miscounted)) :
    v.checkScore.2 = [] := by
  rw [checkScore]
  cases hscore : v.score with
  | none => rfl
  | some s =>
    dsimp only
    cases hderive : s.derive with
    | ok r => rfl
    | error e =>
      cases hengine : v.engine with
      | llm => exact absurd ⟨hengine, ScoreInput.derive_eq_error_iff.1 hderive⟩ (h s hscore)
      | keyword => rfl
      | regex => rfl

/-- At most one thing is wrong with the score. -/
theorem checkScore_snd_cases (v : FormValues) :
    (v.engine = .llm ∧ ∃ s, v.score = some s ∧ s.Miscounted) ∧
        v.checkScore.2 = [.score .categoryCount] ∨
      ¬ (v.engine = .llm ∧ ∃ s, v.score = some s ∧ s.Miscounted) ∧ v.checkScore.2 = [] := by
  by_cases hbad : v.engine = .llm ∧ ∃ s, v.score = some s ∧ s.Miscounted
  · obtain ⟨hllm, s, hscore, hcount⟩ := hbad
    exact .inl ⟨⟨hllm, s, hscore, hcount⟩, checkScore_snd_of_miscounted hllm hscore hcount⟩
  · exact .inr ⟨hbad, checkScore_snd_eq_nil fun s hscore h => hbad ⟨h.1, s, hscore, h.2⟩⟩

theorem mem_checkScore_snd {x : Violation} :
    x ∈ v.checkScore.2 ↔
      x = .score .categoryCount ∧ v.engine = .llm ∧ ∃ s, v.score = some s ∧ s.Miscounted := by
  rcases checkScore_snd_cases v with ⟨hbad, heq⟩ | ⟨hgood, heq⟩
  · rw [heq, List.mem_singleton]
    exact ⟨fun hx => ⟨hx, hbad⟩, And.left⟩
  · rw [heq]
    exact iff_of_false List.not_mem_nil fun h => hgood h.2

theorem fields_checkScore (v : FormValues) :
    (v.checkScore.2.map Violation.field).Sublist [.categories] := by
  rcases checkScore_snd_cases v with ⟨-, heq⟩ | ⟨-, heq⟩
  · rw [heq]
    exact .refl _
  · rw [heq]
    exact List.nil_sublist _

/-! ### All constraints -/

/-- **Values are accepted exactly if they fit.** -/
theorem violations_eq_nil_iff : v.violations = [] ↔ v.Fits := by
  rw [violations, List.append_eq_nil_iff, List.append_eq_nil_iff, checkLength_eq_nil_iff,
    checkLength_eq_nil_iff, List.eq_nil_iff_forall_not_mem]
  constructor
  · rintro ⟨⟨hname, hdescription⟩, hscore⟩
    refine ⟨hname, hdescription, fun s hs hbad => ?_⟩
    exact hscore _ (mem_checkScore_snd.2 ⟨rfl, hbad.1, s, hs, hbad.2⟩)
  · rintro ⟨hname, hdescription, hscore⟩
    refine ⟨⟨hname, hdescription⟩, fun x hx => ?_⟩
    obtain ⟨-, hllm, s, hs, hcount⟩ := mem_checkScore_snd.1 hx
    exact hscore s hs ⟨hllm, hcount⟩

theorem mem_violations {x : Violation} :
    x ∈ v.violations ↔
      ((v.name.length < 2 ∧ x = .nameTooShort) ∨ (32 < v.name.length ∧ x = .nameTooLong)) ∨
      ((v.description.length < 10 ∧ x = .descriptionTooShort) ∨
        (1000 < v.description.length ∧ x = .descriptionTooLong)) ∨
      (x = .score .categoryCount ∧ v.engine = .llm ∧ ∃ s, v.score = some s ∧ s.Miscounted) := by
  rw [violations, List.mem_append, List.mem_append, mem_checkLength (by decide),
    mem_checkLength (by decide), mem_checkScore_snd, or_assoc]
  rfl

/-- **What is found tells what is violated.** -/
theorem reports_violations (v : FormValues) : v.Reports v.violations := by
  refine ⟨?_, fun field message => ⟨?_, ?_⟩⟩
  · have hname : ((checkLength minName maxName .nameTooShort .nameTooLong v.name).map
        Violation.field).Sublist [.name] := fields_checkLength rfl rfl
    have hdescription : ((checkLength minDescription maxDescription .descriptionTooShort
        .descriptionTooLong v.description).map Violation.field).Sublist [.description] :=
      fields_checkLength rfl rfl
    rw [violations, List.map_append, List.map_append]
    exact (hname.append hdescription).append (fields_checkScore v)
  · rintro ⟨x, hx, rfl, rfl⟩
    rcases mem_violations.1 hx with
      (⟨h, rfl⟩ | ⟨h, rfl⟩) | (⟨h, rfl⟩ | ⟨h, rfl⟩) | ⟨rfl, hllm, s, hscore, hcount⟩
    · exact .nameTooShort h
    · exact .nameTooLong h
    · exact .descriptionTooShort h
    · exact .descriptionTooLong h
    · exact .miscounted hllm hscore hcount
  · intro h
    cases h with
    | nameTooShort h => exact ⟨_, mem_violations.2 (.inl (.inl ⟨h, rfl⟩)), rfl, rfl⟩
    | nameTooLong h => exact ⟨_, mem_violations.2 (.inl (.inr ⟨h, rfl⟩)), rfl, rfl⟩
    | descriptionTooShort h =>
      exact ⟨_, mem_violations.2 (.inr (.inl (.inl ⟨h, rfl⟩))), rfl, rfl⟩
    | descriptionTooLong h =>
      exact ⟨_, mem_violations.2 (.inr (.inl (.inr ⟨h, rfl⟩))), rfl, rfl⟩
    | miscounted hllm hscore hcount =>
      exact ⟨_, mem_violations.2 (.inr (.inr ⟨rfl, hllm, _, hscore, hcount⟩)), rfl, rfl⟩

/-- Neither the webhook nor the scope, the keywords or the pattern matter. -/
theorem violations_congr {v' : FormValues} (hname : v'.name = v.name)
    (hdescription : v'.description = v.description) (hengine : v'.engine = v.engine)
    (hscore : v'.score = v.score) : v'.violations = v.violations := by
  have hcheck : v'.checkScore = v.checkScore := by
    rw [checkScore, checkScore, hengine, hscore]
  rw [violations, violations, hname, hdescription, hcheck]

end FormValues

end EventDetection
