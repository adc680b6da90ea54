import EventDetection.Proofs.Form.Settled

/-!
# Opening a definition and saving it

The form of a definition shows a yes or no where the definition has no score, and is validated like
any other.  What is built elsewhere is checked without that score, which makes no difference.

* `Definition.scored`: the definition with the score that its form shows.
* `Form.value_validate_edit`: **the form of a definition describes it with that score.**
* `Definition.Reissues`: all that is kept of a definition that is opened and saved.
* `Form.edit_agrees_with_check`: a definition is found wrong by its form exactly if it is found
  wrong by the check, for the same.
* `Form.reopened_iff`: what was opened and saved once stays, unless its score was left out, which
  happens to labels that other engines than the language model do not read.
* `Form.reopened_differs`: a definition that is another one after the second time.
-/

namespace EventDetection

namespace Definition

/-- The definition with a score, a yes or no if it has none. -/
def scored (d : Definition) : Definition := { d with score := some (d.score.getD .confidence) }

/-- The score is a category that has no labels, or more than nine. -/
def Miscounted (d : Definition) : Prop :=
  ∃ s, d.score = some s ∧ (ScoreInput.ofRange s).Miscounted

/-- All that is kept of a definition that is opened and saved. -/
structure Reissues (d : Definition) (i o : String) (e : Definition) : Prop where
  id : e.id = none
  jobId : e.jobId = none
  others : e.others = Dict.empty
  projectId : e.projectId = i
  orgId : e.orgId = o
  name : e.name = d.name
  description : e.description = d.description
  engine : e.engine = d.engine
  scope : e.scope = d.scope
  lastTaskOnly : e.lastTaskOnly = d.lastTaskOnly
  keywords : ∀ t, e.keywords = some t ↔ d.keywords = some t ∧ t ≠ ""
  regexPattern : ∀ t, e.regexPattern = some t ↔ d.regexPattern = some t ∧ t ≠ ""
  webhook : ∀ t, e.webhook = some t ↔ d.webhook = some t ∧ t ≠ ""
  headers : ∀ h, e.webhookHeaders = some h ↔
    ∃ a, d.authorization = some a ∧ a ≠ "" ∧ h.entries = [("Authorization", a)]
  /-- a missing score becomes a yes or no -/
  noScore : d.score = none → e.score = some ⟨.confidence, 0, 1, []⟩
  /-- a score is derived anew from its own type and labels -/
  score : ∀ s, d.score = some s →
    ∀ r, e.score = some r ↔ ScoreRange.derive s.scoreType (.list s.categories) = .ok r
  /-- only a score that the engine does not read is left out -/
  unread : e.score = none → e.engine ≠ .llm

variable {d : Definition}

theorem scored_eq_self_iff : d.scored = d ↔ d.score ≠ none := by
  constructor
  · intro h hnone
    rw [← h] at hnone
    exact nomatch hnone
  · intro h
    obtain ⟨s, hs⟩ := Option.ne_none_iff_exists'.1 h
    refine Definition.ext rfl rfl rfl rfl rfl rfl rfl rfl rfl ?_ rfl rfl rfl rfl rfl
    rw [scored, hs, Option.getD_some]

theorem Consistent.scored (h : d.Consistent) : d.scored.Consistent := by
  intro s hs
  obtain rfl := Option.some.inj hs
  cases hscore : d.score with
  | none => decide
  | some s => exact h s hscore

theorem Settled.scored (h : d.Settled) : d.scored.Settled :=
  { h with score := h.score.scored }

end Definition

namespace FormValues

theorem score_ofDefinition_scored (d : Definition) :
    (ofDefinition d.scored).score = some (.ofRange (d.score.getD .confidence)) := rfl

/-- The score that is shown for a missing one violates nothing. -/
theorem violations_ofDefinition_scored (d : Definition) :
    (ofDefinition d.scored).violations = (ofDefinition d).violations := by
  cases hs : d.score with
  | some s =>
    have hsame : d.scored = d := Definition.scored_eq_self_iff.2 (by rw [hs]; exact nofun)
    rw [hsame]
  | none =>
    have hd : d.Consistent := fun s hs' => nomatch hs.symm.trans hs'
    rw [violations_ofDefinition_of_consistent hd.scored, violations_ofDefinition_of_consistent hd]
    rfl

end FormValues

namespace Form

variable {d e d₁ : Definition} {i o : String}

theorem values_edit (d : Definition) : (edit d).values = FormValues.ofDefinition d.scored := by
  simp only [edit, FormValues.ofDefinition, Option.getD_map]
  rfl

/-- **The form of a definition describes it with a score.** -/
theorem value_validate_edit (d : Definition) (i o : String) :
    ((edit d).validate i o).value.1 = (FormValues.ofDefinition d.scored).validate i o := by
  rw [value_validate, values_edit]

theorem value_validate_edit_eq_ok_iff :
    ((edit d).validate i o).value.1 = .ok e ↔
      d.violations = [] ∧ e = (FormValues.ofDefinition d.scored).definition i o := by
  rw [value_validate_edit, FormValues.validate_eq_ok_iff, FormValues.violations_ofDefinition_scored,
    Definition.violations_eq]

theorem value_validate_edit_eq_error_iff {vs : List Violation} :
    ((edit d).validate i o).value.1 = .error vs ↔ d.violations = vs ∧ vs ≠ [] := by
  rw [value_validate_edit, FormValues.validate_eq_error_iff,
    FormValues.violations_ofDefinition_scored, Definition.violations_eq]

/-! ### What is kept -/

/-- The score is the one that is derived from what the form shows. -/
theorem score_eq_some_iff (h : ((edit d).validate i o).value.1 = .ok e) {r : ScoreRange} :
    e.score = some r ↔ (ScoreInput.ofRange (d.score.getD .confidence)).derive = .ok r := by
  obtain ⟨-, rfl⟩ := value_validate_edit_eq_ok_iff.1 h
  have hscore : ((FormValues.ofDefinition d.scored).definition i o).score =
      (FormValues.ofDefinition d.scored).checkScore.1 := rfl
  rw [hscore, FormValues.checkScore_fst_eq_some_iff, FormValues.score_ofDefinition_scored]
  constructor
  · rintro ⟨_, hinput, hderive⟩
    exact Option.some.inj hinput ▸ hderive
  · exact fun hderive => ⟨_, rfl, hderive⟩

/-- **The score is left out exactly if it has too few labels or too many.** -/
theorem score_eq_none_iff (h : ((edit d).validate i o).value.1 = .ok e) :
    e.score = none ↔ d.Miscounted := by
  have hderive : e.score = none ↔ (ScoreInput.ofRange (d.score.getD .confidence)).Miscounted := by
    rw [Option.eq_none_iff_forall_ne_some, ScoreInput.miscounted_iff]
    exact forall_congr' fun r => not_congr (score_eq_some_iff h)
  rw [hderive, Definition.Miscounted]
  cases d.score with
  | some s => simp only [Option.getD_some, Option.some.injEq, exists_eq_left']
  | none => exact iff_of_false (fun hcount => nomatch hcount.1) fun ⟨_, hs, _⟩ => nomatch hs

/-- Only the other engines let such a score through. -/
theorem engine_ne_llm_of_miscounted (h : ((edit d).validate i o).value.1 = .ok e)
    (hd : d.Miscounted) : d.engine ≠ .llm := by
  obtain ⟨hgood, -⟩ := value_validate_edit_eq_ok_iff.1 h
  rw [Definition.violations_eq, FormValues.violations_eq_nil_iff] at hgood
  obtain ⟨s, hs, hcount⟩ := hd
  have hinput : (FormValues.ofDefinition d).score = some (.ofRange s) := by
    rw [FormValues.ofDefinition, hs, Option.map_some]
  exact fun hllm => hgood.score _ hinput ⟨hllm, hcount⟩

theorem reissues_of_validate (h : ((edit d).validate i o).value.1 = .ok e) :
    d.Reissues i o e := by
  have hscore {r : ScoreRange} := score_eq_some_iff h (r := r)
  have hunread : e.score = none → d.engine ≠ .llm := fun hnone =>
    engine_ne_llm_of_miscounted h ((score_eq_none_iff h).1 hnone)
  obtain ⟨-, rfl⟩ := value_validate_edit_eq_ok_iff.1 h
  exact {
    id := rfl
    jobId := rfl
    others := rfl
    projectId := rfl
    orgId := rfl
    name := rfl
    description := rfl
    engine := rfl
    scope := rfl
    lastTaskOnly := rfl
    keywords := fun _ => FormValues.nonEmpty_eq_some_iff
    regexPattern := fun _ => FormValues.nonEmpty_eq_some_iff
    webhook := fun _ => FormValues.nonEmpty_eq_some_iff
    headers := fun _ => FormValues.webhookHeaders_definition_eq_some_iff
    noScore := fun hnone => by
      rw [hscore, hnone]
      rfl
    score := fun s hs r => by
      rw [hscore, hs]
      rfl
    unread := hunread }

/-- A definition is checked, and it is opened and validated without a change.  **Either both find
nothing wrong, or both find the same.**  In the former case the definition that comes of it keeps
all that `Definition.Reissues` tells. -/
theorem edit_agrees_with_check (d : Definition) (i o : String) :
    (d.violations = [] ↔ ∃ e, ((edit d).validate i o).value.1 = .ok e) ∧
    (∀ vs, ((edit d).validate i o).value.1 = .error vs ↔ d.violations = vs ∧ vs ≠ []) ∧
    ∀ e, ((edit d).validate i o).value.1 = .ok e → d.Reissues i o e := by
  refine ⟨?_, fun vs => value_validate_edit_eq_error_iff, fun e he => reissues_of_validate he⟩
  constructor
  · exact fun hgood => ⟨_, value_validate_edit_eq_ok_iff.2 ⟨hgood, rfl⟩⟩
  · rintro ⟨e, he⟩
    exact (value_validate_edit_eq_ok_iff.1 he).1

/-! ### The second time -/

/-- **From the second time on nothing changes** but a missing score. -/
theorem value_validate_edit_of_settled (hd : d.Settled) (hi : d.projectId = i) (ho : d.orgId = o) :
    ((edit d).validate i o).value.1 = .ok d.scored := by
  subst hi ho
  rw [value_validate_edit]
  exact hd.scored.validate

/-- A definition is opened and validated without a change, and what comes of it again.  **It stays
as it is, exactly if its first score was not one with too few labels or too many.**  Such a score
is left out the first time, which only the other engines than the language model allow; the second
time a yes or no stands in its place, and from then on nothing changes. -/
theorem reopened_iff (h : ((edit d).validate i o).value.1 = .ok d₁) :
    (((edit d₁).validate i o).value.1 = .ok d₁ ↔ ¬ d.Miscounted) ∧
    (d.Miscounted → d.engine ≠ .llm ∧ d₁.score = none ∧
      ∃ d₂, d₂ = { d₁ with score := some ⟨.confidence, 0, 1, []⟩ } ∧
        ((edit d₁).validate i o).value.1 = .ok d₂ ∧
        ((edit d₂).validate i o).value.1 = .ok d₂) := by
  have hsettled : d₁.Settled := by
    rw [value_validate_edit] at h
    exact Definition.settled_of_validate h
  have hkept := reissues_of_validate h
  have hsecond := value_validate_edit_of_settled hsettled hkept.projectId hkept.orgId
  have hthird := value_validate_edit_of_settled hsettled.scored hkept.projectId hkept.orgId
  constructor
  · rw [hsecond, Except.ok.injEq, Definition.scored_eq_self_iff, ne_eq, score_eq_none_iff h]
  · intro hd
    have hnone := (score_eq_none_iff h).2 hd
    have hscored : d₁.scored = { d₁ with score := some ⟨.confidence, 0, 1, []⟩ } := by
      rw [Definition.scored, hnone]
      rfl
    have hsame : d₁.scored.scored = d₁.scored := Definition.scored_eq_self_iff.2 nofun
    exact ⟨engine_ne_llm_of_miscounted h hd, hnone, d₁.scored, hscored, hsecond, hsame ▸ hthird⟩

/-! ### Two definitions that are opened twice -/

/-- A definition with a bit of everything that is not kept. -/
def worn : Definition where
  id := some "e1"
  projectId := "p0"
  orgId := "o0"
  name := "Mood"
  description := "How does the user feel?"
  keywords := some ""
  score := some ⟨.category, 3, 7, ["happy", "", "sad"]⟩
  webhook := some "https://hooks.example.com"
  webhookHeaders := some ((Dict.empty.insert "Authorization" "Bearer t").insert "Accept" "text")
  jobId := some "j1"
  others := Dict.empty.insert "severity" (.string "high")

/-- What comes of it. -/
def mended : Definition where
  projectId := "p1"
  orgId := "o1"
  name := "Mood"
  description := "How does the user feel?"
  score := some ⟨.category, 1, 2, ["happy", "sad"]⟩
  webhook := some "https://hooks.example.com"
  webhookHeaders := some (Dict.empty.insert "Authorization" "Bearer t")

/-- It changes the first time, and no more. -/
theorem reopened_iff_worn :
    ((edit worn).validate "p1" "o1").value.1 = .ok mended ∧ worn ≠ mended ∧
      ((edit mended).validate "p1" "o1").value.1 = .ok mended := by
  have hfirst : ((edit worn).validate "p1" "o1").value.1 = .ok mended := rfl
  have hcounted : ¬ worn.Miscounted := by
    rintro ⟨s, hs, -, hcount⟩
    obtain rfl := Option.some.inj hs
    exact hcount (by decide)
  exact ⟨hfirst, by decide, (reopened_iff hfirst).1.2 hcounted⟩

/-- A definition for keywords, with a category that has no labels. -/
def unlabelled : Definition where
  projectId := "p1"
  orgId := "o1"
  name := "Refund"
  description := "The user asks about a refund."
  engine := .keyword
  keywords := some "refund"
  score := some ⟨.category, 1, 1, []⟩

/-- It loses its score the first time, and has a yes or no the second time. -/
theorem reopened_differs :
    ((edit unlabelled).validate "p1" "o1").value.1 = .ok { unlabelled with score := none } ∧
      ((edit { unlabelled with score := none }).validate "p1" "o1").value.1 =
        .ok { unlabelled with score := some ⟨.confidence, 0, 1, []⟩ } ∧
      { unlabelled with score := some ⟨.confidence, 0, 1, []⟩ } ≠
        { unlabelled with score := none } := by
  refine ⟨rfl, rfl, ?_⟩
  decide

end Form

end EventDetection
