import EventDetection.Proofs.Form.Reopening

/-!
# Loading a template

A template takes the place of everything that was typed into a form but the webhook, and of what the
form has recorded.  From then on nothing tells what the form was like before.

* `Form.AlikeBesidesTemplate`: two forms with the same webhook that edit the same event.
* `Form.value_loadTemplate_eq_iff`: **a template makes two forms equal exactly if they are alike in
  that.**
* `Definition.loadedInto`: the template as a definition with the webhook of the form.
* `Form.values_loadTemplate`: **loading a template is like opening that definition.**
* `Form.template_forgets`: after a template two such forms show the same at every step, and what
  comes of the template depends on the form for the webhook only.
-/

namespace EventDetection

/-- The template as it is loaded into a form: for the language model, with the form's webhook. -/
def Definition.loadedInto (t : Definition) (f : Form) : Definition :=
  { t with
    engine := .llm
    webhook := f.values.webhook
    webhookHeaders := f.values.authorization.map fun a => Dict.empty.insert authorizationHeader a }

namespace Form

/-- All that a template leaves of a form is the same. -/
structure AlikeBesidesTemplate (f g : Form) : Prop where
  webhook : f.values.webhook = g.values.webhook
  authorization : f.values.authorization = g.values.authorization
  editing : f.editing = g.editing

/-- What a run shows step by step: the answer, the form after it, and the log. -/
def shown (f : Form) : List FormStep → List (Logged (FormReply × Form))
  | [] => []
  | x :: ss => f.step x :: (f.step x).value.2.shown ss

variable {f g : Form} {t : Definition}

/-! ### What is forgotten -/

theorem loadTemplate_eq (h : f.AlikeBesidesTemplate g) (t : Definition) :
    f.loadTemplate t = g.loadTemplate t := by
  obtain ⟨hwebhook, hauthorization, hediting⟩ := h
  simp only [loadTemplate, FormValues.withTemplate, hwebhook, hauthorization, hediting]

/-- **A template makes two forms equal** exactly if they have the same webhook and edit the same
event. -/
theorem value_loadTemplate_eq_iff :
    (f.loadTemplate t).value = (g.loadTemplate t).value ↔ f.AlikeBesidesTemplate g := by
  constructor
  · intro h
    have hwebhook := congrArg (fun e : Form => e.values.webhook) h
    have hauthorization := congrArg (fun e : Form => e.values.authorization) h
    have hediting := congrArg (fun e : Form => e.editing) h
    exact ⟨hwebhook, hauthorization, hediting⟩
  · intro h
    rw [loadTemplate_eq h]

theorem step_loadTemplate_eq (h : f.AlikeBesidesTemplate g) (t : Definition) :
    f.step (.loadTemplate t) = g.step (.loadTemplate t) := by
  rw [step, step, loadTemplate_eq h]

/-- **Whatever is done after a template shows nothing of what was there before it.** -/
theorem shown_loadTemplate_eq (h : f.AlikeBesidesTemplate g) (t : Definition)
    (ss : List FormStep) : f.shown (.loadTemplate t :: ss) = g.shown (.loadTemplate t :: ss) := by
  rw [shown, shown, step_loadTemplate_eq h]

theorem run_loadTemplate_eq (h : f.AlikeBesidesTemplate g) (t : Definition) (ss : List FormStep) :
    f.run (.loadTemplate t :: ss) = g.run (.loadTemplate t :: ss) := by
  rw [run, run, step_loadTemplate_eq h]

/-! ### What is loaded -/

theorem authorization_loadedInto (t : Definition) (f : Form) :
    (t.loadedInto f).authorization = f.values.authorization := by
  rw [Definition.authorization, Definition.loadedInto]
  cases f.values.authorization with
  | none => rfl
  | some a => exact Dict.get?_insert_self ..

/-- **Loading a template is like opening a definition** that has the webhook of the form. -/
theorem values_loadTemplate (f : Form) (t : Definition) :
    (f.loadTemplate t).value.values = (edit (t.loadedInto f)).values := by
  have hauthorization : (t.loadedInto f).scored.authorization = f.values.authorization :=
    authorization_loadedInto t f
  rw [values_edit, FormValues.ofDefinition, hauthorization]
  rfl

theorem value_validate_loadTemplate (f : Form) (t : Definition) (i o : String) :
    ((f.loadTemplate t).value.validate i o).value.1 =
      ((edit (t.loadedInto f)).validate i o).value.1 := by
  rw [value_validate, value_validate, values_loadTemplate]

/-- The webhook is not looked at. -/
theorem violations_loadedInto (t : Definition) (f : Form) :
    (t.loadedInto f).violations = { t with engine := .llm : Definition }.violations := by
  rw [Definition.violations_eq, Definition.violations_eq]
  exact FormValues.violations_congr rfl rfl rfl rfl

/-- Two forms may differ in anything but their webhook and the event they edit.  **A template makes
them equal, and nothing that is done then shows what they were before**, not even the score or a
violation that was recorded.  Unless they are alike in these, they stay different.

Right after loading, the values are those of the template with the language model as the engine, a
yes or no for a missing score, and the webhook of the form.  So what they are accepted or refused
for does not depend on the engine of the template, and the definition that comes of it is the
template's in all but the engine and the webhook. -/
theorem template_forgets (t : Definition) (f g : Form) :
    ((f.loadTemplate t).value = (g.loadTemplate t).value ↔ f.AlikeBesidesTemplate g) ∧
    (f.AlikeBesidesTemplate g → ∀ ss : List FormStep,
      f.shown (.loadTemplate t :: ss) = g.shown (.loadTemplate t :: ss) ∧
      f.run (.loadTemplate t :: ss) = g.run (.loadTemplate t :: ss) ∧
      (f.run (.loadTemplate t :: ss)).value.derivedScore =
        (g.run (.loadTemplate t :: ss)).value.derivedScore) ∧
    ∀ i o,
      ((f.loadTemplate t).value.validate i o).value.1 =
        { FormValues.ofDefinition t with
          engine := .llm
          score := some ((FormValues.ofDefinition t).score.getD (.ofRange .confidence))
          webhook := f.values.webhook
          authorization := f.values.authorization : FormValues }.validate i o ∧
      (∀ vs, ((f.loadTemplate t).value.validate i o).value.1 = .error vs ↔
        { t with engine := .llm : Definition }.violations = vs ∧ vs ≠ []) ∧
      ∀ d, ((f.loadTemplate t).value.validate i o).value.1 = .ok d →
        (t.loadedInto f).Reissues i o d := by
  refine ⟨value_loadTemplate_eq_iff, fun h ss => ⟨shown_loadTemplate_eq h t ss,
    run_loadTemplate_eq h t ss, by rw [run_loadTemplate_eq h]⟩, fun i o => ⟨?_, fun vs => ?_,
    fun d hd => ?_⟩⟩
  · rw [value_validate]
    simp only [FormValues.ofDefinition, Option.getD_map]
    rfl
  · rw [value_validate_loadTemplate, value_validate_edit_eq_error_iff, violations_loadedInto]
  · rw [value_validate_loadTemplate] at hd
    exact reissues_of_validate hd

/-! ### A form that was filled in before -/

/-- A form in which something else was typed in and found wrong. -/
def cluttered : Form where
  values := { name := "?", engine := .regex, regexPattern := some "(", score := some {} }
  violations := [.nameTooShort, .descriptionTooShort]

/-- A template for keywords, with a category. -/
def moodTemplate : Definition where
  projectId := "p0"
  orgId := "o0"
  name := "Mood"
  description := "How does the user feel?"
  engine := .keyword
  keywords := some "sad"
  score := some ⟨.category, 1, 2, ["happy", "sad"]⟩

/-- Once the template is loaded, nothing tells the form from a new one. -/
theorem template_forgets_cluttered :
    create none ≠ cluttered ∧ (create none).AlikeBesidesTemplate cluttered ∧
      ∀ ss : List FormStep,
        (create none).shown (.loadTemplate moodTemplate :: ss) =
          cluttered.shown (.loadTemplate moodTemplate :: ss) := by
  have halike : (create none).AlikeBesidesTemplate cluttered := ⟨rfl, rfl, rfl⟩
  refine ⟨by decide, halike, fun ss => ?_⟩
  exact ((template_forgets moodTemplate (create none) cluttered).2.1 halike ss).1

end Form

end EventDetection
