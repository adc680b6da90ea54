import EventDetection.Proofs.Form.Constraints
import EventDetection.Proofs.Form.Validation
import Mathlib.Tactic.TFAE

/-!
# Settled definitions

What validation makes of form values is in a form of its own: without an id, a job or members that
are not modelled, without empty texts, with at most one header, and with a score that its own type
and labels give.  Such a definition is taken over as it is.

* `Definition.Settled`: that form.
* `FormValues.settled_definition`: **what form values describe is settled**, if they fit.
* `Definition.Settled.validate`: **a settled definition is described by its own form values.**
* `Definition.validated_tfae`: validation gives settled definitions, all of them, and no others.
-/

namespace EventDetection

attribute [ext] Definition

/-- A definition as validation gives it. -/
structure Definition.Settled (d : Definition) : Prop where
  name : 2 ≤ d.name.length ∧ d.name.length ≤ 32
  description : 10 ≤ d.description.length ∧ d.description.length ≤ 1000
  id : d.id = none
  jobId : d.jobId = none
  others : d.others = Dict.empty
  keywords : d.keywords ≠ some ""
  regexPattern : d.regexPattern ≠ some ""
  webhook : d.webhook ≠ some ""
  headers : ∀ h, d.webhookHeaders = some h → ∃ a, a ≠ "" ∧ h.entries = [("Authorization", a)]
  score : d.Consistent

namespace FormValues

/-! ### Texts and headers -/

theorem nonEmpty_eq_some_iff {s : Option String} {t : String} :
    nonEmpty s = some t ↔ s = some t ∧ t ≠ "" := by
  rw [nonEmpty, Option.filter_eq_some_iff, decide_eq_true_iff]

theorem nonEmpty_ne (s : Option String) : nonEmpty s ≠ some "" :=
  fun h => (nonEmpty_eq_some_iff.1 h).2 rfl

theorem nonEmpty_eq_self {s : Option String} (h : s ≠ some "") : nonEmpty s = s := by
  cases s with
  | none => rfl
  | some t => exact nonEmpty_eq_some_iff.2 ⟨rfl, fun ht => h (congrArg some ht)⟩

/-- There is one header at most, the one that carries the credentials. -/
theorem webhookHeaders_definition_eq_some_iff {v : FormValues} {i o : String} {h : Dict String} :
    (v.definition i o).webhookHeaders = some h ↔
      ∃ a, v.authorization = some a ∧ a ≠ "" ∧ h.entries = [("Authorization", a)] := by
  have hheaders : (v.definition i o).webhookHeaders =
      (nonEmpty v.authorization).map fun a => Dict.empty.insert "Authorization" a := rfl
  rw [hheaders, Option.map_eq_some_iff]
  constructor
  · rintro ⟨a, ha, rfl⟩
    exact ⟨a, (nonEmpty_eq_some_iff.1 ha).1, (nonEmpty_eq_some_iff.1 ha).2, rfl⟩
  · rintro ⟨a, ha, hne, hentries⟩
    exact ⟨a, nonEmpty_eq_some_iff.2 ⟨ha, hne⟩, Dict.ext hentries.symm⟩

/-- **What form values describe is settled**, if they fit. -/
theorem settled_definition {v : FormValues} (hv : v.violations = []) (i o : String) :
    (v.definition i o).Settled where
  name := (violations_eq_nil_iff.1 hv).name
  description := (violations_eq_nil_iff.1 hv).description
  id := rfl
  jobId := rfl
  others := rfl
  keywords := nonEmpty_ne v.keywords
  regexPattern := nonEmpty_ne v.regexPattern
  webhook := nonEmpty_ne v.webhook
  headers := by
    intro h hh
    obtain ⟨a, -, hne, hentries⟩ := webhookHeaders_definition_eq_some_iff.1 hh
    exact ⟨a, hne, hentries⟩
  score := consistent_definition v i o

end FormValues

namespace Definition

variable {d : Definition}

/-- The credentials are found again in the only header. -/
theorem authorization_of_entries {h : Dict String} {a : String} (hh : d.webhookHeaders = some h)
    (hentries : h.entries = [("Authorization", a)]) : d.authorization = some a := by
  rw [authorization, hh, Option.bind_some, Dict.get?, hentries]
  rfl

namespace Settled

theorem webhookHeaders_definition (hd : d.Settled) :
    ((FormValues.ofDefinition d).definition d.projectId d.orgId).webhookHeaders =
      d.webhookHeaders := by
  refine Option.ext fun h => ?_
  rw [FormValues.webhookHeaders_definition_eq_some_iff]
  constructor
  · rintro ⟨a, ha, hne, hentries⟩
    obtain ⟨h', hh', -⟩ := Option.bind_eq_some_iff.1 ha
    obtain ⟨a', -, hentries'⟩ := hd.headers h' hh'
    obtain rfl : a = a' :=
      Option.some.inj (ha.symm.trans (authorization_of_entries hh' hentries'))
    rw [hh', Dict.ext (hentries.trans hentries'.symm)]
  · intro hh
    obtain ⟨a, hne, hentries⟩ := hd.headers h hh
    exact ⟨a, authorization_of_entries hh hentries, hne, hentries⟩

/-- A settled definition is what its own form values describe. -/
theorem definition_ofDefinition (hd : d.Settled) :
    (FormValues.ofDefinition d).definition d.projectId d.orgId = d := by
  have hscore : (FormValues.ofDefinition d).checkScore.1 = d.score :=
    congrArg Prod.fst (FormValues.checkScore_ofDefinition hd.score)
  exact Definition.ext hd.id.symm rfl rfl rfl rfl rfl rfl
    (FormValues.nonEmpty_eq_self hd.keywords) (FormValues.nonEmpty_eq_self hd.regexPattern) hscore
    (FormValues.nonEmpty_eq_self hd.webhook) hd.webhookHeaders_definition rfl hd.jobId.symm
    hd.others.symm

theorem violations_ofDefinition (hd : d.Settled) :
    (FormValues.ofDefinition d).violations = [] := by
  rw [FormValues.violations_ofDefinition_of_consistent hd.score, List.append_eq_nil_iff,
    FormValues.checkLength_eq_nil_iff, FormValues.checkLength_eq_nil_iff]
  exact ⟨hd.name, hd.description⟩

/-- **A settled definition is described by its own form values.** -/
theorem validate (hd : d.Settled) :
    (FormValues.ofDefinition d).validate d.projectId d.orgId = .ok d := by
  rw [FormValues.validate_eq, if_pos hd.violations_ofDefinition, hd.definition_ofDefinition]

end Settled

theorem settled_of_validate {v : FormValues} {i o : String} (h : v.validate i o = .ok d) :
    d.Settled := by
  obtain ⟨hv, rfl⟩ := FormValues.validate_eq_ok_iff.1 h
  exact FormValues.settled_definition hv i o

/-- A definition is what some form values describe, exactly if its own form values describe it
again, **exactly if it is settled.** -/
theorem validated_tfae (d : Definition) :
    List.TFAE [
      ∃ (v : FormValues) (i o : String), v.validate i o = .ok d,
      (FormValues.ofDefinition d).validate d.projectId d.orgId = .ok d,
      d.Settled] := by
  tfae_have 1 → 3 := by
    rintro ⟨v, i, o, h⟩
    exact settled_of_validate h
  tfae_have 3 → 2 := Settled.validate
  tfae_have 2 → 1 := fun h => ⟨_, _, _, h⟩
  tfae_finish

end Definition

end EventDetection
