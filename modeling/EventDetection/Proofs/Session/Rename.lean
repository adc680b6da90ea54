import EventDetection.Proofs.Session.Submission
import EventDetection.Session.MemoryStore
import EventDetection.Session.Sample

/-!
# A form that is submitted again and again

A form goes on to edit the event that it was opened on, whatever it was saved as since.
It gives up the name of that event when it is saved under another one, but no name that it
took later.  So it stands for one event as long as it takes one new name only.

* `Session.resubmit`: a form is changed and submitted round by round.
* `Session.settings_resubmit`: what rounds that succeed leave behind.
* `Form.file_fileAll`: **the last round alone counts**, if the rounds before it took no third name.
* `Session.stands_for_one_iff`: the form stands for one event exactly in this case.
* `Session.stands_for_two`: a form that takes two new names leaves two events behind.
-/

namespace EventDetection

/-! ### Filing one definition after the other -/

namespace Form

/-- Files definitions one after the other. -/
def fileAll (f : Form) (ds : List Definition) (s : Settings) : Settings :=
  ds.foldl (fun s d => (f.file d s).1) s

theorem fileAll_cons (f : Form) (d : Definition) (ds : List Definition) (s : Settings) :
    f.fileAll (d :: ds) s = f.fileAll ds (f.file d s).1 := rfl

theorem fileAll_concat (f : Form) (ds : List Definition) (d : Definition) (s : Settings) :
    f.fileAll (ds ++ [d]) s = (f.file d (f.fileAll ds s)).1 := by
  rw [fileAll, List.foldl_append]
  rfl

/-- Of a form, only the event that it edits matters to what it files. -/
theorem file_eq_of_editing {f g : Form} (h : f.editing = g.editing) (d : Definition)
    (s : Settings) : f.file d s = g.file d s := by
  simp only [file, renamedFrom, h]

variable {f : Form} {e : Definition}

/-- A filed name stays filed, unless it is the one that the form gives up. -/
theorem isSome_file_of_ne (hf : f.editing = some e) {name : String} (hne : name ≠ e.name)
    {d : Definition} {s : Settings} (h : (s.events.get? name).isSome) :
    ((f.file d s).1.events.get? name).isSome := by
  have hold : f.renamedFrom d ≠ some name := by
    intro hren
    obtain ⟨e', he', rfl, -⟩ := renamedFrom_eq_some_iff.1 hren
    cases hf.symm.trans he'
    exact hne rfl
  rw [get?_file, if_neg hold]
  split
  · rfl
  · exact h

theorem isSome_fileAll_of_ne (hf : f.editing = some e) {name : String} (hne : name ≠ e.name)
    (ds : List Definition) {s : Settings} (h : (s.events.get? name).isSome) :
    ((f.fileAll ds s).events.get? name).isSome := by
  induction ds generalizing s with
  | nil => exact h
  | cons d ds ih => exact ih (isSome_file_of_ne hf hne h)

/-- What was filed under a new name remains. -/
theorem isSome_fileAll (hf : f.editing = some e) {ds : List Definition} {c : Definition}
    (hc : c ∈ ds) (hne : c.name ≠ e.name) (s : Settings) :
    ((f.fileAll ds s).events.get? c.name).isSome := by
  induction ds generalizing s with
  | nil => exact absurd hc List.not_mem_nil
  | cons d ds ih =>
    rcases List.mem_cons.1 hc with rfl | hc
    · refine isSome_fileAll_of_ne hf hne ds ?_
      rw [get?_file, if_pos rfl]
      rfl
    · exact ih hc (f.file d s).1

/-- **The last definition alone counts**, if those before it took no name but its own and the one
that the form gives up. -/
theorem file_fileAll (hf : f.editing = some e) {ds : List Definition} {d : Definition}
    (h : ∀ c ∈ ds, c.name = e.name ∨ c.name = d.name) (s : Settings) :
    (f.file d (f.fileAll ds s)).1 = (f.file d s).1 := by
  induction ds generalizing s with
  | nil => rfl
  | cons c ds ih =>
    have hc : c.name = d.name ∨ f.renamedFrom d = some c.name := by
      by_cases hname : c.name = d.name
      · exact .inl hname
      · have hold := (h c List.mem_cons_self).resolve_right hname
        exact .inr (renamedFrom_eq_some_iff.2 ⟨e, hf, hold.symm, hname⟩)
    rw [fileAll_cons, ih fun c' hc' => h c' (List.mem_cons_of_mem _ hc')]
    exact file_file_of_name hc s

end Form

/-! ### Rounds -/

/-- A form is changed and then submitted under a plan. -/
structure Round where
  changes : List FormStep
  plan : Plan

namespace Session

variable {σ : Type}

/-- Takes a form through rounds, and lists what the submissions answer. -/
def resubmit (s : Session) (store : ProjectStore σ) (form : Form) :
    List Round → Action σ (List (Except SetupError Definition) × Session × Form)
  | [] => return ([], s, form)
  | r :: rs => do
    let form ← liftM (form.run r.changes)
    let (answer, s, form) ← s.submit store form r.plan
    let (answers, s, form) ← s.resubmit store form rs
    return (answer :: answers, s, form)

theorem value_resubmit_cons (s : Session) (store : ProjectStore σ) (f : Form) (r : Round)
    (rs : List Round) (w : σ) :
    (s.resubmit store f (r :: rs) w).value =
      let first := (s.submit store (f.run r.changes).value r.plan w).value
      let later := (first.1.2.1.resubmit store first.1.2.2 rs first.2).value
      ((first.1.1 :: later.1.1, later.1.2), later.2) := by
  rw [resubmit, Action.value_bind, Action.value_liftM, Action.value_bind]
  rcases (s.submit store (f.run r.changes).value r.plan w).value with ⟨⟨answer, s₁, f₁⟩, w₁⟩
  dsimp only
  rw [Action.value_bind]
  rcases (s₁.resubmit store f₁ rs w₁).value with ⟨⟨answers, s₂, f₂⟩, w₂⟩
  rfl

variable {store : ProjectStore σ} {s s' : Session} {f f' : Form} {w w' : σ} {e : Definition}

/-- The first of some rounds that succeed, and the rounds behind it. -/
theorem of_resubmit_cons {r : Round} {rs : List Round} {ds : List Definition}
    (h : (s.resubmit store f (r :: rs) w).value = ((ds.map .ok, s', f'), w')) :
    ∃ d later s₁ f₁ w₁, ds = d :: later ∧
      (s.submit store (f.run r.changes).value r.plan w).value = ((.ok d, s₁, f₁), w₁) ∧
      (s₁.resubmit store f₁ rs w₁).value = ((later.map .ok, s', f'), w') := by
  rw [value_resubmit_cons] at h
  rcases hfirst : (s.submit store (f.run r.changes).value r.plan w).value with
    ⟨⟨answer, s₁, f₁⟩, w₁⟩
  rw [hfirst] at h
  obtain ⟨hanswered, hworld⟩ := Prod.mk.inj h
  obtain ⟨hanswers, hends⟩ := Prod.mk.inj hanswered
  cases ds with
  | nil => exact nomatch hanswers
  | cons d later =>
    obtain ⟨rfl, hlater⟩ := List.cons.inj hanswers
    exact ⟨d, later, s₁, f₁, w₁, rfl, rfl, Prod.ext (Prod.ext hlater hends) hworld⟩

/-- **Rounds that succeed** file what they answer, one definition after the other. -/
theorem settings_resubmit (hf : f.editing = some e) {rs : List Round} {ds : List Definition}
    (h : (s.resubmit store f rs w).value = ((ds.map .ok, s', f'), w')) {t : Settings}
    (ht : s.project.settings = some t) :
    s'.project.settings = some ((Form.edit e).fileAll ds t) := by
  induction rs generalizing s f w ds t with
  | nil =>
    have hds : ds = [] := List.map_eq_nil_iff.1 (congrArg (fun r => r.1.1) h).symm
    have hs : s = s' := congrArg (fun r => r.1.2.1) h
    rw [hds, ← hs]
    exact ht
  | cons r rs ih =>
    obtain ⟨d, later, s₁, f₁, w₁, rfl, hfirst, hlater⟩ := of_resubmit_cons h
    obtain ⟨sub, ho, rfl, hproject, rfl⟩ := of_submit_ok hfirst
    obtain ⟨-, t', ht', -, rfl⟩ := Form.outcome_eq_ok_iff.1 ho
    cases ht.symm.trans ht'
    have hediting : (f.run r.changes).value.checked.editing = some e :=
      (f.editing_run _).trans hf
    have hfiled : s₁.project.settings = some ((Form.edit e).file
        ((f.run r.changes).value.submission s.project t).definition t).1 := by
      rw [hproject, ← Form.file_eq_of_editing hediting]
      rfl
    rw [Form.fileAll_cons]
    exact ih hediting hlater hfiled

/-- The form of an event that is filed under its name is saved a number of times, as `d` at last.
**It stands for one event then** (there are no more events than before, and none of those it was
saved as is left under another name than that of `d`) exactly if it took no name but the one it
was opened under and that of `d`. -/
theorem stands_for_one_iff (he : s.project.event? e.name = some e) {rs : List Round}
    {ds : List Definition} {d : Definition}
    (h : (s.resubmit store (.edit e) rs w).value = (((ds ++ [d]).map .ok, s', f'), w')) :
    (s'.project.eventCount ≤ s.project.eventCount ∧
        ∀ c ∈ ds, c.name ≠ d.name → s'.project.event? c.name = none) ↔
      ∀ c ∈ ds, c.name = e.name ∨ c.name = d.name := by
  obtain ⟨t, ht, hfiled⟩ := Option.bind_eq_some_iff.1 he
  have hs' := settings_resubmit rfl h ht
  have hlookup (name : String) : s'.project.event? name =
      ((Form.edit e).fileAll (ds ++ [d]) t).events.get? name := by
    rw [Project.event?, hs', Option.bind_some]
  have hcount : s'.project.eventCount = ((Form.edit e).fileAll (ds ++ [d]) t).count := by
    rw [Project.eventCount, hs', Option.map_some, Option.getD_some]
  have hcount₀ : s.project.eventCount = t.count := by
    rw [Project.eventCount, ht, Option.map_some, Option.getD_some]
  constructor
  · rintro ⟨-, hgone⟩ c hc
    refine Classical.or_iff_not_imp_left.2 fun hne => Classical.byContradiction fun hd => ?_
    have hsome := Form.isSome_fileAll (f := .edit e) rfl (List.mem_append_left [d] hc) hne t
    rw [← hlookup, hgone c hc hd] at hsome
    exact nomatch hsome
  · intro hnames
    rw [Form.fileAll_concat, Form.file_fileAll rfl hnames] at hcount hlookup
    refine ⟨?_, fun c hc hne => ?_⟩
    · rw [hcount, hcount₀]
      refine Nat.not_lt.1 fun hlt => ?_
      exact nomatch hfiled.symm.trans ((Form.lt_count_file_iff rfl d t).1 hlt).1
    · have hold : c.name = e.name := (hnames c hc).resolve_right hne
      have hren : (Form.edit e).renamedFrom d = some c.name :=
        Form.renamedFrom_eq_some_iff.2 ⟨e, rfl, hold.symm, hne⟩
      rw [hlookup, Form.get?_file, if_neg hne, if_pos hren]

/-! ### Two new names -/

/-- A session on a project with one event. -/
def alone : Session where
  project := .sample "p1" ["Alpha"]

/-- The event. -/
def alpha : Definition where
  projectId := "p1"
  orgId := "o1"
  name := "Alpha"
  description := "Description of Alpha"

/-- The event as it is saved under a name. -/
def named (name : String) : Definition where
  projectId := "p1"
  orgId := "o1"
  name := name
  description := "The user asks about prices."

/-- The form of the event is saved under one name after the other, in a store that accepts all. -/
def saveAs (names : List String) :
    (List (Except SetupError Definition) × Session × Form) × MemoryStore :=
  let rounds := names.map fun name =>
    { changes := [.setValues { name, description := "The user asks about prices." }]
      plan := .hobby }
  (alone.resubmit MemoryStore.store (.edit alpha) rounds {}).value

/-- There is one event, filed under its own name.  Its form is saved under two new names, and in
the end there are two events: the form has left one behind under the first of them. -/
theorem stands_for_two :
    (∀ e ∈ (alone.project.settings.getD {}).events.entries, e.2.name = e.1) ∧
      alone.project.event? "Alpha" = some alpha ∧
      alone.project.eventCount = 1 ∧
      (saveAs ["Beta", "Gamma"]).1.1 = [.ok (named "Beta"), .ok (named "Gamma")] ∧
      (saveAs ["Beta", "Gamma"]).1.2.1.project.eventCount = 2 ∧
      (saveAs ["Beta", "Gamma"]).1.2.1.project.event? "Beta" = some (named "Beta") := by
  refine ⟨by decide +kernel, ?_, ?_, ?_, ?_, ?_⟩ <;> rfl

/-- With the old name in between, and the one new name at last, there is one event. -/
theorem stands_for_one_iff_saveAs :
    alone.project.event? alpha.name = some alpha ∧
      (saveAs ["Beta", "Alpha", "Beta"]).1.1 =
        ([named "Beta", named "Alpha"] ++ [named "Beta"]).map .ok ∧
      (saveAs ["Beta", "Alpha", "Beta"]).1.2.1.project.eventCount ≤ alone.project.eventCount ∧
      (saveAs ["Beta", "Alpha", "Beta"]).1.2.1.project.event? "Alpha" = none := by
  have hfiled : alone.project.event? alpha.name = some alpha := by rfl
  have hanswers : (saveAs ["Beta", "Alpha", "Beta"]).1.1 =
      ([named "Beta", named "Alpha"] ++ [named "Beta"]).map .ok := by rfl
  have hrun : saveAs ["Beta", "Alpha", "Beta"] =
      ((([named "Beta", named "Alpha"] ++ [named "Beta"]).map .ok,
        (saveAs ["Beta", "Alpha", "Beta"]).1.2.1, (saveAs ["Beta", "Alpha", "Beta"]).1.2.2),
        (saveAs ["Beta", "Alpha", "Beta"]).2) :=
    Prod.ext (Prod.ext hanswers rfl) rfl
  have hnames : ∀ c ∈ [named "Beta", named "Alpha"],
      c.name = alpha.name ∨ c.name = (named "Beta").name := by decide
  obtain ⟨hcount, hgone⟩ := (stands_for_one_iff hfiled hrun).2 hnames
  exact ⟨hfiled, hanswers, hcount, hgone (named "Alpha") (by decide) (by decide)⟩

end Session

end EventDetection
