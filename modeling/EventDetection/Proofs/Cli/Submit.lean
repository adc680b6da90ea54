import EventDetection.Proofs.Cli.Onboard
import EventDetection.Proofs.Platform.Project
import EventDetection.Proofs.Session.Submission

/-!
# Submitting from the command line

The command asks for the project, plans the submission of the form values on it, and sends the
project that results, once.  Whatever goes wrong before that, nothing is sent.

* `Command.Plans`: what has to be there for a submission: a configuration, the project, the event
  that is to be edited, the form values, and a plan.
* `Command.value_submit`: **all that the command does**, once what it plans is known.
* `Command.submit_settles`: what it sends, and when, what it prints, and when it succeeds.
* `Command.submit_sends_nothing`: a project that is loaded and cannot be sent, since its id makes
  the URL too long.
-/

namespace EventDetection.Cli.Command

open Http (Exchange Trace)
open Client (projectPath isAccepted)

/-! ### What is planned -/

/-- The form that a submission starts from: a new one, or that of an event of the project. -/
def Opens (p : Project) : (edit : Option String) → Form → Prop
  | none, form => form = .create none
  | some name, form => ∃ d, p.event? name = some d ∧ form = .edit d

theorem openForm_eq_ok_iff {p : Project} {project : String} {edit : Option String} {form : Form} :
    openForm p project edit = .ok form ↔ Opens p edit form := by
  unfold openForm Opens
  cases edit with
  | none => exact ⟨fun h => (Except.ok.inj h).symm, fun h => congrArg _ h.symm⟩
  | some name =>
    dsimp only
    rcases p.event? name with _ | d
    · exact iff_of_false nofun fun ⟨_, h, _⟩ => nomatch h
    · constructor
      · intro h
        exact ⟨d, rfl, (Except.ok.inj h).symm⟩
      · rintro ⟨_, h, rfl⟩
        obtain rfl := Option.some.inj h
        rfl

/-- What a submission needs.  There is a configuration, the project is loaded, the event that is to
be edited is one of its events, the file is read as form values, and they can be submitted. -/
def Plans (w : World) (project : String) (edit : Option String) (file : String) (trace : Trace)
    (config : Config) (p : Project) (sub : Submission) : Prop :=
  w.config.value = .ok config ∧ (w.platform config).Loads w.network trace project p ∧
    ∃ form values, Opens p edit form ∧ w.formValues file = .ok values ∧
      ({ form with values }.plan p config.plan).value.1 = .ok sub

/-- The plan of a submission, or why there is none. -/
def planned (w : World) (project : String) (edit : Option String) (file : String) (trace : Trace) :
    Except Failure (Config × Project × Submission) := do
  let config ← w.config.value
  let store := (w.platform config).projectStore w.network
  let p ← (store.load project trace).value.1.mapError .service
  let form ← openForm p project edit
  let values ← w.formValues file
  let sub ← ({ form with values }.plan p config.plan).value.1.mapError .setup
  return (config, p, sub)

theorem planned_eq_ok_iff {w : World} {project : String} {edit : Option String} {file : String}
    {trace : Trace} {config : Config} {p : Project} {sub : Submission} :
    planned w project edit file trace = .ok (config, p, sub) ↔
      Plans w project edit file trace config p sub := by
  unfold planned Plans
  simp only [Json.bind_eq_ok_iff, Json.mapError_eq_ok_iff, Client.load_eq_ok_iff,
    openForm_eq_ok_iff]
  constructor
  · rintro ⟨_, hconfig, _, hload, form, hform, values, hvalues, _, hplan, hpair⟩
    obtain ⟨rfl, rfl, rfl⟩ : _ = config ∧ _ = p ∧ _ = sub := by simpa using Except.ok.inj hpair
    exact ⟨hconfig, hload, form, values, hform, hvalues, hplan⟩
  · rintro ⟨hconfig, hload, form, values, hform, hvalues, hplan⟩
    exact ⟨config, hconfig, p, hload, form, hform, values, hvalues, sub, hplan, rfl⟩

/-- There is one plan at most. -/
theorem Plans.unique {w : World} {project : String} {edit : Option String} {file : String}
    {trace : Trace} {config config' : Config} {p p' : Project} {sub sub' : Submission}
    (h : Plans w project edit file trace config p sub)
    (h' : Plans w project edit file trace config' p' sub') :
    config' = config ∧ p' = p ∧ sub' = sub := by
  have hsame := (planned_eq_ok_iff.2 h').symm.trans (planned_eq_ok_iff.2 h)
  simpa using Except.ok.inj hsame

theorem id_next_of_plan {f : Form} {p : Project} {plan : Plan} {sub : Submission}
    (h : (f.plan p plan).value.1 = .ok sub) : sub.next.id = p.id := by
  rw [Form.value_plan] at h
  obtain ⟨-, s, -, -, rfl⟩ := Form.outcome_eq_ok_iff.1 h
  rfl

/-! ### The command -/

variable (w : World) (project : String) (edit : Option String) (file : String) (trace : Trace)

/-- The exchange by which the project is asked for, if there is a configuration. -/
def asking : Trace :=
  match w.config.value with
  | .ok config =>
    (w.platform config).exchange w.network trace .get (projectPath project) none
  | .error _ => []

/-- What is reported once the result was sent. -/
def savedReport (d : Definition) : Except String Unit → Report
  | .ok () => .json (Definition.codec.write d)
  | .error reason => .failure (.setup (.notSaved reason))

/-- **All that the command does**: it asks for the project, and if there is a plan then, it sends
what that results in. -/
theorem value_submit :
    (run w (.submit project edit file) trace).value =
      match planned w project edit file trace with
      | .error f => (.failure f, trace ++ asking w project trace)
      | .ok (config, _, sub) =>
        let saved := (((w.platform config).projectStore w.network).save sub.next
          (trace ++ asking w project trace)).value
        (savedReport sub.definition saved.1, saved.2) := by
  rw [run, Part.value_report, runSubmit, planned, asking]
  simp only [Part.value_bind, Part.value_ofLogged, Part.value_ofExcept, Part.value_ofAction_map,
    Session.value_load]
  rcases w.config.value with f | config
  · simp only [List.append_nil, Json.error_bind]
  · simp only [Json.ok_bind]
    rw [← Client.trace_load]
    generalize hstore : (w.platform config).projectStore w.network = store
    rcases (store.load project trace).value with ⟨reason | p, asked⟩
    · simp only [Except.map, Except.mapError, Json.error_bind]
    · simp only [Except.map, Except.mapError, Json.ok_bind]
      rcases openForm p project edit with f | form
      · simp only [Json.error_bind]
      · simp only [Json.ok_bind]
        rcases w.formValues file with f | values
        · simp only [Json.error_bind]
        · simp only [Json.ok_bind, Form.value_plan]
          rcases hplan : Form.outcome _ p config.plan with e | sub
          · rw [Session.value_submit_error hplan]
            rfl
          · rw [Session.value_submit_ok hplan]
            simp only [Json.ok_bind, pure, Except.pure]
            rw [hstore]
            rcases (store.save sub.next asked).value with ⟨reason | _, saved⟩ <;> rfl

/-- Without a plan nothing is sent. -/
theorem value_submit_of_not_plans {w : World} {project : String} {edit : Option String}
    {file : String} {trace : Trace}
    (h : ¬ ∃ config p sub, Plans w project edit file trace config p sub) :
    ∃ f, (run w (.submit project edit file) trace).value =
      (.failure f, trace ++ asking w project trace) := by
  rcases hplanned : planned w project edit file trace with f | ⟨config, p, sub⟩
  · refine ⟨f, ?_⟩
    rw [value_submit, hplanned]
  · exact absurd ⟨config, p, sub, planned_eq_ok_iff.1 hplanned⟩ h

/-- What is planned is sent, once. -/
theorem value_submit_of_plans {w : World} {project : String} {edit : Option String} {file : String}
    {trace : Trace} {config : Config} {p : Project} {sub : Submission}
    (h : Plans w project edit file trace config p sub) :
    (run w (.submit project edit file) trace).value =
      let asked := trace ++ asking w project trace
      let c := w.platform config
      (savedReport sub.definition ((c.projectStore w.network).save sub.next asked).value.1,
        asked ++ c.exchange w.network asked .post (projectPath p.id)
          (some (Project.codec.text sub.next))) := by
  rw [value_submit, planned_eq_ok_iff.2 h]
  obtain ⟨-, -, form, values, -, -, hplan⟩ := h
  dsimp only
  rw [Client.trace_save, id_next_of_plan hplan]

theorem mem_asking {e : Exchange} (h : e ∈ asking w project trace) :
    e.request.method = .get ∧ e.reply = w.network trace e.request ∧
      ∃ config, w.config.value = .ok config ∧
        (w.platform config).request .get (projectPath project) none = .ok e.request := by
  unfold asking at h
  split at h
  · next config hconfig =>
    obtain ⟨hrequest, hreply⟩ := Client.mem_exchange_iff.1 h
    exact ⟨Client.method_of_request hrequest, hreply, config, hconfig, hrequest⟩
  · exact absurd h List.not_mem_nil

theorem length_asking_le : (asking w project trace).length ≤ 1 := by
  unfold asking
  split
  · exact Client.length_exchange_le _ _ _ _ _ _
  · exact Nat.zero_le 1

theorem exitCode_failure (f : Failure) : (Report.failure f).exitCode ≠ 0 := by
  show (1 : UInt32) ≠ 0
  decide

/-- A report is a success, with the definition on the output, if the result was taken, and
otherwise a failure without any output. -/
theorem exitCode_savedReport (d : Definition) (saved : Except String Unit) :
    ((savedReport d saved).exitCode = 0 ↔ saved.isOk = true) ∧
      ((savedReport d saved).exitCode = 0 →
        savedReport d saved = .json (Definition.codec.write d)) ∧
      ((savedReport d saved).exitCode ≠ 0 → (savedReport d saved).out = "") := by
  cases saved with
  | ok _ => exact ⟨iff_of_true rfl rfl, fun _ => rfl, fun h => absurd rfl h⟩
  | error reason =>
    have hcode : (savedReport d (.error reason)).exitCode ≠ 0 := exitCode_failure _
    exact ⟨iff_of_false hcode nofun, fun h => absurd h hcode, fun _ => rfl⟩

/-- The command runs in any world, behind any trace, redirects aside.  **It asks for the project
at most once, and then sends at most one project.**  It sends one exactly if all that a submission
needs is there, and the URL fits; that is the project that the plan results in.  **It succeeds
exactly if the server takes what is sent**, and prints the definition then, and nothing otherwise.
-/
theorem submit_settles :
    ∃ report got sent,
      (run w (.submit project edit file) trace).value = (report, trace ++ got ++ sent) ∧
      got.length ≤ 1 ∧ sent.length ≤ 1 ∧
      (∀ e ∈ got, e.request.method = .get ∧ e.reply = w.network trace e.request ∧
        ∃ config, w.config.value = .ok config ∧
          (w.platform config).request .get (projectPath project) none = .ok e.request) ∧
      (∀ e ∈ sent, e.request.method = .post ∧ e.reply = w.network (trace ++ got) e.request) ∧
      (sent ≠ [] ↔ ∃ config p sub, Plans w project edit file trace config p sub ∧
        (w.platform config).Fits (projectPath p.id)) ∧
      (∀ config p sub, Plans w project edit file trace config p sub →
        (∀ e ∈ sent, e.request.body = some (Project.codec.text sub.next) ∧
          (w.platform config).request .post (projectPath p.id) e.request.body = .ok e.request) ∧
        (report.exitCode = 0 → report = .json (Definition.codec.write sub.definition))) ∧
      (report.exitCode = 0 ↔ ∃ e ∈ sent, isAccepted e.reply = true) ∧
      (report.exitCode ≠ 0 → report.out = "") := by
  by_cases hnone : ∃ config p sub, Plans w project edit file trace config p sub
  · obtain ⟨config, p, sub, hplans⟩ := hnone
    have ⟨_, ⟨r, _, _, hr, _⟩, form, values, _, _, hplan⟩ := hplans
    have hrun := value_submit_of_plans hplans
    dsimp only at hrun
    generalize hsaved : (((w.platform config).projectStore w.network).save sub.next
      (trace ++ asking w project trace)).value.1 = saved at hrun
    obtain ⟨hok, hjson, hempty⟩ := exitCode_savedReport sub.definition saved
    refine ⟨savedReport sub.definition saved, asking w project trace, _, hrun,
      length_asking_le w project trace, Client.length_exchange_le _ _ _ _ _ _,
      fun e he => mem_asking w project trace he, ?_, ?_, ?_, ?_, hempty⟩
    · intro e he
      obtain ⟨hrequest, hreply⟩ := Client.mem_exchange_iff.1 he
      exact ⟨Client.method_of_request hrequest, hreply⟩
    · rw [Client.exchange_ne_nil_iff, Client.exists_request_iff_fits hr]
      constructor
      · exact fun hfits => ⟨config, p, sub, hplans, hfits⟩
      · rintro ⟨config', p', sub', h, hfits⟩
        obtain ⟨rfl, rfl, rfl⟩ := hplans.unique h
        exact hfits
    · intro config' p' sub' h
      obtain ⟨rfl, rfl, rfl⟩ := hplans.unique h
      refine ⟨fun e he => ?_, hjson⟩
      obtain ⟨hrequest, -⟩ := Client.mem_exchange_iff.1 he
      have hbody := Client.body_of_request hrequest
      exact ⟨hbody, hbody ▸ hrequest⟩
    · rw [hok, ← hsaved, Client.isOk_save, id_next_of_plan hplan]
  · obtain ⟨f, hrun⟩ := value_submit_of_not_plans hnone
    refine ⟨.failure f, asking w project trace, [], ?_, length_asking_le w project trace,
      Nat.zero_le 1, fun e he => mem_asking w project trace he,
      fun e he => absurd he List.not_mem_nil, ?_, ?_, ?_, fun _ => rfl⟩
    · rw [hrun, List.append_nil]
    · exact iff_of_false (fun h => h rfl) fun ⟨_, _, _, h, _⟩ => hnone ⟨_, _, _, h⟩
    · exact fun _ _ _ h => absurd ⟨_, _, _, h⟩ hnone
    · exact iff_of_false (exitCode_failure f) fun ⟨e, he, _⟩ => List.not_mem_nil he

/-! ### A project that cannot be sent -/

/-- A project without events. -/
def bareProject (id : String) : Project where
  id := id
  orgId := "o1"
  settings := some {}

/-- The values of a new event. -/
def toneValues : FormValues where
  name := "Rude tone"
  description := "The assistant answers in a rude tone."

def toneForm : Form := { Form.create none with values := toneValues }

/-- A platform that answers everything with one project. -/
def bareWorld (id : String) : World where
  files path :=
    if path = "f.json" then .ok (FormValues.codec.text toneValues) else .error .notFound
  environment := localWorld.environment
  network _ _ := .answered 200 (.whole (Project.answerCodec.text (bareProject id)))

theorem files_bareWorld (id path : String) :
    (bareWorld id).files path =
      if path = "f.json" then .ok (FormValues.codec.text toneValues) else .error .notFound := rfl

theorem config_bareWorld (id : String) : (bareWorld id).config.value = .ok localConfig := by
  have hfile : (bareWorld id).files envFile = localWorld.files envFile := by
    rw [files_bareWorld, if_neg (by decide)]
    rfl
  have henvironment : (bareWorld id).fullEnvironment = localWorld.fullEnvironment := by
    rw [World.fullEnvironment, hfile]
    rfl
  rw [← config_localWorld, World.config, henvironment]
  rfl

theorem formValues_bareWorld (id : String) :
    (bareWorld id).formValues "f.json" = .ok toneValues := by
  have hread : FormValues.codec.read (FormValues.codec.text toneValues) = .ok toneValues := by
    refine Json.eq_ok_of_toOption ?_
    rw [Json.Codec.read, Json.Codec.text, Json.Value.compact, String.toList_ofList]
    decide +kernel
  rw [World.formValues, files_bareWorld, if_pos rfl]
  exact Json.bind_eq_ok_iff.2
    ⟨_, Json.mapError_eq_ok_iff.2 rfl, Json.mapError_eq_ok_iff.2 hread⟩

/-- The project is read back from the answer. -/
theorem read_bareProject (id : String) :
    Project.answerCodec.read (Project.answerCodec.text (bareProject id)) =
      .ok (bareProject id) := by
  have hnone {α : Type} (k : String) (v : α) : (Dict.empty : Dict α).get? k ≠ some v := by
    rw [Dict.get?_empty]
    exact nofun
  apply Client.read_answer
  · refine ⟨fun k v hv => absurd hv (hnone k v), fun s hs => ?_⟩
    obtain rfl := Option.some.inj hs
    exact ⟨fun k v hv => absurd hv (hnone k v), fun name d hd => absurd hd (hnone name d)⟩
  · refine Nat.lt_succ_of_le (Project.depth_write (fun k v hv => absurd hv (hnone k v)) ?_)
    intro s hs
    obtain rfl := Option.some.inj hs
    exact Settings.depth_write (fun k v hv => absurd hv (hnone k v))
      fun name d hd => absurd hd (hnone name d)

theorem plan_bareProject (id : String) :
    (toneForm.plan (bareProject id) .hobby).value.1 =
      .ok (toneForm.submission (bareProject id) {}) := by
  have hvalid : toneForm.values.violations = [] := by decide +kernel
  have hroom : Settings.count {} < Plan.hobby.quota := by decide
  have houtcome : toneForm.outcome (bareProject id) .hobby =
      .ok (toneForm.submission (bareProject id) {}) :=
    Form.outcome_eq_ok_iff.2 ⟨hvalid, {}, rfl, fun _ => hroom, rfl⟩
  rw [Form.value_plan]
  exact houtcome

/-- The client that is used there. -/
def localClient : Client := Client.ofAddress "http://[::1]" "secret"

theorem platform_bareWorld (id : String) : (bareWorld id).platform localConfig = localClient := rfl

theorem exists_request_localClient :
    ∃ r, localClient.request .get (projectPath "p1") none = .ok r := by
  have hok : (localClient.request .get (projectPath "p1") none).isOk = true := by decide +kernel
  exact Json.exists_of_isOk hok

/-- Everything that a submission needs is there. -/
theorem plans_bareWorld (id : String) :
    Plans (bareWorld id) "p1" none "f.json" [] localConfig (bareProject id)
      (toneForm.submission (bareProject id) {}) := by
  obtain ⟨r, hr⟩ := exists_request_localClient
  exact ⟨config_bareWorld id, ⟨r, 200, _, hr, rfl, by decide, read_bareProject id⟩,
    .create none, toneValues, rfl, formValues_bareWorld id, plan_bareProject id⟩

/-- An id that is a name of 65535 letters. -/
def longId : String := String.ofList (List.replicate 65535 'a')

theorem isName_replicate {n : Nat} (hn : n ≠ 0) : Url.IsName (List.replicate n 'a') := by
  obtain ⟨m, rfl⟩ := Nat.exists_eq_succ_of_ne_zero hn
  refine ⟨fun c hc => ?_, by simp [Url.isUp, List.replicate_succ],
    by simp [Url.isStay, List.replicate_succ]⟩
  obtain rfl := List.eq_of_mem_replicate hc
  decide

theorem not_fits_longId : ¬ localClient.Fits (projectPath longId) := by
  obtain ⟨r, hr⟩ := exists_request_localClient
  have hbase : localClient.base.toList =
      ['h', 't', 't', 'p', ':', '/', '/', '[', ':', ':', '1', ']'] := by
    rw [localClient, Client.ofAddress, String.toList_ofList]
    decide
  have htake : Url.takeScheme? (Url.joined (localClient.base.toList.dropWhile Url.isEnd)) =
      some (Url.http, ['/', '/', '[', ':', ':', '1', ']']) := by
    rw [hbase]
    decide
  have hlist : longId.toList = List.replicate 65535 'a' := String.toList_ofList
  have hlength : longId.toList.length = Client.maxUrlLength + 1 := by
    simp only [hlist, List.length_replicate, Client.maxUrlLength]
  refine Client.not_fits_of_length hr htake (.inl rfl) (by decide) (by decide) ?_ (by omega)
  exact hlist ▸ isName_replicate (by decide)

/-- Everything that a submission needs is there, and nothing is sent. -/
theorem submit_sends_nothing :
    (∃ config p sub, Plans (bareWorld longId) "p1" none "f.json" [] config p sub) ∧
      ∃ e, (run (bareWorld longId) (.submit "p1" none "f.json") []).value.2 = [e] ∧
        e.request.method = .get := by
  have hplans := plans_bareWorld longId
  obtain ⟨r, hr⟩ := exists_request_localClient
  have hasked : asking (bareWorld longId) "p1" [] = [⟨r, (bareWorld longId).network [] r⟩] := by
    rw [asking, config_bareWorld]
    dsimp only
    rw [platform_bareWorld, Client.exchange, hr]
  have hsent (trace : Trace) (body : Option String) :
      localClient.exchange (bareWorld longId).network trace .post
        (projectPath (bareProject longId).id) body = [] := by
    by_contra hsent
    have hrequest := Client.exchange_ne_nil_iff.1 hsent
    exact not_fits_longId ((Client.exists_request_iff_fits hr .post longId body).1 hrequest)
  refine ⟨⟨_, _, _, hplans⟩, ⟨r, (bareWorld longId).network [] r⟩, ?_,
    Client.method_of_request hr⟩
  rw [value_submit_of_plans hplans, hasked]
  dsimp only
  rw [platform_bareWorld, List.nil_append, hsent, List.append_nil]

end EventDetection.Cli.Command
