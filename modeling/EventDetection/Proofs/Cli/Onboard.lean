import EventDetection.Proofs.Cli.Part
import EventDetection.Proofs.Onboarding.Confirmation
import EventDetection.Proofs.Platform.Call

/-!
# Onboarding from the command line

The command selects a template, toggles every name that is to be skipped, and confirms.  The
events of a template fit, so that they are always sent.  But a name that is given twice is
toggled twice, and is not skipped then.

* `Command.keptEvents`: the events that are sent.
* `Command.value_onboard`: **all that the command does**, once there is a configuration.
* `Command.onboard_sends`: the same with what can be read from the request, and when it is what
  was asked for.
* `Command.onboard_skips_nothing`: an event that is to be skipped, twice, and is sent.
-/

namespace EventDetection.Cli.Command

open Http (Trace)

/-- The events of a template but for those whose name is given an odd number of times. -/
def keptEvents (project org template : String) (skip : List String) : List Definition :=
  ((Template.named template).definitions project org).filter fun d => skip.count d.name % 2 = 0

/-- The selection that is confirmed. -/
def toggled (config : Config) (project org template : String) (skip : List String)
    (taskId : Option String) : Onboarding :=
  skip.foldl Onboarding.toggle <| Onboarding.setCandidates
    { projectId := project, orgId := org, taskId
      telemetryProjectId := config.telemetryProjectId, template := some (Template.named template) }
    ((Template.named template).definitions project org)

/-- The exchange by which events are added. -/
def addition (w : World) (config : Config) (project : String) (events : List Definition)
    (trace : Trace) : Trace :=
  (w.platform config).exchange w.network trace .post (Client.addEventsPath project)
    (some (Client.addEventsBody events))

/-- The exchange by which feedback is sent, if there is a key for it and something to say. -/
def telling (w : World) (config : Config) (feedback : Option Feedback) (trace : Trace) : Trace :=
  match config.telemetryKey with
  | none => []
  | some key =>
    match feedback with
    | none => []
    | some f =>
      (Client.ofAddress config.telemetryUrl key).exchange w.network trace .post
        (Client.flagPath f.taskId) (some (Feedback.codec.text f))

/-- The feedback on what was kept, if there is a task that it belongs to. -/
def feedbackOf (config : Config) (taskId : Option String) (events : List Definition) :
    Option Feedback :=
  taskId.map fun t => .onSelection t config.telemetryProjectId events

variable {w : World} {config : Config}

/-! ### The selection -/

section Selection

variable (config : Config) (project org template : String) (skip : List String)
  (taskId : Option String)

/-- What is sent is kept apart from what is skipped, unless a name that is to be skipped is given an
even number of times. -/
theorem keptEvents_eq_iff :
    keptEvents project org template skip =
        ((Template.named template).definitions project org).filter (fun d => d.name ∉ skip) ↔
      ∀ d ∈ (Template.named template).definitions project org, d.name ∈ skip →
        skip.count d.name % 2 = 1 := by
  constructor
  · intro heq d hd hname
    by_contra hodd
    have heven : skip.count d.name % 2 = 0 := by omega
    have hkept : d ∈ keptEvents project org template skip :=
      List.mem_filter.2 ⟨hd, decide_eq_true heven⟩
    rw [heq] at hkept
    exact of_decide_eq_true (List.mem_filter.1 hkept).2 hname
  · intro hodd
    refine List.filter_congr fun d hd => ?_
    rw [decide_eq_decide]
    by_cases hname : d.name ∈ skip
    · have hcount := hodd d hd hname
      exact iff_of_false (by omega) (not_not_intro hname)
    · rw [List.count_eq_zero_of_not_mem hname]
      exact iff_of_true rfl hname

/-- What is sent is read back from the body of the request. -/
theorem read_keptEvents :
    Client.addedCodec.read (Client.addEventsBody (keptEvents project org template skip)) =
      .ok (keptEvents project org template skip) := by
  refine Client.read_addEventsBody fun d hd => ?_
  have hothers := Template.others_of_mem (List.mem_filter.1 hd).1
  have hnone (k : String) (v : Json.Value) : d.others.get? k ≠ some v := by
    rw [hothers, Dict.get?_empty]
    exact nofun
  exact ⟨fun k v hv => absurd hv (hnone k v), fun k v hv => absurd hv (hnone k v)⟩

theorem value_selection :
    (selection config project org template skip taskId).value =
      toggled config project org template skip taskId := rfl

theorem selected_toggled :
    (toggled config project org template skip taskId).selected =
      keptEvents project org template skip :=
  Onboarding.selected_foldl_toggle _ _ _

/-- Every event of a template fits, and so does what is left of it. -/
theorem sends_toggled : (toggled config project org template skip taskId).Sends := by
  constructor
  · rw [toggled, Onboarding.candidates_foldl_toggle]
    cases Template.named template <;> exact List.cons_ne_nil _ _
  · intro d hd
    rw [selected_toggled, keptEvents] at hd
    exact Template.violations_of_mem (List.mem_filter.1 hd).1

/-- What is answered, and the feedback that is on its way. -/
theorem outcome_toggled (saved : Except String Unit) :
    ((toggled config project org template skip taskId).outcome saved).redirectTo =
        "/onboarding/plan" ∧
      ((toggled config project org template skip taskId).outcome saved).feedback =
        feedbackOf config taskId (keptEvents project org template skip) := by
  have hfeedback : ((toggled config project org template skip taskId).outcome saved).feedback =
      ((toggled config project org template skip taskId).feedbackOn
        (toggled config project org template skip taskId).selected).value := rfl
  rw [hfeedback, selected_toggled, toggled, Onboarding.foldl_toggle_eq]
  cases taskId <;> exact ⟨rfl, rfl⟩

end Selection

/-! ### The command -/

theorem trace_emit (w : World) (config : Config) (r : Outcome) (trace : Trace) :
    (r.emit (w.feedbackSink config) trace).value.2 =
      trace ++ telling w config r.feedback trace := by
  rw [Onboarding.value_emit, World.feedbackSink, telling]
  cases config.telemetryKey with
  | none => cases r.feedback <;> exact (List.append_nil trace).symm
  | some key =>
    cases r.feedback with
    | none => exact (List.append_nil trace).symm
    | some f =>
      dsimp only
      rw [Client.trace_feedbackSink]

theorem trace_addEvents (w : World) (config : Config) (project : String)
    (events : List Definition) (trace : Trace) :
    (((w.platform config).eventSink w.network).addEvents project events trace).value.2 =
      trace ++ addition w config project events trace :=
  Client.trace_eventSink (w.platform config) w.network project events trace

/-- **All that the command does**: it adds the events that are kept, then sends the feedback on
them, and goes on to the next page. -/
theorem value_onboard (hconfig : w.config.value = .ok config) (project org template : String)
    (skip : List String) (taskId : Option String) (trace : Trace) :
    ∃ err, (run w (.onboard project org template skip taskId) trace).value =
      let events := keptEvents project org template skip
      let added := addition w config project events trace
      ({ out := "/onboarding/plan\n", err },
        trace ++ added ++ telling w config (feedbackOf config taskId events) (trace ++ added)) := by
  have hconfirm := Onboarding.value_confirmAndEmit_of_sends
    (sends_toggled config project org template skip taskId)
    ((w.platform config).eventSink w.network) (w.feedbackSink config) trace
  have hproject : (toggled config project org template skip taskId).projectId = project := by
    rw [toggled, Onboarding.foldl_toggle_eq]
    rfl
  rw [hproject, selected_toggled] at hconfirm
  dsimp only at hconfirm
  obtain ⟨hredirect, hfeedback⟩ := outcome_toggled config project org template skip taskId
    (((w.platform config).eventSink w.network).addEvents project
      (keptEvents project org template skip) trace).value.1
  rw [trace_emit, hfeedback, trace_addEvents] at hconfirm
  rw [run, Part.value_report, runOnboard]
  simp only [Part.value_bind, Part.value_ofLogged, hconfig, Part.value_always, value_selection,
    Part.value_ofAction, hconfirm]
  simp only [Except.mapError, Part.value_pure, hredirect]
  exact ⟨_, rfl⟩

/-- The command runs with any configuration, behind any trace and on any network, redirects aside.
**It adds the events of the template, in their order, in one request**, if a request can be made at
all, then sends feedback if it is to, and is never refused for what the events violate.  It leaves
out what is to be skipped **exactly if** each event that is to be skipped is named an odd number of
times. -/
theorem onboard_sends (hconfig : w.config.value = .ok config) (project org template : String)
    (skip : List String) (taskId : Option String) (trace : Trace) :
    ∃ err added told,
      (run w (.onboard project org template skip taskId) trace).value =
        ({ exitCode := 0, out := "/onboarding/plan\n", err }, trace ++ added ++ told) ∧
      added = addition w config project (keptEvents project org template skip) trace ∧
      added.length =
        (if ((w.platform config).request .post (Client.addEventsPath project) none).isOk
          then 1 else 0) ∧
      (∀ e ∈ added, ∃ body, e.request.body = some body ∧
        Client.addedCodec.read body = .ok (keptEvents project org template skip)) ∧
      told = telling w config (feedbackOf config taskId (keptEvents project org template skip))
        (trace ++ added) ∧
      (keptEvents project org template skip =
          ((Template.named template).definitions project org).filter (fun d => d.name ∉ skip) ↔
        ∀ d ∈ (Template.named template).definitions project org, d.name ∈ skip →
          skip.count d.name % 2 = 1) := by
  obtain ⟨err, hrun⟩ := value_onboard hconfig project org template skip taskId trace
  refine ⟨err, _, _, hrun, rfl, Client.length_exchange _ _ _ _ _ _, fun e he => ?_, rfl,
    keptEvents_eq_iff project org template skip⟩
  exact ⟨_, Client.body_of_mem_exchange he, read_keptEvents project org template skip⟩

/-! ### A name that is given twice -/

/-- A platform behind a local address, which takes everything. -/
def localWorld : World where
  files _ := .error .notFound
  environment := (Dict.empty.insert "PLATFORM_API_URL" "http://[::1]").insert
    "PLATFORM_ACCESS_TOKEN" "secret"
  network _ _ := .answered 200 (.whole "")

/-- The configuration that is read there. -/
def localConfig : Config where
  platformUrl := "http://[::1]"
  accessToken := "secret"
  telemetryUrl := Config.defaultTelemetryUrl
  telemetryKey := none
  telemetryProjectId := Config.defaultTelemetryProjectId
  rollback := false
  plan := .hobby

theorem config_localWorld : localWorld.config.value = .ok localConfig := rfl

theorem isOk_request_localWorld :
    ((localWorld.platform localConfig).request .post (Client.addEventsPath "p1") none).isOk =
      true := by
  decide +kernel

/-- One name is skipped, and the other three events are sent in one request. -/
theorem onboard_sends_localWorld :
    localWorld.config.value = .ok localConfig ∧
      ∃ e body events,
        (run localWorld (.onboard "p1" "o1" "Text generation" ["Toxic content"] none) []).value.2 =
          [e] ∧
        e.request.body = some body ∧ Client.addedCodec.read body = .ok events ∧
        events.map (·.name) = ["Sounds robotic", "Repetitive output", "Positive sentiment"] := by
  obtain ⟨err, added, told, hrun, -, hlength, hbody, htold, -⟩ := onboard_sends config_localWorld
    "p1" "o1" "Text generation" ["Toxic content"] none []
  rw [isOk_request_localWorld, if_pos rfl] at hlength
  obtain ⟨e, rfl⟩ := List.length_eq_one_iff.1 hlength
  obtain ⟨body, hrequest, hread⟩ := hbody e List.mem_cons_self
  refine ⟨config_localWorld, e, body, _, ?_, hrequest, hread, by decide +kernel⟩
  rw [hrun, htold]
  rfl

/-- An event that is to be skipped, twice, is sent. -/
theorem onboard_skips_nothing :
    ∃ e body events,
      (run localWorld (.onboard "p1" "o1" "Text generation" ["Toxic content", "Toxic content"]
        none) []).value.2 = [e] ∧
      e.request.body = some body ∧ Client.addedCodec.read body = .ok events ∧
      "Toxic content" ∈ events.map (·.name) := by
  obtain ⟨err, hrun⟩ := value_onboard config_localWorld "p1" "o1" "Text generation"
    ["Toxic content", "Toxic content"] none []
  have hlength := Client.length_exchange (localWorld.platform localConfig) localWorld.network []
    .post (Client.addEventsPath "p1")
    (some (Client.addEventsBody (keptEvents "p1" "o1" "Text generation"
      ["Toxic content", "Toxic content"])))
  rw [isOk_request_localWorld, if_pos rfl] at hlength
  obtain ⟨e, he⟩ := List.length_eq_one_iff.1 hlength
  have hmem := he ▸ List.mem_cons_self
  refine ⟨e, _, _, ?_, Client.body_of_mem_exchange hmem, read_keptEvents _ _ _ _,
    by decide +kernel⟩
  rw [hrun]
  dsimp only
  rw [addition, he]
  rfl

end EventDetection.Cli.Command
