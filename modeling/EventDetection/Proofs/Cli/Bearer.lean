import EventDetection.Proofs.Browse.View
import EventDetection.Proofs.Cli.Submit
import EventDetection.Proofs.Config.Secrets
import EventDetection.Proofs.Platform.Answer

/-!
# The tokens of requests

Every request to the platform carries the token that the environment sets, and every request to the
telemetry service carries the key.  Without a token there is no configuration, and a command to the
platform fails before it sends anything.  But an empty token is taken for one, unlike an empty key:
then a command goes on and sends its requests without a token.

* `Command.opening?`: the request that a command to the platform starts with.
* `Command.Sends`: what a command sends once there is a configuration, and how it ends.
* `Command.exists_sends`: **every command does this.**
* `Command.value_of_no_config`: without a configuration nothing is sent.
* `Command.needsToken_iff`: when a command needs a token, on any command line.
* `Command.onboard_without_token`: a command that succeeds without a token.
-/

namespace EventDetection

open Http (Exchange Method Network Trace)

namespace Client

variable {c : Client} {network : Network} {trace : Trace} {method : Method} {path : String}
  {body : Option String} {e : Exchange}

/-- The request of an exchange is one that the client makes. -/
def Sent (c : Client) (e : Exchange) : Prop :=
  ∃ path, c.request e.request.method path e.request.body = .ok e.request

theorem sent_of_mem_exchange (h : e ∈ c.exchange network trace method path body) : c.Sent e := by
  obtain ⟨hrequest, -⟩ := mem_exchange_iff.1 h
  refine ⟨path, ?_⟩
  rw [method_of_request hrequest, body_of_request hrequest]
  exact hrequest

theorem Sent.token_eq (h : c.Sent e) : e.request.token = c.token := by
  obtain ⟨path, hrequest⟩ := h
  obtain ⟨u, -, -, -, -, hr⟩ := request_eq_ok_iff.1 hrequest
  rw [hr]

/-- Whether a call sends something does not depend on its body. -/
theorem exchange_ne_nil_iff_bare :
    c.exchange network trace method path body ≠ [] ↔
      ∃ r, c.request method path none = .ok r := by
  have hbare : c.exchange network trace method path none ≠ [] ↔
      ∃ r, c.request method path none = .ok r := exchange_ne_nil_iff
  rw [← hbare, ← List.length_pos_iff, ← List.length_pos_iff, length_exchange, length_exchange]

/-! ### Browsing behind a client -/

/-- What the source behind a client answers, and what it sends for it. -/
theorem value_clusterings (c : Client) (network : Network) (id : String) (trace : Trace) :
    ((c.clusterSource network).clusterings id trace).value =
      (reason (((c.request .post (clusteringsPath id) none).bind fun r =>
          accept r.url (network trace r)).bind (readBody Clustering.answerCodec)),
        trace ++ c.exchange network trace .post (clusteringsPath id) none) := by
  have hcall := Operation.value_run c network (.listClusterings id) trace
  rw [Operation.run] at hcall
  rw [clusterSource]
  generalize c.listClusterings network = list at hcall ⊢
  show (reason (list id trace).value.1, (list id trace).value.2) = _
  rw [hcall]
  rfl

theorem trace_clusters (c : Client) (network : Network) (id clusteringId : String)
    (trace : Trace) :
    ((c.clusterSource network).clusters id clusteringId trace).value.2 =
      trace ++ c.exchange network trace .post (clustersPath id)
        (some (clustersBody clusteringId)) := by
  have hcall := Operation.value_run c network (.listClusters id clusteringId) trace
  rw [Operation.run] at hcall
  rw [clusterSource]
  generalize c.listClusters network = list at hcall ⊢
  show (list id clusteringId trace).value.2 = _
  rw [hcall]
  rfl

/-- Browsing asks for the clusterings, and maybe for clusters then.  It fails if it cannot ask for
the clusterings. -/
theorem sends_browse (c : Client) (network : Network) (id : String)
    (clusteringId : Option String) (trace : Trace) :
    ∃ answer more, ((c.clusterSource network).browse id clusteringId trace).value =
        (answer, trace ++ c.exchange network trace .post (clusteringsPath id) none ++ more) ∧
      (∀ e ∈ more, c.Sent e) ∧
      (c.exchange network trace .post (clusteringsPath id) none = [] →
        more = [] ∧ ∃ reason, answer = .error reason) := by
  have hlisted := value_clusterings c network id trace
  rcases hr : c.request .post (clusteringsPath id) none with e | r
  · rw [hr] at hlisted
    refine ⟨.error e.message, [], ?_, fun _ he => absurd he List.not_mem_nil,
      fun _ => ⟨rfl, _, rfl⟩⟩
    rw [List.append_nil]
    exact ClusterSource.value_browse_of_error clusteringId hlisted
  · have hsent : c.exchange network trace .post (clusteringsPath id) none ≠ [] :=
      exchange_ne_nil_iff.2 ⟨r, hr⟩
    rcases hanswer : ((c.clusterSource network).clusterings id trace).value with ⟨reason | cs, w⟩
    · obtain rfl : _ = w := congrArg Prod.snd (hlisted.symm.trans hanswer)
      refine ⟨.error reason, [], ?_, fun _ he => absurd he List.not_mem_nil,
        fun hnone => absurd hnone hsent⟩
      rw [List.append_nil]
      exact ClusterSource.value_browse_of_error clusteringId hanswer
    · obtain rfl : _ = w := congrArg Prod.snd (hlisted.symm.trans hanswer)
      rcases lacking_or_chosen clusteringId cs with hlacking | ⟨clustering, hchosen⟩
      · refine ⟨.ok none, [], ?_, fun _ he => absurd he List.not_mem_nil,
          fun hnone => absurd hnone hsent⟩
        rw [List.append_nil]
        exact ClusterSource.value_browse_of_lacking hanswer hlacking
      · have hbrowse := ClusterSource.value_browse_of_chosen hanswer hchosen
        dsimp only at hbrowse
        rw [trace_clusters] at hbrowse
        exact ⟨_, _, hbrowse, fun _ he => sent_of_mem_exchange he,
          fun hnone => absurd hnone hsent⟩

end Client

namespace Cli.Command

variable {w : World} {c : Command} {config : Config} {trace : Trace} {method : Method}
  {path : String} {report : Report} {asked told : Trace}

/-! ### What a command sends -/

/-- The request that a command to the platform starts with. -/
def opening? : Command → Option (Method × String)
  | .submit project _ _ => some (.get, Client.projectPath project)
  | .onboard project _ _ _ _ => some (.post, Client.addEventsPath project)
  | .clusters project _ _ _ => some (.post, Client.clusteringsPath project)
  | .templates .. | .starters .. | .validate _ => none

/-- Onboarding goes on to the next page, whatever comes of its requests. -/
def goesOn : Command → Bool
  | .onboard .. => true
  | _ => false

/-- What a command to the platform does once there is a configuration.  It asks the platform, then
maybe tells the telemetry service something.  It starts with its opening request if that can be
made.  If not, it sends nothing and fails, unless it goes on in any case. -/
structure Sends (w : World) (config : Config) (c : Command) (method : Method) (path : String)
    (trace : Trace) (report : Report) (asked told : Trace) : Prop where
  value : (c.run w trace).value = (report, trace ++ asked ++ told)
  to_platform : ∀ e ∈ asked, (w.platform config).Sent e
  to_telemetry : ∀ e ∈ told, ∃ key, config.telemetryKey = some key ∧
    (Client.ofAddress config.telemetryUrl key).Sent e
  asks_iff : asked ≠ [] ↔ ∃ r, (w.platform config).request method path none = .ok r
  fails : c.goesOn = false → asked = [] → report.exitCode ≠ 0 ∧ told = []
  succeeds : c.goesOn = true → report.exitCode = 0

/-- A command that asks the platform only, and fails if it cannot. -/
theorem sends_of_opening {more : Trace} (hstops : c.goesOn = false)
    (hvalue : (c.run w trace).value = (report,
      trace ++ (w.platform config).exchange w.network trace method path none ++ more))
    (hmore : ∀ e ∈ more, (w.platform config).Sent e)
    (hfails : (w.platform config).exchange w.network trace method path none = [] →
      more = [] ∧ report.exitCode ≠ 0) :
    ∃ report asked told, Sends w config c method path trace report asked told := by
  generalize hfirst : (w.platform config).exchange w.network trace method path none = first
    at hvalue hfails
  have hasks : first ≠ [] ↔ ∃ r, (w.platform config).request method path none = .ok r := by
    rw [← hfirst]
    exact Client.exchange_ne_nil_iff
  refine ⟨report, first ++ more, [], ?_, ?_, ?_, ?_, ?_, ?_⟩
  · rw [hvalue, List.append_nil, List.append_assoc]
  · intro e he
    rcases List.mem_append.1 he with he | he
    · exact Client.sent_of_mem_exchange (hfirst ▸ he)
    · exact hmore e he
  · intro e he
    exact absurd he List.not_mem_nil
  · rw [← hasks]
    by_cases hnone : first = []
    · obtain ⟨rfl, -⟩ := hfails hnone
      rw [List.append_nil]
    · exact iff_of_true (fun h => hnone (List.append_eq_nil_iff.1 h).1) hnone
  · intro _ hempty
    obtain ⟨hnone, -⟩ := List.append_eq_nil_iff.1 hempty
    exact ⟨(hfails hnone).2, rfl⟩
  · intro hgoes
    rw [hstops] at hgoes
    cases hgoes

theorem exists_sends_submit (hconfig : w.config.value = .ok config) (project : String)
    (edit : Option String) (file : String) (trace : Trace) :
    ∃ report asked told, Sends w config (.submit project edit file) .get
      (Client.projectPath project) trace report asked told := by
  have hasking : asking w project trace =
      (w.platform config).exchange w.network trace .get (Client.projectPath project) none := by
    rw [asking, hconfig]
  by_cases hplans : ∃ config p sub, Plans w project edit file trace config p sub
  · obtain ⟨config', p, sub, hplans⟩ := hplans
    obtain rfl : config = config' := Except.ok.inj (hconfig.symm.trans hplans.1)
    have hvalue := value_submit_of_plans hplans
    dsimp only at hvalue
    rw [hasking] at hvalue
    refine sends_of_opening rfl hvalue (fun e he => Client.sent_of_mem_exchange he) fun hnone => ?_
    -- the project was loaded, so that it was asked for
    obtain ⟨-, ⟨r, _, _, hr, -⟩, -⟩ := hplans
    exact absurd hnone (Client.exchange_ne_nil_iff.2 ⟨r, hr⟩)
  · obtain ⟨f, hvalue⟩ := value_submit_of_not_plans hplans
    rw [hasking, ← List.append_nil (_ ++ _)] at hvalue
    exact sends_of_opening rfl hvalue (fun e he => absurd he List.not_mem_nil)
      fun _ => ⟨rfl, exitCode_failure f⟩

theorem exists_sends_onboard (hconfig : w.config.value = .ok config)
    (project org template : String) (skip : List String) (taskId : Option String)
    (trace : Trace) :
    ∃ report asked told, Sends w config (.onboard project org template skip taskId) .post
      (Client.addEventsPath project) trace report asked told := by
  obtain ⟨err, hvalue⟩ := value_onboard hconfig project org template skip taskId trace
  refine ⟨_, _, _, hvalue, ?_, ?_, Client.exchange_ne_nil_iff_bare, ?_, ?_⟩
  · intro e he
    exact Client.sent_of_mem_exchange he
  · intro e he
    unfold telling at he
    split at he
    · exact absurd he List.not_mem_nil
    · next key hkey =>
      split at he
      · exact absurd he List.not_mem_nil
      · exact ⟨key, hkey, Client.sent_of_mem_exchange he⟩
  · exact nofun
  · intro _
    rfl

theorem exists_sends_clusters (hconfig : w.config.value = .ok config) (project : String)
    (clustering : Option String) (seed : Bool) (org : String) (trace : Trace) :
    ∃ report asked told, Sends w config (.clusters project clustering seed org) .post
      (Client.clusteringsPath project) trace report asked told := by
  obtain ⟨answer, more, hbrowse, hmore, hfails⟩ :=
    Client.sends_browse (w.platform config) w.network project clustering trace
  have hvalue : (run w (.clusters project clustering seed org) trace).value =
      ((match answer with
        | .ok view => clustersReport project org seed view
        | .error reason => .failure (.service reason)),
        trace ++ (w.platform config).exchange w.network trace .post
          (Client.clusteringsPath project) none ++ more) := by
    rw [run, Part.value_report, runClusters]
    simp only [Part.value_bind, Part.value_ofLogged, hconfig, Part.value_ofAction, hbrowse]
    cases answer <;> rfl
  refine sends_of_opening rfl hvalue hmore fun hnone => ?_
  obtain ⟨hmore, reason, rfl⟩ := hfails hnone
  exact ⟨hmore, exitCode_failure _⟩

/-- **What a command to the platform sends**, with any configuration. -/
theorem exists_sends (hconfig : w.config.value = .ok config)
    (hopen : c.opening? = some (method, path)) (trace : Trace) :
    ∃ report asked told, Sends w config c method path trace report asked told := by
  cases c with
  | submit project edit file =>
    cases hopen
    exact exists_sends_submit hconfig project edit file trace
  | onboard project org template skip taskId =>
    cases hopen
    exact exists_sends_onboard hconfig project org template skip taskId trace
  | clusters project clustering seed org =>
    cases hopen
    exact exists_sends_clusters hconfig project clustering seed org trace
  | templates | starters | validate => cases hopen

/-! ### Without a configuration -/

theorem value_report_of_no_config {f : Failure} (hconfig : w.config.value = .error f)
    (k : Config → Part Report) (trace : Trace) :
    ((Part.ofLogged w.config >>= k).report trace).value = (.failure f, trace) := by
  rw [Part.value_report, Part.value_bind, Part.value_ofLogged, hconfig]

/-- **Without a configuration nothing is sent**, to no service at all. -/
theorem value_of_no_config {f : Failure} (hconfig : w.config.value = .error f)
    (hopen : c.opening? = some (method, path)) (trace : Trace) :
    (c.run w trace).value = (.failure f, trace) := by
  cases c with
  | submit => exact value_report_of_no_config hconfig _ trace
  | onboard => exact value_report_of_no_config hconfig _ trace
  | clusters => exact value_report_of_no_config hconfig _ trace
  | templates | starters | validate => cases hopen

theorem value_config (w : World) :
    w.config.value = (Config.load w.fullEnvironment).value.mapError .config := rfl

/-- There is a configuration exactly if an address and a token are set, be they empty or not. -/
theorem config_or_missing (w : World) :
    (∃ url token, w.fullEnvironment.get? "PLATFORM_API_URL" = some url ∧
        w.fullEnvironment.get? "PLATFORM_ACCESS_TOKEN" = some token ∧
        w.config.value = .ok (Config.given w.fullEnvironment url token)) ∨
      (w.fullEnvironment.get? "PLATFORM_API_URL" = none ∨
          w.fullEnvironment.get? "PLATFORM_ACCESS_TOKEN" = none) ∧
        ∃ e, w.config.value = .error (.config e) := by
  rcases hurl : w.fullEnvironment.get? "PLATFORM_API_URL" with _ | url
  · refine .inr ⟨.inl rfl, .missing "PLATFORM_API_URL", ?_⟩
    rw [value_config, Config.load_of_no_url hurl]
    rfl
  · rcases htoken : w.fullEnvironment.get? "PLATFORM_ACCESS_TOKEN" with _ | token
    · refine .inr ⟨.inr rfl, .missing "PLATFORM_ACCESS_TOKEN", ?_⟩
      rw [value_config, Config.load_of_no_token hurl htoken]
      rfl
    · refine .inl ⟨url, token, rfl, rfl, ?_⟩
      rw [value_config, Config.load_of_some hurl htoken]
      rfl

/-! ### The need for a token -/

/-- A token is needed: every request to the platform carries one, and if it is not set or empty, the
command fails and sends nothing to any service. -/
structure NeedsToken (env : Environment) (report : Report) (asked told : Trace) : Prop where
  carried : ∀ e ∈ asked, e.request.token ≠ ""
  refused : (env.get? "PLATFORM_ACCESS_TOKEN").getD "" = "" →
    report.exitCode ≠ 0 ∧ asked = [] ∧ told = []

/-- A command that fails before it sends anything. -/
theorem needsToken_of_failure (env : Environment) (f : Failure) :
    NeedsToken env (.failure f) [] [] where
  carried _ he := absurd he List.not_mem_nil
  refused _ := ⟨exitCode_failure f, rfl, rfl⟩

/-- Once there is a configuration, only the empty token is not refused, and only if it can be sent
or the command goes on in any case. -/
theorem Sends.needs_iff {env : Environment} {url token : String}
    (h : Sends w (.given env url token) c method path trace report asked told)
    (htoken : env.get? "PLATFORM_ACCESS_TOKEN" = some token) :
    NeedsToken env report asked told ↔
      ¬ (token = "" ∧ (c.goesOn = true ∨
        ∃ r, (Client.ofAddress url token).request method path none = .ok r)) := by
  have hasks : asked ≠ [] ↔
      ∃ r, (Client.ofAddress url token).request method path none = .ok r := h.asks_iff
  rw [← hasks]
  by_cases hempty : token = ""
  · have hunset : (env.get? "PLATFORM_ACCESS_TOKEN").getD "" = "" := by rw [htoken, hempty]; rfl
    constructor
    · rintro hneeds ⟨-, hgoes | hasked⟩
      · exact (hneeds.refused hunset).1 (h.succeeds hgoes)
      · exact hasked (hneeds.refused hunset).2.1
    · intro hrefused
      have hasked : asked = [] := by
        by_contra hasked
        exact hrefused ⟨hempty, .inr hasked⟩
      have hstops : c.goesOn = false := by
        by_contra hgoes
        exact hrefused ⟨hempty, .inl (Bool.eq_true_of_not_eq_false hgoes)⟩
      obtain ⟨hcode, htold⟩ := h.fails hstops hasked
      exact ⟨fun e he => absurd (hasked ▸ he) List.not_mem_nil, fun _ => ⟨hcode, hasked, htold⟩⟩
  · refine iff_of_true ⟨fun e he => ?_, fun hunset => ?_⟩ fun h => hempty h.1
    · rw [(h.to_platform e he).token_eq]
      exact hempty
    · rw [htoken] at hunset
      exact absurd hunset hempty

/-- A command line asks for a command to the platform.  The command runs in any world: with any
files and variables, on any network, redirects aside, and behind any trace.

Every request to the platform carries the token that is set, and every one to the telemetry service
a key that is set and not empty.  The platform is asked exactly if an address and a token are set
and a request can be made of them.  If no token is set, the command fails for its configuration, and
nothing is sent to any service.  **A token is needed exactly if it is not set to the empty text**, or
if there is no address, or no request can be made of it and the command does not go on without. -/
theorem needsToken_iff {args : List String} (hparse : Command.parse args = some c)
    (hopen : c.opening? = some (method, path)) (w : World) (trace : Trace) :
    ∃ report asked told,
      (Cli.run w args trace).value = (report, trace ++ asked ++ told) ∧
      (∀ e ∈ asked, ∃ url token, w.fullEnvironment.get? "PLATFORM_API_URL" = some url ∧
        w.fullEnvironment.get? "PLATFORM_ACCESS_TOKEN" = some token ∧
        (Client.ofAddress url token).Sent e ∧ e.request.token = token) ∧
      (∀ e ∈ told, ∃ key, w.fullEnvironment.get? "TELEMETRY_API_KEY" = some key ∧ key ≠ "" ∧
        (Client.ofAddress ((w.fullEnvironment.get? "TELEMETRY_API_URL").getD
          Config.defaultTelemetryUrl) key).Sent e ∧ e.request.token = key) ∧
      (asked ≠ [] ↔ ∃ url token, w.fullEnvironment.get? "PLATFORM_API_URL" = some url ∧
        w.fullEnvironment.get? "PLATFORM_ACCESS_TOKEN" = some token ∧
        ∃ r, (Client.ofAddress url token).request method path none = .ok r) ∧
      (w.fullEnvironment.get? "PLATFORM_ACCESS_TOKEN" = none →
        asked = [] ∧ told = [] ∧ ∃ e, report = .failure (.config e)) ∧
      (NeedsToken w.fullEnvironment report asked told ↔
        ¬ ∃ url, w.fullEnvironment.get? "PLATFORM_API_URL" = some url ∧
          w.fullEnvironment.get? "PLATFORM_ACCESS_TOKEN" = some "" ∧
          (c.goesOn = true ∨
            ∃ r, (Client.ofAddress url "").request method path none = .ok r)) := by
  have hrun : Cli.run w args = c.run w := by rw [Cli.run, hparse]
  rw [hrun]
  rcases config_or_missing w with ⟨url, token, hurl, htoken, hconfig⟩ | ⟨hmissing, e, hconfig⟩
  · obtain ⟨report, asked, told, h⟩ := exists_sends hconfig hopen trace
    have hasks : asked ≠ [] ↔
        ∃ r, (Client.ofAddress url token).request method path none = .ok r := h.asks_iff
    refine ⟨report, asked, told, h.value, ?_, ?_, ?_, ?_, ?_⟩
    · intro e he
      have hsent := h.to_platform e he
      exact ⟨url, token, hurl, htoken, hsent, hsent.token_eq⟩
    · intro e he
      obtain ⟨key, hkey, hsent⟩ := h.to_telemetry e he
      obtain ⟨hset, hnonempty⟩ := Option.filter_eq_some_iff.1 hkey
      exact ⟨key, hset, of_decide_eq_true hnonempty, hsent, hsent.token_eq⟩
    · rw [hasks]
      simp [hurl, htoken]
    · intro hnone
      rw [htoken] at hnone
      cases hnone
    · rw [h.needs_iff htoken]
      by_cases hempty : token = "" <;> simp [hurl, htoken, hempty]
  · have hvalue := value_of_no_config hconfig hopen trace
    refine ⟨.failure (.config e), [], [], ?_, ?_, ?_, ?_, ?_, ?_⟩
    · rw [hvalue, List.append_nil, List.append_nil]
    · intro e he
      exact absurd he List.not_mem_nil
    · intro e he
      exact absurd he List.not_mem_nil
    · refine iff_of_false (fun h => h rfl) ?_
      rcases hmissing with hurl | htoken
      · simp [hurl]
      · simp [htoken]
    · exact fun _ => ⟨rfl, rfl, e, rfl⟩
    · refine iff_of_true (needsToken_of_failure _ _) ?_
      rcases hmissing with hurl | htoken
      · simp [hurl]
      · simp [htoken]

/-- Clusters are asked for with a token. -/
theorem needsToken_iff_localWorld :
    Command.parse ["clusters", "--project", "p1"] = some (.clusters "p1" none false "") ∧
      opening? (.clusters "p1" none false "") =
        some (.post, Client.clusteringsPath "p1") ∧
      ∃ report asked told,
        (Cli.run localWorld ["clusters", "--project", "p1"] []).value =
          (report, asked ++ told) ∧
        asked ≠ [] ∧ told = [] ∧ (∀ e ∈ asked, e.request.token = "secret") ∧
        NeedsToken localWorld.fullEnvironment report asked told := by
  have hparse : Command.parse ["clusters", "--project", "p1"] =
      some (.clusters "p1" none false "") := by decide +kernel
  have hurl : localWorld.fullEnvironment.get? "PLATFORM_API_URL" = some "http://[::1]" := rfl
  have htoken : localWorld.fullEnvironment.get? "PLATFORM_ACCESS_TOKEN" = some "secret" := rfl
  have hkey : localWorld.fullEnvironment.get? "TELEMETRY_API_KEY" = none := rfl
  obtain ⟨report, asked, told, hvalue, hcarry, htell, hasks, -, hneeds⟩ :=
    needsToken_iff hparse rfl localWorld []
  refine ⟨hparse, rfl, report, asked, told, hvalue, ?_, ?_, ?_, ?_⟩
  · refine hasks.2 ⟨_, _, hurl, htoken, Json.exists_of_isOk ?_⟩
    decide +kernel
  · refine List.eq_nil_iff_forall_not_mem.2 fun e he => ?_
    obtain ⟨key, hset, -⟩ := htell e he
    rw [hkey] at hset
    cases hset
  · intro e he
    obtain ⟨_, token, -, hset, -, hsent⟩ := hcarry e he
    rw [htoken] at hset
    obtain rfl := Option.some.inj hset
    exact hsent
  · refine hneeds.2 ?_
    rintro ⟨_, -, hset, -⟩
    rw [htoken] at hset
    exact absurd (Option.some.inj hset) (by decide)

/-- The same world with an empty token. -/
def tokenlessWorld : World :=
  { localWorld with environment := localWorld.environment.insert "PLATFORM_ACCESS_TOKEN" "" }

/-- The configuration that is read there. -/
def tokenlessConfig : Config := { localConfig with accessToken := "" }

/-- The token is empty, and a command sends a request without one and succeeds. -/
theorem onboard_without_token :
    tokenlessWorld.fullEnvironment.get? "PLATFORM_ACCESS_TOKEN" = some "" ∧
      ∃ err e, (Cli.run tokenlessWorld
          ["onboard", "--project", "p1", "--org", "o1", "--template", "Text generation"] []).value =
        ({ exitCode := 0, out := "/onboarding/plan\n", err }, [e]) ∧
      e.request.token = "" := by
  have hparse : Command.parse
      ["onboard", "--project", "p1", "--org", "o1", "--template", "Text generation"] =
        some (.onboard "p1" "o1" "Text generation" [] none) := by decide +kernel
  have hconfig : tokenlessWorld.config.value = .ok tokenlessConfig := rfl
  obtain ⟨err, hvalue⟩ := value_onboard hconfig "p1" "o1" "Text generation" [] none []
  dsimp only at hvalue
  have hlength := Client.length_exchange (tokenlessWorld.platform tokenlessConfig)
    tokenlessWorld.network [] .post (Client.addEventsPath "p1")
    (some (Client.addEventsBody (keptEvents "p1" "o1" "Text generation" [])))
  have hok : ((tokenlessWorld.platform tokenlessConfig).request .post (Client.addEventsPath "p1")
      none).isOk = true := by decide +kernel
  rw [hok, if_pos rfl] at hlength
  obtain ⟨e, he⟩ := List.length_eq_one_iff.1 hlength
  refine ⟨rfl, err, e, ?_, ?_⟩
  · have hadded : addition tokenlessWorld tokenlessConfig "p1"
        (keptEvents "p1" "o1" "Text generation" []) [] = [e] := he
    rw [Cli.run, hparse]
    dsimp only
    rw [hvalue, hadded]
    rfl
  · exact (Client.sent_of_mem_exchange (he ▸ List.mem_singleton_self e)).token_eq

end Cli.Command

end EventDetection
