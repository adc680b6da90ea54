import EventDetection.Proofs.Platform.Call
import EventDetection.Proofs.Url.Step

/-!
# Loading and saving a project

What the server answers decides whether a project is loaded or saved.  The requests of both go
to the same host, since the id of the project has no influence on that.  So a project that was
loaded can be saved, whatever its id is, unless that makes the URL too long.

* `Client.request_eq_ok_iff`: when a request can be made, and which one.
* `Client.exists_request_iff_fits`: **if one project can be asked for, another one can be sent
  exactly if the URL fits.**
* `Client.load_eq_ok_iff`, `Client.isOk_save`: a project is loaded or saved exactly if the
  request was made and the answer is a success, which is a project in the first case.
-/

namespace EventDetection.Client

open Http (Body Method Network Reply Request Trace)

variable {c : Client} {network : Network} {trace : Trace} {method : Method} {path : String}
  {body : Option String}

/-! ### Requests -/

theorem scheme_withoutLogin (u : Url) : (withoutLogin u).scheme = u.scheme := by
  unfold withoutLogin
  split
  · rfl
  · split <;> rfl

theorem host_withoutLogin (u : Url) : (withoutLogin u).host = u.host := by
  unfold withoutLogin
  split
  · rfl
  · split <;> rfl

theorem path_withoutLogin (u : Url) : (withoutLogin u).path = u.path := by
  unfold withoutLogin
  split
  · rfl
  · split <;> rfl

/-- A request is made of a URL of the web with a host and a token that fits into a header. -/
theorem request_eq_ok_iff {r : Request} :
    c.request method path body = .ok r ↔
      ∃ u, Url.parse? (c.base ++ path) = some u ∧ (withoutLogin u).hasHost = true ∧
        isSendable c.token = true ∧ isTarget (withoutLogin u) = true ∧
        r = { method, url := withoutLogin u, token := c.token, body } := by
  unfold request
  cases Url.parse? (c.base ++ path) with
  | none => simp
  | some u =>
    dsimp only
    constructor
    · intro h
      split at h
      · exact nomatch h
      · next hhost =>
        split at h
        · exact nomatch h
        · next htoken =>
          split at h
          · exact nomatch h
          · next htarget =>
            simp only [Bool.not_eq_true', Bool.not_eq_false] at hhost htoken htarget
            exact ⟨u, rfl, hhost, htoken, htarget, (Except.ok.inj h).symm⟩
    · rintro ⟨u', hu', hhost, htoken, htarget, rfl⟩
      obtain rfl := Option.some.inj hu'
      simp [hhost, htoken, htarget]

theorem isTarget_iff {u : Url} :
    isTarget u = true ↔
      ((u.scheme = Url.http ∨ u.scheme = Url.https) ∧ isHostSendable u.host = true) ∧
        u.text.utf8ByteSize ≤ maxUrlLength := by
  simp [isTarget]

theorem toList_projectPath (base id : String) :
    (base ++ projectPath id).toList =
      base.toList ++ '/' :: 'a' :: 'p' :: 'i' :: '/' :: ("projects/" ++ id).toList := by
  simp [projectPath]

theorem method_of_request {r : Request} (h : c.request method path body = .ok r) :
    r.method = method := by
  obtain ⟨u, -, -, -, -, rfl⟩ := request_eq_ok_iff.1 h
  rfl

theorem mem_exchange_iff {e : Http.Exchange} :
    e ∈ c.exchange network trace method path body ↔
      c.request method path body = .ok e.request ∧ e.reply = network trace e.request := by
  rw [exchange]
  rcases c.request method path body with _ | r
  · refine iff_of_false List.not_mem_nil ?_
    rintro ⟨hr, -⟩
    cases hr
  · rw [List.mem_singleton]
    constructor
    · rintro rfl
      exact ⟨rfl, rfl⟩
    · rintro ⟨hr, hreply⟩
      obtain rfl := Except.ok.inj hr
      rw [← hreply]

theorem exchange_ne_nil_iff :
    c.exchange network trace method path body ≠ [] ↔ ∃ r, c.request method path body = .ok r := by
  rw [exchange]
  rcases c.request method path body with _ | r
  · refine iff_of_false (fun h => h rfl) ?_
    rintro ⟨r, hr⟩
    cases hr
  · exact iff_of_true (List.cons_ne_nil _ _) ⟨r, rfl⟩

theorem length_exchange_le (c : Client) (network : Network) (trace : Trace) (method : Method)
    (path : String) (body : Option String) :
    (c.exchange network trace method path body).length ≤ 1 := by
  rw [length_exchange]
  split <;> omega

/-- Whether the URL of a path, if it is one, is short enough to be sent. -/
def Fits (c : Client) (path : String) : Prop :=
  ∀ u ∈ Url.parse? (c.base ++ path), (withoutLogin u).text.utf8ByteSize ≤ maxUrlLength

/-- **If one project can be asked for, then another one can be sent**, exactly if its URL fits. -/
theorem exists_request_iff_fits {id : String} {r : Request}
    (h : c.request method (projectPath id) body = .ok r) (method' : Method) (id' : String)
    (body' : Option String) :
    (∃ r', c.request method' (projectPath id') body' = .ok r') ↔ c.Fits (projectPath id') := by
  obtain ⟨u, hu, hhost, htoken, htarget, -⟩ := request_eq_ok_iff.1 h
  obtain ⟨⟨hscheme, hname⟩, -⟩ := isTarget_iff.1 htarget
  rw [scheme_withoutLogin] at hscheme
  obtain ⟨u', hu', hscheme', hhost'⟩ := Url.host_parse?_api (toList_projectPath c.base id)
    (toList_projectPath c.base id') hu hscheme
  rw [← host_withoutLogin u, ← host_withoutLogin u'] at hhost'
  constructor
  · rintro ⟨r', hr'⟩ v hv
    obtain ⟨w, hw, -, -, hfits, -⟩ := request_eq_ok_iff.1 hr'
    obtain rfl := Option.some.inj (hv.symm.trans hw)
    exact (isTarget_iff.1 hfits).2
  · intro hfits
    refine ⟨_, request_eq_ok_iff.2 ⟨u', hu', ?_, htoken, isTarget_iff.2 ⟨⟨?_, ?_⟩, ?_⟩, rfl⟩⟩
    · rw [← hhost, Url.hasHost, Url.hasHost, hhost']
    · rwa [scheme_withoutLogin, hscheme']
    · rwa [hhost']
    · exact hfits u' hu'

/-- An id that is a name does not fit if it is too long for a URL, given that the address of the
server has no query and no fragment. -/
theorem not_fits_of_length {id id' : String} {r : Request} {scheme begin : List Char}
    (h : c.request method (projectPath id) body = .ok r)
    (htake : Url.takeScheme? (Url.joined (c.base.toList.dropWhile Url.isEnd)) =
      some (scheme, begin))
    (hweb : scheme = Url.http ∨ scheme = Url.https) (hhash : '#' ∉ begin) (hquestion : '?' ∉ begin)
    (hname : Url.IsName id'.toList) (hlength : maxUrlLength < id'.toList.length) :
    ¬ c.Fits (projectPath id') := by
  obtain ⟨u, hu, -, -, htarget, -⟩ := request_eq_ok_iff.1 h
  obtain ⟨⟨hscheme, -⟩, -⟩ := isTarget_iff.1 htarget
  rw [scheme_withoutLogin] at hscheme
  obtain ⟨u', hu', -, -⟩ := Url.host_parse?_api (toList_projectPath c.base id)
    (toList_projectPath c.base id') hu hscheme
  have hfront : ("projects/" ++ id').toList =
      ['p', 'r', 'o', 'j', 'e', 'c', 't', 's'] ++ '/' :: id'.toList := by
    simp
  have hplain : ['p', 'r', 'o', 'j', 'e', 'c', 't', 's'].all (Url.IsPlain ·) = true := by decide
  have htext := toList_projectPath c.base id'
  rw [hfront] at htext
  obtain ⟨init, hpath⟩ := Url.path_parse?_api htext htake hweb hhash hquestion
    (fun c hc => of_decide_eq_true (List.all_eq_true.1 hplain c hc)) hname hu'
  rw [← path_withoutLogin] at hpath
  have hsize := Url.length_le_size_text hpath
  have hencode := Url.length_le_length_encode Url.pathSet id'.toList
  intro hfits
  have hle := hfits u' hu'
  omega

/-! ### Answers -/

/-- Whether a request was answered with success. -/
def isAccepted : Reply → Bool
  | .answered status _ => isSuccess status
  | .unreachable | .dropped => false

theorem accept_eq_ok_iff {url : Url} {reply : Reply} {b : Body} :
    accept url reply = .ok b ↔ ∃ status, reply = .answered status b ∧ isSuccess status = true := by
  cases reply with
  | unreachable => simp [accept]
  | dropped => simp [accept]
  | answered status b' =>
    cases hs : isSuccess status with
    | false => simp [accept, hs]
    | true =>
      have haccept : accept url (.answered status b') = .ok b' := by simp [accept, hs]
      rw [haccept]
      constructor
      · intro h
        obtain rfl := Except.ok.inj h
        exact ⟨status, rfl, hs⟩
      · rintro ⟨_, h, -⟩
        obtain ⟨-, rfl⟩ := Reply.answered.inj h
        rfl

theorem isOk_accept (url : Url) (reply : Reply) : (accept url reply).isOk = isAccepted reply := by
  cases reply with
  | unreachable => rfl
  | dropped => rfl
  | answered status b =>
    cases hs : isSuccess status <;> simp [accept, isAccepted, hs, Except.isOk, Except.toBool]

theorem answer_call (c : Client) (network : Network) (method : Method) (path : String)
    (body : Option String) (trace : Trace) :
    (c.call network method path body trace).value.1 =
      (c.request method path body).bind fun r => accept r.url (network trace r) := by
  unfold call
  cases c.request method path body <;> rfl

/-! ### Projects -/

/-- A project is asked for, and the answer is a success whose body is read as the project. -/
def Loads (c : Client) (network : Network) (trace : Trace) (id : String) (p : Project) : Prop :=
  ∃ r status text, c.request .get (projectPath id) none = .ok r ∧
    network trace r = .answered status (.whole text) ∧ isSuccess status = true ∧
    Project.answerCodec.read text = .ok p

/-- **A project is read back from an answer**, if what it keeps of other members is. -/
theorem read_answer {p : Project} (h : p.Exact)
    (hdepth : (Project.codec.write p).depth < Json.maxDepth) :
    Project.answerCodec.read (Project.answerCodec.text p) = .ok p := by
  have hround : Project.answerCodec.RoundTrips p := by
    refine Json.Codec.roundTrips_convert (Json.Codec.roundTrips_record (by decide) ?_) rfl
    exact ⟨Project.roundTrips h, trivial⟩
  have hdepth' : (Project.answerCodec.write p).depth ≤ Json.maxDepth :=
    Json.Codec.depth_record "ProjectResponse" ⟨Nat.le_of_lt_succ hdepth, trivial⟩
  exact Json.Codec.read_text hround hdepth'

theorem trace_load (c : Client) (network : Network) (id : String) (trace : Trace) :
    ((c.projectStore network).load id trace).value.2 =
      trace ++ c.exchange network trace .get (projectPath id) none := by
  rw [← trace_call, projectStore]
  dsimp only
  unfold getProject
  generalize c.call network .get (projectPath id) none = call
  rfl

theorem load_eq_ok_iff {id : String} {p : Project} :
    ((c.projectStore network).load id trace).value.1 = .ok p ↔ c.Loads network trace id p := by
  have hanswer : ((c.projectStore network).load id trace).value.1 =
      reason ((c.call network .get (projectPath id) none trace).value.1.bind
        (readBody Project.answerCodec)) := by
    unfold projectStore getProject
    dsimp only
    generalize c.call network .get (projectPath id) none = call
    rfl
  rw [hanswer, answer_call, reason, Json.mapError_eq_ok_iff]
  constructor
  · intro h
    obtain ⟨b, hb, hread⟩ := Json.bind_eq_ok_iff.1 h
    obtain ⟨r, hr, haccept⟩ := Json.bind_eq_ok_iff.1 hb
    obtain ⟨status, hreply, hstatus⟩ := accept_eq_ok_iff.1 haccept
    cases b with
    | cutOff => exact nomatch hread
    | whole text =>
      exact ⟨r, status, text, hr, hreply, hstatus, Json.mapError_eq_ok_iff.1 hread⟩
  · rintro ⟨r, status, text, hr, hreply, hstatus, hread⟩
    refine Json.bind_eq_ok_iff.2 ⟨.whole text, Json.bind_eq_ok_iff.2 ⟨r, hr, ?_⟩, ?_⟩
    · exact accept_eq_ok_iff.2 ⟨status, hreply, hstatus⟩
    · exact Json.mapError_eq_ok_iff.2 hread

theorem trace_save (c : Client) (network : Network) (p : Project) (trace : Trace) :
    ((c.projectStore network).save p trace).value.2 =
      trace ++ c.exchange network trace .post (projectPath p.id) (some (Project.codec.text p)) := by
  rw [← trace_call, projectStore]
  dsimp only
  unfold saveProject
  generalize c.call network .post (projectPath p.id) (some (Project.codec.text p)) = call
  rfl

theorem isOk_save {p : Project} :
    ((c.projectStore network).save p trace).value.1.isOk = true ↔
      ∃ e ∈ c.exchange network trace .post (projectPath p.id) (some (Project.codec.text p)),
        isAccepted e.reply = true := by
  have hanswer : ((c.projectStore network).save p trace).value.1 =
      reason ((c.call network .post (projectPath p.id) (some (Project.codec.text p))
        trace).value.1.map fun _ => ()) := by
    unfold projectStore saveProject
    dsimp only
    generalize c.call network .post (projectPath p.id) (some (Project.codec.text p)) = call
    rfl
  rw [hanswer, answer_call, exchange]
  cases hr : c.request .post (projectPath p.id) (some (Project.codec.text p)) with
  | error e => simp [reason, Except.bind, Except.map, Except.mapError, Except.isOk, Except.toBool]
  | ok r =>
    have haccept := isOk_accept r.url (network trace r)
    simp only [List.mem_singleton, exists_eq_left]
    rw [← haccept]
    change (reason ((accept r.url (network trace r)).map _)).isOk = true ↔ _
    cases accept r.url (network trace r) <;> rfl

end EventDetection.Client
