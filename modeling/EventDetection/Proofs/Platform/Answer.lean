import EventDetection.Proofs.Platform.Project
import EventDetection.Proofs.Wire.Answer

/-!
# How answers are taken

The calls of a client differ in what they send and in what they read, and in nothing else.  A call
that asks for something reads the body of a successful answer; one that sends something does not
look at it.

* `Operation`: the calls, by what they return.
* `Operation.value_run`: every call sends its request, at most once, and takes the answer.
* `Operation.takes_accept`: **an answer is refused, unreadable or read**, by its status and its
  body.
* `Operation.wraps_of_take`: what is read is what the answer wraps.
* `Operation.take_of_lacks`: a list that the answer lacks is read as the empty one.
* `Operation.answer_settles`: all of it, for every call, with the request that it sends.
* `Operation.answer_settles_plainClient`: the same for five calls that are answered.
-/

namespace EventDetection

open Http (Body Method Network Reply Request Trace)
open Json (Codec Value)

/-- The calls of a client, by what they return. -/
inductive Operation : Type → Type where
  | getProject (projectId : String) : Operation Project
  | listClusterings (projectId : String) : Operation (List Clustering)
  | listClusters (projectId clusteringId : String) : Operation (List Cluster)
  | saveProject (p : Project) : Operation Unit
  | addEvents (projectId : String) (events : List Definition) : Operation Unit
  | sendFeedback (f : Feedback) : Operation Unit

namespace Operation

variable {α : Type}

/-- Makes the call. -/
def run (c : Client) (network : Network) : Operation α → Action Trace (Except ClientError α)
  | .getProject id => c.getProject network id
  | .listClusterings id => c.listClusterings network id
  | .listClusters id clusteringId => c.listClusters network id clusteringId
  | .saveProject p => c.saveProject network p
  | .addEvents id events => c.addEvents network id events
  | .sendFeedback f => c.sendFeedback network f

/-! ### What is sent -/

def method : Operation α → Method
  | .getProject _ => .get
  | .listClusterings _ | .listClusters _ _ | .saveProject _ | .addEvents _ _ | .sendFeedback _ =>
    .post

def path : Operation α → String
  | .getProject id => Client.projectPath id
  | .listClusterings id => Client.clusteringsPath id
  | .listClusters id _ => Client.clustersPath id
  | .saveProject p => Client.projectPath p.id
  | .addEvents id _ => Client.addEventsPath id
  | .sendFeedback f => Client.flagPath f.taskId

def body : Operation α → Option String
  | .getProject _ | .listClusterings _ => none
  | .listClusters _ clusteringId => some (Client.clustersBody clusteringId)
  | .saveProject p => some (Project.codec.text p)
  | .addEvents _ events => some (Client.addEventsBody events)
  | .sendFeedback f => some (Feedback.codec.text f)

/-- Whether the call sends something and asks for nothing. -/
def sends : Operation α → Bool
  | .getProject _ | .listClusterings _ | .listClusters _ _ => false
  | .saveProject _ | .addEvents _ _ | .sendFeedback _ => true

/-! ### What is taken from an answer -/

/-- Takes the body of a successful answer. -/
def take : Operation α → Body → Except ClientError α
  | .getProject _, b => Client.readBody Project.answerCodec b
  | .listClusterings _, b => Client.readBody Clustering.answerCodec b
  | .listClusters _ _, b => Client.readBody Cluster.answerCodec b
  | .saveProject _, _ | .addEvents _ _, _ | .sendFeedback _, _ => .ok ()

/-- **Every call sends its request, at most once, and takes the answer.** -/
theorem value_run (c : Client) (network : Network) (op : Operation α) (trace : Trace) :
    (op.run c network trace).value =
      (((c.request op.method op.path op.body).bind fun r =>
          Client.accept r.url (network trace r)).bind op.take,
        trace ++ c.exchange network trace op.method op.path op.body) := by
  rw [← Client.answer_call, ← Client.trace_call]
  cases op with
  | getProject id =>
    rw [run, Client.getProject, method, path, body]
    generalize c.call network _ _ _ = call
    rfl
  | listClusterings id =>
    rw [run, Client.listClusterings, method, path, body]
    generalize c.call network _ _ _ = call
    rw [Action.value_bind]
    change _ = ((call trace).value.1.bind (Client.readBody Clustering.answerCodec), _)
    cases (call trace).value.1.bind (Client.readBody Clustering.answerCodec) <;> rfl
  | listClusters id clusteringId =>
    rw [run, Client.listClusters, method, path, body]
    generalize c.call network _ _ _ = call
    rw [Action.value_bind]
    change _ = ((call trace).value.1.bind (Client.readBody Cluster.answerCodec), _)
    cases (call trace).value.1.bind (Client.readBody Cluster.answerCodec) <;> rfl
  | saveProject p =>
    rw [run, Client.saveProject, method, path, body]
    generalize c.call network _ _ _ = call
    rw [Action.value_bind, Action.value_event]
    change ((call trace).value.1.map fun _ => (), _) = _
    cases (call trace).value.1 <;> rfl
  | addEvents id events =>
    rw [run, Client.addEvents, method, path, body]
    generalize c.call network _ _ _ = call
    rw [Action.value_bind, Action.value_event]
    change ((call trace).value.1.map fun _ => (), _) = _
    cases (call trace).value.1 <;> rfl
  | sendFeedback f =>
    rw [run, Client.sendFeedback, method, path, body]
    generalize c.call network _ _ _ = call
    change ((call trace).value.1.map fun _ => (), _) = _
    cases (call trace).value.1 <;> rfl

/-! ### Statuses and bodies -/

/-- What was asked for is what the answer wraps. -/
def Wraps : Operation α → Value → α → Prop
  | .getProject _, v, p => ∃ w, v.wrapped? "project" = some w ∧ Project.codec.Shows p w
  | .listClusterings _, v, cs => Clustering.codec.ShowsItems cs (v.wrapped? "clusterings")
  | .listClusters _ _, v, cs => Cluster.codec.ShowsItems cs (v.wrapped? "clusters")
  | .saveProject _, _, _ | .addEvents _ _, _, _ | .sendFeedback _, _, _ => True

/-- The list that was asked for is missing, and stands for the empty one. -/
def Lacks : Operation α → Value → α → Prop
  | .listClusterings _, v, cs => v.Lacks "clusterings" ∧ cs = []
  | .listClusters _ _, v, cs => v.Lacks "clusters" ∧ cs = []
  | .getProject _, _, _ | .saveProject _, _, _ | .addEvents _ _, _, _ | .sendFeedback _, _, _ =>
    False

/-- How a call takes an answer: it is refused with the status and the body of the answer, or cannot
be read, or is read, and only a status from 200 to 299 tells of success. -/
structure Takes (op : Operation α) (status : UInt16) (b : Body) (result : Except ClientError α) :
    Prop where
  refused_iff : ∀ e, (result = .error e ∧ e.kind = .api) ↔
    ¬ (200 ≤ status.toNat ∧ status.toNat ≤ 299) ∧ e = .refused status (Client.shownText b)
  unreadable_iff : ∀ e, (result = .error e ∧ e.kind = .parse) ↔
    (200 ≤ status.toNat ∧ status.toNat ≤ 299) ∧ op.take b = .error e
  ok_iff : ∀ x, result = .ok x ↔
    (200 ≤ status.toNat ∧ status.toNat ≤ 299) ∧ op.take b = .ok x
  /-- what the body is does not matter to a call that asks for nothing -/
  isOk_iff : op.sends = true → (result.isOk = true ↔ 200 ≤ status.toNat ∧ status.toNat ≤ 299)

theorem isSuccess_iff {status : UInt16} :
    Client.isSuccess status = true ↔ 200 ≤ status.toNat ∧ status.toNat ≤ 299 := by
  rw [Client.isSuccess, Bool.and_eq_true, decide_eq_true_iff, decide_eq_true_iff,
    UInt16.le_iff_toNat_le, UInt16.lt_iff_toNat_lt]
  exact and_congr_right fun _ => Nat.lt_succ_iff

theorem kind_of_readBody {c : Codec α} {b : Body} {e : ClientError}
    (h : Client.readBody c b = .error e) : e.kind = .parse := by
  cases b with
  | cutOff =>
    cases h
    rfl
  | whole text =>
    rw [Client.readBody] at h
    cases hread : c.read text with
    | error reason =>
      rw [hread] at h
      cases h
      rfl
    | ok x =>
      rw [hread] at h
      exact nomatch h

theorem kind_of_take {op : Operation α} {b : Body} {e : ClientError} (h : op.take b = .error e) :
    e.kind = .parse := by
  cases op with
  | getProject id => exact kind_of_readBody h
  | listClusterings id => exact kind_of_readBody h
  | listClusters id clusteringId => exact kind_of_readBody h
  | _ => exact nomatch h

theorem isOk_take_of_sends {op : Operation α} (h : op.sends = true) (b : Body) :
    (op.take b).isOk = true := by
  cases op with
  | getProject id => exact nomatch h
  | listClusterings id => exact nomatch h
  | listClusters id clusteringId => exact nomatch h
  | _ => rfl

/-- Where no request can be made, none is sent. -/
theorem kind_of_request {c : Client} {method : Method} {path : String} {body : Option String}
    {e : ClientError} (h : c.request method path body = .error e) : e.kind = .network := by
  unfold Client.request at h
  split at h
  · cases h
    rfl
  · dsimp only at h
    split at h
    · cases h
      rfl
    · split at h
      · cases h
        rfl
      · split at h
        · cases h
          rfl
        · exact nomatch h

theorem accept_of_unanswered {url : Url} {reply : Reply}
    (h : ∀ status b, reply ≠ .answered status b) :
    Client.accept url reply = .error (.noAnswer url) := by
  cases reply with
  | answered status b => exact absurd rfl (h status b)
  | _ => rfl

/-- **An answer is refused, unreadable or read**, by its status and its body. -/
theorem takes_accept (op : Operation α) (url : Url) (status : UInt16) (b : Body) :
    op.Takes status b ((Client.accept url (.answered status b)).bind op.take) := by
  by_cases hs : Client.isSuccess status = true
  · have hrange := isSuccess_iff.1 hs
    have hresult : (Client.accept url (.answered status b)).bind op.take = op.take b := by
      rw [Client.accept, if_pos hs]
      rfl
    rw [hresult]
    refine ⟨fun e => ?_, fun e => ?_, fun x => ?_, fun hsends => ?_⟩
    · refine iff_of_false (fun h => ?_) fun h => h.1 hrange
      have hkind := kind_of_take h.1
      rw [h.2] at hkind
      cases hkind
    · exact ⟨fun h => ⟨hrange, h.1⟩, fun h => ⟨h.2, kind_of_take h.2⟩⟩
    · exact ⟨fun h => ⟨hrange, h⟩, fun h => h.2⟩
    · exact iff_of_true (isOk_take_of_sends hsends b) hrange
  · have hrange := mt isSuccess_iff.2 hs
    have hresult : (Client.accept url (.answered status b)).bind op.take =
        .error (.refused status (Client.shownText b)) := by
      rw [Client.accept, if_neg hs]
      rfl
    rw [hresult]
    refine ⟨fun e => ?_, fun e => ?_, fun x => ?_, fun _ => ?_⟩
    · constructor
      · rintro ⟨h, -⟩
        exact ⟨hrange, (Except.error.inj h).symm⟩
      · rintro ⟨-, rfl⟩
        exact ⟨rfl, rfl⟩
    · refine iff_of_false (fun h => ?_) fun h => hrange h.1
      have hkind := h.2
      obtain rfl := Except.error.inj h.1
      cases hkind
    · refine iff_of_false (fun h => ?_) fun h => hrange h.1
      cases h
    · exact iff_of_false Bool.false_ne_true hrange

/-- **What is read is what the answer wraps.** -/
theorem wraps_of_take {op : Operation α} {text : String} {v : Value} {x : α}
    (h : op.take (.whole text) = .ok x) (hv : Value.parse text = .ok v) : op.Wraps v x := by
  cases op with
  | getProject id =>
    have hread : Project.answerCodec.read text = .ok x := Json.mapError_eq_ok_iff.1 h
    exact Project.shows_answer (Project.aligned_answer.shows_of_read hread hv)
  | listClusterings id =>
    have hread : Clustering.answerCodec.read text = .ok x := Json.mapError_eq_ok_iff.1 h
    exact Clustering.shows_answer (Clustering.aligned_answer.shows_of_read hread hv)
  | listClusters id clusteringId =>
    have hread : Cluster.answerCodec.read text = .ok x := Json.mapError_eq_ok_iff.1 h
    exact Cluster.shows_answer (Cluster.aligned_answer.shows_of_read hread hv)
  | _ => trivial

/-- **A list that the answer lacks is read as the empty one.** -/
theorem take_of_lacks {op : Operation α} {text : String} {v : Value} {x : α}
    (hv : Value.parse text = .ok v) (h : op.Lacks v x) : op.take (.whole text) = .ok x := by
  cases op with
  | listClusterings id =>
    obtain ⟨hlacks, rfl⟩ := h
    exact Json.mapError_eq_ok_iff.2 (Clustering.read_answer_of_lacks hv hlacks)
  | listClusters id clusteringId =>
    obtain ⟨hlacks, rfl⟩ := h
    exact Json.mapError_eq_ok_iff.2 (Cluster.read_answer_of_lacks hv hlacks)
  | _ => exact False.elim h

/-! ### Whole calls -/

/-- What comes of a request that no answer comes to, or of none. -/
theorem error_of_unanswered {op : Operation α} {c : Client} {network : Network} {trace : Trace}
    (h : ∀ e ∈ c.exchange network trace op.method op.path op.body,
      ∀ status b, e.reply ≠ .answered status b) :
    ∃ e, ((c.request op.method op.path op.body).bind fun r =>
      Client.accept r.url (network trace r)).bind op.take = .error e ∧ e.kind = .network := by
  cases hr : c.request op.method op.path op.body with
  | error e => exact ⟨e, rfl, kind_of_request hr⟩
  | ok r =>
    have hmem : ⟨r, network trace r⟩ ∈ c.exchange network trace op.method op.path op.body :=
      Client.mem_exchange_iff.2 ⟨hr, rfl⟩
    have haccept : Client.accept r.url (network trace r) = .error (.noAnswer r.url) :=
      accept_of_unanswered (h _ hmem)
    refine ⟨.noAnswer r.url, ?_, rfl⟩
    change (Client.accept r.url (network trace r)).bind op.take = _
    rw [haccept]
    rfl

/-- **What comes of a call**, whatever the network does.  It sends one request if one can be made of
the address, the token and the path, and none otherwise; the request has the token of the client,
and none is sent again after an answer.  Without an answer the call fails for the network.  An answer
is taken by its status and its body.  Where the body is JSON, what is read is what the answer wraps,
and a list that a successful answer lacks is read as the empty one.  Redirects are left out. -/
theorem answer_settles (op : Operation α) (c : Client) (network : Network) (trace : Trace) :
    ∃ result sent,
      (op.run c network trace).value = (result, trace ++ sent) ∧
      sent.length ≤ 1 ∧
      (sent ≠ [] ↔ ∃ r, c.request op.method op.path op.body = .ok r) ∧
      (∀ e ∈ sent, c.request op.method op.path op.body = .ok e.request ∧
        e.request.method = op.method ∧ e.request.body = op.body ∧
        e.request.token = c.token ∧ e.reply = network trace e.request) ∧
      ((∀ e ∈ sent, ∀ status b, e.reply ≠ .answered status b) →
        ∃ e, result = .error e ∧ e.kind = .network) ∧
      ∀ e ∈ sent, ∀ status b, e.reply = .answered status b →
        op.Takes status b result ∧
        ∀ text v x, b = .whole text → Value.parse text = .ok v →
          (result = .ok x → op.Wraps v x) ∧
          (op.Lacks v x → 200 ≤ status.toNat ∧ status.toNat ≤ 299 → result = .ok x) := by
  refine ⟨_, _, value_run c network op trace, Client.length_exchange_le ..,
    Client.exchange_ne_nil_iff, fun e he => ?_, error_of_unanswered,
    fun e he status b hreply => ?_⟩
  · obtain ⟨hrequest, hreply⟩ := Client.mem_exchange_iff.1 he
    obtain ⟨u, -, -, -, -, hr⟩ := Client.request_eq_ok_iff.1 hrequest
    refine ⟨hrequest, ?_⟩
    rw [hr] at hreply ⊢
    exact ⟨rfl, rfl, rfl, hreply⟩
  · obtain ⟨hrequest, hnetwork⟩ := Client.mem_exchange_iff.1 he
    have hresult : ((c.request op.method op.path op.body).bind fun r =>
        Client.accept r.url (network trace r)).bind op.take =
          (Client.accept e.request.url (.answered status b)).bind op.take := by
      rw [hrequest, ← hreply, hnetwork]
      rfl
    rw [hresult]
    have htakes := op.takes_accept e.request.url status b
    refine ⟨htakes, fun text v x hb hv => ?_⟩
    subst hb
    exact ⟨fun hx => wraps_of_take ((htakes.ok_iff x).1 hx).2 hv,
      fun hlacks hrange => (htakes.ok_iff x).2 ⟨hrange, take_of_lacks hv hlacks⟩⟩

/-! ### Calls that are answered -/

/-- A client of a server at an address without a name. -/
def plainClient : Client := ⟨"http://[::1]", "secret"⟩

/-- Everything is answered with a status and a text. -/
def answering (status : UInt16) (text : String) : Network :=
  fun _ _ => .answered status (.whole text)

/-- A project without events. -/
def plainProject : Project := { id := "p1", orgId := "o1" }

theorem read_plainProject :
    (getProject "p1").take (.whole (Project.answerCodec.text plainProject)) = .ok plainProject := by
  have hnone {α : Type} (k : String) (v : α) : (Dict.empty : Dict α).get? k ≠ some v := by
    rw [Dict.get?_empty]
    exact nofun
  have hexact : plainProject.Exact := ⟨fun k v hv => absurd hv (hnone k v), nofun⟩
  have hdepth : (Project.codec.write plainProject).depth < Json.maxDepth :=
    Nat.lt_succ_of_le (Project.depth_write (fun k v hv => absurd hv (hnone k v)) nofun)
  rw [take, Client.readBody, Client.read_answer hexact hdepth]
  rfl

/-- Calls are answered with a status outside and inside the range of success, and with a body that
is read, that lacks a list, that cannot be read, and that does not matter. -/
theorem answer_settles_plainClient :
    (∃ q, ((getProject "p1").run plainClient (answering 404 "gone") []).value =
        (.error (.refused 404 "gone"), [⟨q, .answered 404 (.whole "gone")⟩]) ∧
      q.token = "secret") ∧
    ((getProject "p1").run plainClient
      (answering 200 (Project.answerCodec.text plainProject)) []).value.1 = .ok plainProject ∧
    ((listClusterings "p1").run plainClient (answering 200 "\x7b\x7d") []).value.1 = .ok [] ∧
    (∃ e, ((listClusters "p1" "c1").run plainClient (answering 200 "oops") []).value.1 = .error e ∧
      e.kind = .parse) ∧
    ((saveProject plainProject).run plainClient (answering 204 "oops") []).value.1 = .ok () := by
  have hanswered {α : Type} (op : Operation α) (status : UInt16) (text : String)
      (hok : (plainClient.request op.method op.path none).isOk = true) :
      ∃ q result, (op.run plainClient (answering status text) []).value =
          (result, [⟨q, .answered status (.whole text)⟩]) ∧ q.token = "secret" ∧
        op.Takes status (.whole text) result ∧
        ∀ v x, Value.parse text = .ok v → op.Lacks v x →
          200 ≤ status.toNat ∧ status.toNat ≤ 299 → result = .ok x := by
    obtain ⟨result, sent, hrun, hlength, hsent, hmem, -, htaken⟩ :=
      answer_settles op plainClient (answering status text) []
    have hne : sent ≠ [] := hsent.2 (Client.exists_request_of_isOk hok op.body)
    obtain ⟨e, rfl⟩ : ∃ e, sent = [e] := by
      refine List.length_eq_one_iff.1 ?_
      have hpos := List.length_pos_iff.2 hne
      omega
    obtain ⟨-, -, -, htoken, hreply⟩ := hmem e List.mem_cons_self
    have hanswer : e.reply = .answered status (.whole text) := hreply
    obtain ⟨htakes, hread⟩ := htaken e List.mem_cons_self status (.whole text) hanswer
    refine ⟨e.request, result, ?_, htoken, htakes, fun v x hv => (hread text v x rfl hv).2⟩
    rw [hrun, ← hanswer]
    rfl
  refine ⟨?_, ?_, ?_, ?_, ?_⟩
  · obtain ⟨q, result, hrun, htoken, htakes, -⟩ := hanswered (getProject "p1") 404 "gone"
      (by decide +kernel)
    obtain ⟨hresult, -⟩ := (htakes.refused_iff (.refused 404 "gone")).2 ⟨by decide, rfl⟩
    exact ⟨q, hresult ▸ hrun, htoken⟩
  · obtain ⟨q, result, hrun, -, htakes, -⟩ := hanswered (getProject "p1") 200
      (Project.answerCodec.text plainProject) (by decide +kernel)
    rw [hrun]
    exact (htakes.ok_iff plainProject).2 ⟨by decide, read_plainProject⟩
  · obtain ⟨q, result, hrun, -, -, hread⟩ := hanswered (listClusterings "p1") 200 "\x7b\x7d"
      (by decide +kernel)
    have hparse : Value.parse "\x7b\x7d" = .ok (.object []) :=
      Json.eq_ok_of_toOption (by decide +kernel)
    rw [hrun]
    exact hread _ [] hparse ⟨⟨⟨_, rfl⟩, rfl⟩, rfl⟩ (by decide)
  · obtain ⟨q, result, hrun, -, htakes, -⟩ := hanswered (listClusters "p1" "c1") 200 "oops"
      (by decide +kernel)
    have hfail : ((listClusters "p1" "c1").take (.whole "oops")).isOk = false := by decide +kernel
    rw [hrun]
    cases htake : (listClusters "p1" "c1").take (.whole "oops") with
    | error e => exact ⟨e, (htakes.unreadable_iff e).2 ⟨by decide, htake⟩⟩
    | ok cs =>
      rw [htake] at hfail
      cases hfail
  · obtain ⟨q, result, hrun, -, htakes, -⟩ := hanswered (saveProject plainProject) 204 "oops"
      (by decide +kernel)
    rw [hrun]
    exact (htakes.ok_iff ()).2 ⟨by decide, rfl⟩

end Operation

end EventDetection
