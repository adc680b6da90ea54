import EventDetection.Platform.Services
import EventDetection.Proofs.Wire.Definition

/-!
# What a call sends

Every call of a client sends one request, or none if none can be made of the address, the token
and the path.  What comes of it is appended to the trace and has no influence on it otherwise.

* `Client.exchange`: what a call adds to the trace.
* `Client.trace_call`, `Client.trace_addEvents`, `Client.trace_sendFeedback`: **a call adds its
  exchange** and nothing else, also if it is made through a sink.
* `Client.read_addEventsBody`: the events of a call that adds some are read back from its body.
-/

namespace EventDetection.Client

open Http (Method Network Reply Request Trace)
open Json (Codec)

/-- What a call adds to the trace. -/
def exchange (c : Client) (network : Network) (trace : Trace) (method : Method) (path : String)
    (body : Option String) : Trace :=
  match c.request method path body with
  | .ok r => [⟨r, network trace r⟩]
  | .error _ => []

variable {c : Client} {network : Network} {trace : Trace} {method : Method} {path : String}
  {body : Option String}

/-! ### Requests -/

theorem body_of_request {r : Request} (h : c.request method path body = .ok r) : r.body = body := by
  unfold request at h
  split at h
  · exact nomatch h
  · dsimp only at h
    split at h
    · exact nomatch h
    · split at h
      · exact nomatch h
      · split at h
        · exact nomatch h
        · cases h
          rfl

/-- Whether a request can be made does not depend on its body. -/
theorem isOk_request (c : Client) (method : Method) (path : String) (body : Option String) :
    (c.request method path body).isOk = (c.request method path none).isOk := by
  unfold request
  cases Url.parse? (c.base ++ path) with
  | none => rfl
  | some u =>
    dsimp only
    split
    · rfl
    · split
      · rfl
      · split <;> rfl

theorem exists_request_of_isOk (h : (c.request method path none).isOk = true)
    (body : Option String) : ∃ r, c.request method path body = .ok r :=
  Json.exists_of_isOk ((c.isOk_request method path body).trans h)

theorem body_of_mem_exchange {e : Http.Exchange}
    (h : e ∈ c.exchange network trace method path body) : e.request.body = body := by
  rw [exchange] at h
  split at h
  · next r hr =>
    obtain rfl := List.mem_singleton.1 h
    exact body_of_request hr
  · exact absurd h List.not_mem_nil

/-- There is one exchange if a request can be made, and none if not. -/
theorem exchange_eq_nil_iff :
    c.exchange network trace method path body = [] ↔
      ∃ e, c.request method path body = .error e := by
  rw [exchange]
  cases c.request method path body with
  | ok r => exact iff_of_false (List.cons_ne_nil _ _) nofun
  | error e => exact iff_of_true rfl ⟨e, rfl⟩

theorem length_exchange (c : Client) (network : Network) (trace : Trace) (method : Method)
    (path : String) (body : Option String) :
    (c.exchange network trace method path body).length =
      if (c.request method path none).isOk then 1 else 0 := by
  rw [← isOk_request c method path body, exchange]
  cases c.request method path body <;> rfl

/-! ### Calls -/

theorem trace_call (c : Client) (network : Network) (method : Method) (path : String)
    (body : Option String) (trace : Trace) :
    (c.call network method path body trace).value.2 =
      trace ++ c.exchange network trace method path body := by
  unfold call exchange
  cases c.request method path body with
  | ok r => rfl
  | error e => exact (List.append_nil trace).symm

theorem trace_addEvents (c : Client) (network : Network) (projectId : String)
    (events : List Definition) (trace : Trace) :
    (c.addEvents network projectId events trace).value.2 =
      trace ++ c.exchange network trace .post (addEventsPath projectId)
        (some (addEventsBody events)) := by
  rw [← trace_call, addEvents]
  generalize c.call network .post (addEventsPath projectId) (some (addEventsBody events)) = call
  rfl

theorem trace_sendFeedback (c : Client) (network : Network) (f : Feedback) (trace : Trace) :
    (c.sendFeedback network f trace).value.2 =
      trace ++ c.exchange network trace .post (flagPath f.taskId)
        (some (Feedback.codec.text f)) := by
  rw [← trace_call, sendFeedback]
  generalize c.call network .post (flagPath f.taskId) (some (Feedback.codec.text f)) = call
  rfl

theorem trace_eventSink (c : Client) (network : Network) (projectId : String)
    (events : List Definition) (trace : Trace) :
    ((c.eventSink network).addEvents projectId events trace).value.2 =
      trace ++ c.exchange network trace .post (addEventsPath projectId)
        (some (addEventsBody events)) := by
  rw [← trace_addEvents, eventSink]
  generalize c.addEvents network = addEvents
  rfl

theorem trace_feedbackSink (c : Client) (network : Network) (f : Feedback) (trace : Trace) :
    ((c.feedbackSink network).send f trace).value.2 =
      trace ++ c.exchange network trace .post (flagPath f.taskId)
        (some (Feedback.codec.text f)) := by
  rw [← trace_sendFeedback, feedbackSink]
  generalize c.sendFeedback network = sendFeedback
  rfl

/-! ### Added events -/

/-- The events in the body of a call that adds some, as they are read there. -/
def addedCodec : Codec (List Definition) :=
  (Codec.record "AddEvents" (.required "events" Definition.codec.list .nil)).convert
    (fun (ds, ()) => ds) (fun ds => (ds, ()))

/-- **The events of a call are read back from its body**, if what they keep of other members is. -/
theorem read_addEventsBody {events : List Definition}
    (h : ∀ d ∈ events, d.Exact ∧ ∀ k v, d.others.get? k = some v → v.depth ≤ 124) :
    addedCodec.read (addEventsBody events) = .ok events := by
  have hround : addedCodec.RoundTrips events := by
    refine Codec.roundTrips_convert (Codec.roundTrips_record (by decide) ?_) rfl
    exact ⟨Codec.roundTrips_list fun d hd => Definition.roundTrips (h d hd).1, trivial⟩
  have hdepth : (addedCodec.write events).depth ≤ Json.maxDepth := by
    refine Codec.depth_record "AddEvents" ⟨Codec.depth_list fun d hd => ?_, trivial⟩
    exact Definition.depth_write (h d hd).2
  exact Codec.read_text hround hdepth

end EventDetection.Client
