import EventDetection.Proofs.Platform.Answer
import EventDetection.Proofs.Url.Tail

/-!
# Where requests are posted

A client puts the id of a project into the address of a request as it is.  An id with a slash in it
can so stand for more than a project: the rest of it is taken for the route.

* `Route`: the routes that are posted to, each for a project.
* `Route.address_eq_iff`: which addresses are the same, for all ids.
* `Operation.sends_ambiguous`: **saving one project can address what adds events to another one.**
* `Operation.targets_unambiguous`: what can be said in spite of that, for ids that stay one step of
  a path.
-/

namespace EventDetection

open Http (Method Network Request Trace)

theorem Client.tail_withoutLogin (u : Url) : (withoutLogin u).tail = u.tail := by
  unfold withoutLogin
  split
  · rfl
  · split <;> rfl

theorem Client.target_withoutLogin (u : Url) : (withoutLogin u).target = u.target := by
  unfold withoutLogin
  split
  · rfl
  · split <;> rfl

/-- The routes that are posted to, each for a project. -/
inductive Route where
  | project
  | addEvents
  | clusterings
  | clusters
deriving DecidableEq

namespace Route

def path : Route → String → String
  | .project => Client.projectPath
  | .addEvents => Client.addEventsPath
  | .clusterings => Client.clusteringsPath
  | .clusters => Client.clustersPath

/-- The steps of the path, below `/api`. -/
def steps (id : List Char) : Route → List (List Char)
  | .project => [['p', 'r', 'o', 'j', 'e', 'c', 't', 's'], id]
  | .addEvents => [['p', 'r', 'o', 'j', 'e', 'c', 't', 's'], id,
    ['a', 'd', 'd', '-', 'e', 'v', 'e', 'n', 't', 's']]
  | .clusterings => [['e', 'x', 'p', 'l', 'o', 'r', 'e'], id,
    ['c', 'l', 'u', 's', 't', 'e', 'r', 'i', 'n', 'g', 's']]
  | .clusters => [['e', 'x', 'p', 'l', 'o', 'r', 'e'], id,
    ['c', 'l', 'u', 's', 't', 'e', 'r', 's']]

theorem toList_path (r : Route) (base id : String) :
    (base ++ r.path id).toList =
      base.toList ++ '/' :: 'a' :: 'p' :: 'i' :: Url.stepsText (r.steps id.toList) := by
  cases r with
  | project => simp [path, Client.projectPath, steps, Url.stepsText]
  | addEvents => simp [path, Client.addEventsPath, Client.projectPath, steps, Url.stepsText]
  | clusterings => simp [path, Client.clusteringsPath, steps, Url.stepsText]
  | clusters => simp [path, Client.clustersPath, steps, Url.stepsText]

/-- What stands in front of the id. -/
def front : Route → List Char
  | .project | .addEvents => ['/', 'p', 'r', 'o', 'j', 'e', 'c', 't', 's', '/']
  | .clusterings | .clusters => ['/', 'e', 'x', 'p', 'l', 'o', 'r', 'e', '/']

/-- What stands behind the id. -/
def back : Route → List Char
  | .project => []
  | .addEvents => ['/', 'a', 'd', 'd', '-', 'e', 'v', 'e', 'n', 't', 's']
  | .clusterings => ['/', 'c', 'l', 'u', 's', 't', 'e', 'r', 'i', 'n', 'g', 's']
  | .clusters => ['/', 'c', 'l', 'u', 's', 't', 'e', 'r', 's']

theorem stepsText_steps (r : Route) (id : List Char) :
    Url.stepsText (r.steps id) = r.front ++ (id ++ r.back) := by
  cases r <;> simp [steps, Url.stepsText, front, back]

/-- The id of a project goes on with the route of another one. -/
def Shadows (r : Route) (id : String) (r' : Route) (id' : String) : Prop :=
  r = .project ∧ r' = .addEvents ∧ id = id' ++ "/add-events"

theorem append_clusterings_ne (cs cs' : List Char) :
    cs ++ clusterings.back ≠ cs' ++ clusters.back := by
  intro h
  have hreverse := congrArg List.reverse h
  rw [List.reverse_append, List.reverse_append] at hreverse
  have hlast : 'g' = 'r' := (List.cons.inj (List.cons.inj hreverse).2).1
  exact absurd hlast (by decide)

/-- **Two addresses are the same** exactly if their routes and their projects are, or if a project
is saved whose id goes on with the route on which events are added to the other one. -/
theorem address_eq_iff (base : String) (r r' : Route) (id id' : String) :
    base ++ r.path id = base ++ r'.path id' ↔
      (r = r' ∧ id = id') ∨ r.Shadows id r' id' ∨ r'.Shadows id' r id := by
  have hshadow (x y : String) : x = y ++ "/add-events" ↔ x.toList = y.toList ++ addEvents.back := by
    rw [← String.toList_inj, String.toList_append]
    rfl
  rw [← String.toList_inj, toList_path, toList_path, List.append_cancel_left_eq, stepsText_steps,
    stepsText_steps]
  simp only [Shadows, ← String.toList_inj, hshadow]
  generalize id.toList = cs
  generalize id'.toList = cs'
  -- beginnings tell most routes apart, and the id two addresses of one route
  cases r <;> cases r' <;> simp only [front, List.cons_append, List.nil_append, List.cons.injEq,
    List.append_cancel_right_eq, Char.reduceEq, reduceCtorEq, true_and, false_and, and_false,
    or_false, false_or, or_self]
  case project.addEvents => rw [back, List.append_nil]
  case addEvents.project =>
    rw [back, List.append_nil]
    exact eq_comm
  case clusterings.clusters => exact iff_of_false (append_clusterings_ne cs cs') not_false
  case clusters.clusterings =>
    exact iff_of_false (fun h => append_clusterings_ne cs' cs h.symm) not_false

theorem steps_ne_nil (r : Route) (id : List Char) : r.steps id ≠ [] := by
  cases r <;> exact List.cons_ne_nil _ _

theorem isStep_steps (r : Route) {id : List Char} (h : Url.IsStep id) :
    ∀ s ∈ r.steps id, Url.IsStep s := by
  cases r <;> simp only [steps, List.forall_mem_cons, h, true_and] <;> decide

/-- Steps that stand for the same bytes belong to one route, and so do the ids in them. -/
theorem decode_of_steps {r r' : Route} {cs cs' : List Char}
    (h : (r.steps cs).map Url.decode = (r'.steps cs').map Url.decode) :
    r = r' ∧ Url.decode cs = Url.decode cs' := by
  have hfirst : Url.decode ['p', 'r', 'o', 'j', 'e', 'c', 't', 's'] ≠
      Url.decode ['e', 'x', 'p', 'l', 'o', 'r', 'e'] := by decide
  have hlast : Url.decode ['c', 'l', 'u', 's', 't', 'e', 'r', 'i', 'n', 'g', 's'] ≠
      Url.decode ['c', 'l', 'u', 's', 't', 'e', 'r', 's'] := by decide
  cases r <;> cases r' <;> simp only [steps, List.map_cons, List.map_nil, List.cons.injEq, hfirst,
    hfirst.symm, hlast, hlast.symm, reduceCtorEq, true_and, and_true, false_and, and_false] at h
  all_goals exact ⟨rfl, h⟩

end Route

namespace Operation

variable {α β : Type}

/-! ### What is posted -/

/-- The route that a call posts to, and the id of its project. -/
def route? : Operation α → Option (Route × String)
  | .saveProject p => some (.project, p.id)
  | .addEvents id _ => some (.addEvents, id)
  | .listClusterings id => some (.clusterings, id)
  | .listClusters id _ => some (.clusters, id)
  | .getProject _ | .sendFeedback _ => none

/-- A call can send a request, for some network and behind some trace. -/
def CanSend (op : Operation α) (c : Client) (q : Request) : Prop :=
  ∃ network trace sent e,
    (op.run c network trace).value.2 = trace ++ sent ∧ e ∈ sent ∧ e.request = q

theorem path_of_route? {op : Operation α} {r : Route} {id : String}
    (h : op.route? = some (r, id)) : op.path = r.path id ∧ op.method = .post := by
  cases op with
  | getProject id => exact nomatch h
  | sendFeedback f => exact nomatch h
  | _ =>
    cases h
    exact ⟨rfl, rfl⟩

theorem canSend_iff {op : Operation α} {c : Client} {q : Request} :
    op.CanSend c q ↔ c.request op.method op.path op.body = .ok q := by
  constructor
  · rintro ⟨network, trace, sent, e, htrace, he, rfl⟩
    rw [value_run] at htrace
    rw [← List.append_cancel_left htrace] at he
    exact (Client.mem_exchange_iff.1 he).1
  · intro h
    have hmem : ⟨q, .unreachable⟩ ∈ c.exchange .down [] op.method op.path op.body :=
      Client.mem_exchange_iff.2 ⟨h, rfl⟩
    refine ⟨.down, [], _, ⟨q, .unreachable⟩, ?_, hmem, rfl⟩
    rw [value_run]

/-- What is sent is made of the address. -/
theorem exists_url {op : Operation α} {c : Client} {r : Route} {id : String} {q : Request}
    (hroute : op.route? = some (r, id)) (h : op.CanSend c q) :
    ∃ u, Url.parse? (c.base ++ r.path id) = some u ∧ (u.scheme = Url.http ∨ u.scheme = Url.https) ∧
      q.url = Client.withoutLogin u := by
  rw [canSend_iff, (path_of_route? hroute).1] at h
  obtain ⟨u, hu, -, -, htarget, rfl⟩ := Client.request_eq_ok_iff.1 h
  obtain ⟨⟨hscheme, -⟩, -⟩ := Client.isTarget_iff.1 htarget
  rw [Client.scheme_withoutLogin] at hscheme
  exact ⟨u, hu, hscheme, rfl⟩

/-- A project whose id goes on with a route. -/
def shadowingProject : Project := { id := "p1/add-events", orgId := "o1" }

theorem exists_request_plainClient (body : Option String) :
    ∃ q, plainClient.request .post (Client.projectPath "p1/add-events") body = .ok q := by
  have hok : (plainClient.request .post (Client.projectPath "p1/add-events") none).isOk = true := by
    decide +kernel
  exact Client.exists_request_of_isOk hok body

/-- **Saving one project can address what adds events to another one**: nothing keeps a slash in an
id from being read as one of the address. -/
theorem sends_ambiguous :
    ¬ ∀ {α β : Type} (c : Client) (op : Operation α) (op' : Operation β) {r r' : Route}
      {id id' : String} {q q' : Request}, op.route? = some (r, id) → op'.route? = some (r', id') →
        op.CanSend c q → op'.CanSend c q' → q.url = q'.url → r = r' ∧ id = id' := by
  intro h
  have haddress : Client.projectPath "p1/add-events" = Client.addEventsPath "p1" := by decide
  obtain ⟨q, hq⟩ := exists_request_plainClient (some (Project.codec.text shadowingProject))
  obtain ⟨q', hq'⟩ := exists_request_plainClient (some (Client.addEventsBody []))
  have hsend : (saveProject shadowingProject).CanSend plainClient q := canSend_iff.2 hq
  rw [haddress] at hq'
  have hsend' : (addEvents "p1" []).CanSend plainClient q' := canSend_iff.2 hq'
  obtain ⟨u, hu, -, -, -, rfl⟩ := Client.request_eq_ok_iff.1 hq
  obtain ⟨u', hu', -, -, -, rfl⟩ := Client.request_eq_ok_iff.1 hq'
  rw [haddress] at hu
  obtain rfl := Option.some.inj (hu.symm.trans hu')
  have hclaim := h plainClient (saveProject shadowingProject) (addEvents "p1" []) rfl rfl hsend
    hsend' rfl
  exact nomatch hclaim.1

/-- **Where requests are posted.**  The addresses of two calls are the same exactly if the calls are
for one route and one project, or if one saves a project whose id goes on with the route on which
the other one adds events.  The requests that are sent have the same URL, or the same target if the
address of the server has no fragment, only if the calls are for one route and the ids stand for the
same bytes, given that the ids stay one step of a path. -/
theorem targets_unambiguous (c : Client) :
    (∀ (r r' : Route) (id id' : String), c.base ++ r.path id = c.base ++ r'.path id' ↔
      (r = r' ∧ id = id') ∨ r.Shadows id r' id' ∨ r'.Shadows id' r id) ∧
    ∀ {α β : Type} (op : Operation α) (op' : Operation β) {r r' : Route} {id id' : String}
      {q q' : Request}, op.route? = some (r, id) → op'.route? = some (r', id') →
        Url.IsStep id.toList → Url.IsStep id'.toList → op.CanSend c q → op'.CanSend c q' →
        (q.url = q'.url ∨ ('#' ∉ c.base.toList ∧ q.url.target = q'.url.target)) →
        r = r' ∧ Url.decode id.toList = Url.decode id'.toList ∧
          ('%' ∉ id.toList → '%' ∉ id'.toList → id = id') := by
  refine ⟨Route.address_eq_iff c.base, ?_⟩
  intro α β op op' r r' id id' q q' hroute hroute' hid hid' hsend hsend' hsame
  obtain ⟨u, hu, hweb, hurl⟩ := exists_url hroute hsend
  obtain ⟨u', hu', hweb', hurl'⟩ := exists_url hroute' hsend'
  have hsteps := r.isStep_steps hid
  have hsteps' := r'.isStep_steps hid'
  have htail : u.tail = u'.tail := by
    rcases hsame with hsame | ⟨hhash, hsame⟩
    · rw [← Client.tail_withoutLogin u, ← Client.tail_withoutLogin u', ← hurl, ← hurl', hsame]
    · rw [hurl, hurl', Client.target_withoutLogin, Client.target_withoutLogin] at hsame
      calc u.tail = u.target.toList :=
            Url.tail_eq_target (r.toList_path _ _) (r.steps_ne_nil _) hsteps hu hweb hhash
        _ = u'.target.toList := by rw [hsame]
        _ = u'.tail :=
            (Url.tail_eq_target (r'.toList_path _ _) (r'.steps_ne_nil _) hsteps' hu' hweb'
              hhash).symm
  have hdecode := Url.decode_of_tail_eq (r.toList_path _ _) (r'.toList_path _ _)
    (r.steps_ne_nil _) (r'.steps_ne_nil _) hsteps hsteps' hu hu' hweb htail
  obtain ⟨hr, hbytes⟩ := Route.decode_of_steps hdecode
  refine ⟨hr, hbytes, fun hpercent hpercent' => ?_⟩
  exact String.toList_inj.1 (Url.eq_of_decode_eq hpercent hpercent' hbytes)

/-- Saving a project and adding events to it are two calls that can be sent, and go to different
targets. -/
theorem targets_unambiguous_plainClient :
    Url.IsStep "p1".toList ∧
      ∃ q q', (saveProject plainProject).CanSend plainClient q ∧
        (addEvents "p1" []).CanSend plainClient q' ∧
        q.url ≠ q'.url ∧ q.url.target ≠ q'.url.target := by
  have hstep : Url.IsStep "p1".toList := by decide
  have hsave : (plainClient.request .post (Client.projectPath "p1") none).isOk = true := by
    decide +kernel
  have hadd : (plainClient.request .post (Client.addEventsPath "p1") none).isOk = true := by
    decide +kernel
  obtain ⟨q, hq⟩ := Client.exists_request_of_isOk hsave (some (Project.codec.text plainProject))
  obtain ⟨q', hq'⟩ := Client.exists_request_of_isOk hadd (some (Client.addEventsBody []))
  have hsend : (saveProject plainProject).CanSend plainClient q := canSend_iff.2 hq
  have hsend' : (addEvents "p1" []).CanSend plainClient q' := canSend_iff.2 hq'
  have hsame := (targets_unambiguous plainClient).2 (saveProject plainProject) (addEvents "p1" [])
    rfl rfl hstep hstep hsend hsend'
  have hhash : '#' ∉ plainClient.base.toList := by decide
  refine ⟨hstep, q, q', hsend, hsend', fun h => ?_, fun h => ?_⟩
  · exact nomatch (hsame (.inl h)).1
  · exact nomatch (hsame (.inr ⟨hhash, h⟩)).1

end Operation

end EventDetection
