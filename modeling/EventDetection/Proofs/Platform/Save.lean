import EventDetection.Proofs.Form.Submission
import EventDetection.Proofs.Platform.Call

/-!
# What a save keeps

A save overwrites the whole project on the server, so that whatever is missing from what
is sent is lost there.

* `Client.trace_saveProject`: the one request of a save carries the text of the project.
* `Form.depth_write_next`: the text of what a submission results in nests as little as the
  text that was loaded.
* `Client.save_keeps`: **what is sent after a submission keeps everything that the submission
  did not touch.**
-/

namespace EventDetection

open Http (Network Trace)
open Json (Value maxDepth)

/-! ### The request -/

/-- **A save sends the text of the project**, in one request, if a request can be made at all. -/
theorem Client.trace_saveProject (c : Client) (network : Network) (p : Project) (trace : Trace) :
    ∃ sent, ((c.saveProject network p).run trace).value.2 = trace ++ sent ∧
      (∀ e ∈ sent, e.request.body = some (Project.codec.text p)) ∧
      (sent = [] ↔
        ∃ e, c.request .post (projectPath p.id) (some (Project.codec.text p)) = .error e) := by
  refine ⟨c.exchange network trace .post (projectPath p.id) (some (Project.codec.text p)), ?_, ?_,
    exchange_eq_nil_iff⟩
  · rw [StateT.run, ← trace_call, saveProject]
    generalize c.call network .post (projectPath p.id) (some (Project.codec.text p)) = call
    rfl
  · intro e he
    exact body_of_mem_exchange he

/-- The names of events that a submission touches: the new one, and the one that is given up. -/
def Submission.Touches (sub : Submission) (name : String) : Prop :=
  name = sub.definition.name ∨ sub.renamedFrom = some name

namespace Form

variable {f : Form} {p : Project} {s : Settings}

theorem event_submission_of_not_touches {name : String} (h : ¬ (f.submission p s).Touches name) :
    (f.file (f.submission p s).definition s).1.events.get? name = s.events.get? name := by
  have hrenamed : f.renamedFrom (f.submission p s).definition ≠ some name :=
    fun hname => h (.inr hname)
  rw [get?_file, if_neg fun hname => h (.inl hname), if_neg hrenamed]

theorem isSome_event_submission (name : String) :
    ((f.file (f.submission p s).definition s).1.events.get? name).isSome ↔
      name = (f.submission p s).definition.name ∨
        ((s.events.get? name).isSome ∧ (f.submission p s).renamedFrom ≠ some name) := by
  rw [get?_file, show (f.submission p s).renamedFrom =
    f.renamedFrom (f.submission p s).definition from rfl]
  by_cases hname : name = (f.submission p s).definition.name
  · simp [hname]
  · by_cases hold : f.renamedFrom (f.submission p s).definition = some name
    · simp [hname, hold]
    · simp [hname, hold]

theorem exact_submission (hp : p.Exact) (hs : p.settings = some s) :
    (f.submission p s).next.Exact := by
  refine ⟨hp.1, fun s' hs' => ?_⟩
  cases hs'
  obtain ⟨hothers, hevents⟩ := hp.2 s hs
  refine ⟨?_, fun name d hd => ?_⟩
  · rw [others_file]
    exact hothers
  · rw [get?_file] at hd
    split at hd
    · cases hd
      exact fun k v hv => nomatch (Dict.get?_empty k).symm.trans hv
    · split at hd
      · exact nomatch hd
      · exact hevents name d hd

/-- What a submission results in nests no deeper than the text that was loaded may. -/
theorem depth_write_next {v : Value} (h : Project.codec.Shows p v) (hdepth : v.depth ≤ maxDepth)
    (hs : p.settings = some s) :
    (Project.codec.write (f.submission p s).next).depth ≤ maxDepth := by
  have hinner {ks : List String} {w : Value} (hw : v.at? ks = some w) :
      w.depth + ks.length ≤ 127 :=
    Nat.le_trans (Value.depth_at? hw) hdepth
  have hevents (name : String) (d : Definition)
      (hd : (f.file (f.submission p s).definition s).1.events.get? name = some d) :
      (Definition.codec.write d).depth ≤ 124 := by
    refine Definition.depth_write fun k w hw => ?_
    rw [get?_file] at hd
    split at hd
    · cases hd
      exact nomatch (Dict.get?_empty k).symm.trans hw
    · obtain ⟨-, hd⟩ := Option.ite_none_left_eq_some.1 hd
      rw [Project.event_others_eq_at? h hs hd] at hw
      have hle := hinner (Option.ite_none_left_eq_some.1 hw).2
      simp only [List.length_cons, List.length_nil] at hle
      omega
  have hsettings :
      (Settings.codec.write (f.file (f.submission p s).definition s).1).depth ≤ 126 := by
    refine Settings.depth_write (fun k w hw => ?_) hevents
    rw [others_file, Project.settings_others_eq_at? h hs] at hw
    have hle := hinner (Option.ite_none_left_eq_some.1 hw).2
    simp only [List.length_cons, List.length_nil] at hle
    omega
  refine Project.depth_write (fun k w hw => ?_) fun s' hs' => ?_
  · rw [show (f.submission p s).next.others = p.others from rfl, Project.others_eq_at? h] at hw
    have hle := hinner (Option.ite_none_left_eq_some.1 hw).2
    simp only [List.length_cons, List.length_nil] at hle
    omega
  · cases hs'
    exact hsettings

end Form

/-! ### What is sent -/

namespace Client

/-- A project is loaded from a text, a form is submitted to it, and the result is saved.  **What is
sent keeps every member that the submission did not touch**: the members that are not declared,
of the project, of its settings and of the other events; the names of the events; and what the
declared members of them are read as. -/
theorem save_keeps {text : String} {v : Value} {p : Project} {f : Form} {plan : Plan}
    {sub : Submission} (hv : Value.parse text = .ok v) (hnumbers : v.Integral)
    (hp : Project.codec.read text = .ok p) (hsub : (f.plan p plan).value.1 = .ok sub) :
    ∃ body w,
      (∀ (c : Client) (network : Network) (trace : Trace), ∃ sent,
        ((c.saveProject network sub.next).run trace).value.2 = trace ++ sent ∧
          (∀ e ∈ sent, e.request.body = some body) ∧
          (sent = [] ↔
            ∃ e, c.request .post (projectPath sub.next.id) (some body) = .error e)) ∧
      Value.parse body = .ok w ∧
      (∀ k, k ∉ Project.fields.names → w.at? [k] = v.at? [k]) ∧
      (∀ k, k ∉ Settings.fields.names → w.at? ["settings", k] = v.at? ["settings", k]) ∧
      (∀ name, ¬ sub.Touches name → ∀ k, k ∉ Definition.fields.names →
        w.at? ["settings", "events", name, k] = v.at? ["settings", "events", name, k]) ∧
      (∀ name, (w.at? ["settings", "events", name]).isSome ↔
        name = sub.definition.name ∨
          ((v.at? ["settings", "events", name]).isSome ∧ sub.renamedFrom ≠ some name)) ∧
      Project.codec.read body = .ok sub.next ∧
      sub.next.id = p.id ∧ sub.next.orgId = p.orgId ∧ sub.next.name = p.name ∧
      (∀ name, ¬ sub.Touches name → sub.next.event? name = p.event? name) := by
  rw [Form.value_plan] at hsub
  obtain ⟨-, s, hs, -, rfl⟩ := Form.outcome_eq_ok_iff.1 hsub
  have hshows := Project.aligned_codec.shows_of_read hp hv
  obtain ⟨⟨v', rest⟩, hscan, hend⟩ := Json.bind_eq_ok_iff.1 hv
  cases Json.Codec.eq_of_atEnd hend
  obtain ⟨horder, hdepth⟩ := Json.ordered_and_depth_of_scanValue hscan
  have hexact := Project.exact_of_shows hshows hnumbers horder
  have hround := Project.roundTrips (Form.exact_submission (f := f) hexact hs)
  have hdepth' := Form.depth_write_next (f := f) hshows hdepth hs
  have hread := Json.Codec.read_text hround hdepth'
  have hparse := Json.Codec.parse_text hround hdepth'
  have hshows' := Project.aligned_codec.shows_of_read hread hparse
  have hs' : (f.submission p s).next.settings =
      some (f.file (f.submission p s).definition s).1 := rfl
  refine ⟨_, _, fun c network trace => trace_saveProject c network _ trace, hparse, ?_, ?_, ?_, ?_,
    hread, rfl, rfl, rfl, ?_⟩
  · intro k hk
    have hkept := (Project.others_eq_at? hshows' k).symm.trans (Project.others_eq_at? hshows k)
    rwa [if_neg hk, if_neg hk] at hkept
  · intro k hk
    have hkept := Project.settings_others_eq_at? hshows' hs' k
    rw [Form.others_file, Project.settings_others_eq_at? hshows hs, if_neg hk, if_neg hk] at hkept
    exact hkept.symm
  · intro name hname k hk
    rw [Project.event_at?_eq hshows' hs' hk, Project.event_at?_eq hshows hs hk,
      Form.event_submission_of_not_touches hname]
  · intro name
    rw [Project.isSome_event_at? hshows' hs', Project.isSome_event_at? hshows hs]
    exact Form.isSome_event_submission name
  · intro name hname
    rw [Project.event?, Project.event?, hs, hs', Option.bind_some, Option.bind_some,
      Form.event_submission_of_not_touches hname]

/-! ### A renamed event among others -/

/-- An event with a member that is not declared. -/
def gradedEvent (name : String) : Definition where
  projectId := "p1"
  orgId := "o1"
  name := name
  description := "The user asks about a refund."
  others := Dict.empty.insert "severity" (.string "high")

def gradedSettings : Settings where
  events := (Dict.empty.insert "Alpha" (gradedEvent "Alpha")).insert "Beta" (gradedEvent "Beta")
  others := Dict.empty.insert "threshold" (.array [.number (.integer (-3)), .null])

/-- A project with members that are not declared on each of its levels. -/
def gradedProject : Project where
  id := "p1"
  orgId := "o1"
  settings := some gradedSettings
  others := Dict.empty.insert "region" (.number (.integer 7))

/-- The text that it is loaded from. -/
def gradedText : String := Project.codec.text gradedProject

/-- The form of one of its events, with another name. -/
def gradedForm : Form :=
  let f := Form.edit (gradedEvent "Alpha")
  { f with values := { f.values with name := "Gamma" } }

/-- What renaming the event results in. -/
def gradedSubmission : Submission := gradedForm.submission gradedProject gradedSettings

/-- Another event, and what is kept on the levels above it, goes back as it came. -/
theorem save_keeps_graded :
    Project.codec.read gradedText = .ok gradedProject ∧
      (gradedForm.plan gradedProject .hobby).value.1 = .ok gradedSubmission ∧
      ∃ body w, Value.parse body = .ok w ∧
        w.at? ["region"] = some (.number (.integer 7)) ∧
        w.at? ["settings", "threshold"] = some (.array [.number (.integer (-3)), .null]) ∧
        w.at? ["settings", "events", "Beta", "severity"] = some (.string "high") ∧
        (w.at? ["settings", "events", "Gamma"]).isSome ∧
        ¬ (w.at? ["settings", "events", "Alpha"]).isSome ∧
        Project.codec.read body = .ok gradedSubmission.next := by
  have hv : Value.parse gradedText = .ok (Project.codec.write gradedProject).inOrder := by
    refine Json.eq_ok_of_toOption ?_
    rw [Value.parse, gradedText, Json.Codec.text, Value.compact, String.toList_ofList]
    decide +kernel
  have hnumbers : (Project.codec.write gradedProject).inOrder.Integral := by
    unfold Value.Integral
    decide +kernel
  have hp : Project.codec.read gradedText = .ok gradedProject := by
    refine Json.eq_ok_of_toOption ?_
    rw [Json.Codec.read, gradedText, Json.Codec.text, Value.compact, String.toList_ofList]
    decide +kernel
  have hsub : (gradedForm.plan gradedProject .hobby).value.1 = .ok gradedSubmission := by
    have hvalid : gradedForm.values.violations = [] := by decide +kernel
    have hediting : gradedForm.editing = some (gradedEvent "Alpha") := rfl
    have houtcome : gradedForm.outcome gradedProject .hobby = .ok gradedSubmission := by
      refine Form.outcome_eq_ok_iff.2 ⟨hvalid, gradedSettings, rfl, fun hnew => ?_, rfl⟩
      cases hediting.symm.trans hnew
    rw [Form.value_plan]
    exact houtcome
  obtain ⟨body, w, -, hw, hproject, hsettings, hevents, hnames, hread, -⟩ :=
    save_keeps hv hnumbers hp hsub
  refine ⟨hp, hsub, body, w, hw, ?_, ?_, ?_, ?_, ?_, hread⟩
  · rw [hproject "region" (by decide +kernel)]
    decide +kernel
  · rw [hsettings "threshold" (by decide +kernel)]
    decide +kernel
  · have huntouched : ¬ gradedSubmission.Touches "Beta" := by
      unfold Submission.Touches
      decide +kernel
    rw [hevents "Beta" huntouched "severity" (by decide +kernel)]
    decide +kernel
  · exact (hnames "Gamma").2 (.inl (by decide +kernel))
  · rw [hnames "Alpha"]
    decide +kernel

end Client

end EventDetection
