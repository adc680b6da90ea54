import EventDetection.Project

/-!
# Updates of the filed events

Events are filed and left out one after the other, under shared and distinct names.  Each update
changes what is filed under the one name that it is about, and returns what was filed there before.
So the last update that names an event decides about it, and the number of events can be told from
what was filed and what was returned.

* `Settings.Update`, `Settings.update`, `Settings.run`: an update, and several ones in a row.
* `Settings.Update.Displaces`: what one update does, and what it returns.
* `Settings.displaces_update`, `Settings.count_update`: **every update does this**, and what it does
  to the number of events.
* `Settings.run_append`, `Settings.get?_run_of_unnamed`: runs in two parts, and runs that do not
  name an event.
* `Settings.events_after_updates`: **all that a run of updates does.**
-/

namespace EventDetection.Settings

/-- An update of the events of a project. -/
inductive Update where
  | insert (d : Definition)
  | remove (name : String)
deriving DecidableEq

namespace Update

/-- The name of the event that an update is about. -/
def name : Update → String
  | .insert d => d.name
  | .remove n => n

/-- What an update leaves under its name. -/
def filed? : Update → Option Definition
  | .insert d => some d
  | .remove _ => none

def inserts (u : Update) : Bool := u.filed?.isSome

/-- An update of `s` leads to `t` and returns `displaced`: that is what was filed under its name, all
else stays. -/
structure Displaces (u : Update) (s t : Settings) (displaced : Option Definition) : Prop where
  returned : displaced = s.events.get? u.name
  there : t.events.get? u.name = u.filed?
  elsewhere : ∀ n, n ≠ u.name → t.events.get? n = s.events.get? n
  others : t.others = s.others

end Update

/-- Makes an update, and returns the event that it displaces. -/
def update (s : Settings) : Update → Settings × Option Definition
  | .insert d => s.insertEvent d
  | .remove n => s.removeEvent n

/-- Makes updates one after the other, and returns what each of them displaces. -/
def run (s : Settings) : List Update → Settings × List (Option Definition)
  | [] => (s, [])
  | u :: us =>
    let later := (s.update u).1.run us
    (later.1, (s.update u).2 :: later.2)

/-- Every event is filed under its own name. -/
def FiledByName (s : Settings) : Prop := ∀ n d, s.events.get? n = some d → d.name = n

variable {s : Settings} {n : String} {us : List Update}

/-! ### One update -/

theorem displaces_update (s : Settings) (u : Update) :
    u.Displaces s (s.update u).1 (s.update u).2 := by
  cases u with
  | insert d =>
    refine ⟨rfl, Dict.get?_insert_self s.events d.name d, ?_, rfl⟩
    intro n hn
    exact Dict.get?_insert_of_ne s.events d hn
  | remove m =>
    refine ⟨rfl, Dict.get?_erase_self s.events m, ?_, rfl⟩
    intro n hn
    exact Dict.get?_erase_of_ne s.events hn

/-- One event more for what is filed, and one less for what is displaced. -/
theorem count_update (s : Settings) (u : Update) :
    (s.update u).1.count + (if (s.update u).2.isSome then 1 else 0) =
      s.count + if u.inserts then 1 else 0 := by
  cases u with
  | insert d =>
    show (s.events.insert d.name d).size + (if (s.events.get? d.name).isSome then 1 else 0) =
      s.events.size + 1
    have hsize := Dict.size_insert s.events d.name d
    by_cases hold : (s.events.get? d.name).isSome
    · rw [if_pos hold] at hsize ⊢
      omega
    · rw [if_neg hold] at hsize ⊢
      omega
  | remove m =>
    show (s.events.erase m).size + (if (s.events.get? m).isSome then 1 else 0) =
      s.events.size + 0
    exact Dict.size_erase s.events m

theorem filedByName_update (h : s.FiledByName) (u : Update) : (s.update u).1.FiledByName := by
  intro n d hd
  have hu := displaces_update s u
  by_cases hn : n = u.name
  · -- what is there now is what the update has filed
    subst hn
    rw [hu.there] at hd
    cases u with
    | insert e =>
      obtain rfl := Option.some.inj hd
      rfl
    | remove m => exact nomatch hd
  · rw [hu.elsewhere n hn] at hd
    exact h n d hd

/-! ### Runs -/

theorem run_append (s : Settings) (us vs : List Update) :
    s.run (us ++ vs) =
      (((s.run us).1.run vs).1, (s.run us).2 ++ ((s.run us).1.run vs).2) := by
  induction us generalizing s with
  | nil => rfl
  | cons u us ih => simp only [List.cons_append, run, ih]

theorem length_run (s : Settings) (us : List Update) : (s.run us).2.length = us.length := by
  induction us generalizing s with
  | nil => rfl
  | cons u us ih => simp only [run, List.length_cons, ih]

/-- What no update names stays as it was. -/
theorem get?_run_of_unnamed (h : ∀ u ∈ us, u.name ≠ n) :
    (s.run us).1.events.get? n = s.events.get? n := by
  induction us generalizing s with
  | nil => rfl
  | cons u us ih =>
    have hn : n ≠ u.name := Ne.symm (h u List.mem_cons_self)
    rw [run, ih fun v hv => h v (List.mem_cons_of_mem u hv)]
    exact (displaces_update s u).elsewhere n hn

/-- **The last update that names an event decides about it.** -/
theorem get?_run_of_last (before : List Update) (u : Update) {after : List Update}
    (h : ∀ v ∈ after, v.name ≠ u.name) :
    (s.run (before ++ u :: after)).1.events.get? u.name = u.filed? := by
  rw [run_append, run, get?_run_of_unnamed h]
  exact (displaces_update (s.run before).1 u).there

/-- An update within a run displaces what the updates before it have left. -/
theorem displaces_run (s : Settings) (before : List Update) (u : Update) (after : List Update) :
    ∃ displaced, (s.run (before ++ u :: after)).2[before.length]? = some displaced ∧
      u.Displaces (s.run before).1 (s.run (before ++ [u])).1 displaced := by
  have hstep := displaces_update (s.run before).1 u
  refine ⟨((s.run before).1.update u).2, ?_, ?_⟩
  · rw [run_append, List.getElem?_append_right (Nat.le_of_eq (length_run s before)), length_run,
      Nat.sub_self]
    rfl
  · rw [run_append]
    exact hstep

theorem count_run (s : Settings) (us : List Update) :
    (s.run us).1.count + (s.run us).2.countP Option.isSome =
      s.count + us.countP Update.inserts := by
  induction us generalizing s with
  | nil => rfl
  | cons u us ih =>
    have hstep := count_update s u
    have hrest := ih (s.update u).1
    simp only [run, List.countP_cons]
    omega

theorem filedByName_run (h : s.FiledByName) (us : List Update) : (s.run us).1.FiledByName := by
  induction us generalizing s with
  | nil => exact h
  | cons u us ih => exact ih (filedByName_update h u)

theorem others_run (s : Settings) (us : List Update) : (s.run us).1.others = s.others := by
  induction us generalizing s with
  | nil => rfl
  | cons u us ih => exact (ih (s.update u).1).trans (displaces_update s u).others

/-- Any updates are made of any events.  An event is filed in the end if nothing names it after it
was filed, is not there if nothing names it after it was left out, and is as it was at first if
nothing names it at all.  **Each update returns exactly what it displaces.**  The number of events
grows by what is filed, less what is returned.  Events filed under their own names at first are so
in the end, and no other member of the settings is touched. -/
theorem events_after_updates (s : Settings) (us : List Update) :
    (∀ before d after, us = before ++ .insert d :: after → (∀ u ∈ after, u.name ≠ d.name) →
      (s.run us).1.events.get? d.name = some d) ∧
    (∀ before n after, us = before ++ .remove n :: after → (∀ u ∈ after, u.name ≠ n) →
      (s.run us).1.events.get? n = none) ∧
    (∀ n, (∀ u ∈ us, u.name ≠ n) → (s.run us).1.events.get? n = s.events.get? n) ∧
    (s.run us).2.length = us.length ∧
    (∀ before u after, us = before ++ u :: after →
      ∃ displaced, (s.run us).2[before.length]? = some displaced ∧
        u.Displaces (s.run before).1 (s.run (before ++ [u])).1 displaced) ∧
    (s.run us).1.count + (s.run us).2.countP Option.isSome =
      s.count + us.countP Update.inserts ∧
    (s.FiledByName → (s.run us).1.FiledByName) ∧
    (s.run us).1.others = s.others := by
  refine ⟨?_, ?_, fun n => get?_run_of_unnamed, length_run s us, ?_, count_run s us,
    fun h => filedByName_run h us, others_run s us⟩
  · rintro before d after rfl hlast
    exact get?_run_of_last before (.insert d) hlast
  · rintro before n after rfl hlast
    exact get?_run_of_last before (.remove n) hlast
  · rintro before u after rfl
    exact displaces_run s before u after

/-! ### Two events that take turns -/

/-- An event about a topic. -/
def event (name description : String) : Definition where
  projectId := "p1"
  orgId := "o1"
  name := name
  description := description

/-- An event about refunds and one about angry users. -/
def filed : Settings where
  events := (Dict.empty.insert "Refund" (event "Refund" "The user asks about a refund.")).insert
    "Angry" (event "Angry" "The user is angry.")

/-- The first event is filed anew, left out and filed again, an unknown one is left out, and a third
one comes and goes. -/
def turns : List Update :=
  [.insert (event "Refund" "The user wants money back."), .remove "Refund", .remove "Nobody",
    .insert (event "Prices" "The user asks about prices."),
    .insert (event "Refund" "The user got a refund."), .remove "Prices"]

/-- The last description of the first event counts, the third one is gone and the second one is
there, of two events in all. -/
theorem events_after_updates_turns :
    filed.FiledByName ∧ (filed.run turns).1.FiledByName ∧
      (filed.run turns).1.events.get? "Refund" = some (event "Refund" "The user got a refund.") ∧
      (filed.run turns).1.events.get? "Prices" = none ∧
      (filed.run turns).1.events.get? "Angry" = some (event "Angry" "The user is angry.") ∧
      (filed.run turns).1.count = 2 := by
  obtain ⟨hinsert, hremove, hunnamed, -, -, hcount, hfiled, -⟩ := events_after_updates filed turns
  have hfirst : filed.FiledByName := by
    intro n d hd
    rw [filed, Dict.get?_insert, Dict.get?_insert, Dict.get?_empty] at hd
    split at hd
    · next hn =>
      obtain rfl := Option.some.inj hd
      exact hn.symm
    · split at hd
      · next hn =>
        obtain rfl := Option.some.inj hd
        exact hn.symm
      · exact nomatch hd
  refine ⟨hfirst, hfiled hfirst, ?_, ?_, ?_, ?_⟩
  · exact hinsert (turns.take 4) (event "Refund" "The user got a refund.") [.remove "Prices"] rfl
      (by decide)
  · exact hremove (turns.take 5) "Prices" [] rfl (by decide)
  · exact hunnamed "Angry" (by decide)
  · have hreturned : (filed.run turns).2.countP Option.isSome = 3 := by decide +kernel
    have hinserted : turns.countP Update.inserts = 3 := by decide +kernel
    have hstart : filed.count = 2 := by decide +kernel
    omega

end EventDetection.Settings
