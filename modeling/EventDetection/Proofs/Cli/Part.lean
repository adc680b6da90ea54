import EventDetection.Cli.Run

/-!
# Parts of commands

What comes of a part of a command behind a trace: a value or a failure, and the trace with the
exchanges that the part leaves behind.

* `Part.value_bind`, `Part.value_report`: a failure ends the command, and is what it reports.
* `Part.value_ofExcept`, `Part.value_ofLogged`, `Part.value_always`, `Part.value_ofAction`,
  `Part.value_ofAction_map`: the parts that commands are made of.
-/

namespace EventDetection.Cli.Part

open Http (Trace)

variable {α β ε : Type}

theorem value_pure (x : α) (trace : Trace) :
    ((pure x : Part α).run trace).value = (.ok x, trace) := rfl

/-- **A part after a part**, unless the first one failed. -/
theorem value_bind (p : Part α) (k : α → Part β) (trace : Trace) :
    ((p >>= k).run trace).value =
      match (p.run trace).value with
      | (.ok x, t) => ((k x).run t).value
      | (.error f, t) => (.error f, t) := by
  have hbind : ((p >>= k).run trace).value =
      (ExceptT.bindCont k (p.run trace).value.1 (p.run trace).value.2).value := rfl
  rw [hbind]
  rcases (p.run trace).value with ⟨r, t⟩
  cases r <;> rfl

theorem value_ofExcept (r : Except Failure α) (trace : Trace) :
    ((ofExcept r).run trace).value = (r, trace) := rfl

theorem value_ofLogged (a : Logged (Except Failure α)) (trace : Trace) :
    ((ofLogged a).run trace).value = (a.value, trace) := rfl

theorem value_always (a : Logged α) (trace : Trace) :
    ((always a).run trace).value = (.ok a.value, trace) := rfl

theorem value_ofAction (a : Action Trace (Except ε α)) (toFailure : ε → Failure) (trace : Trace) :
    ((ofAction do return (← a).mapError toFailure).run trace).value =
      ((a trace).value.1.mapError toFailure, (a trace).value.2) := rfl

theorem value_ofAction_map (a : Action Trace α) (f : α → Except Failure β) (trace : Trace) :
    ((ofAction do return f (← a)).run trace).value =
      (f (a trace).value.1, (a trace).value.2) := rfl

/-- **A failure is reported**, with the exchanges that were made before it. -/
theorem value_report (p : Part Report) (trace : Trace) :
    (p.report trace).value =
      match (p.run trace).value with
      | (.ok r, t) => (r, t)
      | (.error f, t) => (.failure f, t) := by
  rw [report, Action.value_bind]
  rcases (p.run trace).value with ⟨r, t⟩
  cases r <;> rfl

end EventDetection.Cli.Part
