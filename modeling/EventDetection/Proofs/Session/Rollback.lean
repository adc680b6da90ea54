import EventDetection.Proofs.Session.Submission
import EventDetection.Session.MemoryStore
import EventDetection.Session.Sample

/-!
# Rolling back

A session that rolls back gives up what the store rejects.  So its project is at any time what
the store holds for it, whichever updates were tried before and whichever of them were accepted.

* `Session.updates`: forms are submitted to a session, and other projects are committed to it.
* `Session.value_update`: an update asks the store to save a project once, or leaves all as it is.
* `Session.InStep`: the project is what the store holds, and what it has accepted last.
* `Session.stored_after_updates`: **this is so after any updates.**
-/

namespace EventDetection

/-! ### What a store has accepted -/

namespace MemoryStore

/-- Every project is filed under its own id.  A new store starts so, and all that is put into it
or saved keeps it so. -/
def Filed (m : MemoryStore) : Prop := ∀ id p, m.get? id = some p → p.id = id

theorem filed_new (rejects : Nat → Bool) : ({ rejects } : MemoryStore).Filed := by
  intro id p hp
  exact nomatch (Dict.get?_empty id).symm.trans hp

theorem filed_put {m : MemoryStore} (hm : m.Filed) (p : Project) : (m.put p).Filed := by
  intro id q hq
  change (m.projects.insert p.id p).get? id = some q at hq
  rw [Dict.get?_insert] at hq
  split at hq
  · next hid =>
    rw [hid, ← Option.some.inj hq]
  · exact hm id q hq

theorem filed_save {m : MemoryStore} (hm : m.Filed) (p : Project) : (m.save p).2.Filed := by
  rw [save]
  split
  · exact hm
  · exact filed_put hm p

/-- The projects that were accepted from the attempt of a number on, in their order. -/
def acceptedFrom (m : MemoryStore) (n : Nat) : List Project :=
  ((m.attempts.zipIdx.drop n).filter fun a => !m.rejects a.2).map (·.1)

theorem acceptedFrom_saveCount (m : MemoryStore) : m.acceptedFrom m.saveCount = [] := by
  have hdrop : m.attempts.zipIdx.drop m.saveCount = [] :=
    List.drop_eq_nil_of_le (Nat.le_of_eq List.length_zipIdx)
  rw [acceptedFrom, hdrop]
  rfl

/-- An attempt that is accepted is the last one accepted so far. -/
theorem acceptedFrom_save {m : MemoryStore} {n : Nat} (hn : n ≤ m.saveCount) (p : Project) :
    (m.save p).2.acceptedFrom n =
      m.acceptedFrom n ++ if m.rejects m.saveCount then [] else [p] := by
  have hattempts : (m.save p).2.attempts = m.attempts ++ [p] := by
    rw [save]
    split <;> rfl
  have hrejects : (m.save p).2.rejects = m.rejects := by
    rw [save]
    split <;> rfl
  have hzip : (m.attempts ++ [p]).zipIdx.drop n =
      m.attempts.zipIdx.drop n ++ [(p, m.saveCount)] := by
    rw [List.zipIdx_append, List.drop_append_of_le_length (by rw [List.length_zipIdx]; exact hn),
      List.zipIdx_singleton, Nat.zero_add]
    rfl
  rw [acceptedFrom, hattempts, hrejects, hzip, List.filter_append, List.map_append, acceptedFrom]
  cases hr : m.rejects m.saveCount <;> simp [hr]

theorem save_rejected {m : MemoryStore} (h : m.rejects m.saveCount = true) (p : Project) :
    (m.save p).1.isOk = false ∧ (m.save p).2.projects = m.projects := by
  rw [save, if_pos h]
  exact ⟨rfl, rfl⟩

end MemoryStore

/-! ### Updates -/

/-- A way to update the project of a session: a form is submitted, or a project is saved that
was changed otherwise. -/
inductive Update where
  | submit (form : Form) (p : Plan)
  | commit (next : Project)

namespace Session

variable {σ : Type}

def update (s : Session) (store : ProjectStore σ) : Update → Action σ Session
  | .submit form p => do return (← s.submit store form p).2.1
  | .commit next => do return (← s.commit store next).2

/-- Takes updates one after the other. -/
def updates (s : Session) (store : ProjectStore σ) : List Update → Action σ Session
  | [] => return s
  | u :: us => do (← s.update store u).updates store us

/-- The project that an update asks the store to save. -/
def attempt? (s : Session) : Update → Option Project
  | .submit form p => (form.outcome s.project p).toOption.map Submission.next
  | .commit next => some next

/-- **An update asks the store once, or leaves all as it is.** -/
theorem value_update (s : Session) (store : ProjectStore σ) (u : Update) (w : σ) :
    (s.update store u w).value =
      match s.attempt? u with
      | none => (s, w)
      | some next => (s.settle next (store.save next w).value.1, (store.save next w).value.2) := by
  cases u with
  | submit form p =>
    rw [update, Action.value_bind, attempt?]
    cases ho : form.outcome s.project p with
    | error e => rw [value_submit_error ho]; rfl
    | ok sub => rw [value_submit_ok ho]; rfl
  | commit next =>
    rw [update, Action.value_bind, value_commit]
    rfl

theorem value_updates_cons (s : Session) (store : ProjectStore σ) (u : Update) (us : List Update)
    (w : σ) :
    (s.updates store (u :: us) w).value =
      ((s.update store u w).value.1.updates store us (s.update store u w).value.2).value := rfl

/-! ### The invariant -/

/-- A session that rolls back is in step with its store: its project is what the store holds
for it, and what the store accepted last from the attempt of number `n` on, or `p` if it accepted
nothing. -/
structure InStep (n : Nat) (p : Project) (s : Session) (m : MemoryStore) : Prop where
  rollback : s.rollback = true
  attempted : n ≤ m.saveCount
  stored : m.get? s.project.id = some s.project
  last : s.project = (m.acceptedFrom n).getLast?.getD p

/-- **An attempt to save keeps the session in step**, accepted or not. -/
theorem InStep.settle {n : Nat} {p : Project} {s : Session} {m : MemoryStore}
    (h : InStep n p s m) (next : Project) :
    InStep n p (s.settle next (m.save next).1) (m.save next).2 := by
  have haccepted := MemoryStore.acceptedFrom_save h.attempted next
  have hcount : n ≤ (m.save next).2.saveCount := by
    rw [MemoryStore.saveCount_save]
    exact Nat.le_succ_of_le h.attempted
  cases hr : m.rejects m.saveCount with
  | true =>
    obtain ⟨hsaved, hprojects⟩ := MemoryStore.save_rejected hr next
    have hsettle : s.settle next (m.save next).1 = s := by
      rw [Session.settle, hsaved, h.rollback]
      rfl
    rw [hr, if_pos rfl, List.append_nil] at haccepted
    rw [hsettle]
    refine ⟨h.rollback, hcount, ?_, ?_⟩
    · rw [MemoryStore.get?, hprojects]
      exact h.stored
    · rw [haccepted]
      exact h.last
  | false =>
    obtain ⟨hsaved, hstored⟩ := MemoryStore.save_accepted hr next
    have hsettle : s.settle next (m.save next).1 = { s with project := next } := by
      rw [Session.settle, hsaved]
      rfl
    rw [hr, if_neg Bool.false_ne_true] at haccepted
    rw [hsettle]
    refine ⟨h.rollback, hcount, hstored, ?_⟩
    rw [haccepted, List.getLast?_append]
    rfl

theorem InStep.update {n : Nat} {p : Project} {s : Session} {m : MemoryStore}
    (h : InStep n p s m) (u : Update) :
    InStep n p (s.update MemoryStore.store u m).value.1
      (s.update MemoryStore.store u m).value.2 := by
  rw [value_update]
  cases s.attempt? u with
  | none => exact h
  | some next => exact h.settle next

theorem InStep.updates {n : Nat} {p : Project} {s : Session} {m : MemoryStore}
    (h : InStep n p s m) (us : List Update) :
    InStep n p (s.updates MemoryStore.store us m).value.1
      (s.updates MemoryStore.store us m).value.2 := by
  induction us generalizing s m with
  | nil => exact h
  | cons u us ih =>
    rw [value_updates_cons]
    exact ih (h.update u)

/-- A session starts with what the store holds. -/
theorem of_load {m m' : MemoryStore} {id : String} {rollback : Bool} {s : Session}
    (h : (load MemoryStore.store id rollback m).value = (.ok s, m')) :
    m' = m ∧ m.get? id = some s.project ∧ s.rollback = rollback := by
  cases hp : m.get? id with
  | none =>
    have hload : m.load id = .error ("MemoryProjectStore: no project " ++ id) := by
      rw [MemoryStore.load, hp]
    simp only [load, MemoryStore.store, bind, StateT.bind, hload] at h
    cases h
  | some p =>
    have hload : m.load id = .ok p := by rw [MemoryStore.load, hp]
    simp only [load, MemoryStore.store, bind, StateT.bind, hload] at h
    cases h
    exact ⟨rfl, rfl, rfl⟩

/-- A session is loaded from a store and rolls back what the store rejects.  **After any updates
its project is what the store holds under its id**, and it is the project that was accepted last,
or the loaded one if none was. -/
theorem stored_after_updates {m m' : MemoryStore} {id : String} {s : Session} (hm : m.Filed)
    (h : (load MemoryStore.store id true m).value = (.ok s, m')) (us : List Update) :
    m.get? id = some s.project ∧
      ∃ s₁ m₁, (s.updates MemoryStore.store us m').value = (s₁, m₁) ∧
        m₁.get? s₁.project.id = some s₁.project ∧
        s₁.project = (m₁.acceptedFrom m.saveCount).getLast?.getD s.project := by
  obtain ⟨rfl, hloaded, hrollback⟩ := of_load h
  have hstart : InStep m'.saveCount s.project s m' := by
    refine ⟨hrollback, Nat.le_refl _, ?_, ?_⟩
    · rw [hm id s.project hloaded]
      exact hloaded
    · rw [MemoryStore.acceptedFrom_saveCount]
      rfl
  have hend := hstart.updates us
  exact ⟨hloaded, _, _, rfl, hend.stored, hend.last⟩

/-! ### Every other attempt is rejected -/

/-- A store with one project, which rejects every other attempt. -/
def everyOther : MemoryStore :=
  MemoryStore.put { rejects := fun n => n % 2 = 1 } (.sample "p1" ["Alpha"])

/-- A session on that project. -/
def careful : Session where
  project := .sample "p1" ["Alpha"]
  rollback := true

/-- A form is submitted, projects with other ids are committed, and the form is submitted again. -/
def mixed : List Update :=
  let form : Form :=
    { values := { name := "Refund", description := "The user asks about a refund." } }
  [.submit form .hobby, .commit (.sample "p2" ["Beta"]), .commit (.sample "p3" []),
    .submit form .hobby]

/-- The second and the last of four attempts are rejected, and so the project of the third one
counts. -/
theorem stored_after_updates_mixed :
    everyOther.Filed ∧
      (load MemoryStore.store "p1" true everyOther).value = (.ok careful, everyOther) ∧
      ∃ s₁ m₁, (careful.updates MemoryStore.store mixed everyOther).value = (s₁, m₁) ∧
        m₁.saveCount = 4 ∧ m₁.get? "p3" = some s₁.project ∧ s₁.project = .sample "p3" [] := by
  have hfiled : everyOther.Filed := MemoryStore.filed_put (MemoryStore.filed_new _) _
  have hload : (load MemoryStore.store "p1" true everyOther).value =
      (.ok careful, everyOther) := by rfl
  obtain ⟨-, s₁, m₁, hrun, hstored, hlast⟩ := stored_after_updates hfiled hload mixed
  have hm₁ : m₁ = (careful.updates MemoryStore.store mixed everyOther).value.2 := by rw [hrun]
  have hproject : s₁.project = .sample "p3" [] := by
    rw [hlast, hm₁]
    rfl
  refine ⟨hfiled, hload, s₁, m₁, hrun, ?_, ?_, hproject⟩
  · rw [hm₁]
    rfl
  · rw [hproject] at hstored ⊢
    exact hstored

end Session

end EventDetection
