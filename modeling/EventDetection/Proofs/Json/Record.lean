import EventDetection.Json.Record
import EventDetection.Proofs.Json.Codec

/-!
# Two ways of reading a record

A record is read from an object: its declared members from the members of their names
(`Fields.Shows`), and the others as they stand there.  One that passes over the others may also be
read from a list (`Fields.ShowsItems`).

* `Fields.fill_eq_none_iff`, `Fields.fill_matches`: one member.
* `Codec.aligned_record`, `Codec.aligned_openRecord`: what is read ends where the object ends.
* `Codec.shows_openRecord`: **the others of a record are the members that it does not declare.**
* `Codec.shows_record`: what a record is read from that passes over the others.
* `Codec.scan_record_of_absent`: a record is read from an object that has none of its members.
-/

namespace EventDetection.Json

namespace Fields

variable {σ : Type}

/-- All declared members are aligned. -/
def Aligned : {σ : Type} → Fields σ → Prop
  | _, .nil => True
  | _, .cons f rest => f.codec.Aligned ∧ rest.Aligned

/-- A draft holds what was read from the members of an object, and nothing else. -/
def Matches : {σ : Type} → (fs : Fields σ) → fs.Draft → Dict Value → Prop
  | _, .nil, _, _ => True
  | _, .cons (α := α) f rest, draft, members =>
    let d : Option α × rest.Draft := draft
    Option.Rel f.codec.Shows d.1 (members.get? f.name) ∧ rest.Matches d.2 members

/-- The declared members were read from the members of an object, or stand for missing ones. -/
def Shows : {σ : Type} → (fs : Fields σ) → σ → Value → Prop
  | _, .nil, _, _ => True
  | _, .cons f rest, (x, xs), v =>
    (match v.member? f.name with
      | some w => f.codec.Shows x w
      | none => f.default? = some x) ∧ rest.Shows xs v

/-- The declared members were read from the items of a list, or stand for missing ones. -/
def ShowsItems : {σ : Type} → Fields σ → σ → List Value → Prop
  | _, .nil, _, vs => vs = []
  | _, .cons f rest, (x, xs), [] => f.default? = some x ∧ rest.ShowsItems xs []
  | _, .cons f rest, (x, xs), v :: vs => f.codec.Shows x v ∧ rest.ShowsItems xs vs

section Shows

variable {α : Type} {f : Field α} {rest : Fields σ} {x : α} {xs : σ} {v : Value}

theorem Shows.of_some (h : (cons f rest).Shows (x, xs) v) {w : Value}
    (hv : v.member? f.name = some w) : f.codec.Shows x w := by
  have hx := h.1
  rw [hv] at hx
  exact hx

theorem Shows.of_none (h : (cons f rest).Shows (x, xs) v) (hv : v.member? f.name = none) :
    f.default? = some x := by
  have hx := h.1
  rw [hv] at hx
  exact hx

end Shows

/-! ### One member -/

section Fill

variable {α ρ : Type} (f : Field α) (rest : Fields σ)
  (read : {α : Type} → Codec α → Except ReadError (α × ρ))

theorem fill_cons_self (x : Option α) (d : rest.Draft) :
    (cons f rest).fill f.name read (x, d) =
      some (match x with
        | some _ => .error (.duplicateField f.name)
        | none => (read f.codec).map fun r => ((some r.1, d), r.2)) :=
  if_pos rfl

theorem fill_cons_of_ne {name : String} (h : name ≠ f.name) (x : Option α) (d : rest.Draft) :
    (cons f rest).fill name read (x, d) =
      (rest.fill name read d).map fun e => e.map fun r => ((x, r.1), r.2) :=
  if_neg h

end Fill

theorem fill_eq_none_iff {ρ : Type} {name : String}
    {read : {α : Type} → Codec α → Except ReadError (α × ρ)} {fs : Fields σ} {d : fs.Draft} :
    fs.fill name read d = none ↔ name ∉ fs.names := by
  induction fs with
  | nil => exact ⟨fun _ => List.not_mem_nil, fun _ => rfl⟩
  | cons f rest ih =>
    obtain ⟨x, d⟩ := d
    rw [names, List.mem_cons, not_or]
    by_cases hname : name = f.name
    · subst hname
      rw [fill_cons_self]
      exact ⟨nofun, fun h => absurd rfl h.1⟩
    · rw [fill_cons_of_ne f rest read hname]
      refine Option.map_eq_none_iff.trans (ih.trans ?_)
      exact ⟨fun h => ⟨hname, h⟩, fun h => h.2⟩

theorem matches_blank (fs : Fields σ) : fs.Matches fs.blank Dict.empty := by
  induction fs with
  | nil => trivial
  | cons f rest ih =>
    refine ⟨?_, ih⟩
    rw [Dict.get?_empty]
    exact .none

theorem matches_insert {fs : Fields σ} {name : String} (hname : name ∉ fs.names) {d : fs.Draft}
    {members : Dict Value} (h : fs.Matches d members) (v : Value) :
    fs.Matches d (members.insert name v) := by
  induction fs with
  | nil => trivial
  | cons f rest ih =>
    rw [names, List.mem_cons, not_or] at hname
    refine ⟨?_, ih hname.2 h.2⟩
    rw [Dict.get?_insert_of_ne _ v (Ne.symm hname.1)]
    exact h.1

/-- A declared member ends where its value ends. -/
theorem fill_matches {fs : Fields σ} (hfs : fs.Aligned) (hnames : fs.names.Nodup) {room : Nat}
    {name : String} {cs start mid mid' : List Char} {d d' : fs.Draft} {members : Dict Value}
    {v : Value} (hd : fs.Matches d members)
    (h : fs.fill name (fun c => scanColon cs >>= c.scan room) d = some (.ok (d', mid)))
    (hcolon : scanColon cs = .ok start) (hv : scanValue room start = .ok (v, mid')) :
    mid' = mid ∧ fs.Matches d' (members.insert name v) := by
  induction fs with
  | nil => exact nomatch h
  | cons f rest ih =>
    obtain ⟨x, d⟩ := d
    rw [names, List.nodup_cons] at hnames
    by_cases hname : name = f.name
    · subst hname
      rw [fill_cons_self, Option.some.injEq] at h
      cases x with
      | some y => exact nomatch h
      | none =>
        obtain ⟨⟨y, r⟩, hy, h⟩ := map_eq_ok_iff.1 h
        cases h
        obtain ⟨start', hcolon', hy⟩ := bind_eq_ok_iff.1 hy
        cases hcolon.symm.trans hcolon'
        obtain ⟨hmid, hshows⟩ := hfs.1.shows hy hv
        refine ⟨hmid, ?_, matches_insert hnames.1 hd.2 v⟩
        rw [Dict.get?_insert_self]
        exact .some hshows
    · rw [fill_cons_of_ne f rest _ hname] at h
      obtain ⟨e, he, h⟩ := Option.map_eq_some_iff.1 h
      obtain ⟨⟨d'', r⟩, rfl, h⟩ := map_eq_ok_iff.1 h
      cases h
      obtain ⟨hmid, hmatches⟩ := ih hfs.2 hnames.2 hd.2 he
      refine ⟨hmid, ?_, hmatches⟩
      rw [Dict.get?_insert_of_ne _ v (Ne.symm hname)]
      exact hd.1

theorem shows_of_finish {fs : Fields σ} {d : fs.Draft} {members : Dict Value} {x : σ}
    (hd : fs.Matches d members) (h : fs.finish d = .ok x) : fs.Shows x (.ofDict members) := by
  induction fs with
  | nil => trivial
  | cons f rest ih =>
    obtain ⟨y, d⟩ := d
    obtain ⟨hy, hd⟩ := hd
    rw [finish] at h
    split at h
    · next z hz =>
      obtain ⟨xs, hxs, rfl⟩ := map_eq_ok_iff.1 h
      refine ⟨?_, ih hd hxs⟩
      rw [Value.member?_ofDict]
      cases hv : members.get? f.name with
      | none =>
        rw [hv] at hy
        cases hy
        exact hz
      | some v =>
        rw [hv] at hy
        cases hy with
        | some hshows =>
          cases hz
          exact hshows
    · exact nomatch h

/-! ### Lists -/

/-- Members that are read by position end where the list ends. -/
theorem scanPositions_align {fs : Fields σ} (hfs : fs.Aligned) {expected : String}
    {room position : Nat} {cs mid rest rest' : List Char} {x : σ} {vs : List Value}
    (h : fs.scanPositions expected room position cs = .ok (x, mid))
    (hend : scanListEnd mid = .ok rest)
    (hitems : ItemsRun (scanValue room) (position = 0) cs vs rest') :
    rest' = rest ∧ fs.ShowsItems x vs := by
  induction fs generalizing position cs vs with
  | nil =>
    cases h
    unfold scanListEnd at hend
    split at hend
    · exact nomatch hend
    · next heq =>
      cases hend
      cases hitems with
      | done k => exact ⟨(List.cons.inj (k.symm.trans heq)).2, rfl⟩
      | next k hc => exact absurd (List.cons.inj (k.symm.trans heq)).1 hc
    · split at hend <;> exact nomatch hend
    · exact nomatch hend
  | cons f fs ih =>
    rw [scanPositions] at h
    split at h
    · exact nomatch h
    · next heq =>
      -- the list ends before the member, which is missing then
      cases hitems with
      | done k =>
        split at h
        · next y hy =>
          obtain ⟨⟨ys, r⟩, hys, h⟩ := map_eq_ok_iff.1 h
          cases h
          obtain ⟨hrest, hshows⟩ := ih hfs.2 hys (.done k)
          exact ⟨hrest, hy, hshows⟩
        · exact nomatch h
      | next k hc => exact absurd (List.cons.inj (k.symm.trans heq)).1 hc
    · next hend' =>
      obtain ⟨start, hstart, h⟩ := bind_eq_ok_iff.1 h
      obtain ⟨⟨y, mid'⟩, hy, h⟩ := bind_eq_ok_iff.1 h
      obtain ⟨⟨ys, r⟩, hys, h⟩ := map_eq_ok_iff.1 h
      cases h
      cases hitems with
      | done k => exact absurd k (hend' _)
      | next k _ kstart kv kvs =>
        rw [k] at hstart
        cases hstart.symm.trans kstart
        obtain ⟨hmid, hshows⟩ := hfs.1.shows hy kv
        subst hmid
        obtain ⟨hrest, hshows'⟩ := ih hfs.2 hys kvs
        exact ⟨hrest, hshows, hshows'⟩

end Fields

namespace Codec

variable {σ : Type}

/-! ### Objects -/

/-- Reads a member of a record that passes over all members but the declared ones. -/
def closedMember (fs : Fields σ) (room : Nat) (name : String) (d : fs.Draft) (cs : List Char) :
    Except ReadError (fs.Draft × List Char) :=
  match fs.fill name (fun c => scanColon cs >>= c.scan room) d with
  | some r => r
  | none => do return (d, ← skipValue (← scanColon cs))

/-- Reads a member of a record that keeps all members. -/
def openMember (fs : Fields σ) (room : Nat) (name : String) (s : fs.Draft × Dict Value)
    (cs : List Char) : Except ReadError ((fs.Draft × Dict Value) × List Char) :=
  match fs.fill name (fun c => scanColon cs >>= c.scan room) s.1 with
  | some r => r.map fun r => ((r.1, s.2), r.2)
  | none => (scanEntry (scanValue room) name s.2 cs).map fun r => ((s.1, r.1), r.2)

theorem closedMember_align {fs : Fields σ} (hfs : fs.Aligned) (hnames : fs.names.Nodup)
    {room : Nat} {name : String} {d d' : fs.Draft} {members members' : Dict Value}
    {cs mid mid' : List Char} (hd : fs.Matches d members)
    (h : closedMember fs room name d cs = .ok (d', mid))
    (hentry : scanEntry (scanValue room) name members cs = .ok (members', mid')) :
    mid' = mid ∧ fs.Matches d' members' := by
  obtain ⟨start, v, hcolon, hv, rfl⟩ := scanEntry_eq_ok_iff.1 hentry
  unfold closedMember at h
  split at h
  · next r hfill =>
    subst h
    exact Fields.fill_matches hfs hnames hd hfill hcolon hv
  · next hfill =>
    obtain ⟨start', hcolon', h⟩ := bind_eq_ok_iff.1 h
    obtain ⟨r, hskip, h⟩ := bind_eq_ok_iff.1 h
    cases h
    cases hcolon.symm.trans hcolon'
    cases hskip.symm.trans (skipValue_of_scanValue hv)
    exact ⟨rfl, Fields.matches_insert (Fields.fill_eq_none_iff.1 hfill) hd v⟩

/-- A member that is not declared is passed over. -/
theorem closedMember_of_notMem {fs : Fields σ} {room : Nat} {name : String} {d : fs.Draft}
    {members members' : Dict Value} {cs mid : List Char} (hname : name ∉ fs.names)
    (hentry : scanEntry (scanValue room) name members cs = .ok (members', mid)) :
    closedMember fs room name d cs = .ok (d, mid) := by
  obtain ⟨start, v, hcolon, hv, -⟩ := scanEntry_eq_ok_iff.1 hentry
  rw [closedMember, Fields.fill_eq_none_iff.2 hname]
  exact bind_eq_ok_iff.2 ⟨start, hcolon, bind_eq_ok_iff.2 ⟨mid, skipValue_of_scanValue hv, rfl⟩⟩

/-- What a record that keeps all members has made of those of an object. -/
def Collects (fs : Fields σ) (s : fs.Draft × Dict Value) (members : Dict Value) : Prop :=
  fs.Matches s.1 members ∧
    ∀ k, s.2.get? k = if k ∈ fs.names then none else members.get? k

theorem openMember_align {fs : Fields σ} (hfs : fs.Aligned) (hnames : fs.names.Nodup)
    {room : Nat} {name : String} {s s' : fs.Draft × Dict Value} {members members' : Dict Value}
    {cs mid mid' : List Char} (hs : Collects fs s members)
    (h : openMember fs room name s cs = .ok (s', mid))
    (hentry : scanEntry (scanValue room) name members cs = .ok (members', mid')) :
    mid' = mid ∧ Collects fs s' members' := by
  obtain ⟨start, v, hcolon, hv, rfl⟩ := scanEntry_eq_ok_iff.1 hentry
  obtain ⟨hd, hothers⟩ := hs
  unfold openMember at h
  split at h
  · next r hfill =>
    obtain ⟨⟨d', r⟩, rfl, h⟩ := map_eq_ok_iff.1 h
    cases h
    obtain ⟨hmid, hd'⟩ := Fields.fill_matches hfs hnames hd hfill hcolon hv
    refine ⟨hmid, hd', fun k => ?_⟩
    have hname : name ∈ fs.names := by
      refine Classical.byContradiction fun hname => ?_
      exact nomatch (Fields.fill_eq_none_iff.2 hname).symm.trans hfill
    rw [hothers, Dict.get?_insert]
    split
    · rfl
    · next hk => rw [if_neg fun heq : k = name => hk (heq ▸ hname)]
  · next hfill =>
    obtain ⟨⟨others, r⟩, hothers', h⟩ := map_eq_ok_iff.1 h
    cases h
    obtain ⟨start', v', hcolon', hv', rfl⟩ := scanEntry_eq_ok_iff.1 hothers'
    cases hcolon.symm.trans hcolon'
    cases hv.symm.trans hv'
    have hname := Fields.fill_eq_none_iff.1 hfill
    refine ⟨rfl, Fields.matches_insert hname hd v, fun k => ?_⟩
    rw [Dict.get?_insert, Dict.get?_insert, hothers]
    by_cases hk : k = name
    · rw [if_pos hk, if_pos hk, if_neg fun h : k ∈ fs.names => hname (hk ▸ h)]
    · rw [if_neg hk, if_neg hk]

theorem openRecord_scan {fs : Fields σ} (hfs : fs.Aligned) (hnames : fs.names.Nodup)
    {name : String} {room : Nat} {cs rest rest' : List Char} {x : σ} {others : Dict Value}
    {v : Value} (hx : (openRecord name fs).scan room cs = .ok ((x, others), rest))
    (hv : scanValue room cs = .ok (v, rest')) :
    rest' = rest ∧ fs.Shows x v ∧
      ∀ k, others.get? k = if k ∈ fs.names then none else v.member? k := by
  have hreads := scanValue_eq_ok_iff.1 hv
  simp only [openRecord] at hx
  split at hx
  · next r heq =>
    rw [heq] at hreads
    split at hx
    · exact nomatch hx
    · next room =>
      obtain ⟨⟨⟨d, o⟩, r'⟩, hd, hx⟩ := bind_eq_ok_iff.1 hx
      obtain ⟨y, hy, hx⟩ := bind_eq_ok_iff.1 hx
      cases hx
      cases hreads with
      | @object _ _ members _ hroom hmembers =>
        cases hroom
        have hrun : MembersRun (openMember fs room) true (fs.blank, Dict.empty) r (d, o) r' :=
          scanMembers_eq_ok hd
        have hvalue := scanMembers_eq_ok hmembers
        have hblank : Collects fs (fs.blank, Dict.empty) Dict.empty :=
          ⟨Fields.matches_blank fs, fun k => by simp⟩
        have hsim := hrun.simulate (Collects fs) ?_ hvalue hblank
        · obtain ⟨hrest, hd, hothers⟩ := hsim
          exact ⟨hrest, Fields.shows_of_finish hd hy, hothers⟩
        · intro name s t cs s' mid t' mid' hs h h'
          exact openMember_align hfs hnames hs h h'
      | positive hc => exact absurd hc (by decide)
  · exact nomatch hx

theorem aligned_openRecord {fs : Fields σ} (hfs : fs.Aligned) (hnames : fs.names.Nodup)
    (name : String) : (openRecord name fs).Aligned where
  rest_eq hx hv := (openRecord_scan hfs hnames hx hv).1

/-- **The others of a record are the members that it does not declare.** -/
theorem shows_openRecord {fs : Fields σ} (hfs : fs.Aligned) (hnames : fs.names.Nodup)
    {name : String} {x : σ} {others : Dict Value} {v : Value}
    (h : (openRecord name fs).Shows (x, others) v) :
    fs.Shows x v ∧ ∀ k, others.get? k = if k ∈ fs.names then none else v.member? k := by
  obtain ⟨room, cs, rest, hx, hv⟩ := h
  exact (openRecord_scan hfs hnames hx hv).2

theorem record_scan {fs : Fields σ} (hfs : fs.Aligned) (hnames : fs.names.Nodup) {name : String}
    {room : Nat} {cs rest rest' : List Char} {x : σ} {v : Value}
    (hx : (record name fs).scan room cs = .ok (x, rest))
    (hv : scanValue room cs = .ok (v, rest')) :
    rest' = rest ∧
      ((∃ d, v = .ofDict d ∧ fs.Shows x v) ∨ ∃ vs, v = .array vs ∧ fs.ShowsItems x vs) := by
  have hreads := scanValue_eq_ok_iff.1 hv
  simp only [record] at hx
  split at hx
  · next r heq =>
    rw [heq] at hreads
    split at hx
    · exact nomatch hx
    · next room =>
      obtain ⟨⟨d, r'⟩, hd, hx⟩ := bind_eq_ok_iff.1 hx
      obtain ⟨y, hy, hx⟩ := bind_eq_ok_iff.1 hx
      cases hx
      cases hreads with
      | @object _ _ members _ hroom hmembers =>
        cases hroom
        have hrun : MembersRun (closedMember fs room) true fs.blank r d r' :=
          scanMembers_eq_ok hd
        have hvalue := scanMembers_eq_ok hmembers
        have hsim := hrun.simulate fs.Matches ?_ hvalue (Fields.matches_blank fs)
        · obtain ⟨hrest, hd⟩ := hsim
          exact ⟨hrest, .inl ⟨members, rfl, Fields.shows_of_finish hd hy⟩⟩
        · intro name d members cs d' mid members' mid' hd h h'
          exact closedMember_align hfs hnames hd h h'
      | positive hc => exact absurd hc (by decide)
  · next r heq =>
    rw [heq] at hreads
    split at hx
    · exact nomatch hx
    · obtain ⟨⟨y, r'⟩, hy, hx⟩ := bind_eq_ok_iff.1 hx
      obtain ⟨r'', hend, hx⟩ := bind_eq_ok_iff.1 hx
      cases hx
      cases hreads with
      | array hroom hitems =>
        cases hroom
        obtain ⟨hrest, hshows⟩ := Fields.scanPositions_align hfs hy hend (scanItems_eq_ok hitems)
        exact ⟨hrest, .inr ⟨_, rfl, hshows⟩⟩
      | positive hc => exact absurd hc (by decide)
  · exact nomatch hx

theorem aligned_record {fs : Fields σ} (hfs : fs.Aligned) (hnames : fs.names.Nodup)
    (name : String) : (record name fs).Aligned where
  rest_eq hx hv := (record_scan hfs hnames hx hv).1

/-- **A record is read from an object without its members**, if each of them may be missing. -/
theorem scan_record_of_absent {fs : Fields σ} {x : σ} (hx : fs.finish fs.blank = .ok x)
    {name : String} {room : Nat} {cs rest : List Char} {ms : List (String × Value)}
    (habsent : ∀ k ∈ fs.names, (Value.object ms).member? k = none)
    (h : scanValue room cs = .ok (.object ms, rest)) :
    (record name fs).scan room cs = .ok (x, rest) := by
  have hreads := scanValue_eq_ok_iff.1 h
  simp only [record]
  generalize skipSpaces cs = ds at hreads
  generalize hv : Value.object ms = v at hreads habsent
  cases hreads with
  | @object inner _ _ _ hroom hmembers =>
    subst hroom
    have hmember {name : String} {d : Dict Value} {cs : List Char} {d' : Dict Value}
        {mid : List Char}
        (hentry : scanEntry (scanValue inner) name d cs = .ok (d', mid))
        (hd' : ∀ k ∈ fs.names, d'.get? k = none) :
        (∀ k ∈ fs.names, d.get? k = none) ∧
          closedMember fs inner name fs.blank cs = .ok (fs.blank, mid) := by
      obtain ⟨_, v, -, -, rfl⟩ := scanEntry_eq_ok_iff.1 hentry
      -- what is filed stays, so that none of it is a declared member
      have hname : name ∉ fs.names := by
        intro hname
        have hnone := hd' name hname
        rw [Dict.get?_insert_self] at hnone
        cases hnone
      refine ⟨fun k hk => ?_, closedMember_of_notMem hname hentry⟩
      have hne : k ≠ name := fun heq => hname (heq ▸ hk)
      rw [← hd' k hk, Dict.get?_insert_of_ne d v hne]
    obtain ⟨-, hrun⟩ := scanMembers_follow (@hmember) hmembers habsent
    exact bind_eq_ok_iff.2 ⟨_, hrun, bind_eq_ok_iff.2 ⟨x, hx, rfl⟩⟩
  | _ => cases hv

/-- A record is read from the members of an object, by their names, or from the items of a list. -/
theorem shows_record {fs : Fields σ} (hfs : fs.Aligned) (hnames : fs.names.Nodup) {name : String}
    {x : σ} {v : Value} (h : (record name fs).Shows x v) :
    (∃ d, v = .ofDict d ∧ fs.Shows x v) ∨ ∃ vs, v = .array vs ∧ fs.ShowsItems x vs := by
  obtain ⟨room, cs, rest, hx, hv⟩ := h
  exact (record_scan hfs hnames hx hv).2

end Codec

end EventDetection.Json
