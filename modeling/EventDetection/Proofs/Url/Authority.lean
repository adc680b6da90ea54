import EventDetection.Url.Basic
import Mathlib.Data.List.TakeWhile

/-!
# Where a URL of the web leads

The scheme and the host of a URL of the web are read off the text before its first step.  What
stands behind has no influence on them, whatever its characters are.

* `Url.authority`: the text that the host is read off, which ends at the first slash.
* `Url.host_parse?_api`: **if a URL below `/api/` leads to a host of the web**, then all others
  with the same beginning can be read too, and lead there.
-/

namespace EventDetection.Url

/-! ### Texts with a mark in them -/

section Marks

variable {p : Char → Bool} {c : Char}

theorem takeWhile_append_cons (hc : p c = false) (xs ys : List Char) :
    (xs ++ c :: ys).takeWhile p = xs.takeWhile p := by
  rw [List.takeWhile_append, List.takeWhile_cons_of_neg (by simp [hc]), List.append_nil]
  split
  · next h => exact ((List.takeWhile_prefix p).eq_of_length h).symm
  · rfl

theorem dropWhile_append_cons (hc : p c = false) (xs ys : List Char) :
    (xs ++ c :: ys).dropWhile p = xs.dropWhile p ++ c :: ys := by
  rw [List.dropWhile_append, List.dropWhile_cons_of_neg (by simp [hc])]
  split
  · next h =>
    rw [List.isEmpty_iff.1 h]
    rfl
  · rfl

theorem reverse_dropWhile_append_cons (hc : p c = false) (xs ys : List Char) :
    ((xs ++ c :: ys).reverse.dropWhile p).reverse =
      xs ++ c :: (ys.reverse.dropWhile p).reverse := by
  rw [List.reverse_append, List.reverse_cons, List.append_assoc, List.singleton_append,
    dropWhile_append_cons hc]
  simp

/-- Blanks are left out before and behind a mark that is none. -/
theorem withoutEnds_append_cons (hc : isEnd c = false) (xs ys : List Char) :
    withoutEnds (xs ++ c :: ys) =
      xs.dropWhile isEnd ++ c :: (ys.reverse.dropWhile isEnd).reverse := by
  rw [withoutEnds, dropWhile_append_cons hc, reverse_dropWhile_append_cons hc]

theorem joined_append_cons (hc : isPassedOver c = false) (xs ys : List Char) :
    joined (xs ++ c :: ys) = joined xs ++ c :: joined ys := by
  simp [joined, hc]

end Marks

/-! ### Schemes -/

/-- A scheme ends before the first slash. -/
theorem takeScheme?_append_slash (xs ys : List Char) :
    takeScheme? (xs ++ '/' :: ys) = (takeScheme? xs).map fun r => (r.1, r.2 ++ '/' :: ys) := by
  unfold takeScheme?
  dsimp only
  rw [takeWhile_append_cons (by decide)]
  generalize hs : xs.takeWhile (fun c => c.isAlphanum || c ∈ ['+', '-', '.']) = scheme
  have hlength : scheme.length ≤ xs.length := by
    rw [← hs]
    exact (List.takeWhile_prefix _).length_le
  rw [List.drop_append_of_le_length hlength]
  rcases hd : xs.drop scheme.length with _ | ⟨d, rest⟩
  · simp
  · by_cases hcolon : d = ':'
    · subst hcolon
      rcases scheme.head? with _ | a
      · simp
      · by_cases ha : a.isAlpha <;> simp [ha]
    · rw [List.cons_append]
      split
      · next h _ => exact absurd (List.cons.inj h).1 hcolon
      · split
        · next h _ => exact absurd (List.cons.inj h).1 hcolon
        · rfl

/-! ### Authorities -/

theorem splitMark_fst (mark : Char) (cs : List Char) :
    (splitMark mark cs).1 = cs.takeWhile (· ≠ mark) := by
  unfold splitMark
  split
  · next h =>
    have happend := List.takeWhile_append_dropWhile (p := (· ≠ mark)) (l := cs)
    rw [h, List.append_nil] at happend
    exact happend.symm
  · rfl

/-- The text that login, host and port are read off. -/
def authority (special : Bool) (cs : List Char) : List Char :=
  (splitTail cs).1.takeWhile (!isSlash special ·)

theorem authority_append_slash (special : Bool) (xs ys : List Char) :
    authority special (xs ++ '/' :: ys) = authority special xs := by
  have hpath (cs : List Char) :
      (splitTail cs).1 = (cs.takeWhile (· ≠ '#')).takeWhile (· ≠ '?') := by
    rw [← splitMark_fst, ← splitMark_fst]
    rfl
  simp only [authority, hpath, List.takeWhile_takeWhile]
  exact takeWhile_append_cons (by simp [isSlash]) xs ys

/-- The scheme is the given one, and the host is read off the authority. -/
theorem host_parseWithAuthority?_congr {scheme cs cs' : List Char}
    (h : authority (isSpecial scheme) cs = authority (isSpecial scheme) cs') :
    (parseWithAuthority? scheme cs).map (fun u => (u.scheme, u.host)) =
      (parseWithAuthority? scheme cs').map fun u => (u.scheme, u.host) := by
  unfold authority at h
  unfold parseWithAuthority?
  dsimp only
  rw [h]
  rcases splitLast '@' _ with ⟨login, place⟩
  rcases splitPort false place with ⟨hostText, portText⟩
  dsimp only
  split
  · rfl
  · rcases Host.parse? _ hostText with _ | host
    · rfl
    · rcases parsePort? scheme portText with _ | ⟨port, rest⟩
      · rfl
      · rfl

theorem scheme_parseWithAuthority? {scheme cs : List Char} {u : Url}
    (h : parseWithAuthority? scheme cs = some u) : u.scheme = scheme := by
  unfold parseWithAuthority? at h
  dsimp only at h
  split at h
  · exact nomatch h
  · obtain ⟨host, -, h⟩ := Option.bind_eq_some_iff.1 h
    obtain ⟨port, -, h⟩ := Option.bind_eq_some_iff.1 h
    obtain rfl := Option.some.inj h
    rfl

theorem scheme_parseFile? {cs : List Char} {u : Url} (h : parseFile? cs = some u) :
    u.scheme = file := by
  unfold parseFile? at h
  dsimp only at h
  split at h
  · split at h
    · obtain ⟨place, -, h⟩ := Option.bind_eq_some_iff.1 h
      obtain rfl := Option.some.inj h
      rfl
    · obtain rfl := Option.some.inj h
      rfl
  · obtain rfl := Option.some.inj h
    rfl

/-! ### Whole URLs -/

/-- The scheme of a URL is the one in front of its text. -/
theorem scheme_parse? {s : String} {u : Url} (h : parse? s = some u) :
    ∃ cs, takeScheme? (joined (withoutEnds s.toList)) = some (u.scheme, cs) := by
  unfold parse? at h
  obtain ⟨⟨scheme, cs⟩, hscheme, h⟩ := Option.bind_eq_some_iff.1 h
  refine ⟨cs, ?_⟩
  rw [hscheme]
  dsimp only at h
  split at h
  · next hfile => rw [scheme_parseFile? h, hfile]
  · split at h
    · rw [scheme_parseWithAuthority? h]
    · split at h
      · rw [scheme_parseWithAuthority? h]
      · obtain rfl := Option.some.inj h
        rfl

/-- A URL of the web is read off the text behind its scheme. -/
theorem parse?_of_web {s : String} {scheme cs : List Char}
    (h : takeScheme? (joined (withoutEnds s.toList)) = some (scheme, cs))
    (hweb : scheme = http ∨ scheme = https) :
    parse? s = parseWithAuthority? scheme (cs.dropWhile (isSlash true)) := by
  have hfile : scheme ≠ file := by
    rcases hweb with rfl | rfl <;> decide
  have hspecial : isSpecial scheme = true := by
    rcases hweb with rfl | rfl <;> decide
  unfold parse?
  dsimp only
  rw [h, Option.bind_eq_bind, Option.bind_some, if_neg hfile, if_pos hspecial]

/-! ### URLs below `/api/` -/

/-- What is left of a text when blanks at its end and line ends are passed over. -/
def trimmed (cs : List Char) : List Char := joined (cs.reverse.dropWhile isEnd).reverse

theorem trimmed_append_cons {c : Char} (hend : isEnd c = false) (hc : isPassedOver c = false)
    (xs ys : List Char) : trimmed (xs ++ c :: ys) = joined xs ++ c :: trimmed ys := by
  rw [trimmed, reverse_dropWhile_append_cons hend, joined_append_cons hc]
  rfl

variable {s s' : String} {base path path' scheme begin : List Char}

/-- The scheme is that of the text in front of `/api/`. -/
theorem takeScheme?_api (hs : s.toList = base ++ '/' :: 'a' :: 'p' :: 'i' :: '/' :: path) :
    takeScheme? (joined (withoutEnds s.toList)) =
      (takeScheme? (joined (base.dropWhile isEnd))).map fun r =>
        (r.1, r.2 ++ '/' :: 'a' :: 'p' :: 'i' :: '/' :: trimmed path) := by
  have hwhole : joined (withoutEnds (base ++ '/' :: ('a' :: 'p' :: 'i' :: '/' :: path))) =
      joined (base.dropWhile isEnd) ++ '/' :: trimmed ('a' :: 'p' :: 'i' :: '/' :: path) := by
    rw [withoutEnds_append_cons (by decide), joined_append_cons (by decide)]
    rfl
  have hpath : trimmed ('a' :: 'p' :: 'i' :: '/' :: path) =
      'a' :: 'p' :: 'i' :: '/' :: trimmed path :=
    trimmed_append_cons (by decide) (by decide) ['a', 'p', 'i'] path
  rw [hs, hwhole, hpath, takeScheme?_append_slash]

/-- A URL of the web below `/api/` is read from where its authority starts.  That is at `api` at
the latest, which is a slash behind the text in front. -/
theorem parse?_api (hs : s.toList = base ++ '/' :: 'a' :: 'p' :: 'i' :: '/' :: path)
    (htake : takeScheme? (joined (base.dropWhile isEnd)) = some (scheme, begin))
    (hweb : scheme = http ∨ scheme = https) :
    parse? s = parseWithAuthority? scheme
      (((begin ++ ['/']).dropWhile (isSlash true) ++ ['a', 'p', 'i']) ++ '/' :: trimmed path) := by
  have hscheme := takeScheme?_api hs
  rw [htake, Option.map_some] at hscheme
  rw [parse?_of_web hscheme hweb, List.append_cons, dropWhile_append_cons (by decide)]
  simp

/-- **What stands below `/api/` has no influence on where a URL of the web leads.** -/
theorem host_parse?_api {u : Url}
    (hs : s.toList = base ++ '/' :: 'a' :: 'p' :: 'i' :: '/' :: path)
    (hs' : s'.toList = base ++ '/' :: 'a' :: 'p' :: 'i' :: '/' :: path')
    (h : parse? s = some u) (hweb : u.scheme = http ∨ u.scheme = https) :
    ∃ u', parse? s' = some u' ∧ u'.scheme = u.scheme ∧ u'.host = u.host := by
  obtain ⟨cs, hcs⟩ := scheme_parse? h
  rw [takeScheme?_api hs] at hcs
  obtain ⟨⟨scheme, begin⟩, htake, hpair⟩ := Option.map_eq_some_iff.1 hcs
  obtain rfl : scheme = u.scheme := (Prod.mk.inj hpair).1
  have hspecial : isSpecial u.scheme = true := by
    rcases hweb with hweb | hweb <;> rw [hweb] <;> decide
  have hsame : (parse? s).map (fun v => (v.scheme, v.host)) =
      (parse? s').map fun v => (v.scheme, v.host) := by
    rw [parse?_api hs htake hweb, parse?_api hs' htake hweb]
    apply host_parseWithAuthority?_congr
    rw [hspecial, authority_append_slash, authority_append_slash]
  rw [h, Option.map_some] at hsame
  obtain ⟨u', hu', hpair'⟩ := Option.map_eq_some_iff.1 hsame.symm
  obtain ⟨hscheme, hhost⟩ := Prod.mk.inj hpair'
  exact ⟨u', hu', hscheme, hhost⟩

end EventDetection.Url
