import EventDetection.Proofs.Config.EnvFile
import Mathlib.Data.String.Basic

/-!
# What the log tells of secrets

The token and the key are logged by a preview, which is cut at a byte.  That byte is always where
a character starts, so that a preview shows whole characters, and what is logged depends on the
first five of them and on how many there are.

A file may make other variables depend on the secrets (`$NAME`).  All that is logged besides the
previews is the address and the policy, so these decide whether the log tells more.

* `LooksLike`: two secrets that are logged alike.  Texts that are put together from such texts look
  alike too.
* `Config.previewEnd_eq`, `Config.isValid_previewEnd`: the cut is behind the first five characters.
* `Config.preview_eq`: a preview shows those characters and how many there are in all.
* `EnvFile.looksLike_load`: **all that a file sets looks alike** in environments that differ in
  secrets only.
* `EnvFile.KeepsSecrets`: a file that gives no other variable its value from a secret.
* `Config.loadsAlike`: when two configurations are logged alike.
* `Config.log_tells_secret`: **the log tells a secret** that a file makes a part of the address.
* `Config.log_hides_secrets`: all of it, for environments that differ in secrets only.
-/

namespace EventDetection

/-- Two secrets of the same length that start with the same five characters. -/
structure LooksLike (secret secret' : String) : Prop where
  length_eq : secret.length = secret'.length
  take_eq : secret.toList.take 5 = secret'.toList.take 5

theorem LooksLike.refl (s : String) : LooksLike s s := ⟨rfl, rfl⟩

/-- Texts that are put together from texts that look alike. -/
theorem LooksLike.append {s s' t t' : String} (hs : LooksLike s s') (ht : LooksLike t t') :
    LooksLike (s ++ t) (s' ++ t') := by
  have hlength : s.toList.length = s'.toList.length := hs.length_eq
  have hrest : t.toList.take (5 - s.toList.length) = t'.toList.take (5 - s'.toList.length) := by
    have hfive := congrArg (List.take (5 - s.toList.length)) ht.take_eq
    rw [List.take_take, List.take_take, Nat.min_eq_left (Nat.sub_le _ _)] at hfive
    rw [hfive, hlength]
  constructor
  · rw [String.length_append, String.length_append, hs.length_eq, ht.length_eq]
  · rw [String.toList_append, String.toList_append, List.take_append, List.take_append, hs.take_eq,
      hrest]

theorem LooksLike.joins :
    EnvFile.Joins fun cs cs' => LooksLike (String.ofList cs) (String.ofList cs') where
  refl cs := .refl _
  append h h' := by
    rw [String.ofList_append, String.ofList_append]
    exact h.append h'

/-- The variables whose values are secrets. -/
def secretNames : List String := ["PLATFORM_ACCESS_TOKEN", "TELEMETRY_API_KEY"]

/-- Two environments that differ in the values of secrets only, which look alike. -/
structure Environment.AlikeButSecrets (env env' : Environment) : Prop where
  get?_eq : ∀ name, name ∉ secretNames → env.get? name = env'.get? name
  secret : ∀ name ∈ secretNames, Option.Rel LooksLike (env.get? name) (env'.get? name)

namespace Config

/-! ### Previews -/

/-- A character starts behind all characters before it. -/
theorem getElem?_charStarts (start n : Nat) (cs : List Char) :
    (charStarts start cs)[n]? =
      if n < cs.length then some (start + String.utf8Len (cs.take n)) else none := by
  induction cs generalizing start n with
  | nil => simp [charStarts]
  | cons c cs ih =>
    cases n with
    | zero => simp [charStarts]
    | succ n =>
      rw [charStarts, List.getElem?_cons_succ, ih, List.take_succ_cons, List.length_cons]
      simp only [Nat.add_lt_add_iff_right, String.utf8Len_cons]
      split
      · congr 1
        omega
      · rfl

/-- A preview is cut behind the first five characters, or at the end. -/
theorem previewEnd_eq (secret : String) :
    previewEnd secret = ⟨String.utf8Len (secret.toList.take 5)⟩ := by
  have hsize : secret.utf8ByteSize = String.utf8Len secret.toList := by
    rw [← String.utf8ByteSize_ofList, String.ofList_toList]
  rw [previewEnd, getElem?_charStarts]
  split
  · rw [Option.getD_some, Nat.zero_add]
    rfl
  · next hlong =>
    have hshort : secret.toList.length ≤ 5 := Nat.not_lt.1 hlong
    rw [Option.getD_none, hsize, List.take_of_length_le hshort]

/-- The cut does not split a character. -/
theorem isValid_previewEnd (secret : String) : (previewEnd secret).IsValid secret := by
  refine String.Pos.Raw.isValid_iff_exists_append.2
    ⟨String.ofList (secret.toList.take 5), String.ofList (secret.toList.drop 5), ?_, ?_⟩
  · rw [← String.ofList_append, List.take_append_drop, String.ofList_toList]
  · rw [previewEnd_eq, String.rawEndPos, String.utf8ByteSize_ofList]

theorem extract_previewEnd (secret : String) :
    String.Pos.Raw.extract secret 0 (previewEnd secret) =
      String.ofList (secret.toList.take 5) := by
  have hsplit : secret = String.ofList ([] ++ secret.toList.take 5 ++ secret.toList.drop 5) := by
    rw [List.nil_append, List.take_append_drop, String.ofList_toList]
  have hextract := String.extract_of_valid [] (secret.toList.take 5) (secret.toList.drop 5)
  rw [← hsplit, String.utf8Len_nil, Nat.zero_add, ← previewEnd_eq] at hextract
  exact hextract

/-- A preview shows the first five characters and their number. -/
theorem preview_eq (secret : String) :
    preview secret = String.ofList (secret.toList.take 5) ++ "...(" ++ toString secret.length ++
      " chars)" := by
  rw [preview, extract_previewEnd]

theorem preview_congr {secret secret' : String} (h : LooksLike secret secret') :
    preview secret = preview secret' := by
  rw [preview_eq, preview_eq, h.take_eq, h.length_eq]

end Config

/-! ### Environments -/

section Environments

variable {env env' : Environment}

/-- What is not secret is the same, and all looks alike. -/
theorem Environment.alikeButSecrets_iff :
    env.AlikeButSecrets env' ↔
      env.SetsAlike (fun name v v' => LooksLike v v' ∧ (name ∉ secretNames → v = v')) env' := by
  constructor
  · intro h name
    by_cases hname : name ∈ secretNames
    · exact rel_imp (fun _ _ hlooks => ⟨hlooks, absurd hname⟩) (h.secret name hname)
    · rw [h.get?_eq name hname]
      exact rel_refl (fun value => ⟨.refl value, fun _ => rfl⟩) _
  · intro h
    constructor
    · intro name hname
      exact eq_of_rel (fun _ _ hsame => hsame.2 hname) (h name)
    · intro name _
      exact rel_imp (fun _ _ hsame => hsame.1) (h name)

theorem Environment.alikeButSecrets_refl (env : Environment) : env.AlikeButSecrets env :=
  alikeButSecrets_iff.2 (setsAlike_refl (fun _ value => ⟨.refl value, fun _ => rfl⟩) env)

theorem Environment.AlikeButSecrets.looksLike (h : env.AlikeButSecrets env') :
    env.SetsAlike (fun _ => LooksLike) env' :=
  fun name => rel_imp (fun _ _ hsame => hsame.1) (Environment.alikeButSecrets_iff.1 h name)

/-- A variable is set in both environments, to values that look alike if it is a secret. -/
theorem Environment.AlikeButSecrets.insert (h : env.AlikeButSecrets env')
    {name value value' : String}
    (hlooks : LooksLike value value') (hsame : name ∉ secretNames → value = value') :
    Environment.AlikeButSecrets (Dict.insert env name value) (Dict.insert env' name value') :=
  alikeButSecrets_iff.2 (setsAlike_insert (alikeButSecrets_iff.1 h) ⟨hlooks, hsame⟩)

/-! ### Files -/

namespace EnvFile

/-- A line sets a variable to values that look alike if all that it can look up does. -/
theorem readAssignment_looksLike {lookup lookup' : String → String}
    (h : ∀ name, LooksLike (lookup name) (lookup' name)) (line : List Char) :
    Option.Rel (fun a a' => a.1 = a'.1 ∧ LooksLike a.2 a'.2) (readAssignment lookup line)
      (readAssignment lookup' line) := by
  have hlists (name : String) :
      LooksLike (String.ofList (lookup name).toList) (String.ofList (lookup' name).toList) := by
    rw [String.ofList_toList, String.ofList_toList]
    exact h name
  simpa only [String.ofList_toList] using readAssignment_rel LooksLike.joins hlists line

/-- **All that a file sets looks alike** in environments whose variables do. -/
theorem looksLike_load (h : env.SetsAlike (fun _ => LooksLike) env') (file : String) :
    (load env file).SetsAlike (fun _ => LooksLike) (load env' file) := by
  refine load_rel ?_ h
  intro line _ env env' given given' henv hgiven
  exact readAssignment_looksLike (fun name => valueOf_rel henv hgiven (.refl "")) line

/-- No variable but the secrets gets its value from a secret: each line sets another one to the same
value whatever the secrets are. -/
def KeepsSecrets (file : String) : Prop :=
  ∀ line ∈ lines file, ∀ lookup lookup' : String → String,
    (∀ name, name ∉ secretNames → lookup name = lookup' name) →
    ∀ name value, name ∉ secretNames → readAssignment lookup line = some (name, value) →
      readAssignment lookup' line = some (name, value)

/-- A file without a dollar looks nothing up. -/
theorem keepsSecrets_of_not_mem {file : String} (h : '$' ∉ file.toList) : KeepsSecrets file := by
  intro line hline lookup lookup' _ name value _ hread
  rw [← hread]
  exact readAssignment_congr fun hmem => h (mem_of_mem_lines hline hmem)

/-- **A file that keeps secrets** leaves two environments alike but for secrets. -/
theorem KeepsSecrets.load {file : String} (hfile : KeepsSecrets file)
    (h : env.AlikeButSecrets env') : (load env file).AlikeButSecrets (load env' file) := by
  rw [Environment.alikeButSecrets_iff] at h ⊢
  refine load_rel ?_ h
  intro line hline env env' given given' henv hgiven
  have hvalue (name : String) : LooksLike (valueOf env given name) (valueOf env' given' name) ∧
      (name ∉ secretNames → valueOf env given name = valueOf env' given' name) :=
    valueOf_rel henv hgiven ⟨.refl "", fun _ => rfl⟩
  -- That the new value looks alike follows for any file; that it is the same is what this file
  -- grants, since all that is not secret was the same so far.
  have hread := readAssignment_looksLike (fun name => (hvalue name).1) line
  have hsame := hfile line hline (valueOf env given) (valueOf env' given')
    fun name hname => (hvalue name).2 hname
  generalize readAssignment (valueOf env given) line = a at hread hsame
  generalize readAssignment (valueOf env' given') line = a' at hread hsame
  cases hread with
  | none => exact .none
  | @some a a' hlooks =>
    refine .some ⟨hlooks.1, hlooks.2, fun hname => ?_⟩
    exact congrArg Prod.snd (Option.some.inj (hsame a.1 a.2 hname rfl)).symm

end EnvFile

namespace Config

/-! ### The log -/

/-- Two readings of the configuration that fail in the same way, or that both succeed and log the
same. -/
def ShowAlike (l l' : Logged (Except ConfigError Config)) : Prop :=
  (∃ e, l = ⟨.error e, []⟩ ∧ l' = ⟨.error e, []⟩) ∨
    ∃ c c' log, l = ⟨.ok c, log⟩ ∧ l' = ⟨.ok c', log⟩

/-- Configurations whose secrets look alike are logged alike exactly if they have the same address
and the same policy. -/
theorem summary_eq_iff {c c' : Config} (htoken : LooksLike c.accessToken c'.accessToken)
    (hkey : Option.Rel LooksLike c.telemetryKey c'.telemetryKey) :
    c.summary = c'.summary ↔ c.platformUrl = c'.platformUrl ∧ c.rollback = c'.rollback := by
  have hpreview : c.telemetryKey.map preview = c'.telemetryKey.map preview := by
    generalize c.telemetryKey = key at hkey
    generalize c'.telemetryKey = key' at hkey
    cases hkey with
    | none => rfl
    | some hlooks => rw [Option.map_some, Option.map_some, preview_congr hlooks]
  rw [summary, summary, preview_congr htoken, hpreview]
  constructor
  · intro h
    obtain ⟨hurl, hpolicy⟩ : c.platformUrl = c'.platformUrl ∧
        (if c.rollback then "true" else "false") = if c'.rollback then "true" else "false" := by
      simpa using h
    refine ⟨hurl, ?_⟩
    cases hc : c.rollback <;> cases hc' : c'.rollback <;> simp [hc, hc'] at hpolicy ⊢
  · rintro ⟨hurl, hrollback⟩
    rw [hurl, hrollback]

/-- The configuration that an environment gives with an address and a token. -/
def given (env : Environment) (url token : String) : Config where
  platformUrl := url
  accessToken := token
  telemetryUrl := (env.get? "TELEMETRY_API_URL").getD defaultTelemetryUrl
  telemetryKey := (env.get? "TELEMETRY_API_KEY").filter (· ≠ "")
  telemetryProjectId := (env.get? "TELEMETRY_PROJECT_ID").getD defaultTelemetryProjectId
  rollback := ((env.get? "ROLLBACK_ON_PERSIST_FAILURE").map parseFlag).getD false
  plan := ((env.get? "ORG_PLAN").map Plan.parse).getD .hobby

theorem load_of_no_url (hurl : env.get? "PLATFORM_API_URL" = none) :
    load env = ⟨.error (.missing "PLATFORM_API_URL"), []⟩ := by
  rw [load, ofEnvironment, require, hurl]
  rfl

theorem load_of_no_token {url : String} (hurl : env.get? "PLATFORM_API_URL" = some url)
    (htoken : env.get? "PLATFORM_ACCESS_TOKEN" = none) :
    load env = ⟨.error (.missing "PLATFORM_ACCESS_TOKEN"), []⟩ := by
  rw [load, ofEnvironment, require, hurl, require, htoken]
  rfl

theorem load_of_some {url token : String} (hurl : env.get? "PLATFORM_API_URL" = some url)
    (htoken : env.get? "PLATFORM_ACCESS_TOKEN" = some token) :
    load env = ⟨.ok (given env url token), (given env url token).summary⟩ := by
  rw [load, ofEnvironment, require, hurl, require, htoken]
  rfl

/-- A secret is empty if one that looks like it is. -/
theorem looksLike_filter {key key' : Option String} (h : Option.Rel LooksLike key key') :
    Option.Rel LooksLike (key.filter (· ≠ "")) (key'.filter (· ≠ "")) := by
  cases h with
  | none => exact .none
  | @some s s' hlooks =>
    have hempty : s = "" ↔ s' = "" := by
      rw [← String.length_eq_zero_iff, ← String.length_eq_zero_iff, hlooks.length_eq]
    by_cases hs : s = ""
    · have hs' : s' = "" := hempty.1 hs
      rw [Option.filter_some_neg (by simp [hs]), Option.filter_some_neg (by simp [hs'])]
      exact .none
    · have hs' : s' ≠ "" := fun he => hs (hempty.2 he)
      rw [Option.filter_some_pos (by simp [hs]), Option.filter_some_pos (by simp [hs'])]
      exact .some hlooks

/-- **When two configurations are logged alike.**  In environments whose variables look alike,
reading the configuration fails in the same way, or it succeeds in both, and logs the same exactly
if the address and the policy are the same. -/
theorem loadsAlike (h : env.SetsAlike (fun _ => LooksLike) env') :
    (∃ e, load env = ⟨.error e, []⟩ ∧ load env' = ⟨.error e, []⟩) ∨
      ∃ url url' token token', env.get? "PLATFORM_API_URL" = some url ∧
        env'.get? "PLATFORM_API_URL" = some url' ∧
        load env = ⟨.ok (given env url token), (given env url token).summary⟩ ∧
        load env' = ⟨.ok (given env' url' token'), (given env' url' token').summary⟩ ∧
        ((given env url token).summary = (given env' url' token').summary ↔
          url = url' ∧ (given env url token).rollback = (given env' url' token').rollback) := by
  have hurl := h "PLATFORM_API_URL"
  have htoken := h "PLATFORM_ACCESS_TOKEN"
  have hkey := looksLike_filter (h "TELEMETRY_API_KEY")
  generalize hu : env.get? "PLATFORM_API_URL" = url at hurl
  generalize hu' : env'.get? "PLATFORM_API_URL" = url' at hurl
  generalize ht : env.get? "PLATFORM_ACCESS_TOKEN" = token at htoken
  generalize ht' : env'.get? "PLATFORM_ACCESS_TOKEN" = token' at htoken
  cases hurl with
  | none => exact .inl ⟨_, load_of_no_url hu, load_of_no_url hu'⟩
  | some _ =>
    cases htoken with
    | none => exact .inl ⟨_, load_of_no_token hu ht, load_of_no_token hu' ht'⟩
    | some hlooks =>
      exact .inr ⟨_, _, _, _, rfl, rfl, load_of_some hu ht, load_of_some hu' ht',
        summary_eq_iff hlooks hkey⟩

theorem showAlike_load (h : env.AlikeButSecrets env') : ShowAlike (load env) (load env') := by
  rcases loadsAlike h.looksLike with
    hfail | ⟨url, url', token, token', hurl, hurl', hload, hload', hlog⟩
  · exact .inl hfail
  · have hsame : url = url' := by
      have hnames := h.get?_eq "PLATFORM_API_URL" (by decide)
      rw [hurl, hurl'] at hnames
      exact Option.some.inj hnames
    have hpolicy : (given env url token).rollback = (given env' url' token').rollback := by
      rw [given, given, h.get?_eq "ROLLBACK_ON_PERSIST_FAILURE" (by decide)]
    rw [← hlog.2 ⟨hsame, hpolicy⟩] at hload'
    exact .inr ⟨_, _, _, hload, hload'⟩

/-! ### A secret in the address -/

/-- An environment with a token and nothing else. -/
def withToken (token : String) : Environment := Dict.empty.insert "PLATFORM_ACCESS_TOKEN" token

theorem alikeButSecrets_withToken {token token' : String} (h : LooksLike token token') :
    (withToken token).AlikeButSecrets (withToken token') :=
  (Environment.alikeButSecrets_refl _).insert h fun hname => absurd (by decide) hname

/-- A file that makes the token a part of the address. -/
def addressOfToken : String := "PLATFORM_API_URL=https://h/$\x7bPLATFORM_ACCESS_TOKEN\x7d\n"

/-- **The log tells a secret** that a file makes a part of the address. -/
theorem log_tells_secret :
    (withToken "abcde-SECRET-1").AlikeButSecrets (withToken "abcde-SECRET-2") ∧
      .configSetting "PLATFORM_API_URL" "https://h/abcde-SECRET-1" ∈
        (load (EnvFile.load (withToken "abcde-SECRET-1") addressOfToken)).log ∧
      ¬ ShowAlike (load (EnvFile.load (withToken "abcde-SECRET-1") addressOfToken))
        (load (EnvFile.load (withToken "abcde-SECRET-2") addressOfToken)) := by
  have hmem : .configSetting "PLATFORM_API_URL" "https://h/abcde-SECRET-1" ∈
      (load (EnvFile.load (withToken "abcde-SECRET-1") addressOfToken)).log := by decide +kernel
  have hnot : .configSetting "PLATFORM_API_URL" "https://h/abcde-SECRET-1" ∉
      (load (EnvFile.load (withToken "abcde-SECRET-2") addressOfToken)).log := by decide +kernel
  refine ⟨alikeButSecrets_withToken ⟨by decide, by decide⟩, hmem, ?_⟩
  rintro (⟨e, h, h'⟩ | ⟨c, c', log, h, h'⟩)
  · rw [h] at hmem
    exact List.not_mem_nil hmem
  · rw [h] at hmem
    rw [h'] at hnot
    exact hnot hmem

/-- Two environments may differ in the values of the token and of the key, if these have the same
number of characters and the same first five.  **Then reading the configuration fails in the same
way, or it succeeds and logs the same.**  When a file has set variables in both, it still fails in
both or succeeds in both, and then logs the same **exactly if the address and the policy are the
same**; so it does if no variable but the secrets gets its value from a secret, as in a file without
a dollar.  A preview is cut where a character starts, so it shows whole characters: the first five,
or all if there are fewer. -/
theorem log_hides_secrets (h : env.AlikeButSecrets env') :
    ShowAlike (load env) (load env') ∧
    (∀ file : String,
      (∃ e, load (EnvFile.load env file) = ⟨.error e, []⟩ ∧
        load (EnvFile.load env' file) = ⟨.error e, []⟩) ∨
      ∃ c c' log log', load (EnvFile.load env file) = ⟨.ok c, log⟩ ∧
        load (EnvFile.load env' file) = ⟨.ok c', log'⟩ ∧
        (log = log' ↔ c.platformUrl = c'.platformUrl ∧ c.rollback = c'.rollback)) ∧
    (∀ file : String, EnvFile.KeepsSecrets file →
      ShowAlike (load (EnvFile.load env file)) (load (EnvFile.load env' file))) ∧
    (∀ file : String, '$' ∉ file.toList → EnvFile.KeepsSecrets file) ∧
    ∀ secret : String, (previewEnd secret).IsValid secret ∧
      String.Pos.Raw.extract secret 0 (previewEnd secret) =
        String.ofList (secret.toList.take 5) ∧
      preview secret = String.ofList (secret.toList.take 5) ++ "...(" ++
        toString secret.length ++ " chars)" := by
  refine ⟨showAlike_load h, fun file => ?_, fun file hfile => showAlike_load (hfile.load h),
    fun file => EnvFile.keepsSecrets_of_not_mem,
    fun secret => ⟨isValid_previewEnd secret, extract_previewEnd secret, preview_eq secret⟩⟩
  rcases loadsAlike (EnvFile.looksLike_load h.looksLike file) with
    hfail | ⟨_, _, _, _, -, -, hload, hload', hlog⟩
  · exact .inl hfail
  · exact .inr ⟨_, _, _, _, hload, hload', hlog⟩

/-- A file that makes one variable a part of another one, and neither of them is a secret. -/
def addressOfHost : String := "HOST=https://h.example.com\nPLATFORM_API_URL=$HOST/v1\n"

theorem readAssignment_addressOfHost (lookup : String → String) :
    EnvFile.readAssignment lookup "PLATFORM_API_URL=$HOST/v1".toList =
      some ("PLATFORM_API_URL", String.ofList ((lookup "HOST").toList ++ ['/', 'v', '1'])) := by
  have htarget : EnvFile.takeTarget "PLATFORM_API_URL=$HOST/v1".toList =
      some ("PLATFORM_API_URL", ['$', 'H', 'O', 'S', 'T', '/', 'v', '1']) := by decide +kernel
  have hname : ['H', 'O', 'S', 'T'].all Text.isAlphanumeric = true := by decide +kernel
  rw [List.all_eq_true] at hname
  have hslash : Text.isAlphanumeric '/' = false := by decide +kernel
  rw [EnvFile.readAssignment, htarget, Option.bind_eq_bind, Option.bind_some]
  simp [EnvFile.isRemark, EnvFile.readValue, hname, hslash]

theorem keepsSecrets_addressOfHost : EnvFile.KeepsSecrets addressOfHost := by
  have hlines : EnvFile.lines addressOfHost =
      ["HOST=https://h.example.com".toList, "PLATFORM_API_URL=$HOST/v1".toList] := by
    decide +kernel
  intro line hline lookup lookup' hsame name value _ hread
  rw [hlines] at hline
  rcases List.mem_cons.1 hline with rfl | hline
  · rw [← hread]
    exact EnvFile.readAssignment_congr (by decide)
  · obtain rfl := List.mem_singleton.1 hline
    rw [readAssignment_addressOfHost] at hread ⊢
    rw [← hsame "HOST" (by decide)]
    exact hread

/-- Two tokens of accented letters that differ behind the fifth character, and an address that is
put together from a variable. -/
theorem log_hides_secrets_accented :
    (withToken "éàüöñ-1").AlikeButSecrets (withToken "éàüöñßß") ∧
      EnvFile.KeepsSecrets addressOfHost ∧
      ShowAlike (load (EnvFile.load (withToken "éàüöñ-1") addressOfHost))
        (load (EnvFile.load (withToken "éàüöñßß") addressOfHost)) ∧
      .configSetting "PLATFORM_API_URL" "https://h.example.com/v1" ∈
        (load (EnvFile.load (withToken "éàüöñ-1") addressOfHost)).log ∧
      previewEnd "éàüöñ-1" = ⟨10⟩ ∧ preview "éàüöñ-1" = "éàüöñ...(7 chars)" := by
  have hlooks : LooksLike "éàüöñ-1" "éàüöñßß" := ⟨by decide, by decide⟩
  have halike : (withToken "éàüöñ-1").AlikeButSecrets (withToken "éàüöñßß") :=
    alikeButSecrets_withToken hlooks
  obtain ⟨-, -, hkeeps, -, hpreview⟩ := log_hides_secrets halike
  refine ⟨halike, keepsSecrets_addressOfHost, hkeeps _ keepsSecrets_addressOfHost,
    by decide +kernel, by decide +kernel, ?_⟩
  rw [(hpreview "éàüöñ-1").2.2]
  decide +kernel

end Config

end Environments

end EventDetection
