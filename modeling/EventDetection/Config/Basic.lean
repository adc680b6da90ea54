import EventDetection.Dict
import EventDetection.Log
import EventDetection.Plan

/-!
# Configuration

The configuration is read from variables of the environment.  The address of the
platform and the access token are required, all else has a default.  What was read is
logged, secrets by a preview only.
-/

namespace EventDetection

/-- The variables that are set. -/
abbrev Environment := Dict String

structure Config where
  platformUrl : String
  accessToken : String
  telemetryUrl : String
  /-- without a key no feedback is sent -/
  telemetryKey : Option String
  telemetryProjectId : String
  /-- whether an update that is not saved is undone -/
  rollback : Bool
  plan : Plan
deriving DecidableEq

/-- Why there is no configuration. -/
inductive ConfigError where
  | missing (name : String)
deriving DecidableEq

def ConfigError.message : ConfigError → String
  | .missing name => "Configuration error: " ++ name ++ " environment variable is required"

namespace Config

def defaultTelemetryUrl : String := "https://api.phospho.ai/v2"

def defaultTelemetryProjectId : String := "b20659d0932d4edbb2b9682d3e6a0ccb"

/-- Whether a text means yes, blanks at its ends and capitals apart. -/
def parseFlag (s : String) : Bool :=
  String.ofList (Text.lowercase (Text.trim s.toList)) ∈ ["1", "true", "yes", "on"]

/-- The number of characters of a secret that may be shown. -/
def previewLength : Nat := 5

/-- The bytes at which characters start, the first one of which starts at `start`. -/
def charStarts : (start : Nat) → List Char → List Nat
  | _, [] => []
  | start, c :: cs => start :: charStarts (start + c.utf8Size) cs

/-- The byte at which a preview is cut: the start of the first character that is not shown, or
the end. -/
def previewEnd (secret : String) : String.Pos.Raw :=
  ⟨(charStarts 0 secret.toList)[previewLength]?.getD secret.utf8ByteSize⟩

/-- The beginning of a secret and its length. -/
def preview (secret : String) : String :=
  String.Pos.Raw.extract secret 0 (previewEnd secret) ++ "...(" ++ toString secret.length ++
    " chars)"

/-- What is logged of a configuration. -/
def summary (c : Config) : List LogEvent := [
  .configLoaded,
  .configSetting "PLATFORM_API_URL" c.platformUrl,
  .configSetting "PLATFORM_ACCESS_TOKEN" (preview c.accessToken),
  .configSetting "TELEMETRY_API_KEY" ((c.telemetryKey.map preview).getD "<not set>"),
  .configSetting "ROLLBACK_ON_PERSIST_FAILURE" (if c.rollback then "true" else "false")]

/-- The value of a variable that must be set. -/
def require (env : Environment) (name : String) : Except ConfigError String :=
  match env.get? name with
  | some value => .ok value
  | none => .error (.missing name)

/-- The configuration that an environment gives. -/
def ofEnvironment (env : Environment) : Except ConfigError Config := do
  let platformUrl ← require env "PLATFORM_API_URL"
  let accessToken ← require env "PLATFORM_ACCESS_TOKEN"
  return {
    platformUrl, accessToken
    telemetryUrl := (env.get? "TELEMETRY_API_URL").getD defaultTelemetryUrl
    telemetryKey := (env.get? "TELEMETRY_API_KEY").filter (· ≠ "")
    telemetryProjectId := (env.get? "TELEMETRY_PROJECT_ID").getD defaultTelemetryProjectId
    rollback := ((env.get? "ROLLBACK_ON_PERSIST_FAILURE").map parseFlag).getD false
    plan := ((env.get? "ORG_PLAN").map Plan.parse).getD .hobby }

/-- Reads the configuration and logs it. -/
def load (env : Environment) : Logged (Except ConfigError Config) :=
  match ofEnvironment env with
  | .ok c => ⟨.ok c, c.summary⟩
  | .error e => ⟨.error e, []⟩

end Config

end EventDetection
