import PipelineConsole.Number.Decimal
import PipelineConsole.Text.Blank
import PipelineConsole.Text.Quoted

/-!
# Settings of the console

The settings come from named texts. A name that is not set leaves its default; a text that does not
fit is an error that names the first such setting.

## Main definitions

* `Settings` — the settings with their defaults
* `SettingsError` — a text that does not fit
* `Settings.ofLookup` — the settings from named texts
-/

namespace PipelineConsole

/-- The settings of the console; times are in milliseconds. -/
structure Settings where
  listenAddress : String := "0.0.0.0:8080"
  apiUrl : String := "http://localhost:8081"
  mockMode : Bool := false
  authEnabled : Bool := false
  notificationUrl : Option String := none
  requestTimeout : Nat := 10000
  pollInterval : Nat := 2000
  heartbeatInterval : Nat := 30000
  deriving DecidableEq, Repr

/-- What a setting must be. -/
inductive SettingKind where
  | flag
  | duration
  deriving DecidableEq, Repr

/-- A text that does not fit its setting. -/
structure SettingsError where
  name : String
  expected : SettingKind
  value : String
  deriving DecidableEq, Repr

/-- The wording of an error. -/
def SettingsError.message (e : SettingsError) : String :=
  let expected :=
    match e.expected with
    | .flag => "a boolean"
    | .duration => "a positive number of milliseconds"
  e.name ++ " must be " ++ expected ++ ", got " ++ Text.quoted e.value

namespace Settings

/-- The words for yes. -/
def yesWords : List String := ["1", "true", "yes", "on"]

/-- The words for no, no word at all among them. -/
def noWords : List String := ["0", "false", "no", "off", ""]

/-- Reads a flag: a word for yes or no, up to case and surrounding blanks. -/
def flag (lookup : String → Option String) (name : String) (default : Bool) :
    Except SettingsError Bool :=
  match lookup name with
  | none => .ok default
  | some value =>
    let word := Text.trim value
    if yesWords.any (Text.equalIgnoringCase · word) then .ok true
    else if noWords.any (Text.equalIgnoringCase · word) then .ok false
    else .error ⟨name, .flag, value⟩

/-- Reads a time: a positive number of milliseconds that fits 64 bits. -/
def duration (lookup : String → Option String) (name : String) (default : Nat) :
    Except SettingsError Nat :=
  match lookup name with
  | none => .ok default
  | some value =>
    match Number.readUnsigned UInt64.size (Text.trim value) with
    | .ok (n + 1) => .ok (n + 1)
    | _ => .error ⟨name, .duration, value⟩

/-- The settings from named texts. Slashes at the end of an address are left out. -/
def ofLookup (lookup : String → Option String) : Except SettingsError Settings := do
  let defaults : Settings := {}
  let mockMode ← flag lookup "MOCK_MODE" defaults.mockMode
  let authEnabled ← flag lookup "AUTH_ENABLED" defaults.authEnabled
  let requestTimeout ← duration lookup "REQUEST_TIMEOUT_MS" defaults.requestTimeout
  let pollInterval ← duration lookup "STATUS_POLL_INTERVAL_MS" defaults.pollInterval
  let heartbeatInterval ← duration lookup "HEARTBEAT_INTERVAL_MS" defaults.heartbeatInterval
  return {
    listenAddress := (lookup "LISTEN_ADDR").getD defaults.listenAddress
    apiUrl := ((lookup "API_URL").map (Text.dropEnd '/')).getD defaults.apiUrl
    mockMode
    authEnabled
    notificationUrl :=
      ((lookup "NOTIFICATION_SERVICE_URL").filter (!Text.isBlankText ·)).map (Text.dropEnd '/')
    requestTimeout
    pollInterval
    heartbeatInterval }

end Settings

end PipelineConsole
