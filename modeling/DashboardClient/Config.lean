import DashboardClient.Credentials
import DashboardClient.Environment

/-!
# Configuration

The settings of a client, read from environment variables. A number that cannot be read
is replaced by its default; an unusable origin, a polling interval of zero and
credentials that are only half there are errors, looked for in this order.
-/

namespace DashboardClient

/-- Why a configuration cannot be used. -/
inductive ConfigError where
  | missingVar (var : String)
  | invalid (reason : String)
  deriving DecidableEq, Repr

namespace ConfigError

def code : ConfigError → String
  | .missingVar _ => "E_CONFIG_MISSING"
  | .invalid _ => "E_CONFIG_INVALID"

/-- A configuration does not mend itself. -/
def retryable (_ : ConfigError) : Bool := false

def message : ConfigError → String
  | .missingVar var => "missing config: env var " ++ var ++ " not set"
  | .invalid reason => "invalid config: " ++ reason

end ConfigError


-- ---------------------------------------------------------------------------
-- Settings
-- ---------------------------------------------------------------------------

/-- How long a request may take, in seconds. -/
structure Timeouts where
  requestSecs : Nat := 30
  connectSecs : Nat := 10
  deriving DecidableEq, Repr

/-- The settings of a client. -/
structure Config where
  baseUrl : String
  timeouts : Timeouts := {}
  pollIntervalMs : Nat := 5000
  loginPath : String := "/login"
  homePath : String := "/"
  watchPath : String := "/api/status"
  credentials : Option Credentials := none
  deriving DecidableEq

/-- Whether the text starts with the scheme of a web address. -/
def hasHttpScheme (url : String) : Bool :=
  "http://".toList.isPrefixOf url.toList || "https://".toList.isPrefixOf url.toList

namespace Config

/-- The default settings for an origin, which loses the slashes at its end. -/
def ofOrigin (origin : String) : Config :=
  { baseUrl := Text.trimEndOf '/' origin }

/-- The credentials for signing in unattended. `DASHSYNC_SECRET_ENV` names the variable
that holds the secret. -/
def credentialsOf (env : Environment) : Except ConfigError (Option Credentials) :=
  match env.text? "DASHSYNC_IDENTITY" with
  | none => .ok none
  | some identity =>
    match env.text? "DASHSYNC_SECRET_ENV" with
    | none => .error (.missingVar "DASHSYNC_SECRET_ENV")
    | some secretVar =>
      match env.text? secretVar with
      | none => .error (.missingVar secretVar)
      | some secret => .ok (some ⟨identity, secret⟩)

/-- The settings that an environment gives. -/
def ofEnvironment (env : Environment) : Except ConfigError Config :=
  match env.text? "DASHSYNC_BASE_URL" with
  | none => .error (.missingVar "DASHSYNC_BASE_URL")
  | some origin =>
    if !hasHttpScheme origin then
      .error (.invalid ("DASHSYNC_BASE_URL must be http(s): " ++ origin))
    else
      let interval := env.number "DASHSYNC_POLL_INTERVAL_MS" 5000
      if interval = 0 then .error (.invalid "DASHSYNC_POLL_INTERVAL_MS must be positive")
      else
        match credentialsOf env with
        | .error e => .error e
        | .ok credentials =>
          .ok { ofOrigin origin with
            pollIntervalMs := interval
            timeouts := {
              requestSecs := env.number "DASHSYNC_REQUEST_TIMEOUT_SECS" 30
              connectSecs := env.number "DASHSYNC_CONNECT_TIMEOUT_SECS" 10 }
            loginPath := env.path "DASHSYNC_LOGIN_PATH" "/login"
            homePath := env.path "DASHSYNC_HOME_PATH" "/"
            watchPath := env.path "DASHSYNC_WATCH_PATH" "/api/status"
            credentials := credentials }

end Config

end DashboardClient
