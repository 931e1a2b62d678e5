import DashboardClient.Polling.Options
import DashboardClient.Proofs.Config.Origin
import DashboardClient.Proofs.Text.Numerals
import DashboardClient.Proofs.Text.Utf8

/-!
# The rules of a configuration

An environment comes to a configuration unless it breaks a rule. The rules stand in an order, and
the error is that of the first one that is broken: the origin first, then the polling interval, then
the credentials, which are only asked for where there is an identity. A number that is no numeral of
64 bits breaks no rule and gives way to its default.
-/

namespace DashboardClient

-- ---------------------------------------------------------------------------
-- Variables
-- ---------------------------------------------------------------------------

namespace Environment

variable {env env' : Environment} {name text : String} {default n : Nat}

/-- The variables that have settings of their own. -/
def settingNames : List String :=
  ["DASHSYNC_BASE_URL", "DASHSYNC_REQUEST_TIMEOUT_SECS", "DASHSYNC_CONNECT_TIMEOUT_SECS",
    "DASHSYNC_POLL_INTERVAL_MS", "DASHSYNC_LOGIN_PATH", "DASHSYNC_HOME_PATH", "DASHSYNC_WATCH_PATH",
    "DASHSYNC_IDENTITY", "DASHSYNC_SECRET_ENV"]

/-- The variable is set to a numeral of the number. -/
def Spells (env : Environment) (name : String) (n : Nat) : Prop :=
  ∃ text, env.text? name = some text ∧ Text.IsNumeral text n

/-- The number is the one that the variable spells, or the default where it spells none. -/
def Sets (env : Environment) (name : String) (default n : Nat) : Prop :=
  env.Spells name n ∨ n = default ∧ ∀ m, ¬env.Spells name m

/-- A variable is set to a text if its bytes are the text in UTF-8, and else to none. -/
theorem text?_eq_some_iff : env.text? name = some text ↔ env name = some text.toUTF8.toList := by
  simp only [text?, Option.bind_eq_some_iff, Text.ofUtf8?_eq_some_iff, exists_eq_right]

theorem spells_iff : env.Spells name n ↔ (env.text? name).bind Text.word64? = some n := by
  simp only [Spells, Option.bind_eq_some_iff, Text.word64?_eq_some_iff]

theorem number_eq_iff : env.number name default = n ↔ env.Sets name default n := by
  simp only [Sets, spells_iff, number]
  cases (env.text? name).bind Text.word64? with
  | none => simp [eq_comm]
  | some m => simp

theorem number_congr (same : env'.text? name = env.text? name) (default : Nat) :
    env'.number name default = env.number name default := by
  rw [number, number, same]

theorem path_congr (same : env'.text? name = env.text? name) (default : String) :
    env'.path name default = env.path name default := by
  rw [path, path, same]


-- ---------------------------------------------------------------------------
-- Rules
-- ---------------------------------------------------------------------------

/-- The origin is set and has the scheme of a web address. -/
def HasOrigin (env : Environment) (origin : String) : Prop :=
  env.text? "DASHSYNC_BASE_URL" = some origin ∧
    ∃ scheme ∈ httpSchemes, scheme.toList <+: origin.toList

/-- The first rule that the environment breaks gives the error. -/
inductive Breaks (env : Environment) : ConfigError → Prop where
  | originUnset (unset : env.text? "DASHSYNC_BASE_URL" = none) :
    Breaks env (.missingVar "DASHSYNC_BASE_URL")
  | originScheme {origin : String} (given : env.text? "DASHSYNC_BASE_URL" = some origin)
    (scheme : ∀ scheme ∈ httpSchemes, ¬scheme.toList <+: origin.toList) :
    Breaks env (.invalid ("DASHSYNC_BASE_URL must be http(s): " ++ origin))
  | intervalZero {origin : String} (accepted : env.HasOrigin origin)
    (zero : env.Spells "DASHSYNC_POLL_INTERVAL_MS" 0) :
    Breaks env (.invalid "DASHSYNC_POLL_INTERVAL_MS must be positive")
  | secretUnnamed {origin identity : String} (accepted : env.HasOrigin origin)
    (positive : ¬env.Spells "DASHSYNC_POLL_INTERVAL_MS" 0)
    (signsIn : env.text? "DASHSYNC_IDENTITY" = some identity)
    (unset : env.text? "DASHSYNC_SECRET_ENV" = none) :
    Breaks env (.missingVar "DASHSYNC_SECRET_ENV")
  | secretUnset {origin identity secretVar : String} (accepted : env.HasOrigin origin)
    (positive : ¬env.Spells "DASHSYNC_POLL_INTERVAL_MS" 0)
    (signsIn : env.text? "DASHSYNC_IDENTITY" = some identity)
    (named : env.text? "DASHSYNC_SECRET_ENV" = some secretVar)
    (unset : env.text? secretVar = none) :
    Breaks env (.missingVar secretVar)

end Environment


-- ---------------------------------------------------------------------------
-- Configurations
-- ---------------------------------------------------------------------------

namespace Config

variable {env env' : Environment} {config config' : Config} {e : ConfigError}

/-- The configuration has what the environment sets. -/
structure IsSetBy (config : Config) (env : Environment) : Prop where
  origin : ∃ origin, env.HasOrigin origin ∧ config.baseUrl = Text.trimEndOf '/' origin
  interval : env.Sets "DASHSYNC_POLL_INTERVAL_MS" 5000 config.pollIntervalMs
  request : env.Sets "DASHSYNC_REQUEST_TIMEOUT_SECS" 30 config.timeouts.requestSecs
  connect : env.Sets "DASHSYNC_CONNECT_TIMEOUT_SECS" 10 config.timeouts.connectSecs
  login : config.loginPath = env.path "DASHSYNC_LOGIN_PATH" "/login"
  home : config.homePath = env.path "DASHSYNC_HOME_PATH" "/"
  watch : config.watchPath = env.path "DASHSYNC_WATCH_PATH" "/api/status"
  credentials : ∀ c, config.credentials = some c ↔
    env.text? "DASHSYNC_IDENTITY" = some c.identity ∧
      ∃ secretVar, env.text? "DASHSYNC_SECRET_ENV" = some secretVar ∧
        env.text? secretVar = some c.secret

theorem IsSetBy.unique (h : config.IsSetBy env) (h' : config'.IsSetBy env) : config = config' := by
  obtain ⟨origin, ⟨horigin, -⟩, hbase⟩ := h.origin
  obtain ⟨origin', ⟨horigin', -⟩, hbase'⟩ := h'.origin
  obtain rfl := Option.some.inj (horigin.symm.trans horigin')
  have hcredentials : config.credentials = config'.credentials :=
    Option.ext fun c => (h.credentials c).trans (h'.credentials c).symm
  have hnumber {name : String} {default n n' : Nat} (hn : env.Sets name default n)
      (hn' : env.Sets name default n') : n = n' :=
    (Environment.number_eq_iff.2 hn).symm.trans (Environment.number_eq_iff.2 hn')
  have hinterval := hnumber h.interval h'.interval
  have hrequest := hnumber h.request h'.request
  have hconnect := hnumber h.connect h'.connect
  have hlogin := h.login.trans h'.login.symm
  have hhome := h.home.trans h'.home.symm
  have hwatch := h.watch.trans h'.watch.symm
  obtain ⟨_, ⟨_, _⟩, _, _, _, _, _⟩ := config
  obtain ⟨_, ⟨_, _⟩, _, _, _, _, _⟩ := config'
  subst hbase
  simp_all


-- ---------------------------------------------------------------------------
-- Rule by rule
-- ---------------------------------------------------------------------------

/-- What the environment sets, with an origin and credentials that were looked up. -/
def setBy (env : Environment) (origin : String) (credentials : Option Credentials) : Config :=
  { ofOrigin origin with
    pollIntervalMs := env.number "DASHSYNC_POLL_INTERVAL_MS" 5000
    timeouts := {
      requestSecs := env.number "DASHSYNC_REQUEST_TIMEOUT_SECS" 30
      connectSecs := env.number "DASHSYNC_CONNECT_TIMEOUT_SECS" 10 }
    loginPath := env.path "DASHSYNC_LOGIN_PATH" "/login"
    homePath := env.path "DASHSYNC_HOME_PATH" "/"
    watchPath := env.path "DASHSYNC_WATCH_PATH" "/api/status"
    credentials := credentials }

theorem interval_eq_zero_iff :
    env.number "DASHSYNC_POLL_INTERVAL_MS" 5000 = 0 ↔
      env.Spells "DASHSYNC_POLL_INTERVAL_MS" 0 := by
  rw [Environment.number_eq_iff, Environment.Sets]
  exact or_iff_left fun h => absurd h.1 (by decide)

theorem ofEnvironment_of_zero {origin : String} (horigin : env.HasOrigin origin)
    (zero : env.Spells "DASHSYNC_POLL_INTERVAL_MS" 0) :
    ofEnvironment env = .error (.invalid "DASHSYNC_POLL_INTERVAL_MS must be positive") := by
  have hscheme := hasHttpScheme_iff.2 horigin.2
  simp [ofEnvironment, horigin.1, hscheme, interval_eq_zero_iff.2 zero]

/-- With an origin and an interval, only the credentials are left to ask for. -/
theorem ofEnvironment_of_positive {origin : String} (horigin : env.HasOrigin origin)
    (positive : ¬env.Spells "DASHSYNC_POLL_INTERVAL_MS" 0) :
    ofEnvironment env = (credentialsOf env).map (setBy env origin) := by
  have hscheme := hasHttpScheme_iff.2 horigin.2
  simp only [ofEnvironment, horigin.1, hscheme, interval_eq_zero_iff.not.2 positive, Bool.not_true,
    Bool.false_eq_true, if_false]
  cases credentialsOf env <;> rfl

/-- The rule that is broken gives the error. -/
theorem ofEnvironment_of_breaks (h : env.Breaks e) : ofEnvironment env = .error e := by
  cases h with
  | originUnset unset => simp [ofEnvironment, unset]
  | originScheme given scheme =>
    have hscheme : hasHttpScheme _ = false :=
      Bool.eq_false_iff.2 fun h => by
        obtain ⟨s, hs, hprefix⟩ := hasHttpScheme_iff.1 h
        exact scheme s hs hprefix
    simp [ofEnvironment, given, hscheme]
  | intervalZero accepted zero => exact ofEnvironment_of_zero accepted zero
  | secretUnnamed accepted positive signsIn unset =>
    rw [ofEnvironment_of_positive accepted positive, credentialsOf, signsIn]
    simp [unset, Except.map]
  | secretUnset accepted positive signsIn named unset =>
    rw [ofEnvironment_of_positive accepted positive, credentialsOf, signsIn]
    simp [named, unset, Except.map]

theorem origin_of_keeps (keeps : ∀ e, ¬env.Breaks e) :
    ∃ origin, env.HasOrigin origin ∧ ¬env.Spells "DASHSYNC_POLL_INTERVAL_MS" 0 := by
  cases hset : env.text? "DASHSYNC_BASE_URL" with
  | none => exact absurd (.originUnset hset) (keeps _)
  | some origin =>
    have horigin : env.HasOrigin origin := by
      refine ⟨hset, ?_⟩
      by_contra hscheme
      refine keeps _ (.originScheme hset fun scheme hs hprefix => ?_)
      exact hscheme ⟨scheme, hs, hprefix⟩
    exact ⟨origin, horigin, fun zero => keeps _ (.intervalZero horigin zero)⟩

theorem secret_of_keeps (keeps : ∀ e, ¬env.Breaks e) {identity : String}
    (hidentity : env.text? "DASHSYNC_IDENTITY" = some identity) :
    ∃ secretVar secret, env.text? "DASHSYNC_SECRET_ENV" = some secretVar ∧
      env.text? secretVar = some secret := by
  obtain ⟨origin, horigin, positive⟩ := origin_of_keeps keeps
  cases hname : env.text? "DASHSYNC_SECRET_ENV" with
  | none => exact absurd (.secretUnnamed horigin positive hidentity hname) (keeps _)
  | some secretVar =>
    cases hsecret : env.text? secretVar with
    | none => exact absurd (.secretUnset horigin positive hidentity hname hsecret) (keeps _)
    | some secret => exact ⟨secretVar, secret, rfl, hsecret⟩

/-- Where no rule is broken, the credentials are those of the identity, if there is one. -/
theorem credentialsOf_of_keeps (keeps : ∀ e, ¬env.Breaks e) :
    ∃ credentials, credentialsOf env = .ok credentials ∧ ∀ c, credentials = some c ↔
      env.text? "DASHSYNC_IDENTITY" = some c.identity ∧
        ∃ secretVar, env.text? "DASHSYNC_SECRET_ENV" = some secretVar ∧
          env.text? secretVar = some c.secret := by
  cases hidentity : env.text? "DASHSYNC_IDENTITY" with
  | none => exact ⟨none, by rw [credentialsOf, hidentity], by simp⟩
  | some identity =>
    obtain ⟨secretVar, secret, hname, hsecret⟩ := secret_of_keeps keeps hidentity
    refine ⟨some ⟨identity, secret⟩, by simp [credentialsOf, hidentity, hname, hsecret], ?_⟩
    rintro ⟨identity', secret'⟩
    simp [hname, hsecret]

theorem ofEnvironment_of_keeps (keeps : ∀ e, ¬env.Breaks e) :
    ∃ config, ofEnvironment env = .ok config ∧ config.IsSetBy env := by
  obtain ⟨origin, horigin, positive⟩ := origin_of_keeps keeps
  obtain ⟨credentials, hcredentials, hgiven⟩ := credentialsOf_of_keeps keeps
  refine ⟨setBy env origin credentials, ?_, ?_⟩
  · rw [ofEnvironment_of_positive horigin positive, hcredentials]
    rfl
  · exact {
      origin := ⟨origin, horigin, rfl⟩
      interval := Environment.number_eq_iff.1 rfl
      request := Environment.number_eq_iff.1 rfl
      connect := Environment.number_eq_iff.1 rfl
      login := rfl
      home := rfl
      watch := rfl
      credentials := hgiven }

/-- The error is that of the first rule that is broken. -/
theorem ofEnvironment_eq_error_iff : ofEnvironment env = .error e ↔ env.Breaks e := by
  refine ⟨fun h => ?_, ofEnvironment_of_breaks⟩
  by_cases hbreaks : ∃ e, env.Breaks e
  · obtain ⟨e', hbreaks⟩ := hbreaks
    obtain rfl := Except.error.inj (h.symm.trans (ofEnvironment_of_breaks hbreaks))
    exact hbreaks
  · obtain ⟨config, hconfig, -⟩ := ofEnvironment_of_keeps (not_exists.1 hbreaks)
    cases h.symm.trans hconfig

/-- Where no rule is broken, there is a configuration, and just the one that is set. -/
theorem ofEnvironment_eq_ok_iff :
    ofEnvironment env = .ok config ↔ (∀ e, ¬env.Breaks e) ∧ config.IsSetBy env := by
  constructor
  · intro h
    have keeps (e : ConfigError) : ¬env.Breaks e := fun hbreaks => by
      cases h.symm.trans (ofEnvironment_of_breaks hbreaks)
    obtain ⟨config', hconfig, hset⟩ := ofEnvironment_of_keeps keeps
    obtain rfl := Except.ok.inj (h.symm.trans hconfig)
    exact ⟨keeps, hset⟩
  · rintro ⟨keeps, hset⟩
    obtain ⟨config', hconfig, hset'⟩ := ofEnvironment_of_keeps keeps
    rw [hconfig, hset.unique hset']


-- ---------------------------------------------------------------------------
-- What follows from a configuration
-- ---------------------------------------------------------------------------

theorem IsSetBy.pos (h : config.IsSetBy env) (keeps : ∀ e, ¬env.Breaks e) :
    0 < config.pollIntervalMs := by
  obtain ⟨-, -, positive⟩ := origin_of_keeps keeps
  rcases h.interval with spelled | ⟨hdefault, -⟩
  · exact Nat.pos_of_ne_zero fun hzero => positive (hzero ▸ spelled)
  · rw [hdefault]
    decide

theorem IsSetBy.credentials_eq_none_iff (h : config.IsSetBy env) (keeps : ∀ e, ¬env.Breaks e) :
    config.credentials = none ↔ env.text? "DASHSYNC_IDENTITY" = none := by
  simp only [Option.eq_none_iff_forall_ne_some]
  constructor
  · intro hnone identity hidentity
    obtain ⟨secretVar, secret, hname, hsecret⟩ := secret_of_keeps keeps hidentity
    exact hnone ⟨identity, secret⟩ ((h.credentials _).2 ⟨hidentity, secretVar, hname, hsecret⟩)
  · intro hnone c hc
    exact hnone c.identity ((h.credentials c).1 hc).1

/-- An engine takes every positive interval as it is. -/
theorem engine_of_pos (positive : 0 < config.pollIntervalMs) :
    ∃ engine, PollingEngine.ofConfig config = .ok engine ∧
      engine.defaultOptions.interval.nanos = 1000000 * config.pollIntervalMs := by
  have hnanos : 0 < millisecond * config.pollIntervalMs := Nat.mul_pos (by decide) positive
  refine ⟨⟨⟨_, hnanos⟩⟩, ?_, rfl⟩
  rw [PollingEngine.ofConfig, PollingEngine.ofNanos, Interval.ofNanos, dif_pos hnanos]
  rfl

/-- Nothing else than the settings and the variable that is named for the secret is looked up. -/
theorem ofEnvironment_congr
    (same : ∀ name ∈ Environment.settingNames, env'.text? name = env.text? name)
    (secret : ∀ secretVar, env.text? "DASHSYNC_SECRET_ENV" = some secretVar →
      env'.text? secretVar = env.text? secretVar) :
    ofEnvironment env' = ofEnvironment env := by
  have hcredentials : credentialsOf env' = credentialsOf env := by
    rw [credentialsOf, credentialsOf, same _ (by decide), same "DASHSYNC_SECRET_ENV" (by decide)]
    cases hname : env.text? "DASHSYNC_SECRET_ENV" with
    | none => rfl
    | some secretVar => simp only [secret secretVar hname]
  simp only [ofEnvironment, hcredentials, same "DASHSYNC_BASE_URL" (by decide),
    Environment.number_congr (same "DASHSYNC_POLL_INTERVAL_MS" (by decide)),
    Environment.number_congr (same "DASHSYNC_REQUEST_TIMEOUT_SECS" (by decide)),
    Environment.number_congr (same "DASHSYNC_CONNECT_TIMEOUT_SECS" (by decide)),
    Environment.path_congr (same "DASHSYNC_LOGIN_PATH" (by decide)),
    Environment.path_congr (same "DASHSYNC_HOME_PATH" (by decide)),
    Environment.path_congr (same "DASHSYNC_WATCH_PATH" (by decide))]

/-- An environment comes to an error exactly when it breaks a rule, and the error is that of the
first one; otherwise it comes to the configuration that it sets, and to no other. Each number is the
one that its variable spells, or the default; the polling interval is positive, so an engine polls
at just that interval; and there are credentials exactly for an identity. Only the settings count
and the variable that is named for the secret. -/
theorem settings_follow_rules_in_order (env : Environment) :
    (∀ name text, env.text? name = some text ↔ env name = some text.toUTF8.toList) ∧
    (∀ e, ofEnvironment env = .error e ↔ env.Breaks e) ∧
    ((∃ config, ofEnvironment env = .ok config) ↔ ∀ e, ¬env.Breaks e) ∧
    (∀ config, ofEnvironment env = .ok config →
      config.IsSetBy env ∧ 0 < config.pollIntervalMs ∧
      (∃ engine, PollingEngine.ofConfig config = .ok engine ∧
        engine.defaultOptions.interval.nanos = 1000000 * config.pollIntervalMs) ∧
      (config.credentials = none ↔ env.text? "DASHSYNC_IDENTITY" = none)) ∧
    ∀ env' : Environment,
      (∀ name ∈ Environment.settingNames, env'.text? name = env.text? name) →
      (∀ secretVar, env.text? "DASHSYNC_SECRET_ENV" = some secretVar →
        env'.text? secretVar = env.text? secretVar) →
      ofEnvironment env' = ofEnvironment env := by
  refine ⟨fun _ _ => Environment.text?_eq_some_iff, fun _ => ofEnvironment_eq_error_iff,
    ⟨?kept, ?made⟩, ?holds, fun _ => ofEnvironment_congr⟩
  case kept =>
    rintro ⟨config, hconfig⟩
    exact (ofEnvironment_eq_ok_iff.1 hconfig).1
  case made =>
    intro keeps
    obtain ⟨config, hconfig, -⟩ := ofEnvironment_of_keeps keeps
    exact ⟨config, hconfig⟩
  case holds =>
    intro config hconfig
    obtain ⟨keeps, hset⟩ := ofEnvironment_eq_ok_iff.1 hconfig
    have positive := hset.pos keeps
    exact ⟨hset, positive, engine_of_pos positive, hset.credentials_eq_none_iff keeps⟩

/-- One number is too large and one is no text, so both have their defaults. What else is set does
not matter, and without the secret the error names the variable that should have it. -/
theorem settings_with_unreadable_numbers :
    let settings : List (String × List UInt8) :=
      [("DASHSYNC_BASE_URL", "https://dash/".toUTF8.toList),
        ("DASHSYNC_POLL_INTERVAL_MS", "+0250".toUTF8.toList),
        ("DASHSYNC_REQUEST_TIMEOUT_SECS", "18446744073709551616".toUTF8.toList),
        ("DASHSYNC_CONNECT_TIMEOUT_SECS", [0xFF]),
        ("DASHSYNC_IDENTITY", "ops".toUTF8.toList),
        ("DASHSYNC_SECRET_ENV", "VAULT".toUTF8.toList)]
    let env := Environment.ofList (settings ++ [("VAULT", "s3 ".toUTF8.toList)])
    let config : Config :=
      { baseUrl := "https://dash", pollIntervalMs := 250, credentials := some ⟨"ops", "s3 "⟩ }
    ofEnvironment env = .ok config ∧ config.IsSetBy env ∧
      (∃ engine, PollingEngine.ofConfig config = .ok engine ∧
        engine.defaultOptions.interval.nanos = 250000000) ∧
      ofEnvironment (env.set "HOME" "/root".toUTF8.toList) = .ok config ∧
      ofEnvironment (Environment.ofList settings) = .error (.missingVar "VAULT") := by
  intro settings env config
  obtain ⟨_, _, _, hholds, hothers⟩ := settings_follow_rules_in_order env
  obtain ⟨_, herror, _⟩ := settings_follow_rules_in_order (Environment.ofList settings)
  have hconfig : ofEnvironment env = .ok config := by decide +kernel
  have hname : env.text? "DASHSYNC_SECRET_ENV" = some "VAULT" := by decide +kernel
  obtain ⟨hset, _, hengine, _⟩ := hholds config hconfig
  refine ⟨hconfig, hset, hengine, ?_, (herror _).2 ?_⟩
  · rw [hothers (env.set "HOME" "/root".toUTF8.toList) (by decide +kernel), hconfig]
    intro secretVar hsecretVar
    obtain rfl := Option.some.inj (hname.symm.trans hsecretVar)
    decide +kernel
  · have horigin : (Environment.ofList settings).HasOrigin "https://dash/" :=
      ⟨by decide +kernel, "https://", by decide, by decide +kernel⟩
    have positive : ¬(Environment.ofList settings).Spells "DASHSYNC_POLL_INTERVAL_MS" 0 :=
      Environment.spells_iff.not.2 (by decide +kernel)
    have hidentity : (Environment.ofList settings).text? "DASHSYNC_IDENTITY" = some "ops" := by
      decide +kernel
    exact .secretUnset horigin positive hidentity (by decide +kernel) (by decide +kernel)

end Config

end DashboardClient
