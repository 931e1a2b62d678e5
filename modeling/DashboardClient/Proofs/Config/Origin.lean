import DashboardClient.Http.Client
import DashboardClient.Proofs.Text.Trimmed

/-!
# The origin of a configuration

A configuration takes an origin that has the scheme of a web address and drops the slashes at its
end. A client asks for the scheme once more, of what is left. The two agree unless nothing but
slashes follows the scheme: then the scheme loses its own slashes and the client refuses it.
-/

namespace DashboardClient

/-- The schemes of web addresses. -/
def httpSchemes : List String := ["http://", "https://"]

/-- Something else than slashes follows the scheme of a web address. -/
def IsMoreThanScheme (origin : String) : Prop :=
  ∃ scheme ∈ httpSchemes, ∃ rest, scheme.toList ++ rest = origin.toList ∧ ∃ c ∈ rest, c ≠ '/'

/-- The path without the slash that it may start with. -/
def withoutSlash (path : String) : String :=
  if path.toList.head? = some '/' then String.ofList path.toList.tail else path

theorem hasHttpScheme_iff {url : String} :
    hasHttpScheme url = true ↔
      ∃ scheme ∈ httpSchemes, ∃ rest, scheme.toList ++ rest = url.toList := by
  simp only [hasHttpScheme, httpSchemes, Bool.or_eq_true, List.isPrefixOf_iff_prefix,
    List.exists_mem_cons_iff, List.not_mem_nil, false_and, exists_false, or_false]
  rfl


-- ---------------------------------------------------------------------------
-- Dropping the slashes at the end
-- ---------------------------------------------------------------------------

/-- The scheme keeps its slashes where more follows. -/
theorem hasHttpScheme_of_isMoreThanScheme {origin : String} (h : IsMoreThanScheme origin) :
    hasHttpScheme (Text.trimEndOf '/' origin) = true := by
  obtain ⟨scheme, hscheme, rest, horigin, c, hc, hne⟩ := h
  refine hasHttpScheme_iff.2 ⟨scheme, hscheme, rest.rdropWhile (· == '/'), ?_⟩
  have hrest : rest.rdropWhile (· == '/') ≠ [] := fun hnil =>
    hne (by simpa using List.rdropWhile_eq_nil_iff.1 hnil c hc)
  rw [Text.toList_trimEndOf, ← horigin, Text.rdropWhile_append, if_neg hrest]

/-- Where nothing but slashes follows the scheme, all slashes go. -/
theorem trimEndOf_of_only_scheme {origin : String} (h : hasHttpScheme origin = true)
    (only : ¬IsMoreThanScheme origin) :
    Text.trimEndOf '/' origin = "http:" ∨ Text.trimEndOf '/' origin = "https:" := by
  obtain ⟨scheme, hscheme, rest, horigin⟩ := hasHttpScheme_iff.1 h
  have hrest : rest.rdropWhile (· == '/') = [] := by
    refine List.rdropWhile_eq_nil_iff.2 fun c hc => ?_
    by_contra hne
    exact only ⟨scheme, hscheme, rest, horigin, c, hc, by simpa using hne⟩
  have hbase : (Text.trimEndOf '/' origin).toList = scheme.toList.rdropWhile (· == '/') := by
    rw [Text.toList_trimEndOf, ← horigin, Text.rdropWhile_append, if_pos hrest]
  simp only [httpSchemes, List.mem_cons, List.not_mem_nil, or_false] at hscheme
  rcases hscheme with rfl | rfl
  · exact .inl (String.toList_inj.1 (hbase.trans (by decide)))
  · exact .inr (String.toList_inj.1 (hbase.trans (by decide)))


-- ---------------------------------------------------------------------------
-- Clients
-- ---------------------------------------------------------------------------

theorem HttpClient.ofConfig_of_scheme {config : Config}
    (h : hasHttpScheme config.baseUrl = true) :
    HttpClient.ofConfig config =
      .ok { baseUrl := Text.trimEndOf '/' config.baseUrl, timeouts := config.timeouts } :=
  if_pos h

theorem HttpClient.ofConfig_of_no_scheme {config : Config}
    (h : hasHttpScheme config.baseUrl = false) :
    HttpClient.ofConfig config = .error (.invalidBaseUrl config.baseUrl) :=
  if_neg (by simp [h])

theorem HttpClient.url_eq (client : HttpClient) (path : String) :
    client.url path = client.baseUrl ++ "/" ++ withoutSlash path := by
  unfold url withoutSlash
  split
  · next slash =>
    obtain ⟨tail, hpath⟩ := List.head?_eq_some_iff.1 slash
    rw [← String.toList_inj]
    simp [String.toList_append, hpath]
  · rfl

namespace Config

/-- The origin of the configuration is one that a client takes as it is and appends paths to. -/
structure IsUsable (config : Config) : Prop where
  scheme : hasHttpScheme config.baseUrl = true
  bare : config.baseUrl.toList.getLast? ≠ some '/'
  client : ∃ client, HttpClient.ofConfig config = .ok client ∧
    client.baseUrl = config.baseUrl ∧
    ∀ path, client.url path = config.baseUrl ++ "/" ++ withoutSlash path

theorem isUsable_of_scheme {config : Config} (kept : hasHttpScheme config.baseUrl = true)
    (bare : Text.trimEndOf '/' config.baseUrl = config.baseUrl) : config.IsUsable where
  scheme := kept
  bare := by
    rw [← bare]
    exact Text.getLast?_trimEndOf_ne '/' config.baseUrl
  client := by
    have hclient := HttpClient.ofConfig_of_scheme kept
    rw [bare] at hclient
    exact ⟨_, hclient, rfl, HttpClient.url_eq _⟩

/-- What an accepted configuration has checked. -/
theorem ofEnvironment_eq_ok {env : Environment} {config : Config}
    (h : ofEnvironment env = .ok config) :
    ∃ origin, env.text? "DASHSYNC_BASE_URL" = some origin ∧ hasHttpScheme origin = true ∧
      config.baseUrl = Text.trimEndOf '/' origin := by
  unfold ofEnvironment at h
  split at h
  · cases h
  · next origin horigin =>
    split at h
    · cases h
    · next hscheme =>
      simp only at h
      split at h
      · cases h
      · split at h
        · cases h
        · obtain rfl := Except.ok.inj h
          exact ⟨origin, horigin, by simpa using hscheme, rfl⟩

/-- The origin of an accepted configuration is usable exactly when more than slashes follows its
scheme. Otherwise all that is left of it is a scheme without slashes, and no client takes that. -/
theorem accepted_origin_usable_iff {env : Environment} {config : Config}
    (h : ofEnvironment env = .ok config) :
    ∃ origin, env.text? "DASHSYNC_BASE_URL" = some origin ∧
      config.baseUrl.toList.getLast? ≠ some '/' ∧
      (config.IsUsable ↔ IsMoreThanScheme origin) ∧
      (¬IsMoreThanScheme origin →
        (config.baseUrl = "http:" ∨ config.baseUrl = "https:") ∧
          HttpClient.ofConfig config = .error (.invalidBaseUrl config.baseUrl)) := by
  obtain ⟨origin, horigin, hscheme, hbase⟩ := ofEnvironment_eq_ok h
  have hbare : config.baseUrl.toList.getLast? ≠ some '/' := by
    rw [hbase]
    exact Text.getLast?_trimEndOf_ne '/' origin
  have honly (only : ¬IsMoreThanScheme origin) :
      (config.baseUrl = "http:" ∨ config.baseUrl = "https:") ∧
        hasHttpScheme config.baseUrl = false := by
    have hleft := hbase ▸ trimEndOf_of_only_scheme hscheme only
    refine ⟨hleft, ?_⟩
    rcases hleft with hleft | hleft <;> rw [hleft] <;> decide
  refine ⟨origin, horigin, hbare, ⟨fun husable => ?_, fun hmore => ?_⟩, fun only => ?_⟩
  · by_contra only
    have hnone := (honly only).2
    rw [husable.scheme] at hnone
    cases hnone
  · have hkept : hasHttpScheme config.baseUrl = true :=
      hbase ▸ hasHttpScheme_of_isMoreThanScheme hmore
    exact isUsable_of_scheme hkept (by rw [hbase, Text.trimEndOf_trimEndOf])
  · obtain ⟨hleft, hnone⟩ := honly only
    exact ⟨hleft, HttpClient.ofConfig_of_no_scheme hnone⟩

/-- Slashes at the end of an origin do not matter. -/
theorem origin_usable_without_slashes :
    let env := Environment.ofList [("DASHSYNC_BASE_URL", "https://dash:8443//".toUTF8.toList)]
    let config : Config := { baseUrl := "https://dash:8443" }
    ofEnvironment env = .ok config ∧ config.IsUsable := by
  intro env config
  have hconfig : ofEnvironment env = .ok config := by decide +kernel
  obtain ⟨origin, horigin, _, husable, _⟩ := accepted_origin_usable_iff hconfig
  have htext : env.text? "DASHSYNC_BASE_URL" = some "https://dash:8443//" := by decide +kernel
  obtain rfl := Option.some.inj (htext.symm.trans horigin)
  refine ⟨hconfig, husable.2 ⟨"https://", by decide, "dash:8443//".toList, ?_, 'd', ?_, ?_⟩⟩
  · decide +kernel
  · decide +kernel
  · decide

/-- A scheme alone is accepted, but no client takes what is left of it. -/
theorem scheme_alone_accepted :
    let env := Environment.ofList [("DASHSYNC_BASE_URL", "http://".toUTF8.toList)]
    let config : Config := { baseUrl := "http:" }
    ofEnvironment env = .ok config ∧
      HttpClient.ofConfig config = .error (.invalidBaseUrl "http:") ∧ ¬config.IsUsable := by
  intro env config
  have hnone : hasHttpScheme config.baseUrl = false := by decide +kernel
  exact ⟨by decide +kernel, HttpClient.ofConfig_of_no_scheme hnone, fun husable =>
    Bool.false_ne_true (hnone.symm.trans husable.scheme)⟩

end Config

end DashboardClient
