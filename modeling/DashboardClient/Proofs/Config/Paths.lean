import DashboardClient.Environment
import DashboardClient.Proofs.Text.Trimmed

/-!
# Path variables

A path variable is trimmed unless its value starts with a slash, and a trimmed value gets a slash
in front whether it has one or not. So blanks around a path matter exactly when the path itself
starts with a slash: blanks behind it are kept, and blanks in front of it double the slash.
-/

namespace DashboardClient

variable {env : Environment} {name raw default : String}

/-- The text with a slash in front if it has none. -/
def withSlash (text : String) : String :=
  if text.toList.head? = some '/' then text else "/" ++ text

theorem slash_append_ne (text : String) : "/" ++ text ≠ text := by
  intro h
  have hlength := congrArg (·.toList.length) h
  simp [String.toList_append] at hlength

namespace Environment

theorem path_of_slash (h : env.text? name = some raw) (slash : raw.toList.head? = some '/') :
    env.path name default = raw := by
  rw [path, h]
  exact if_pos slash

theorem path_of_blank (h : env.text? name = some raw) (blank : Text.trim raw = "") :
    env.path name default = default := by
  have hslash : raw.toList.head? ≠ some '/' := fun slash => by
    have hhead := Text.head?_trim_of_head? slash (by decide)
    rw [blank] at hhead
    cases hhead
  rw [path, h]
  simp [hslash, blank]

/-- A value that does not start with a slash is trimmed and gets one in front. -/
theorem path_of_trimmed (h : env.text? name = some raw) (slash : raw.toList.head? ≠ some '/')
    (full : Text.trim raw ≠ "") : env.path name default = "/" ++ Text.trim raw := by
  rw [path, h]
  simp [slash, full]

/-- A value that is its own trimmed form gets a slash in front if it has none. -/
theorem path_of_tidy (h : env.text? name = some raw) (tidy : Text.trim raw = raw)
    (full : raw ≠ "") : env.path name default = withSlash raw := by
  by_cases slash : raw.toList.head? = some '/'
  · rw [path_of_slash h slash, withSlash, if_pos slash]
  · rw [path_of_trimmed h slash (by rwa [tidy]), tidy, withSlash, if_neg slash]

/-- A value spells its trimmed form with a slash in front if that has none, unless blanks stand
around a value that has one. -/
theorem path_eq_withSlash_iff (h : env.text? name = some raw) (full : Text.trim raw ≠ "") :
    env.path name default = withSlash (Text.trim raw) ↔
      ((Text.trim raw).toList.head? = some '/' → Text.trim raw = raw) := by
  by_cases inner : (Text.trim raw).toList.head? = some '/'
  · rw [withSlash, if_pos inner]
    refine ⟨fun heq _ => ?_, fun htidy => ?_⟩
    · by_cases slash : raw.toList.head? = some '/'
      · exact heq.symm.trans (path_of_slash h slash)
      · exact absurd ((path_of_trimmed h slash full).symm.trans heq) (slash_append_ne _)
    · rw [path_of_slash h (htidy inner ▸ inner), htidy inner]
  · have slash : raw.toList.head? ≠ some '/' := fun slash =>
      inner (Text.head?_trim_of_head? slash (by decide))
    rw [path_of_trimmed h slash full, withSlash, if_neg inner]
    exact iff_of_true rfl fun hslash => absurd hslash inner

/-- Blanks around the value of a path variable do not matter exactly when the value between them
does not start with a slash. If it does, blanks behind it stay and blanks in front of it double
the slash. A blank value is as good as none. -/
theorem blanks_matter_iff_slash (h : env.text? name = some raw) (default : String) :
    (∀ env' : Environment, env'.text? name = some (Text.trim raw) →
      (env.path name default = env'.path name default ↔
        ((Text.trim raw).toList.head? = some '/' → Text.trim raw = raw))) ∧
    (Text.trim raw ≠ "" →
      (env.path name default = withSlash (Text.trim raw) ↔
        ((Text.trim raw).toList.head? = some '/' → Text.trim raw = raw))) ∧
    (Text.trim raw = "" → env.path name default = default) ∧
    ((Text.trim raw).toList.head? = some '/' →
      env.path name default =
        if raw.toList.head? = some '/' then raw else "/" ++ Text.trim raw) := by
  refine ⟨fun env' h' => ?_, path_eq_withSlash_iff h, path_of_blank h, fun inner => ?_⟩
  · by_cases blank : Text.trim raw = ""
    · rw [path_of_blank h blank, path_of_blank h' (by rw [Text.trim_trim, blank]), blank]
      exact iff_of_true rfl fun hslash => by cases hslash
    · rw [path_of_tidy h' (Text.trim_trim raw) blank]
      exact path_eq_withSlash_iff h blank
  · have full : Text.trim raw ≠ "" := fun blank => by
      rw [blank] at inner
      cases inner
    split
    · next slash => exact path_of_slash h slash
    · next slash => exact path_of_trimmed h slash full

/-- Blanks around a word do not matter, whatever script they come from. -/
theorem blanks_around_word :
    let env := ofList [("DASHSYNC_WATCH_PATH", "\u2003status\u00A0 ".toUTF8.toList)]
    let tidy := ofList [("DASHSYNC_WATCH_PATH", "status".toUTF8.toList)]
    env.path "DASHSYNC_WATCH_PATH" "/api/status" = tidy.path "DASHSYNC_WATCH_PATH" "/api/status" ∧
      env.path "DASHSYNC_WATCH_PATH" "/api/status" = "/status" := by
  intro env tidy
  have htext : env.text? "DASHSYNC_WATCH_PATH" = some "\u2003status\u00A0 " := by decide +kernel
  have htidy : tidy.text? "DASHSYNC_WATCH_PATH" = some (Text.trim "\u2003status\u00A0 ") := by
    decide +kernel
  have hword : (Text.trim "\u2003status\u00A0 ").toList.head? ≠ some '/' := by decide +kernel
  obtain ⟨hsame, hspelled, _⟩ := blanks_matter_iff_slash htext "/api/status"
  refine ⟨(hsame tidy htidy).2 fun hslash => absurd hslash hword, ?_⟩
  rw [(hspelled (by decide +kernel)).2 fun hslash => absurd hslash hword]
  decide +kernel

/-- A blank in front of a path doubles its slash, and a blank behind it stays. -/
theorem blanks_around_path :
    let env := ofList [("DASHSYNC_LOGIN_PATH", " /signin".toUTF8.toList),
      ("DASHSYNC_HOME_PATH", "/home ".toUTF8.toList)]
    let tidy := ofList [("DASHSYNC_LOGIN_PATH", (Text.trim " /signin").toUTF8.toList),
      ("DASHSYNC_HOME_PATH", (Text.trim "/home ").toUTF8.toList)]
    (env.path "DASHSYNC_LOGIN_PATH" "/login" = "//signin" ∧
      tidy.path "DASHSYNC_LOGIN_PATH" "/login" = "/signin") ∧
    env.path "DASHSYNC_HOME_PATH" "/" = "/home " ∧ tidy.path "DASHSYNC_HOME_PATH" "/" = "/home" := by
  decide +kernel

end Environment

end DashboardClient
