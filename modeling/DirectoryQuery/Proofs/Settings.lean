import DirectoryQuery.Proofs.Text.Blank
import DirectoryQuery.Settings

/-! The settings that an environment describes. A time limit that is no number leaves no settings at all;
otherwise each of them is read from its own variable. A filter among them opens with a parenthesis, and
there is none if the variable holds blanks only. -/
namespace DirectoryQuery

namespace Settings

variable {given fragment : String} {c : Char} {rest : List Char}

theorem standardFilter_eq_none_iff :
    standardFilter given = none ↔ ∀ c ∈ given.toList, Text.isBlank c = true := by
  rw [← Text.trim_eq_nil_iff]
  unfold standardFilter
  split <;> simp_all

/-- A text that opens with a parenthesis is kept. -/
theorem standardFilter_opened (core : Text.IsCore ('(' :: rest) given.toList) :
    standardFilter given = some (.ofList ('(' :: rest)) := by
  rw [standardFilter, Text.isCore_iff.mp core]
  rfl

/-- Any other text is put in parentheses. -/
theorem standardFilter_bare (core : Text.IsCore (c :: rest) given.toList) (bare : c ≠ '(') :
    standardFilter given = some ("(" ++ String.ofList (c :: rest) ++ ")") := by
  rw [standardFilter, Text.isCore_iff.mp core]
  split
  · contradiction
  · rename_i same
    exact absurd (List.cons.inj same).1 bare
  · rfl

/-- A filter of the settings opens with a parenthesis, whether one was given or not, and has no blanks
around it. -/
theorem standardFilter_standard (standard : standardFilter given = some fragment) :
    fragment.toList.head? = some '(' ∧ Text.IsTrimmed fragment.toList := by
  have trimmed := Text.isTrimmed_trim given.toList
  unfold standardFilter at standard
  split at standard
  · contradiction
  · rename_i opened
    obtain rfl := Option.some.inj standard
    rw [opened] at trimmed
    simpa using trimmed
  · obtain rfl := Option.some.inj standard
    simp only [String.toList_append, String.toList_ofList]
    refine ⟨rfl, ?_, ?_⟩
    · rintro _ ⟨rfl⟩
      rfl
    · rw [List.reverse_append]
      rintro _ ⟨rfl⟩
      rfl

/-- It is kept as it is when it is given again. -/
theorem standardFilter_again (standard : standardFilter given = some fragment) :
    standardFilter fragment = some fragment := by
  obtain ⟨opens, trimmed⟩ := standardFilter_standard standard
  obtain ⟨rest, whole⟩ : ∃ rest, fragment.toList = '(' :: rest :=
    ⟨_, List.eq_cons_of_mem_head? opens⟩
  have core : Text.IsCore ('(' :: rest) fragment.toList := by
    rw [Text.isCore_iff, ← whole, trimmed.trim_self]
  rw [standardFilter_opened core, ← whole, String.ofList_toList]

variable {environment : Environment} {settings : Settings}

/-- What an environment with a time limit describes. -/
theorem settings_of_timeLimit (configured : ofEnvironment environment = .ok settings) :
    ∃ timeLimit, timeLimitOf ((environment "LDAP_TIMEOUT").getD "") = .ok timeLimit ∧
      settings =
        { host := (environment "LDAP_HOST").getD defaultHost
          user := (environment "LDAP_BIND_DN").getD ""
          password := (environment "LDAP_BIND_PASSWORD").getD ""
          base := (environment "LDAP_BASE_DN").getD ""
          filter := (environment "LDAP_FILTER").bind standardFilter
          attributes := attributesIn environment
          timeLimit
          ignoresCertificate := ignoresCertificateIn environment
          authorityFile := environment "LDAP_CA_FILE"
          verbose := isVerbose environment } := by
  unfold ofEnvironment at configured
  cases limit : timeLimitOf ((environment "LDAP_TIMEOUT").getD "") with
  | error e =>
    rw [limit] at configured
    contradiction
  | ok timeLimit =>
    rw [limit] at configured
    exact ⟨timeLimit, rfl, (Except.ok.inj configured).symm⟩

theorem filter_of_configured (configured : ofEnvironment environment = .ok settings) :
    settings.filter = (environment "LDAP_FILTER").bind standardFilter := by
  obtain ⟨_, _, rfl⟩ := settings_of_timeLimit configured
  rfl

/-- There is no filter among the settings exactly if none is given, or only blanks. -/
theorem filter_eq_none_iff (configured : ofEnvironment environment = .ok settings) :
    settings.filter = none ↔
      ∀ given, environment "LDAP_FILTER" = some given → ∀ c ∈ given.toList, Text.isBlank c = true := by
  rw [filter_of_configured configured, Option.bind_eq_none_iff]
  simp only [standardFilter_eq_none_iff]

theorem filter_opens (configured : ofEnvironment environment = .ok settings)
    (standard : settings.filter = some fragment) : fragment.toList.head? = some '(' := by
  rw [filter_of_configured configured] at standard
  obtain ⟨given, _, taken⟩ := Option.bind_eq_some_iff.mp standard
  exact (standardFilter_standard taken).1

theorem filter_ne_blank (configured : ofEnvironment environment = .ok settings)
    (standard : settings.filter = some fragment) : fragment ≠ "" := by
  rintro rfl
  simpa using filter_opens configured standard

end Settings

end DirectoryQuery
