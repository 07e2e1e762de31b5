import DirectoryQuery.Proofs.CommandLine.Endings
import DirectoryQuery.Proofs.Settings

/-! What is printed is what is searched for. The filter that a command line prints is the one that is
sent when the same command line searches. A configured filter is sent as if it stood in front of the
command line as a verbatim fragment. Blank filters are never sent: everything is looked for instead. -/
namespace DirectoryQuery

namespace ConditionSet

variable {query : ConditionSet} {fragment : String}

/-- A fragment that is not blank keeps the filter from being blank. -/
theorem filter_ne_blank_of_precede (filled : fragment ≠ "")
    (ok : (query.precede (.text fragment)).filter = .ok text) : text ≠ "" := by
  cases written : (query.precede (.text fragment)).body with
  | error e => simp [filter, written, Except.map] at ok
  | ok inside =>
    obtain ⟨required, alternatives, _, _, parts⟩ := body_eq_ok_iff.mp written
    have some : inside ≠ "" := by
      rw [parts]
      simp [precede, filled]
    rw [filter_of_body written] at ok
    obtain rfl := Except.ok.inj ok
    cases (query.precede (.text fragment)).envelope? with
    | none => exact some
    | some envelope => exact mt (envelope.around_eq_empty_iff inside).mp some

end ConditionSet

namespace CommandLine

variable {directory : Directory} {environment : Environment} {arguments : List String}
  {request : Request} {query : ConditionSet} {settings : Settings}

theorem line_inj {text other : String} : line text = line other ↔ text = other := by
  simp [line]

/-- A run that prints a line, and was asked neither for a search nor for the operators, has compiled its
command line. -/
theorem compiles_of_printed (unsearched : ¬Gives arguments .search)
    (unlisted : ¬Gives arguments .operators)
    (done : (run directory environment arguments).ending = .returned 0)
    (printed : (run directory environment arguments).out = line text) :
    ∃ request query, Compiles arguments request query text := by
  have course := run_course directory environment arguments
  generalize run directory environment arguments = report at done printed course
  cases course with
  | helped | misused | unconfigured | malformed | rejected =>
    simp [Refusal.report, logged] at done
  | listed parsed operators =>
    exact absurd ((operators_iff_gives parsed).mp operators) unlisted
  | compiled compiles =>
    obtain rfl := line_inj.mp printed
    exact ⟨_, _, compiles⟩
  | searched searches =>
    exact absurd ((search_iff_gives searches.parsed).mp searches.search) unsearched

namespace Compiles

/-- With the switch for a search in front, the same command line comes to search. -/
theorem searches (compiles : Compiles arguments request query text)
    (configured : Settings.ofEnvironment environment = .ok settings)
    (built : request.query settings.filter = .ok query') :
    Searches environment ("--search" :: arguments) settings { request with search := true } query' :=
  ⟨ofArguments_search compiles.parsed, rfl, compiles.operators, configured, built⟩

/-- With a verbatim fragment in front, it compiles the query with this fragment. -/
theorem verbatim (compiles : Compiles arguments request query text) {fragment other : String}
    (whole : fragment ≠ "--") (ok : (query.precede (.text fragment)).filter = .ok other) :
    Compiles (("--raw" ++ "=" ++ fragment) :: arguments)
      { request with verbatim := .text fragment :: request.verbatim }
      (query.precede (.text fragment)) other := by
  refine ⟨ofArguments_verbatim compiles.parsed whole, compiles.operators, compiles.search, ?_, ok⟩
  calc { request with verbatim := .text fragment :: request.verbatim }.query none
    _ = request.query (some fragment) := rfl
    _ = (request.query none).map (.precede (.text fragment)) := query_configured request fragment
    _ = .ok (query.precede (.text fragment)) := by rw [compiles.built]; rfl

end Compiles

theorem sentFilters_run (searches : Searches environment arguments settings request query)
    (ok : query.filter = .ok text) (accessible : (directory (connection settings)).isOk = true) :
    sentFilters (run directory environment arguments).calls = [SearchReport.sent text] := by
  rw [calls_run searches directory, ConditionSet.sentFilters_search ok, Source.isOpen, if_pos accessible]

namespace Compiles

variable (compiles : Compiles arguments request query text)
  (configured : Settings.ofEnvironment environment = .ok settings)
  (accessible : (directory (connection settings)).isOk = true)
include compiles configured accessible

/-- Without a configured filter, a search sends what is printed. -/
theorem sent_unconfigured (none : settings.filter = none) :
    sentFilters (run directory environment ("--search" :: arguments)).calls =
      [SearchReport.sent text] := by
  have searches := compiles.searches configured (by rw [none]; exact compiles.built)
  exact sentFilters_run searches compiles.ok accessible

/-- With one, it sends what is printed with this filter as a verbatim fragment in front. -/
theorem sent_configured {fragment : String} (standard : settings.filter = some fragment) :
    ∃ sent, sentFilters (run directory environment ("--search" :: arguments)).calls = [sent] ∧
      ∃ request query, Compiles (("--raw" ++ "=" ++ fragment) :: arguments) request query sent := by
  have built : request.query (some fragment) = .ok (query.precede (.text fragment)) := by
    rw [query_configured, compiles.built]
    rfl
  have searches := compiles.searches configured (by rw [standard]; exact built)
  obtain ⟨sent, ok⟩ := searches.compiled
  have filled := Settings.filter_ne_blank configured standard
  have same : SearchReport.sent sent = sent :=
    if_neg (ConditionSet.filter_ne_blank_of_precede filled ok)
  have whole : fragment ≠ "--" := by
    rintro rfl
    simpa using Settings.filter_opens configured standard
  refine ⟨sent, ?_, _, _, compiles.verbatim whole ok⟩
  rw [sentFilters_run searches ok accessible, same]

end Compiles

/-- What a command line prints is what it searches for, once. A configured filter counts as a verbatim
fragment in front. -/
theorem searched_as_printed (unsearched : ¬Gives arguments .search)
    (unlisted : ¬Gives arguments .operators)
    (done : (run directory environment arguments).ending = .returned 0)
    (printed : (run directory environment arguments).out = line text) :
    ∀ directory environment settings, Settings.ofEnvironment environment = .ok settings →
      (directory (connection settings)).isOk = true →
      ∃ sent, sentFilters (run directory environment ("--search" :: arguments)).calls = [sent] ∧
        (settings.filter = none ↔
          ∀ given, environment "LDAP_FILTER" = some given →
            ∀ c ∈ given.toList, Text.isBlank c = true) ∧
        (settings.filter = none → sent = if text = "" then "(objectClass=*)" else text) ∧
        ∀ fragment, settings.filter = some fragment → ∀ directory environment,
          let report := run directory environment (("--raw=" ++ fragment) :: arguments)
          report.ending = .returned 0 ∧ report.out = line sent ∧ report.calls = [] := by
  obtain ⟨request, query, compiles⟩ := compiles_of_printed unsearched unlisted done printed
  intro directory environment settings configured accessible
  have unset := Settings.filter_eq_none_iff configured
  cases standard : settings.filter with
  | none =>
    rw [standard] at unset
    refine ⟨_, compiles.sent_unconfigured configured accessible standard, unset, fun _ => rfl, ?_⟩
    simp
  | some fragment =>
    rw [standard] at unset
    obtain ⟨sent, calls, request', query', preceded⟩ :=
      compiles.sent_configured configured accessible standard
    refine ⟨sent, calls, unset, by simp, ?_⟩
    rintro _ ⟨rfl⟩ directory environment
    have run_eq := preceded.run_eq directory environment
    rw [show "--raw=" ++ fragment = "--raw" ++ "=" ++ fragment from rfl, run_eq]
    exact ⟨rfl, rfl, rfl⟩

/-- A disjunction as long as it stands alone. -/
def alternatives : List String := ["--where", "a", "=", "1", "--or-where", "b = 2"]

theorem alternatives_searched :
    (¬Gives alternatives .search ∧ ¬Gives alternatives .operators) ∧
      (run (fun _ => .error ⟨"down"⟩) (fun _ => none) alternatives).out = line "(|(a=1)(b=2))" ∧
      sentFilters (run (fun _ => .ok fun _ => .ok []) (fun _ => none)
        ("--search" :: alternatives)).calls = ["(|(a=1)(b=2))"] ∧
      sentFilters (run (fun _ => .ok fun _ => .error ⟨"busy"⟩)
        (fun name => if name = "LDAP_FILTER" then some " uid=j" else none)
        ("--search" :: alternatives)).calls = ["(&(uid=j)(a=1)(|(b=2)))"] := by
  have unsearched : ¬Gives alternatives .search := by decide
  have unlisted : ¬Gives alternatives .operators := by decide
  have printed : (run (fun _ => .error ⟨"down"⟩) (fun _ => none) alternatives).out =
      line "(|(a=1)(b=2))" := rfl
  have searched := searched_as_printed unsearched unlisted rfl printed
  refine ⟨⟨unsearched, unlisted⟩, printed, ?_, ?_⟩
  · obtain ⟨sent, calls, _, alone, _⟩ :=
      searched (fun _ => .ok fun _ => .ok []) (fun _ => none) _ rfl rfl
    rw [calls, alone rfl]
    rfl
  · obtain ⟨sent, calls, _, _, preceded⟩ :=
      searched (fun _ => .ok fun _ => .error ⟨"busy"⟩)
        (fun name => if name = "LDAP_FILTER" then some " uid=j" else none) _ rfl rfl
    obtain ⟨_, shown, _⟩ := preceded "(uid=j)" rfl (fun _ => .error ⟨"down"⟩) (fun _ => none)
    have same : line "(&(uid=j)(a=1)(|(b=2)))" = line sent := shown
    rw [calls, line_inj.mp same]

end CommandLine

end DirectoryQuery
