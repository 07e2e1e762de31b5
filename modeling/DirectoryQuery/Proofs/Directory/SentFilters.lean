import DirectoryQuery.Proofs.CommandLine.Course
import DirectoryQuery.Proofs.ConditionSet.Reading

/-! The filters that reach a directory. A search sends one text, and only on an open connection: the
filter of its query, or the filter that matches everything where that one is blank. What is sent for a
clean set is one filter, unless the set is nested and has several parts. These are sent side by side,
since a nested set leaves its envelope to a larger query. -/
namespace DirectoryQuery

open SearchFilter

def Call.filter? : Call → Option String
  | .search request => some request.filter
  | _ => none

/-- The filters of the searches among some calls, in order. -/
def sentFilters (calls : List Call) : List String := calls.filterMap Call.filter?

@[simp] theorem sentFilters_append (calls others : List Call) :
    sentFilters (calls ++ others) = sentFilters calls ++ sentFilters others := by
  simp [sentFilters]

@[simp] theorem sentFilters_server (server : Server) : sentFilters server.calls = [] := by
  unfold Server.calls
  cases server.tls <;> rfl

/-- Whether the search gets an open connection. -/
def Source.isOpen : Source → Bool
  | given _ => true
  | opened directory connection => (directory connection).isOk

namespace SearchReport

theorem calls_onAccess (access : Access) (request : SearchRequest) :
    (onAccess access request).calls = [.search request] := by
  unfold onAccess
  split <;> rfl

theorem sentFilters_onSource (source : Source) (request : SearchRequest) :
    sentFilters (onSource source request).calls = if source.isOpen then [request.filter] else [] := by
  cases source with
  | given access => rw [onSource, calls_onAccess]; rfl
  | opened directory connection =>
    cases answer : directory connection with
    | error e =>
      simp only [onSource, answer, sentFilters_append, sentFilters_server, Source.isOpen]
      rfl
    | ok access =>
      simp only [onSource, answer, enclosed, calls_onAccess, sentFilters_append, sentFilters_server,
        Source.isOpen]
      rfl

/-- The trees of what is sent for a text with these trees. -/
def sentTrees : List SearchFilter → List SearchFilter
  | [] => [.item (.presence "objectClass".toList)]
  | f :: fs => f :: fs

theorem length_sentTrees (fs : List SearchFilter) : (sentTrees fs).length = 1 ↔ fs.length ≤ 1 := by
  cases fs <;> simp [sentTrees]

theorem matchAll_spelled : Spelled matchAll.toList (.item (.presence "objectClass".toList)) := by
  have isField : Item.IsField "objectClass".toList := by decide
  have isValue : Item.IsValue "".toList := .empty
  exact Operator.present.fragment_spelled isField isValue (by decide)

theorem sent_run (run : Run text.toList fs) : Run (sent text).toList (sentTrees fs) := by
  have blank : text = "" ↔ fs = [] := by simpa using run.eq_nil_iff
  cases fs with
  | nil =>
    obtain rfl := blank.mpr rfl
    exact matchAll_spelled.run
  | cons f fs =>
    have filled : text ≠ "" := mt blank.mp (by simp)
    simpa [sent, filled, sentTrees] using run

end SearchReport

namespace CommandLine

/-- A run that comes to search makes the calls of the search for its query. -/
theorem calls_run (searches : Searches environment arguments settings request query)
    (directory : Directory) :
    (run directory environment arguments).calls =
      (query.search (.opened directory (connection settings))
        ⟨settings.base, settings.attributes⟩).calls := by
  rw [searches.run_eq directory, CommandLine.search]
  split <;> rfl

end CommandLine

namespace ConditionSet

variable {query : ConditionSet} {raws : List SearchFilter}

theorem sentFilters_search (compiled : query.filter = .ok text) (source : Source)
    (scope : SearchScope) :
    sentFilters (query.search source scope).calls =
      if source.isOpen then [SearchReport.sent text] else [] := by
  simp only [search, compiled]
  exact SearchReport.sentFilters_onSource source _

theorem length_outermost_le (clean : query.Clean) (fragments : Fragments query.verbatim raws) :
    (query.outermost raws).length ≤ 1 ↔ query.nested = false ∨ (query.members raws).length ≤ 1 := by
  cases nesting : query.nested with
  | true => simp [outermost, nesting]
  | false =>
    rcases outermost_cases clean fragments nesting with ⟨_, none⟩ | ⟨_, f, one, _⟩
    · simp [none]
    · simp [one]

/-- What a search sends for a clean set, and what any run sends that searches for it, is one filter
exactly if the set is not nested or has one part at most. Otherwise it is the parts side by side. -/
theorem sends_one_filter_iff (clean : query.Clean) (fragments : Fragments query.verbatim raws) :
    ∃ text, query.filter = .ok text ∧
      ((∃ f, ∀ g, Spelled (SearchReport.sent text).toList g ↔ g = f) ↔
        query.nested = false ∨ (query.members raws).length ≤ 1) ∧
      (query.nested = true → 1 < (query.members raws).length →
        ∀ fs, Run (SearchReport.sent text).toList fs ↔ fs = query.members raws) ∧
      (∀ source scope, sentFilters (query.search source scope).calls =
        if source.isOpen then [SearchReport.sent text] else []) ∧
      ∀ directory environment arguments settings request,
        CommandLine.Searches environment arguments settings request query →
          sentFilters (CommandLine.run directory environment arguments).calls =
            if (directory (CommandLine.connection settings)).isOk then [SearchReport.sent text]
            else [] := by
  obtain ⟨text, compiled, run⟩ := filter_run clean fragments
  have sent := SearchReport.sent_run run
  refine ⟨text, compiled, ?_, ?_, sentFilters_search compiled, ?_⟩
  · rw [sent.exists_spelled_iff, SearchReport.length_sentTrees, length_outermost_le clean fragments]
  · intro nested several fs
    have bare : SearchReport.sentTrees (query.outermost raws) = query.members raws := by
      rw [outermost, if_pos (Or.inl nested)]
      cases h : query.members raws with
      | nil => simp [h] at several
      | cons f fs => rfl
    rw [bare] at sent
    exact ⟨fun other => other.unique sent, fun same => same ▸ sent⟩
  · intro directory environment arguments settings request searches
    rw [CommandLine.calls_run searches directory]
    exact sentFilters_search compiled _ _

/-- Nested, and with two parts. -/
def sideBySide : ConditionSet where
  required := [⟨.text "a", .text "=", .text "1"⟩, ⟨.text "b", .text "=", .text "2"⟩]
  alternatives := []
  verbatim := []
  nested := true

theorem sideBySide_clean : sideBySide.Clean := by
  constructor
  · intro c member
    simp only [sideBySide, List.mem_cons, List.not_mem_nil, or_false] at member
    rcases member with rfl | rfl
    all_goals exact Condition.clean_of_plain (by decide) (by decide) (by decide) (by decide)
  · simp [sideBySide]

theorem sideBySide_sends_two_filters :
    (sideBySide.Clean ∧ Fragments sideBySide.verbatim []) ∧
      sentFilters (sideBySide.search (.given fun _ => .ok []) ⟨"dc=x", []⟩).calls = ["(a=1)(b=2)"] ∧
      sentFilters (CommandLine.run (fun _ => .ok fun _ => .ok []) (fun _ => none)
        ["--search", "--nested", "--where", "a", "=", "1", "--where", "b = 2"]).calls =
          ["(a=1)(b=2)"] ∧
      ¬∃ f, Spelled "(a=1)(b=2)".toList f := by
  refine ⟨⟨sideBySide_clean, .nil⟩, rfl, by decide, ?_⟩
  rintro ⟨f, spelled⟩
  obtain ⟨text, compiled, run⟩ := filter_run sideBySide_clean .nil
  obtain rfl := Except.ok.inj ((show sideBySide.filter = .ok _ from rfl).symm.trans compiled)
  have two : (sideBySide.outermost []).length = 2 := by decide
  rw [run.unique spelled.run] at two
  exact absurd two (by simp)

theorem staff_sends_one_filter :
    (staff.Clean ∧ Fragments staff.verbatim staffRaws) ∧
      (∃ f, ∀ g, Spelled "(&(uid=j)(objectClass=person)(|(cn=adm*)(!(cn=root))))".toList g ↔ g = f) ∧
      sentFilters (CommandLine.run (fun _ => .ok fun _ => .ok [])
        (fun name => if name = "LDAP_FILTER" then some "(uid=j)" else none)
        ["--search", "--where", "objectClass", "=", "person", "--or-where", "cn starts_with adm",
          "--or-where", "cn", "!=", "root", "--raw", ""]).calls =
            ["(&(uid=j)(objectClass=person)(|(cn=adm*)(!(cn=root))))"] := by
  refine ⟨⟨staff_clean, staff_fragments⟩, ?_⟩
  obtain ⟨text, compiled, one, _, _, runs⟩ := sends_one_filter_iff staff_clean staff_fragments
  obtain rfl := Except.ok.inj ((show staff.filter = .ok _ from rfl).symm.trans compiled)
  exact ⟨one.mpr (Or.inl rfl), runs _ _ _ _ _ ⟨rfl, rfl, rfl, rfl, rfl⟩⟩

end ConditionSet

end DirectoryQuery
