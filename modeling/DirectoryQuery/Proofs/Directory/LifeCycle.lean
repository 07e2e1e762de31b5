import DirectoryQuery.Proofs.ConditionSet.Validity
import DirectoryQuery.Proofs.Directory.SentFilters

/-! The life of a connection during a search. Nothing is asked of a directory before the query is known
to be valid. A connection that the caller hands in is searched once and stays open. One that the search
opens is searched once and closed again, whatever the directory answers; only where it cannot be opened
is there nothing to search or to close. -/
namespace DirectoryQuery

namespace SearchReport

/-- What the caller gets for the answer to a search. -/
def answered (answer : Except Failure (List FoundEntry)) : Except SearchError (List Entry) :=
  match answer with
  | .ok found => .ok (found.map Entry.ofFound)
  | .error e => .error (.failure e)

/-- The calls that open a connection: its certificate check if it has one, the server, the connection. -/
def opening (connection : Connection) : List Call :=
  (connection.server.tls.map Call.tls).toList ++ [.server connection.server, .connection connection]

theorem outcome_onAccess (access : Access) (request : SearchRequest) :
    (onAccess access request).outcome = answered (access request) := by
  unfold onAccess answered
  cases access request <;> rfl

variable {directory : Directory} {connection : Connection} {access : Access} {e : Failure}

theorem calls_refused (refused : directory connection = .error e) (request : SearchRequest) :
    (onSource (.opened directory connection) request).calls = opening connection := by
  simp [onSource, refused, Server.calls, opening]

theorem outcome_refused (refused : directory connection = .error e) (request : SearchRequest) :
    (onSource (.opened directory connection) request).outcome = .error (.failure e) := by
  simp only [onSource, refused]

theorem calls_bound (bound : directory connection = .ok access) (request : SearchRequest) :
    (onSource (.opened directory connection) request).calls =
      opening connection ++ [.search request, .unbind] := by
  simp [onSource, bound, enclosed, calls_onAccess, Server.calls, opening]

theorem outcome_bound (bound : directory connection = .ok access) (request : SearchRequest) :
    (onSource (.opened directory connection) request).outcome = answered (access request) := by
  simp only [onSource, bound, enclosed, outcome_onAccess]

end SearchReport

namespace ConditionSet

open SearchReport (answered opening)

variable {query : ConditionSet}

theorem search_of_compiled (compiled : query.filter = .ok text) (source : Source)
    (scope : SearchScope) :
    (query.search source scope).calls =
        (SearchReport.onSource source (SearchReport.request scope text)).calls ∧
      (query.search source scope).outcome =
        (SearchReport.onSource source (SearchReport.request scope text)).outcome := by
  simp only [search, compiled, and_self]

theorem search_of_firstInvalid (first : query.firstInvalid? = some token) (source : Source)
    (scope : SearchScope) :
    query.search source scope = ⟨.error (.invalidOperator ⟨token⟩), [], []⟩ := by
  simp only [search, filter_of_firstInvalid first]

/-- Every search makes these calls and no others, and this is what its caller gets. -/
theorem search_life_cycle (query : ConditionSet) (scope : SearchScope) :
    ((∃ c ∈ query.required ++ query.alternatives, c.isValid = false) →
      ∃ token, query.firstInvalid? = some token ∧ ∀ source,
        (query.search source scope).calls = [] ∧
        (query.search source scope).outcome = .error (.invalidOperator ⟨token⟩)) ∧
    ((∀ c ∈ query.required ++ query.alternatives, c.isValid = true) →
      ∃ text request, query.filter = .ok text ∧
        request = ⟨scope.base, if text = "" then "(objectClass=*)" else text, scope.attributes⟩ ∧
        (∀ access,
          (query.search (.given access) scope).calls = [.search request] ∧
          (query.search (.given access) scope).outcome = answered (access request)) ∧
        (∀ directory connection e, directory connection = .error e →
          (query.search (.opened directory connection) scope).calls = opening connection ∧
          (query.search (.opened directory connection) scope).outcome = .error (.failure e)) ∧
        ∀ directory connection access, directory connection = .ok access →
          (query.search (.opened directory connection) scope).calls =
            opening connection ++ [.search request, .unbind] ∧
          (query.search (.opened directory connection) scope).outcome =
            answered (access request)) := by
  constructor
  · rintro ⟨c, listed, invalid⟩
    cases first : query.firstInvalid? with
    | none =>
      have valid := Condition.firstInvalid?_eq_none_iff.mp first c listed
      simp [invalid] at valid
    | some token =>
      refine ⟨token, rfl, fun source => ?_⟩
      rw [search_of_firstInvalid first]
      exact ⟨rfl, rfl⟩
  · intro valid
    obtain ⟨text, compiled⟩ := filter_of_valid (Condition.firstInvalid?_eq_none_iff.mpr valid)
    refine ⟨text, SearchReport.request scope text, compiled, rfl, ?_, ?_, ?_⟩
    · intro access
      obtain ⟨calls, outcome⟩ := search_of_compiled compiled (.given access) scope
      rw [calls, outcome]
      exact ⟨SearchReport.calls_onAccess _ _, SearchReport.outcome_onAccess _ _⟩
    · intro directory connection e refused
      obtain ⟨calls, outcome⟩ := search_of_compiled compiled (.opened directory connection) scope
      rw [calls, outcome]
      exact ⟨SearchReport.calls_refused refused _, SearchReport.outcome_refused refused _⟩
    · intro directory connection access bound
      obtain ⟨calls, outcome⟩ := search_of_compiled compiled (.opened directory connection) scope
      rw [calls, outcome]
      exact ⟨SearchReport.calls_bound bound _, SearchReport.outcome_bound bound _⟩

/-- A search that fails closes its connection all the same. -/
example : (staff.search
    (.opened (fun _ => .ok fun _ => .error ⟨"busy"⟩)
      ⟨⟨"dc", true, some ⟨.required, some "ca.pem"⟩⟩, "cn=admin", "secret", .int 5⟩)
    ⟨"dc=x", ["cn"]⟩).calls =
      [.tls ⟨.required, some "ca.pem"⟩, .server ⟨"dc", true, some ⟨.required, some "ca.pem"⟩⟩,
        .connection ⟨⟨"dc", true, some ⟨.required, some "ca.pem"⟩⟩, "cn=admin", "secret", .int 5⟩,
        .search ⟨"dc=x", "(&(uid=j)(objectClass=person)(|(cn=adm*)(!(cn=root))))", ["cn"]⟩,
        .unbind] := rfl

end ConditionSet

end DirectoryQuery
