import DirectoryQuery.Proofs.Directory.LifeCycle
import DirectoryQuery.Proofs.Settings

/-! Which connections check the certificate of their server. A secure server without a certificate check
of its own falls back to that of the library. Where the fallback skips the check, a certificate is
required exactly if the check is not switched off and a file of authorities is given: leaving the check
on is not enough. -/
namespace DirectoryQuery

namespace Server

/-- How the certificate is checked in the end, given what the library falls back to. -/
def check (fallback : Tls) (server : Server) : Verification :=
  (server.tls.getD fallback).verification

/-- A text that spells the secure scheme, in any mixture of small and capital letters. -/
def SpellsSecure (scheme : List Char) : Prop := Text.lower scheme = secureScheme

theorem isSecure_iff {host : String} : isSecure host = true ↔
    ∃ scheme rest, host.toList = scheme ++ rest ∧ SpellsSecure scheme := by
  rw [isSecure, List.isPrefixOf_iff_prefix, Text.lower, List.prefix_map_iff]
  constructor
  · rintro ⟨scheme, ⟨rest, same⟩, spelled⟩
    exact ⟨scheme, rest, same.symm, spelled.symm⟩
  · rintro ⟨scheme, rest, same, spelled⟩
    exact ⟨scheme, ⟨rest, same.symm⟩, spelled.symm⟩

/-- The file of authorities that is given. One without a name is not. -/
def givenFile (authorityFile : Option String) : Option String := authorityFile.filter (· != "")

theorem givenFile_eq_some_iff {authorityFile : Option String} {path : String} :
    givenFile authorityFile = some path ↔ authorityFile = some path ∧ path ≠ "" := by
  simp [givenFile, Option.filter_eq_some_iff]

theorem tlsFor_eq (ignores : Bool) (authorityFile : Option String) :
    tlsFor ignores authorityFile =
      if ignores then some ⟨.skipped, none⟩
      else (givenFile authorityFile).map fun path => ⟨.required, some path⟩ := by
  unfold tlsFor
  split
  · rfl
  · split
    · rfl
    · rfl
    · rename_i path filled
      have named : path ≠ "" := fun same => filled same
      simp [givenFile, Option.filter, named]

variable {host : String} {fallback : Tls}

theorem tls_ofHost (secure : isSecure host = true) (ignores : Bool) (authorityFile : Option String) :
    (ofHost host ignores authorityFile).tls = tlsFor ignores authorityFile := by
  simp [ofHost, secure]

/-- Where the fallback skips the check, only a file of authorities brings it about. -/
theorem check_ofHost_iff (unchecked : fallback.verification = .skipped)
    (secure : isSecure host = true) (ignores : Bool) (authorityFile : Option String) :
    (ofHost host ignores authorityFile).check fallback = .required ↔
      ignores = false ∧ ∃ path, givenFile authorityFile = some path := by
  rw [check, tls_ofHost secure, tlsFor_eq]
  cases ignores with
  | true => simp
  | false => cases givenFile authorityFile <;> simp [unchecked]

end Server

namespace ConditionSet

/-- A search opens no connection but the one it is to open. -/
theorem eq_of_connection_mem {query : ConditionSet} {directory : Directory}
    {connection other : Connection} {scope : SearchScope}
    (called : .connection other ∈ (query.search (.opened directory connection) scope).calls) :
    other = connection := by
  have opening : .connection other ∈ SearchReport.opening connection → other = connection := by
    simp [SearchReport.opening]
  cases compiled : query.filter with
  | error e => simp [search, compiled] at called
  | ok text =>
    rw [(search_of_compiled compiled _ scope).1] at called
    cases answer : directory connection with
    | error e =>
      rw [SearchReport.calls_refused answer] at called
      exact opening called
    | ok access =>
      rw [SearchReport.calls_bound answer] at called
      exact opening (by simpa using called)

end ConditionSet

namespace CommandLine

theorem connection_of_run {connection : Connection}
    (called : .connection connection ∈ (run directory environment arguments).calls) :
    ∃ settings, Settings.ofEnvironment environment = .ok settings ∧
      connection = CommandLine.connection settings := by
  obtain ⟨settings, request, query, searches⟩ := searches_of_calls (List.ne_nil_of_mem called)
  refine ⟨settings, searches.configured, ?_⟩
  rw [calls_run searches directory] at called
  exact ConditionSet.eq_of_connection_mem called

/-- The server of the settings is the one that the environment names. -/
theorem server_of_configured (configured : Settings.ofEnvironment environment = .ok settings) :
    (connection settings).server = Server.ofHost ((environment "LDAP_HOST").getD Settings.defaultHost)
      (Settings.ignoresCertificateIn environment) (environment "LDAP_CA_FILE") := by
  obtain ⟨_, _, rfl⟩ := Settings.settings_of_timeLimit configured
  rfl

end CommandLine

namespace Server

variable {host : String} {fallback : Tls} {scheme rest : List Char}

/-- A server of a secure host is secure, and has a check of its own exactly if certificates are ignored
or a file of authorities is given; then the file is handed over. It requires a certificate only in the
second case, and so does the server of every connection that a run opens to such a host. -/
theorem check_required_iff (unchecked : fallback.verification = .skipped)
    (spelled : host.toList = scheme ++ rest) (secure : SpellsSecure scheme) (ignores : Bool)
    (authorityFile : Option String) :
    (ofHost host ignores authorityFile).secure = true ∧
    ((ofHost host ignores authorityFile).check fallback = .required ↔
      ignores = false ∧ ∃ path, authorityFile = some path ∧ path ≠ "") ∧
    ((ofHost host ignores authorityFile).tls = none ↔
      ignores = false ∧ ¬∃ path, authorityFile = some path ∧ path ≠ "") ∧
    (∀ path, path ≠ "" → (ofHost host false (some path)).calls =
      [.tls ⟨.required, some path⟩, .server (ofHost host false (some path))]) ∧
    ∀ directory environment arguments connection, environment "LDAP_HOST" = some host →
      .connection connection ∈ (CommandLine.run directory environment arguments).calls →
        (connection.server.check fallback = .required ↔
          Settings.ignoresCertificateIn environment = false ∧
            ∃ path, environment "LDAP_CA_FILE" = some path ∧ path ≠ "") := by
  have secured : isSecure host = true := isSecure_iff.mpr ⟨scheme, rest, spelled, secure⟩
  have given (file : Option String) :
      (∃ path, givenFile file = some path) ↔ ∃ path, file = some path ∧ path ≠ "" := by
    simp only [givenFile_eq_some_iff]
  refine ⟨secured, ?_, ?_, ?_, ?_⟩
  · rw [← given]
    exact check_ofHost_iff unchecked secured ignores authorityFile
  · rw [← given, tls_ofHost secured, tlsFor_eq]
    cases ignores with
    | true => simp
    | false => cases givenFile authorityFile <;> simp
  · intro path named
    have tls : (ofHost host false (some path)).tls = some ⟨.required, some path⟩ := by
      rw [tls_ofHost secured, tlsFor_eq, givenFile_eq_some_iff.mpr ⟨rfl, named⟩]
      rfl
    rw [calls, tls]
    rfl
  · intro directory environment arguments connection named called
    obtain ⟨settings, configured, rfl⟩ := CommandLine.connection_of_run called
    rw [CommandLine.server_of_configured configured, named, ← given]
    exact check_ofHost_iff unchecked secured _ _

/-- The check is on, and yet the certificate is not checked. -/
theorem certificate_skipped_by_default :
    let server := ofHost "ldaps://dc:636" false none
    server = ⟨"dc:636", true, none⟩ ∧
      (∀ fallback : Tls, fallback.verification = .skipped → server.check fallback = .skipped) ∧
      (CommandLine.run (fun _ => .ok fun _ => .ok [])
        (fun name => if name = "LDAP_HOST" then some "ldaps://dc:636" else none) ["--search"]).calls =
          [.server server, .connection ⟨server, "", "", .int 5⟩,
            .search ⟨"", "(objectClass=*)", ["cn", "mail"]⟩, .unbind] := by
  refine ⟨rfl, fun fallback unchecked => unchecked, rfl⟩

/-- An environment that names a secure host and a file of authorities. -/
def authoritative : Environment := fun name =>
  if name = "LDAP_HOST" then some "LDAPs://dc:636"
  else if name = "LDAP_CA_FILE" then some "ca.pem"
  else none

theorem authoritative_requires_certificate :
    ("LDAPs://dc:636".toList = "LDAPs://".toList ++ "dc:636".toList ∧
      SpellsSecure "LDAPs://".toList) ∧
    ∃ connection : Connection,
      .connection connection ∈
        (CommandLine.run (fun _ => .error ⟨"down"⟩) authoritative ["--search"]).calls ∧
      connection.server.tls = some ⟨.required, some "ca.pem"⟩ ∧
      connection.server.check ⟨.skipped, none⟩ = .required := by
  have spelled : "LDAPs://dc:636".toList = "LDAPs://".toList ++ "dc:636".toList := rfl
  have secure : SpellsSecure "LDAPs://".toList := rfl
  refine ⟨⟨spelled, secure⟩, ⟨ofHost "LDAPs://dc:636" false (some "ca.pem"), "", "", .int 5⟩, ?_, rfl, ?_⟩
  · have calls : (CommandLine.run (fun _ => .error ⟨"down"⟩) authoritative ["--search"]).calls =
        SearchReport.opening ⟨ofHost "LDAPs://dc:636" false (some "ca.pem"), "", "", .int 5⟩ := rfl
    simp [calls, SearchReport.opening]
  · have unchecked : (⟨.skipped, none⟩ : Tls).verification = .skipped := rfl
    obtain ⟨_, required, _⟩ :=
      check_required_iff unchecked spelled secure false (some "ca.pem")
    exact required.mpr ⟨rfl, "ca.pem", rfl, by decide⟩

end Server

end DirectoryQuery
