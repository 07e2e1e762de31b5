import DirectoryQuery.Proofs.Directory.Certificates
import DirectoryQuery.Proofs.Text.Occurrences

/-! What a server is addressed by. The scheme in front of a host is recognised in any mixture of small and
capital letters, but it is taken away only where it is written in small letters. A scheme with a capital
in it decides whether the connection is secure, and then stays part of the address. -/
namespace DirectoryQuery.Server

def schemes : List (List Char) := [plainScheme, secureScheme]

/-- A text that spells one of the schemes, in any mixture of small and capital letters. -/
def SpellsScheme (text : List Char) : Prop := Text.lower text ∈ schemes

/-- A text that has one of the schemes somewhere, in any mixture of small and capital letters. -/
def HoldsScheme (text : List Char) : Prop := ∃ scheme ∈ schemes, scheme <:+: Text.lower text

variable {scheme word rest : List Char}

theorem mem_schemes_iff : scheme ∈ schemes ↔ scheme = plainScheme ∨ scheme = secureScheme := by
  simp [schemes]

theorem plainScheme_letters : plainScheme = ['l', 'd', 'a', 'p', ':', '/', '/'] := rfl

theorem secureScheme_letters : secureScheme = ['l', 'd', 'a', 'p', 's', ':', '/', '/'] := rfl

theorem lower_of_mem (known : scheme ∈ schemes) : Text.lower scheme = scheme := by
  rcases mem_schemes_iff.mp known with rfl | rfl
  all_goals rfl

/-- Only the first letter of a scheme is an l, so that no scheme begins within another. -/
theorem exists_of_mem (known : scheme ∈ schemes) : ∃ behind, scheme = 'l' :: behind ∧ 'l' ∉ behind := by
  rcases mem_schemes_iff.mp known with rfl | rfl
  · exact ⟨_, plainScheme_letters, by decide⟩
  · exact ⟨_, secureScheme_letters, by decide⟩

theorem eq_of_front (known : scheme ∈ schemes) (other : word ∈ schemes)
    (front : word <+: scheme ++ rest) : word = scheme := by
  rcases mem_schemes_iff.mp known with rfl | rfl <;> rcases mem_schemes_iff.mp other with rfl | rfl
  · rfl
  · simp [plainScheme_letters, secureScheme_letters] at front
  · simp [plainScheme_letters, secureScheme_letters] at front
  · rfl

theorem not_infix_of_bare (bare : ¬HoldsScheme rest) (known : word ∈ schemes) : ¬word <:+: rest := by
  intro occurs
  have lowered := occurs.map Char.toLower
  rw [show word.map Char.toLower = word from lower_of_mem known] at lowered
  exact bare ⟨word, known, lowered⟩

/-- In front of any text, a spelled scheme opens with one in small letters only by being it. -/
theorem eq_of_spelled (spelled : SpellsScheme scheme) (known : word ∈ schemes)
    (front : word <+: scheme ++ rest) : word = scheme := by
  have lowered := front.map Char.toLower
  rw [List.map_append, show word.map Char.toLower = word from lower_of_mem known] at lowered
  have same : word = Text.lower scheme := eq_of_front spelled known lowered
  have length : word.length = scheme.length := by
    rw [same, Text.lower, List.length_map]
  have within : word <+: scheme :=
    List.prefix_of_prefix_length_le front (List.prefix_append scheme rest) length.le
  exact within.eq_of_length length

/-- With no scheme in the text behind it, there is none in small letters anywhere else either. -/
theorem eq_of_occurs (spelled : SpellsScheme scheme) (bare : ¬HoldsScheme rest) (known : word ∈ schemes)
    (occurs : word <:+: scheme ++ rest) : word = scheme := by
  obtain ⟨behind, whole, once⟩ := exists_of_mem spelled
  obtain ⟨letters, rfl, _⟩ := exists_of_mem known
  cases scheme with
  | nil => simp [Text.lower] at whole
  | cons c cs =>
    have unseen : 'l' ∉ cs := by
      intro seen
      have lowered : cs.map Char.toLower = behind := (List.cons.inj whole).2
      exact once (lowered ▸ List.mem_map_of_mem seen)
    rw [List.cons_append, List.infix_cons_iff, Text.infix_append_iff_of_notMem unseen] at occurs
    rcases occurs with front | within
    · exact eq_of_spelled spelled known front
    · exact absurd within (not_infix_of_bare bare known)

theorem plain_mem : plainScheme ∈ schemes := mem_schemes_iff.mpr (.inl rfl)

theorem secure_mem : secureScheme ∈ schemes := mem_schemes_iff.mpr (.inr rfl)

section

variable {scheme host : String}

theorem address_of_bare (bare : ¬HoldsScheme host.toList) : address host = host := by
  rw [address, Text.erase_of_absent (not_infix_of_bare bare plain_mem),
    Text.erase_of_absent (not_infix_of_bare bare secure_mem), String.ofList_toList]

/-- In small letters a scheme is taken away. -/
theorem address_of_small (small : scheme.toList ∈ schemes) (bare : ¬HoldsScheme host.toList) :
    address (scheme ++ host) = host := by
  have unplain := Text.erase_of_absent (not_infix_of_bare bare plain_mem)
  have unsecure := Text.erase_of_absent (not_infix_of_bare bare secure_mem)
  rw [address, String.toList_append]
  rcases mem_schemes_iff.mp small with plain | secure
  · rw [plain, Text.erase_append (by decide), unplain, unsecure, String.ofList_toList]
  · have spelled : SpellsScheme secureScheme := (lower_of_mem secure_mem).symm ▸ secure_mem
    have absent : ¬plainScheme <:+: secureScheme ++ host.toList := fun occurs =>
      absurd (eq_of_occurs spelled bare plain_mem occurs) (by decide)
    rw [secure, Text.erase_of_absent absent, Text.erase_append (by decide), unsecure,
      String.ofList_toList]

/-- With a capital in it a scheme is overlooked, and stays. -/
theorem address_of_capital (spelled : SpellsScheme scheme.toList) (bare : ¬HoldsScheme host.toList)
    (capital : scheme.toList ∉ schemes) : address (scheme ++ host) = scheme ++ host := by
  have absent {word : List Char} (known : word ∈ schemes) : ¬word <:+: (scheme ++ host).toList := by
    rw [String.toList_append]
    intro occurs
    exact capital (eq_of_occurs spelled bare known occurs ▸ known)
  rw [address, Text.erase_of_absent (absent plain_mem), Text.erase_of_absent (absent secure_mem),
    String.ofList_toList]

theorem address_eq_host_iff (spelled : SpellsScheme scheme.toList) (bare : ¬HoldsScheme host.toList) :
    address (scheme ++ host) = host ↔ scheme.toList ∈ schemes := by
  constructor
  · intro dropped
    by_contra capital
    rw [address_of_capital spelled bare capital, ← String.toList_inj, String.toList_append,
      List.append_left_eq_self] at dropped
    simp [dropped, SpellsScheme, Text.lower, schemes, plainScheme_letters, secureScheme_letters]
      at spelled
  · intro small
    exact address_of_small small bare

theorem isSecure_spelled_iff (spelled : SpellsScheme scheme.toList) :
    isSecure (scheme ++ host) = true ↔ SpellsSecure scheme.toList := by
  rw [isSecure, List.isPrefixOf_iff_prefix, String.toList_append, Text.lower, List.map_append]
  constructor
  · intro front
    exact (eq_of_front spelled secure_mem front).symm
  · intro secure
    exact ⟨_, by rw [← secure]; rfl⟩

theorem isSecure_of_bare (bare : ¬HoldsScheme host.toList) : isSecure host = false := by
  rw [isSecure, Bool.eq_false_iff, ne_eq, List.isPrefixOf_iff_prefix]
  intro front
  exact bare ⟨secureScheme, secure_mem, front.isInfix⟩

theorem isSecure_of_tls_called {tls : Tls} {ignores : Bool} {authorityFile : Option String}
    (called : .tls tls ∈ (ofHost host ignores authorityFile).calls) : isSecure host = true := by
  by_contra plain
  simp [ofHost, calls, plain] at called

/-- Behind a scheme in any spelling, a host that holds none itself is secure exactly if that is the secure
scheme, and is addressed without it exactly if it is in small letters. Otherwise the scheme is part of the
address. Without a scheme, the host is its own address, and is not secure. -/
theorem scheme_dropped_iff_small (bare : ¬HoldsScheme host.toList) (ignores : Bool)
    (authorityFile : Option String) :
    (∀ scheme : String, SpellsScheme scheme.toList →
      let server := ofHost (scheme ++ host) ignores authorityFile
      (server.secure = true ↔ SpellsSecure scheme.toList) ∧
      (server.host = host ↔ scheme = "ldap://" ∨ scheme = "ldaps://") ∧
      (server.host = host ∨ server.host = scheme ++ host) ∧
      ∀ tls, .tls tls ∈ server.calls → SpellsSecure scheme.toList) ∧
    (ofHost host ignores authorityFile).calls = [.server ⟨host, false, none⟩] := by
  constructor
  · intro scheme spelled
    have small : scheme.toList ∈ schemes ↔ scheme = "ldap://" ∨ scheme = "ldaps://" :=
      mem_schemes_iff.trans (or_congr String.toList_inj String.toList_inj)
    refine ⟨isSecure_spelled_iff spelled, ?_, ?_, ?_⟩
    · rw [← small]
      exact address_eq_host_iff spelled bare
    · by_cases known : scheme.toList ∈ schemes
      · exact .inl (address_of_small known bare)
      · exact .inr (address_of_capital spelled bare known)
    · intro tls called
      exact (isSecure_spelled_iff spelled).mp (isSecure_of_tls_called called)
  · rw [ofHost, isSecure_of_bare bare, address_of_bare bare]
    rfl

theorem bare_address : ¬HoldsScheme "dc:636".toList := by
  rintro ⟨scheme, known, occurs⟩
  rcases mem_schemes_iff.mp known with rfl | rfl
  all_goals simp [plainScheme_letters, secureScheme_letters, Text.lower, List.infix_cons_iff] at occurs

/-- The scheme is recognised, and yet it is not taken away. -/
theorem capital_scheme_kept :
    (SpellsScheme "LDAPS://".toList ∧ ¬HoldsScheme "dc:636".toList) ∧
      ofHost "LDAPS://dc:636" true none = ⟨"LDAPS://dc:636", true, some ⟨.skipped, none⟩⟩ :=
  ⟨⟨.tail _ (.head _), bare_address⟩, rfl⟩

theorem small_scheme_dropped :
    (¬HoldsScheme "dc:636".toList ∧ SpellsScheme "LdapS://".toList ∧ SpellsScheme "ldap://".toList) ∧
      (ofHost "LdapS://dc:636" false (some "ca.pem")).host ≠ "dc:636" ∧
      (ofHost "LdapS://dc:636" false (some "ca.pem")).secure = true ∧
      (ofHost "ldap://dc:636" false (some "ca.pem")).host = "dc:636" ∧
      (ofHost "dc:636" false (some "ca.pem")).calls = [.server ⟨"dc:636", false, none⟩] := by
  have mixed : SpellsScheme "LdapS://".toList := .tail _ (.head _)
  have plain : SpellsScheme "ldap://".toList := .head _
  obtain ⟨spelled, unschemed⟩ := scheme_dropped_iff_small bare_address false (some "ca.pem")
  obtain ⟨secure, dropped, _⟩ := spelled "LdapS://" mixed
  refine ⟨⟨bare_address, mixed, plain⟩, ?_, secure.mpr rfl, ?_, unschemed⟩
  · exact mt dropped.mp (by decide)
  · exact (spelled "ldap://" plain).2.1.mpr (.inl rfl)

end

end DirectoryQuery.Server
