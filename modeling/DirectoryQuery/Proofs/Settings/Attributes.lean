import DirectoryQuery.Proofs.Settings
import DirectoryQuery.Proofs.Text.Occurrences

/-! The attributes that an environment asks for. Their names stand between commas, and blanks around them
and pieces without a name do not count. So every list of names is read back from every text that it can be
written as, and every text is one that the names read from it can be written as. -/
namespace DirectoryQuery

namespace Settings

open Text (IsBlanks IsCore IsTrimmed isBlank trim)

/-- A name that a list can hold. -/
structure IsName (name : String) : Prop where
  filled : name.toList ≠ []
  whole : ',' ∉ name.toList
  trimmed : IsTrimmed name.toList

/-- These pieces hold these names in their order, each with blanks around it. All others are blank. -/
inductive Holds : List (List Char) → List String → Prop
  | nil : Holds [] []
  | blank (blanks : IsBlanks piece) (others : Holds pieces names) : Holds (piece :: pieces) names
  | name (isName : IsName name) (core : IsCore name.toList piece) (others : Holds pieces names) :
      Holds (piece :: pieces) (name :: names)

/-- The names in some pieces of a text. -/
def namesIn (pieces : List (List Char)) : List String :=
  ((pieces.map trim).filter (!·.isEmpty)).map String.ofList

variable {pieces others : List (List Char)} {piece : List Char} {names : List String} {given : String}

theorem namesIn_append (pieces others : List (List Char)) :
    namesIn (pieces ++ others) = namesIn pieces ++ namesIn others := by
  simp [namesIn]

theorem namesIn_blank (blanks : IsBlanks piece) (pieces : List (List Char)) :
    namesIn (piece :: pieces) = namesIn pieces := by
  have nothing : trim piece = [] := Text.trim_eq_nil_iff.mpr blanks
  simp [namesIn, nothing]

theorem namesIn_name {name : String} (filled : name.toList ≠ []) (core : IsCore name.toList piece)
    (pieces : List (List Char)) : namesIn (piece :: pieces) = name :: namesIn pieces := by
  have left : trim piece = name.toList := Text.isCore_iff.mp core
  simp [namesIn, left, List.isEmpty_eq_false_iff.mpr filled]

theorem Holds.namesIn_eq (holds : Holds pieces names) : namesIn pieces = names := by
  induction holds with
  | nil => rfl
  | blank blanks _ ih => rw [namesIn_blank blanks, ih]
  | name isName core _ ih => rw [namesIn_name isName.filled core, ih]

/-- Pieces without commas hold the names in them. -/
theorem holds_namesIn (whole : ∀ piece ∈ pieces, ',' ∉ piece) : Holds pieces (namesIn pieces) := by
  induction pieces with
  | nil => exact .nil
  | cons piece pieces ih =>
    have others := ih fun other listed => whole other (by simp [listed])
    by_cases nothing : trim piece = []
    · have blanks : IsBlanks piece := Text.trim_eq_nil_iff.mp nothing
      rw [namesIn_blank blanks]
      exact .blank blanks others
    · obtain ⟨name, left⟩ : ∃ name : String, name.toList = trim piece := ⟨.ofList (trim piece), by simp⟩
      have core : IsCore name.toList piece := Text.isCore_iff.mpr left.symm
      have filled : name.toList ≠ [] := left ▸ nothing
      obtain ⟨before, after, _, _, split⟩ := core.around
      have inside : ',' ∉ name.toList := fun member =>
        whole piece (by simp) (by rw [split]; simp [member])
      rw [namesIn_name filled core]
      exact .name ⟨filled, inside, core.trimmed⟩ core others

theorem Holds.isName (holds : Holds pieces names) : ∀ name ∈ names, IsName name := by
  induction holds with
  | nil => exact nofun
  | blank _ _ ih => exact ih
  | name isName _ _ ih => simpa using ⟨isName, ih⟩

theorem not_mem_of_isBlanks {blanks : List Char} (isBlanks : IsBlanks blanks) : ',' ∉ blanks :=
  fun member => absurd (isBlanks ',' member) (by decide)

theorem Holds.notMem (holds : Holds pieces names) : ∀ piece ∈ pieces, ',' ∉ piece := by
  induction holds with
  | nil => exact nofun
  | blank blanks _ ih => simpa using ⟨not_mem_of_isBlanks blanks, ih⟩
  | name isName core _ ih =>
    obtain ⟨before, after, front, back, rfl⟩ := core.around
    have front := not_mem_of_isBlanks front
    have back := not_mem_of_isBlanks back
    simpa using ⟨⟨front, isName.whole, back⟩, ih⟩

theorem holds_iff : Holds pieces names ↔ (∀ piece ∈ pieces, ',' ∉ piece) ∧ namesIn pieces = names := by
  constructor
  · intro holds
    exact ⟨holds.notMem, holds.namesIn_eq⟩
  · rintro ⟨whole, rfl⟩
    exact holds_namesIn whole

instance (pieces : List (List Char)) (names : List String) : Decidable (Holds pieces names) :=
  decidable_of_iff _ holds_iff.symm

/-- No name is held only if all pieces are blank. -/
theorem Holds.eq_nil_iff (holds : Holds pieces names) : names = [] ↔ ∀ piece ∈ pieces, IsBlanks piece := by
  induction holds with
  | nil => simp
  | blank blanks _ ih => simpa [blanks] using ih
  | @name name piece _ _ isName core _ _ =>
    have filled : ¬IsBlanks piece := fun blanks => isName.filled <|
      (Text.isCore_iff.mp core).symm.trans (Text.trim_eq_nil_iff.mpr blanks)
    simp [filled]

/-- Names in pieces of their own. -/
theorem holds_names (valid : ∀ name ∈ names, IsName name) : Holds (names.map String.toList) names := by
  induction names with
  | nil => exact .nil
  | cons name names ih =>
    have isName := valid name (by simp)
    have core : IsCore name.toList name.toList := ⟨isName.trimmed, [], [], nofun, nofun, by simp⟩
    exact .name isName core (ih fun other listed => valid other (by simp [listed]))

/-! The blanks around the whole text do not count either: they belong to its first and its last piece. -/

theorem namesIn_splitOn_cut (cs rest : List Char) :
    namesIn ((cs ++ ',' :: rest).splitOn ',') = namesIn (cs.splitOn ',') ++ namesIn (rest.splitOn ',') := by
  rw [List.splitOn_append_cons_self, namesIn_append]

theorem namesIn_splitOn_whole {cs before after : List Char} (front : IsBlanks before)
    (back : IsBlanks after) (whole : ',' ∉ cs) :
    namesIn ((before ++ cs ++ after).splitOn ',') = namesIn (cs.splitOn ',') := by
  have padded : ',' ∉ before ++ cs ++ after := by
    simp [not_mem_of_isBlanks front, not_mem_of_isBlanks back, whole]
  rw [List.splitOn_eq_singleton padded, List.splitOn_eq_singleton whole]
  simp only [namesIn, List.map_cons, Text.trim_append front back]

theorem namesIn_splitOn_append {after : List Char} (back : IsBlanks after) (cs : List Char) :
    namesIn ((cs ++ after).splitOn ',') = namesIn (cs.splitOn ',') := by
  have none : IsBlanks [] := nofun
  by_cases listed : ',' ∈ cs
  -- The blanks belong to what stands behind the last comma.
  · obtain ⟨last, first, split, whole⟩ := List.eq_append_cons_of_mem (List.mem_reverse.mpr listed)
    have cut : cs = first.reverse ++ ',' :: last.reverse := by
      rw [← List.reverse_reverse cs, split]
      simp
    have same := namesIn_splitOn_whole none back (show ',' ∉ last.reverse by simpa using whole)
    rw [cut, List.append_assoc, List.cons_append, namesIn_splitOn_cut, namesIn_splitOn_cut]
    simpa using same
  · simpa using namesIn_splitOn_whole none back listed

theorem namesIn_splitOn_prepend {before : List Char} (front : IsBlanks before) (cs : List Char) :
    namesIn ((before ++ cs).splitOn ',') = namesIn (cs.splitOn ',') := by
  have none : IsBlanks [] := nofun
  by_cases listed : ',' ∈ cs
  -- The blanks belong to what stands in front of the first comma.
  · obtain ⟨first, rest, rfl, whole⟩ := List.eq_append_cons_of_mem listed
    have same := namesIn_splitOn_whole front none whole
    rw [← List.append_assoc, namesIn_splitOn_cut, namesIn_splitOn_cut]
    simpa using same
  · simpa using namesIn_splitOn_whole front none listed

theorem nameList_eq (given : String) : nameList given = namesIn (given.toList.splitOn ',') := by
  obtain ⟨before, after, front, back, whole⟩ := Text.exists_trim given.toList
  calc nameList given
    _ = namesIn ((trim given.toList).splitOn ',') := by
      rw [nameList, Text.pieces_eq_splitOn, namesIn]
    _ = namesIn ((before ++ trim given.toList ++ after).splitOn ',') := by
      rw [namesIn_splitOn_append back, namesIn_splitOn_prepend front]
    _ = namesIn (given.toList.splitOn ',') := by rw [← whole]

/-- Every text is one that the names read from it can be written as. -/
theorem holds_nameList (given : String) : Holds (given.toList.splitOn ',') (nameList given) := by
  rw [nameList_eq]
  exact holds_namesIn fun _ listed => Text.notMem_of_mem_splitOn listed

theorem nameList_of_holds (holds : Holds pieces names) (joined : given.toList = [','].intercalate pieces) :
    nameList given = names := by
  cases pieces with
  | nil =>
    obtain rfl : given = "" := String.toList_inj.mp joined
    exact (nameList_eq "").trans holds.namesIn_eq
  | cons first rest =>
    rw [nameList_eq, joined, List.splitOn_intercalate _ holds.notMem (by simp), holds.namesIn_eq]

theorem nameList_intercalate (valid : ∀ name ∈ names, IsName name) :
    nameList (String.intercalate "," names) = names :=
  nameList_of_holds (holds_names valid) (String.toList_intercalate ..)

/-- A list of names is read back however it is written, and what is read from any text is a list of names
that is read back again. The default attributes stand in for it only if every piece of the text is blank. -/
theorem names_read_back (given : String) :
    (∀ names pieces, Holds pieces names → given.toList = [','].intercalate pieces →
      nameList given = names) ∧
    (∀ name ∈ nameList given, IsName name) ∧
    nameList (String.intercalate "," (nameList given)) = nameList given ∧
    (nameList given = [] ↔ ∀ piece ∈ given.toList.splitOn ',', IsBlanks piece) ∧
    ∀ environment settings, (environment "LDAP_ATTRIBUTES").getD "" = given →
      ofEnvironment environment = .ok settings →
      (nameList given = [] → settings.attributes = defaultAttributes) ∧
      (nameList given ≠ [] → settings.attributes = nameList given) := by
  have holds := holds_nameList given
  refine ⟨fun _ _ holds joined => nameList_of_holds holds joined, holds.isName,
    nameList_intercalate holds.isName, holds.eq_nil_iff, ?_⟩
  intro environment settings read configured
  obtain ⟨_, _, rfl⟩ := settings_of_timeLimit configured
  simp only [attributesIn, read]
  cases nameList given <;> simp

/-- Three names, two of them the same, among blanks and pieces without a name. -/
def scattered : String := "\t,cn ,, \u3000cn,mail ,"

theorem scattered_read_back :
    (Holds ["\t".toList, "cn ".toList, [], " \u3000cn".toList, "mail ".toList, []] ["cn", "cn", "mail"] ∧
        nameList scattered = ["cn", "cn", "mail"]) ∧
      ∃ settings, ofEnvironment (fun name => if name = "LDAP_ATTRIBUTES" then some scattered else none) =
          .ok settings ∧ settings.attributes = ["cn", "cn", "mail"] := by
  have holds : Holds ["\t".toList, "cn ".toList, [], " \u3000cn".toList, "mail ".toList, []]
      ["cn", "cn", "mail"] := by decide
  obtain ⟨written, _, _, _, used⟩ := names_read_back scattered
  have read : nameList scattered = ["cn", "cn", "mail"] := written _ _ holds rfl
  refine ⟨⟨holds, read⟩, _, rfl, ?_⟩
  rw [← read]
  exact (used (fun name => if name = "LDAP_ATTRIBUTES" then some scattered else none) _ rfl rfl).2
    (by simp [read])

end Settings

end DirectoryQuery
