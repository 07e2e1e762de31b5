import DirectoryQuery.Proofs.CommandLine.Endings

/-! What becomes of the entries that a directory finds. A search hands out one entry for each of them, in
their order. Every attribute keeps its name and its place, and its value is listed as texts: a list text
by text, and any other value as one. Only nothing, the empty text and lists without elements have no
text. Zero, falsehood, no octets and an empty record are void as well, but each has a text to be listed.
The program prints the names of the entries, each on a line of its own, and tells how many there are. -/
namespace DirectoryQuery

namespace Value

/-- The values that have no text. -/
def absences : List Value := [.null, .text "", .list [], .tuple []]

/-- The elements of a list, of either kind. -/
def items? : Value → Option (List Value)
  | list items | tuple items => some items
  | _ => none

/-- No other value agrees with one of these, however void it is. -/
theorem agrees_absence_iff (value : Value) :
    absences.any value.agrees = true ↔ value ∈ absences := by
  cases value with
  | null => simp [absences, agrees]
  | bool b => simp [absences, agrees, int?]
  | int n => simp [absences, agrees, int?]
  | real x => simp [absences, agrees, int?]
  | text s => simp [absences, agrees, int?]
  | octets bytes => simp [absences, agrees, int?]
  | list items => cases items <;> simp [absences, agrees, itemsAgree, int?]
  | tuple items => cases items <;> simp [absences, agrees, itemsAgree, int?]
  | record fields => simp [absences, agrees, int?]

end Value

namespace Entry

/-- Before anything else is asked about a value, it is tested against those that have no text. -/
theorem texts_eq (value : Value) :
    texts value =
      if Value.absences.any value.agrees then []
      else (value.items?.map (List.map Value.shown)).getD [value.shown] := by
  have tested := Value.agrees_absence_iff value
  by_cases absent : value ∈ Value.absences
  · rw [if_pos (tested.mpr absent)]
    simp only [Value.absences, List.mem_cons, List.not_mem_nil, or_false] at absent
    rcases absent with rfl | rfl | rfl | rfl
    all_goals rfl
  · rw [if_neg (mt tested.mp absent)]
    cases value with
    | null => exact absurd (.head _) absent
    | text s =>
      have filled : s ≠ "" := by
        rintro rfl
        exact absent (.tail _ (.head _))
      simp [texts, filled, Value.items?]
    | list items | tuple items => rfl
    | bool | int | real | octets | record => rfl

/-- The texts that are listed for a value. -/
structure Lists (value : Value) (texts : List String) : Prop where
  nothing : texts = [] ↔ value = .null ∨ value = .text "" ∨ value = .list [] ∨ value = .tuple []
  elements : ∀ items, value = .list items ∨ value = .tuple items → texts = items.map Value.shown
  single : value ≠ .null → value ≠ .text "" → value.items? = none → texts = [value.shown]

theorem lists_texts (value : Value) : Lists value (texts value) := by
  constructor
  case elements =>
    rintro items (rfl | rfl)
    all_goals rfl
  case nothing =>
    cases value with
    | text s =>
      by_cases empty : s = ""
      · simp [empty, texts]
      · simp [empty, texts]
    | null | list | tuple | bool | int | real | octets | record => simp [texts]
  case single =>
    intro present filled whole
    have other : value ∉ Value.absences := by
      simp only [Value.absences, List.mem_cons, List.not_mem_nil, or_false]
      rintro (rfl | rfl | rfl | rfl)
      · exact present rfl
      · exact filled rfl
      all_goals cases whole
    rw [texts_eq, whole, if_neg (mt (Value.agrees_absence_iff value).mp other)]
    rfl

/-- What a search hands out for an entry that it has found. Its attributes are meant to have different
names, so that none takes the place of another. -/
structure Describes (found : FoundEntry) (entry : Entry) : Prop where
  name : entry.name = found.name.shown
  attributes : (found.attributes.map Prod.fst).Nodup → List.Forall₂
    (fun held listed => listed.1 = held.1 ∧ Lists held.2 listed.2) found.attributes entry.attributes

variable {name : String} {known attributes : List (String × List String)}

theorem assign_of_notMem (other : name ∉ known.map Prod.fst) (values : List String) :
    assign name values known = known ++ [(name, values)] := by
  induction known with
  | nil => rfl
  | cons pair known ih =>
    rw [List.map_cons, List.mem_cons, not_or] at other
    rw [assign, if_neg (Ne.symm other.1), ih other.2, List.cons_append]

theorem foldl_assign (distinct : ((known ++ attributes).map Prod.fst).Nodup) :
    attributes.foldl (fun known (name, values) => assign name values known) known =
      known ++ attributes := by
  induction attributes generalizing known with
  | nil => exact (List.append_nil known).symm
  | cons pair attributes ih =>
    obtain ⟨name, values⟩ := pair
    have other : name ∉ known.map Prod.fst := by
      rw [List.map_append, List.map_cons, List.nodup_append] at distinct
      exact fun taken => distinct.2.2 name taken name (.head _) rfl
    have moved : known ++ (name, values) :: attributes = known ++ [(name, values)] ++ attributes := by
      rw [List.append_assoc, List.singleton_append]
    rw [moved, ← assign_of_notMem other] at distinct ⊢
    exact ih distinct

theorem describes_ofFound (found : FoundEntry) : Describes found (ofFound found) := by
  refine ⟨rfl, fun distinct => ?_⟩
  have kept : (ofFound found).attributes =
      found.attributes.map fun held => (held.1, texts held.2) := by
    refine (@foldl_assign [] _ ?_).trans (List.nil_append _)
    simpa [Function.comp_def] using distinct
  rw [kept, List.forall₂_map_right_iff, List.forall₂_same]
  exact fun held _ => ⟨rfl, lists_texts held.2⟩

/-- Texts are listed as they are. -/
theorem texts_again (value : Value) : texts (.list ((texts value).map .text)) = texts value := by
  show ((texts value).map Value.text).map Value.shown = texts value
  rw [List.map_map]
  exact List.map_id _

end Entry

/-- What a search comes to know from its connection, if it gets one. -/
def Source.answer (source : Source) (request : SearchRequest) : Except Failure (List FoundEntry) :=
  match source with
  | given access => access request
  | opened directory connection =>
    match directory connection with
    | .error e => .error e
    | .ok access => access request

theorem SearchReport.outcome_onSource (source : Source) (request : SearchRequest) :
    (onSource source request).outcome = answered (source.answer request) := by
  cases source with
  | given access => exact outcome_onAccess access request
  | opened directory connection =>
    rw [Source.answer]
    cases bound : directory connection with
    | error e => exact outcome_refused bound request
    | ok access => exact outcome_bound bound request

namespace ConditionSet

variable {query : ConditionSet} {source : Source} {scope : SearchScope}

theorem outcome_search (compiled : query.filter = .ok text) (source : Source) (scope : SearchScope) :
    (query.search source scope).outcome =
      SearchReport.answered (source.answer (SearchReport.request scope text)) := by
  rw [(search_of_compiled compiled source scope).2, SearchReport.outcome_onSource]

/-- A search has entries to hand out exactly if its query is valid and the directory finds some. -/
theorem outcome_search_eq_ok_iff {entries : List Entry} :
    (query.search source scope).outcome = .ok entries ↔
      ∃ text found, query.filter = .ok text ∧
        source.answer (SearchReport.request scope text) = .ok found ∧
        entries = found.map Entry.ofFound := by
  cases compiled : query.filter with
  | error e => simp [search, compiled]
  | ok text =>
    rw [outcome_search compiled]
    cases answer : source.answer (SearchReport.request scope text) with
    | error e => simp [SearchReport.answered, answer]
    | ok found =>
      simp only [SearchReport.answered, Except.ok.injEq]
      constructor
      · rintro rfl
        exact ⟨text, found, rfl, answer, rfl⟩
      · rintro ⟨_, other, rfl, again, rfl⟩
        rw [Except.ok.inj (answer.symm.trans again)]

end ConditionSet

namespace CommandLine

variable {environment : Environment} {arguments : List String} {settings : Settings}
  {request : Request} {query : ConditionSet}

/-- What a run tells of the entries that its search hands out. -/
theorem Searches.run_found (searches : Searches environment arguments settings request query)
    {directory : Directory} {entries : List Entry}
    (handed : (query.search (.opened directory (connection settings))
      ⟨settings.base, settings.attributes⟩).outcome = .ok entries) :
    (run directory environment arguments).ending = .returned 0 ∧
      (run directory environment arguments).out =
        String.join (entries.map fun entry => line entry.name) ∧
      ∃ before, (run directory environment arguments).err =
        before ++ ("[INFO] " ++ ("Found " ++ toString entries.length ++ " entries") ++ "\n") := by
  rw [searches.run_eq directory, CommandLine.search]
  simp only [handed]
  refine ⟨rfl, rfl, ?_⟩
  have reported : (loggers (Settings.isVerbose environment)).transcript [searchEnd entries] = _ :=
    transcript_record (List.prefix_refl _) rfl _
  exact ⟨_, (Log.Loggers.transcript_append _ _ _).trans (congrArg _ reported)⟩

end CommandLine

namespace ConditionSet

open CommandLine (Searches connection run)

/-- A search has something to hand out exactly if its query is valid and the directory answers. It is one
entry for each that was found, in the same order, with the same names and all values as texts. Texts
are listed as they are. A run prints the names and tells their number. -/
theorem handed_out_as_found (query : ConditionSet) (source : Source) (scope : SearchScope) :
    (∀ entries, (query.search source scope).outcome = .ok entries →
      ∃ text found, query.filter = .ok text ∧
        source.answer (SearchReport.request scope text) = .ok found ∧
        List.Forall₂ Entry.Describes found entries) ∧
    (∀ text found, query.filter = .ok text →
      source.answer (SearchReport.request scope text) = .ok found →
        ∃ entries, (query.search source scope).outcome = .ok entries) ∧
    (∀ value, Entry.texts (.list ((Entry.texts value).map .text)) = Entry.texts value) ∧
    ∀ directory environment arguments settings request text found,
      Searches environment arguments settings request query → query.filter = .ok text →
      (Source.opened directory (connection settings)).answer
        (SearchReport.request ⟨settings.base, settings.attributes⟩ text) = .ok found →
          (run directory environment arguments).ending = .returned 0 ∧
          (run directory environment arguments).out =
            String.join (found.map fun entry => entry.name.shown ++ "\n") ∧
          ∃ before, (run directory environment arguments).err =
            before ++ "[INFO] Found " ++ toString found.length ++ " entries\n" := by
  refine ⟨?_, ?_, Entry.texts_again, ?_⟩
  · intro entries handed
    obtain ⟨text, found, compiled, answered, rfl⟩ := outcome_search_eq_ok_iff.mp handed
    refine ⟨text, found, compiled, answered, ?_⟩
    rw [List.forall₂_map_right_iff, List.forall₂_same]
    exact fun entry _ => Entry.describes_ofFound entry
  · intro text found compiled answered
    exact ⟨_, outcome_search_eq_ok_iff.mpr ⟨text, found, compiled, answered, rfl⟩⟩
  · intro directory environment arguments settings request text found searches compiled answered
    have handed := outcome_search_eq_ok_iff.mpr ⟨text, found, compiled, answered, rfl⟩
    obtain ⟨ending, out, before, err⟩ := searches.run_found handed
    refine ⟨ending, ?_, before, ?_⟩
    · rw [out, List.map_map]
      rfl
    · have label : "[INFO] Found " = "[INFO] " ++ "Found " := rfl
      have unit : " entries\n" = " entries" ++ "\n" := rfl
      rw [err, List.length_map, label, unit]
      simp only [String.append_assoc]

/-- Entries with void values of every kind, and names that are no texts. -/
def various : List FoundEntry := [
  ⟨.text "cn=a", [("cn", .text "a"), ("x", .null), ("y", .list []), ("z", .tuple [.text "", .null])]⟩,
  ⟨.int 0, [("f", .bool false), ("b", .octets []), ("d", .record []), ("e", .text "")]⟩,
  ⟨.text "cn=a", []⟩]

theorem various_handed_out :
    (∀ entry ∈ various, (entry.attributes.map Prod.fst).Nodup) ∧
    (∃ entries, (staff.search (.given fun _ => .ok various) ⟨"dc=x", ["*"]⟩).outcome = .ok entries ∧
      List.Forall₂ Entry.Describes various entries ∧ entries =
        [⟨"cn=a", [("cn", ["a"]), ("x", []), ("y", []), ("z", ["", "None"])]⟩,
          ⟨"0", [("f", ["False"]), ("b", ["b''"]), ("d", ["\x7b\x7d"]), ("e", [])]⟩, ⟨"cn=a", []⟩]) ∧
    (run (fun _ => .ok fun _ => .ok various)
      (fun name => if name = "LDAP_FILTER" then some "(uid=j)" else none)
      ["--search", "--where", "objectClass", "=", "person", "--or-where", "cn starts_with adm",
        "--or-where", "cn", "!=", "root", "--raw", ""]).out = "cn=a\n0\ncn=a\n" := by
  obtain ⟨described, returns, _, runs⟩ :=
    handed_out_as_found staff (.given fun _ => .ok various) ⟨"dc=x", ["*"]⟩
  obtain ⟨entries, handed⟩ := returns _ various rfl rfl
  obtain ⟨_, found, _, answered, describes⟩ := described entries handed
  obtain rfl := Except.ok.inj answered
  refine ⟨by decide, ⟨entries, handed, describes, (Except.ok.inj handed).symm⟩, ?_⟩
  exact (runs (fun _ => .ok fun _ => .ok various) _ _ _ _ _ various ⟨rfl, rfl, rfl, rfl, rfl⟩ rfl rfl).2.1

end ConditionSet

end DirectoryQuery
