import DirectoryQuery.Proofs.CommandLine.Course
import DirectoryQuery.Proofs.CommandLine.Portions

/-! Queries written on a command line. A directive adds one part to a query: a condition, given by
separate arguments, a verbatim fragment, or the mark of a nested set. Directives may stand in any order.
Each kind keeps its own, and the program prints the filter of the set with these parts. -/
namespace DirectoryQuery.CommandLine

/-- A condition in separate arguments. -/
structure Wording where
  field : String
  token : String
  value : Option String
  deriving DecidableEq, Repr

namespace Wording

def arguments (wording : Wording) : List String :=
  wording.field :: wording.token :: wording.value.toList

def condition (wording : Wording) : Condition :=
  ⟨.text wording.field, .text wording.token, (wording.value.map .text).getD .null⟩

/-- The operator is valid, and neither field nor value starts like a switch. -/
structure Fits (wording : Wording) : Prop where
  field : IsPlain wording.field
  value : ∀ value ∈ wording.value, IsPlain value
  token : (Operator.ofToken? (.text wording.token)).isSome = true

instance (wording : Wording) : Decidable wording.Fits :=
  decidable_of_iff (IsPlain wording.field ∧ (∀ value ∈ wording.value, IsPlain value) ∧
      (Operator.ofToken? (.text wording.token)).isSome = true)
    ⟨fun ⟨field, value, token⟩ => ⟨field, value, token⟩,
      fun ⟨field, value, token⟩ => ⟨field, value, token⟩⟩

end Wording

inductive Directive
  | require (wording : Wording)
  | allow (wording : Wording)
  /-- A fragment behind its switch, or attached to it by an equals sign. -/
  | verbatim (fragment : String) (attached : Bool)
  | nested
  deriving DecidableEq, Repr

namespace Directive

def arguments : Directive → List String
  | require wording => "--where" :: wording.arguments
  | allow wording => "--or-where" :: wording.arguments
  | verbatim fragment false => ["--raw", fragment]
  | verbatim fragment true => ["--raw" ++ "=" ++ fragment]
  | nested => ["--nested"]

def Fits : Directive → Prop
  | require wording | allow wording => wording.Fits
  | verbatim fragment false => IsPlain fragment
  | verbatim fragment true => fragment ≠ "--"
  | nested => True

instance (directive : Directive) : Decidable directive.Fits :=
  match directive with
  | require wording | allow wording => inferInstanceAs (Decidable wording.Fits)
  | verbatim fragment false => inferInstanceAs (Decidable (IsPlain fragment))
  | verbatim fragment true => inferInstanceAs (Decidable (fragment ≠ "--"))
  | nested => inferInstanceAs (Decidable True)

@[simp] def required? : Directive → Option Wording
  | require wording => some wording
  | _ => none

@[simp] def allowed? : Directive → Option Wording
  | allow wording => some wording
  | _ => none

@[simp] def fragment? : Directive → Option String
  | verbatim fragment _ => some fragment
  | _ => none

/-- The set with the parts that the directives add, each kind in its order. -/
def query (directives : List Directive) : ConditionSet where
  required := (directives.filterMap required?).map Wording.condition
  alternatives := (directives.filterMap allowed?).map Wording.condition
  verbatim := (directives.filterMap fragment?).map .text
  nested := directives.contains nested

def portion : Directive → Portion
  | require wording => ⟨.switch .required false none, wording.arguments⟩
  | allow wording => ⟨.switch .alternative false none, wording.arguments⟩
  | verbatim fragment false => ⟨.switch .verbatim false none, [fragment]⟩
  | verbatim fragment true => ⟨.switch .verbatim false (some fragment), []⟩
  | nested => ⟨.switch .nested false none, []⟩

end Directive

/-- No token starts like a switch. -/
theorem isPlain_of_token {token : String} (valid : (Operator.ofToken? (.text token)).isSome = true) :
    IsPlain token := by
  have plain : ∀ entry ∈ Operator.registry, IsPlain entry.1 := by decide
  obtain ⟨entry, listed, same⟩ := List.lookup_isSome_iff.mp valid
  rw [eq_of_beq same]
  exact plain entry listed

theorem Wording.Fits.plain {wording : Wording} (fits : wording.Fits) :
    ∀ text ∈ wording.arguments, IsPlain text := by
  intro text listed
  simp only [arguments, List.mem_cons, Option.mem_toList] at listed
  rcases listed with rfl | rfl | listed
  · exact fits.field
  · exact isPlain_of_token fits.token
  · exact fits.value text listed

namespace Directive

/-- A switch, and plain arguments behind it. -/
theorem written_plain {name : String} (listed : (name, switch) ∈ Switch.names)
    (long : Argument.isShort name.toList = false) (closed : name ≠ "--")
    {followers : List String} (plain : ∀ text ∈ followers, IsPlain text) :
    Portion.Written (name :: followers) ⟨.switch switch false none, followers⟩ := by
  refine ⟨?_, by simp, ?_⟩
  · have head := Argument.classify_name listed
    rw [long] at head
    exact Argument.classifyAll_cons head (Argument.classifyAll_plain plain)
  · rintro (_ | ⟨_, later⟩)
    · exact closed rfl
    · exact (plain _ later).ne_end rfl

theorem Fits.written {directive : Directive} (fits : directive.Fits) :
    directive.portion.Written directive.arguments := by
  cases directive with
  | require wording => exact written_plain (by decide) (by decide) (by decide) (Wording.Fits.plain fits)
  | allow wording => exact written_plain (by decide) (by decide) (by decide) (Wording.Fits.plain fits)
  | verbatim fragment attached =>
    cases attached with
    | false =>
      have plain : IsPlain fragment := fits
      exact written_plain (by decide) (by decide) (by decide) (by simpa using plain)
    | true =>
      have head : Argument.classify ("--raw" ++ "=" ++ fragment) =
          .ok (.switch .verbatim false (some fragment)) :=
        Argument.classify_attached (show ("--raw", Switch.verbatim) ∈ Switch.names by decide) fragment
      refine ⟨Argument.classifyAll_cons head rfl, by simp [portion], ?_⟩
      intro listed
      have same := congrArg String.toList (List.mem_singleton.mp listed)
      simp at same
  | nested => exact written_plain (by decide) (by decide) (by decide) (by simp)

end Directive

/-- A request with the parts that some directives add to it. -/
def Request.extended (request : Request) (directives : List Directive) : Request :=
  { request with
    required := request.required ++ (directives.filterMap Directive.required?).map Wording.arguments
    alternatives :=
      request.alternatives ++ (directives.filterMap Directive.allowed?).map Wording.arguments
    verbatim := request.verbatim ++ (directives.filterMap Directive.fragment?).map .text
    nested := request.nested || directives.contains .nested }

@[simp] theorem Request.extended_nil (request : Request) : request.extended [] = request := by
  simp [extended]

theorem Request.extended_append (request : Request) (directives others : List Directive) :
    (request.extended directives).extended others = request.extended (directives ++ others) := by
  simp [extended, Bool.or_assoc]

namespace Draft

@[simp] theorem leave_nil (draft : Draft) : draft.leave [] = draft := by simp [leave]

/-- Carrying a directive out adds its part to the request, and leaves nothing over. -/
theorem carryOut_directive (draft : Draft) {directive : Directive} (fits : directive.Fits) :
    draft.carryOut directive.portion = .ok (draft.mapRequest (·.extended [directive])) := by
  cases directive with
  | require wording =>
    simp [Directive.portion, carryOut, takeGroup, Wording.arguments, mapRequest, Request.extended]
  | allow wording =>
    simp [Directive.portion, carryOut, takeGroup, Wording.arguments, mapRequest, Request.extended]
  | verbatim fragment attached =>
    cases attached with
    | false =>
      simp [Directive.portion, carryOut, takeFragment, mapRequest, Request.extended]
    | true =>
      have whole : fragment ≠ "--" := fits
      simp [Directive.portion, carryOut, takeFragment, attachedFragment, whole, mapRequest,
        Request.extended]
  | nested =>
    simp [Directive.portion, carryOut, raise, mapRequest, Request.extended]

theorem carryOutAll_directives (draft : Draft) {directives : List Directive}
    (fit : ∀ d ∈ directives, d.Fits) :
    carryOutAll draft (directives.map Directive.portion) =
      .ok (draft.mapRequest (·.extended directives)) := by
  induction directives generalizing draft with
  | nil => simp [carryOutAll, mapRequest]
  | cons directive rest ih =>
    have first := draft.carryOut_directive (fit directive (by simp))
    simp only [List.map_cons, carryOutAll, first]
    rw [ih _ fun d listed => fit d (by simp [listed])]
    simp only [mapRequest, Request.extended_append, List.singleton_append]

end Draft

/-- The arguments of directives are read as the request that the directives describe. -/
theorem ofArguments_directives {directives : List Directive} (fit : ∀ d ∈ directives, d.Fits) :
    Request.ofArguments (directives.flatMap Directive.arguments) =
      .ok (Request.empty.extended directives) := by
  have written : ∀ d ∈ directives, d.portion.Written d.arguments := fun d listed =>
    (fit d listed).written
  rw [ofArguments_flatMap written (Draft.carryOutAll_directives _ fit)]
  rfl

/-! The groups of the request are conditions again, and the set with these conditions has a filter. -/

theorem conditionOf_arguments (switch : Switch) (wording : Wording) :
    conditionOf switch wording.arguments = .ok wording.condition := by
  obtain ⟨field, token, value⟩ := wording
  cases value <;> rfl

theorem Wording.Fits.isValid {wording : Wording} (fits : wording.Fits) :
    wording.condition.isValid = true := fits.token

theorem addGroups_wordings (takes : TakesConditions name switch add) {wordings : List Wording}
    (fit : ∀ w ∈ wordings, w.Fits) (query : ConditionSet) :
    addGroups switch add query (wordings.map Wording.arguments) =
      .ok (query.withConditions switch (wordings.map Wording.condition)) := by
  apply takes.addGroups_eq
  · rw [List.forall₂_map_left_iff, List.forall₂_map_right_iff, List.forall₂_same]
    exact fun w _ => conditionOf_arguments switch w
  · intro c listed
    obtain ⟨w, member, rfl⟩ := List.mem_map.mp listed
    exact (fit w member).isValid

namespace Directive

variable {directives others : List Directive}

theorem fits_required (fit : ∀ d ∈ directives, d.Fits) :
    ∀ w ∈ directives.filterMap required?, w.Fits := by
  intro w listed
  obtain ⟨directive, member, found⟩ := List.mem_filterMap.mp listed
  cases directive with
  | require wording =>
    obtain rfl : wording = w := by simpa using found
    exact fit _ member
  | allow | verbatim | nested => simp at found

theorem fits_allowed (fit : ∀ d ∈ directives, d.Fits) :
    ∀ w ∈ directives.filterMap allowed?, w.Fits := by
  intro w listed
  obtain ⟨directive, member, found⟩ := List.mem_filterMap.mp listed
  cases directive with
  | allow wording =>
    obtain rfl : wording = w := by simpa using found
    exact fit _ member
  | require | verbatim | nested => simp at found

theorem query_request (fit : ∀ d ∈ directives, d.Fits) :
    (Request.empty.extended directives).query none = .ok (query directives) := by
  simp only [Request.query, Request.extended, Request.empty, List.nil_append, Bool.false_or,
    Option.map_none, Option.toList_none, addGroups_wordings .required (fits_required fit),
    addGroups_wordings .alternative (fits_allowed fit)]
  rfl

theorem exists_filter (fit : ∀ d ∈ directives, d.Fits) :
    ∃ text, (query directives).filter = .ok text := by
  apply ConditionSet.filter_of_valid
  apply Condition.firstInvalid?_eq_none_iff.mpr
  intro c listed
  rcases List.mem_append.mp listed with required | allowed
  · obtain ⟨w, member, rfl⟩ := List.mem_map.mp required
    exact (fits_required fit w member).isValid
  · obtain ⟨w, member, rfl⟩ := List.mem_map.mp allowed
    exact (fits_allowed fit w member).isValid

end Directive

/-- What compiling leaves in the log is not told unless debugging is switched on. -/
theorem transcript_filterLog (query : ConditionSet) :
    (loggers false).transcript query.filterLog = "" := by
  unfold ConditionSet.filterLog
  split
  · rfl
  · rfl

variable {directives : List Directive}

theorem Directive.query_eq_of_parts {others : List Directive}
    (required : others.filterMap required? = directives.filterMap required?)
    (allowed : others.filterMap allowed? = directives.filterMap allowed?)
    (verbatim : others.filterMap fragment? = directives.filterMap fragment?)
    (nesting : nested ∈ others ↔ nested ∈ directives) : query others = query directives := by
  simp [query, required, allowed, verbatim, nesting]

theorem run_written (fit : ∀ d ∈ directives, d.Fits) (quiet : environment "DEBUG" = none)
    (compiled : (Directive.query directives).filter = .ok text) (directory : Directory) :
    run directory environment (directives.flatMap Directive.arguments) =
      ⟨.returned 0, text ++ "\n", "", [], (Directive.query directives).filterLog⟩ := by
  have silent : Settings.isVerbose environment = false := by
    simp only [Settings.isVerbose, quiet]
    rfl
  have compiles : Compiles (directives.flatMap Directive.arguments) _ _ text :=
    ⟨ofArguments_directives fit, rfl, rfl, Directive.query_request fit, compiled⟩
  rw [compiles.run_eq, silent, logged, transcript_filterLog]
  rfl

/-- A command line of directives has the filter of their query printed, and nothing else happens. The
order of directives counts only within each kind. -/
theorem run_directives (fit : ∀ d ∈ directives, d.Fits) (directory : Directory)
    (environment : Environment) (quiet : environment "DEBUG" = none) :
    ∃ text, (Directive.query directives).filter = .ok text ∧
      run directory environment (directives.flatMap Directive.arguments) =
        ⟨.returned 0, text ++ "\n", "", [], (Directive.query directives).filterLog⟩ ∧
      ∀ others : List Directive, (∀ d ∈ others, d.Fits) →
        others.filterMap Directive.required? = directives.filterMap Directive.required? →
        others.filterMap Directive.allowed? = directives.filterMap Directive.allowed? →
        others.filterMap Directive.fragment? = directives.filterMap Directive.fragment? →
        (.nested ∈ others ↔ .nested ∈ directives) →
          (run directory environment (others.flatMap Directive.arguments)).out = text ++ "\n" := by
  obtain ⟨text, compiled⟩ := Directive.exists_filter fit
  refine ⟨text, compiled, run_written fit quiet compiled directory, ?_⟩
  intro others fit' required allowed verbatim nesting
  have same := Directive.query_eq_of_parts required allowed verbatim nesting
  rw [run_written fit' quiet (same ▸ compiled)]

/-- Directives with texts that look like other parts of a command line. -/
def scattered : List Directive := [
  .verbatim "-w=(a=*)" true, .allow ⟨"c n", "starts_with", some "it's = \"x\""⟩, .nested,
  .require ⟨"", "!", none⟩, .verbatim "" false, .allow ⟨"sn", "*", some ""⟩, .nested]

/-- The same parts, kind by kind. -/
def gathered : List Directive := [
  .nested, .require ⟨"", "!", none⟩, .allow ⟨"c n", "starts_with", some "it's = \"x\""⟩,
  .allow ⟨"sn", "*", some ""⟩, .verbatim "-w=(a=*)" true, .verbatim "" true]

theorem scattered_printed :
    ((∀ d ∈ scattered, d.Fits) ∧ ∀ d ∈ gathered, d.Fits) ∧
      scattered.flatMap Directive.arguments =
        ["--raw=-w=(a=*)", "--or-where", "c n", "starts_with", "it's = \"x\"", "--nested", "--where",
          "", "!", "--raw", "", "--or-where", "sn", "*", "", "--nested"] ∧
      ∀ directory,
        (run directory (fun _ => none) (scattered.flatMap Directive.arguments)).out =
          "-w=(a=*)(!(=))(|(c n=it's = \"x\"*)(sn=*))\n" ∧
        (run directory (fun _ => none) (gathered.flatMap Directive.arguments)).out =
          "-w=(a=*)(!(=))(|(c n=it's = \"x\"*)(sn=*))\n" := by
  have fit : ∀ d ∈ scattered, d.Fits := by decide
  have fit' : ∀ d ∈ gathered, d.Fits := by decide
  refine ⟨⟨fit, fit'⟩, by decide, fun directory => ?_⟩
  obtain ⟨text, compiled, printed, reordered⟩ := run_directives fit directory (fun _ => none) rfl
  obtain rfl : "-w=(a=*)(!(=))(|(c n=it's = \"x\"*)(sn=*))" = text :=
    Except.ok.inj ((show (Directive.query scattered).filter = .ok _ from rfl).symm.trans compiled)
  exact ⟨by rw [printed]; rfl, reordered gathered fit' rfl rfl rfl (by decide)⟩

end DirectoryQuery.CommandLine
