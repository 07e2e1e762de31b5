import DirectoryQuery.Proofs.CommandLine.Portions

/-! What a portion of a command line does to a request does not depend on what the request holds
already: it adds the same parts behind any others. So a request is put together portion by portion, a
switch in front of a command line adds its part in front of all others, and the marks of a request tell
which switches were given. -/
namespace DirectoryQuery.CommandLine

namespace Request

/-- The parts of one request, and behind them those of another. -/
def joined (request other : Request) : Request where
  required := request.required ++ other.required
  alternatives := request.alternatives ++ other.alternatives
  verbatim := request.verbatim ++ other.verbatim
  nested := request.nested || other.nested
  operators := request.operators || other.operators
  search := request.search || other.search

@[simp] theorem joined_empty (request : Request) : request.joined empty = request := by
  simp [joined, empty]

@[simp] theorem empty_joined (request : Request) : empty.joined request = request := by
  simp [joined, empty]

theorem joined_assoc (first second third : Request) :
    (first.joined second).joined third = first.joined (second.joined third) := by
  simp [joined, Bool.or_assoc]

end Request

/-- The mark that a switch without arguments leaves. -/
def Request.mark (request : Request) : Switch → Bool
  | .nested => request.nested
  | .operators => request.operators
  | .search => request.search
  | .help | .required | .alternative | .verbatim => false

theorem Request.mark_empty (wanted : Switch) : Request.empty.mark wanted = false := by
  cases wanted <;> rfl

theorem Request.mark_joined (request other : Request) (wanted : Switch) :
    (request.joined other).mark wanted = (request.mark wanted || other.mark wanted) := by
  cases wanted <;> rfl

/-- The argument stands for the switch. -/
def Argument.Names (wanted : Switch) (argument : Argument) : Prop :=
  ∃ short attached, argument = .switch wanted short attached

@[simp] theorem Argument.names_switch :
    (switch found short attached).Names wanted ↔ found = wanted := by
  simp [Names]

@[simp] theorem Argument.not_names_plain : ¬(plain text).Names wanted := nofun

@[simp] theorem Argument.not_names_unknown : ¬(unknown text).Names wanted := nofun

instance (wanted : Switch) (argument : Argument) : Decidable (argument.Names wanted) :=
  match argument with
  | .switch .. => decidable_of_iff _ Argument.names_switch.symm
  | .plain _ => isFalse Argument.not_names_plain
  | .unknown _ => isFalse Argument.not_names_unknown

namespace Draft

def empty : Draft := ⟨.empty, []⟩

def joined (draft other : Draft) : Draft :=
  ⟨draft.request.joined other.request, draft.leftover ++ other.leftover⟩

@[simp] theorem joined_empty (draft : Draft) : draft.joined empty = draft := by
  simp [joined, empty]

theorem joined_assoc (first second third : Draft) :
    (first.joined second).joined third = first.joined (second.joined third) := by
  simp [joined, Request.joined_assoc]

theorem takeGroup_eq (draft : Draft) (switch : Switch)
    {add : List String → Request → Request}
    (adds : ∀ group request, add group request = request.joined (add group .empty))
    (attached : Option String) (followers : List String) :
    draft.takeGroup switch add attached followers =
      (empty.takeGroup switch add attached followers).map draft.joined := by
  cases attached with
  | some text => simp [takeGroup, mapRequest, leave, empty, joined, Except.map, ← adds]
  | none =>
    cases followers with
    | nil => rfl
    | cons first rest => simp [takeGroup, mapRequest, empty, joined, Except.map, ← adds]

theorem takeFragment_eq (draft : Draft) (attached : Option String) (followers : List String) :
    draft.takeFragment attached followers =
      (empty.takeFragment attached followers).map draft.joined := by
  cases attached with
  | some text =>
    simp [takeFragment, mapRequest, leave, empty, joined, Except.map, Request.joined, Request.empty]
  | none =>
    cases followers with
    | nil => rfl
    | cons first rest =>
      simp [takeFragment, mapRequest, leave, empty, joined, Except.map, Request.joined, Request.empty]

theorem raise_eq (draft : Draft) (switch : Switch) {set : Request → Request}
    (sets : ∀ request, set request = request.joined (set .empty))
    (attached : Option String) (followers : List String) :
    draft.raise switch set attached followers =
      (empty.raise switch set attached followers).map draft.joined := by
  cases attached with
  | some text => rfl
  | none => simp [raise, mapRequest, leave, empty, joined, Except.map, ← sets]

/-- A portion does to any draft what it does to an empty one. -/
theorem carryOut_eq (draft : Draft) (portion : Portion) :
    draft.carryOut portion = (empty.carryOut portion).map draft.joined := by
  obtain ⟨head, followers⟩ := portion
  cases head with
  | plain text | unknown text => simp [carryOut, leave, empty, joined, Except.map]
  | switch switch short attached =>
    cases switch with
    | help => rfl
    | required | alternative =>
      simp only [carryOut]
      apply takeGroup_eq
      intro group request
      simp [Request.joined, Request.empty]
    | verbatim => exact draft.takeFragment_eq attached followers
    | nested | operators | search =>
      simp only [carryOut]
      apply raise_eq
      intro request
      simp [Request.joined, Request.empty]

theorem carryOutAll_eq (draft : Draft) (portions : List Portion) :
    carryOutAll draft portions = (carryOutAll empty portions).map draft.joined := by
  induction portions generalizing draft with
  | nil => simp [carryOutAll, Except.map]
  | cons portion rest ih =>
    simp only [carryOutAll, draft.carryOut_eq portion]
    cases empty.carryOut portion with
    | error refusal => rfl
    | ok next =>
      simp only [Except.map]
      rw [ih (draft.joined next), ih next]
      cases carryOutAll empty rest with
      | error refusal => rfl
      | ok last => simp only [Except.map, joined_assoc]

/-- What portions lead to is put together from what the first leads to and what the others lead to. -/
theorem exists_of_carryOutAll {draft : Draft}
    (carried : carryOutAll empty (portion :: rest) = .ok draft) :
    ∃ next last, empty.carryOut portion = .ok next ∧ carryOutAll empty rest = .ok last ∧
      draft = next.joined last := by
  simp only [carryOutAll] at carried
  cases first : empty.carryOut portion with
  | error refusal => simp [first] at carried
  | ok next =>
    simp only [first, carryOutAll_eq next] at carried
    cases later : carryOutAll empty rest with
    | error refusal => simp [later, Except.map] at carried
    | ok last =>
      simp only [later, Except.map, Except.ok.injEq] at carried
      exact ⟨next, last, rfl, rfl, carried.symm⟩

variable {draft next : Draft} {switch wanted : Switch} {attached : Option String}
  {followers : List String}

theorem mark_takeGroup {add : List String → Request → Request}
    (keeps : ∀ group request, (add group request).mark wanted = request.mark wanted)
    (taken : draft.takeGroup switch add attached followers = .ok next) :
    next.request.mark wanted = draft.request.mark wanted := by
  cases attached with
  | some text =>
    obtain rfl := Except.ok.inj taken
    exact keeps _ _
  | none =>
    cases followers with
    | nil => contradiction
    | cons first rest =>
      obtain rfl := Except.ok.inj taken
      exact keeps _ _

theorem mark_takeFragment (taken : draft.takeFragment attached followers = .ok next) :
    next.request.mark wanted = draft.request.mark wanted := by
  have keeps (request : Request) (fragments : List Value) :
      { request with verbatim := fragments }.mark wanted = request.mark wanted := by
    cases wanted <;> rfl
  cases attached with
  | some text =>
    obtain rfl := Except.ok.inj taken
    exact keeps _ _
  | none =>
    cases followers with
    | nil => contradiction
    | cons first rest =>
      obtain rfl := Except.ok.inj taken
      exact keeps _ _

theorem request_of_raise {set : Request → Request}
    (raised : draft.raise switch set attached followers = .ok next) :
    next.request = set draft.request := by
  cases attached with
  | some text => contradiction
  | none =>
    obtain rfl := Except.ok.inj raised
    rfl

/-- The switches that leave a mark. -/
def marking : List Switch := [.nested, .operators, .search]

/-- Such a switch leaves its mark, and no other switch does. -/
theorem mark_carryOut (marks : wanted ∈ marking) (carried : empty.carryOut portion = .ok next) :
    next.request.mark wanted = true ↔ portion.head.Names wanted := by
  obtain ⟨head, followers⟩ := portion
  have blank : empty.request.mark wanted = false := Request.mark_empty wanted
  cases head with
  | plain text | unknown text =>
    obtain rfl := Except.ok.inj carried
    simp [leave, blank]
  | switch switch short attached =>
    rw [Argument.names_switch]
    cases switch with
    | help => simp [carryOut] at carried
    | required | alternative =>
      simp only [carryOut] at carried
      rw [mark_takeGroup (by cases wanted <;> simp [Request.mark]) carried, blank]
      refine ⟨nofun, ?_⟩
      rintro rfl
      exact absurd marks (by decide)
    | verbatim =>
      simp only [carryOut] at carried
      rw [mark_takeFragment carried, blank]
      refine ⟨nofun, ?_⟩
      rintro rfl
      exact absurd marks (by decide)
    | nested | operators | search =>
      simp only [carryOut] at carried
      rw [request_of_raise carried]
      cases wanted <;> simp [Request.mark, empty, Request.empty]

theorem mark_carryOutAll (marks : wanted ∈ marking)
    {portions : List Portion} (carried : carryOutAll empty portions = .ok draft) :
    draft.request.mark wanted = true ↔ ∃ p ∈ portions, p.head.Names wanted := by
  induction portions generalizing draft with
  | nil =>
    obtain rfl := Except.ok.inj carried
    simp [empty, Request.mark_empty]
  | cons portion rest ih =>
    obtain ⟨next, last, first, later, rfl⟩ := exists_of_carryOutAll carried
    simp only [joined, Request.mark_joined, Bool.or_eq_true, mark_carryOut marks first, ih later,
      List.mem_cons, exists_eq_or_imp]

end Draft

theorem Argument.mem_classified_iff {texts : List String} {arguments : List Argument}
    (classified : classifyAll texts = .ok arguments) {argument : Argument} :
    argument ∈ arguments ↔ ∃ text ∈ texts, classify text = .ok argument := by
  induction texts generalizing arguments with
  | nil =>
    obtain rfl : [] = arguments := Except.ok.inj classified
    simp
  | cons text texts ih =>
    cases one : classify text with
    | error e => simp [classifyAll, one, bind, Except.bind] at classified
    | ok first =>
      cases many : classifyAll texts with
      | error e => simp [classifyAll, one, many, bind, Except.bind] at classified
      | ok others =>
        obtain rfl : first :: others = arguments :=
          Except.ok.inj ((classifyAll_cons one many).symm.trans classified)
        simp only [List.mem_cons, exists_eq_or_imp, ih many, one, Except.ok.injEq]
        rw [eq_comm]

/-- Every argument that stands for a switch heads a portion. -/
theorem exists_head_iff (arguments : List Argument) :
    (∃ p ∈ (portions arguments).2, p.head.Names wanted) ↔ ∃ a ∈ arguments, a.Names wanted := by
  induction arguments with
  | nil => simp [portions]
  | cons first rest ih =>
    cases first with
    | plain text => simpa using ih
    | switch | unknown =>
      rw [portions_head (by simp)]
      simp only [List.mem_cons, exists_eq_or_imp, ih]

/-- How a command line is read as a request: every argument is classified, none in front of the first
portion or behind `--` is left, and the portions are carried out without leaving any over. -/
structure ReadAs (arguments : List String) (list : List Portion) (request : Request) : Prop where
  unended : "--" ∉ arguments
  cut : ∃ classified, Argument.classifyAll arguments = .ok classified ∧ portions classified = ([], list)
  carried : Draft.carryOutAll .empty list = .ok ⟨request, []⟩

variable {arguments : List String} {request base : Request} {list : List Portion}

theorem ReadAs.ofArguments (read : ReadAs arguments list request) :
    Request.ofArguments arguments = .ok request := by
  obtain ⟨whole, none⟩ := takeWhile_unended read.unended
  obtain ⟨classified, ok, cut⟩ := read.cut
  have carried := read.carried
  simp only [Draft.empty] at carried
  simp only [Request.ofArguments, whole, none, ok, cut, carried]
  rfl

theorem exists_readAs (parsed : Request.ofArguments arguments = .ok request) :
    ∃ list, ReadAs arguments list request := by
  unfold Request.ofArguments at parsed
  split at parsed
  · contradiction
  · rename_i classified ok
    rcases cut : portions classified with ⟨front, list⟩
    simp only [cut, Draft.carryOutAll_eq ⟨.empty, front⟩] at parsed
    cases carried : Draft.carryOutAll .empty list with
    | error refusal => simp [carried, Except.map] at parsed
    | ok draft =>
      simp only [carried, Except.map, Draft.finish, Draft.joined, Request.empty_joined] at parsed
      split at parsed
      · rename_i none
        simp only [List.append_eq_nil_iff] at none
        obtain ⟨⟨rfl, leftover⟩, read⟩ := none
        have unended : "--" ∉ arguments := fun listed => by
          simpa using List.dropWhile_eq_nil_iff.mp read _ listed
        rw [(takeWhile_unended unended).1] at ok
        obtain rfl := Except.ok.inj parsed
        refine ⟨list, unended, ⟨classified, ok, cut⟩, ?_⟩
        rw [carried, ← leftover]
      · contradiction

/-- An argument in front of `--` stands for the switch, in full or abbreviated. -/
def Gives (arguments : List String) (wanted : Switch) : Prop :=
  ∃ text ∈ arguments.takeWhile (· != "--"),
    ∃ argument, Argument.classify text = .ok argument ∧ argument.Names wanted

instance (text : String) (wanted : Switch) :
    Decidable (∃ argument, Argument.classify text = .ok argument ∧ argument.Names wanted) :=
  match Argument.classify text with
  | .ok argument => decidable_of_iff (argument.Names wanted) (by simp)
  | .error _ => isFalse (by simp)

instance (arguments : List String) (wanted : Switch) : Decidable (Gives arguments wanted) :=
  inferInstanceAs (Decidable (∃ text ∈ arguments.takeWhile (· != "--"), _))

/-- The marks of a request tell which switches its command line gives. -/
theorem mark_iff_gives (parsed : Request.ofArguments arguments = .ok request)
    (marks : wanted ∈ Draft.marking) : request.mark wanted = true ↔ Gives arguments wanted := by
  obtain ⟨list, read⟩ := exists_readAs parsed
  obtain ⟨classified, ok, cut⟩ := read.cut
  have heads : (∃ p ∈ (portions classified).2, p.head.Names wanted) ↔ _ := exists_head_iff classified
  rw [cut] at heads
  rw [Gives, (takeWhile_unended read.unended).1, Draft.mark_carryOutAll marks read.carried, heads]
  constructor
  · rintro ⟨argument, listed, named⟩
    obtain ⟨text, member, taken⟩ := (Argument.mem_classified_iff ok).mp listed
    exact ⟨text, member, argument, taken, named⟩
  · rintro ⟨text, member, argument, taken, named⟩
    exact ⟨argument, (Argument.mem_classified_iff ok).mpr ⟨text, member, taken⟩, named⟩

/-- An abbreviation counts, and what stands behind `--` does not. -/
example : Gives ["--where", "a = b", "--sea"] .search ∧ ¬Gives ["--", "--search"] .search := by
  decide

theorem search_iff_gives (parsed : Request.ofArguments arguments = .ok request) :
    request.search = true ↔ Gives arguments .search := by
  have marks : Switch.search ∈ Draft.marking := by decide
  exact mark_iff_gives parsed marks

theorem operators_iff_gives (parsed : Request.ofArguments arguments = .ok request) :
    request.operators = true ↔ Gives arguments .operators := by
  have marks : Switch.operators ∈ Draft.marking := by decide
  exact mark_iff_gives parsed marks

/-! Command lines put together. -/

theorem portions_append (arguments : List Argument) {others : List Argument}
    (unfollowed : (portions others).1 = []) :
    portions (arguments ++ others) =
      ((portions arguments).1, (portions arguments).2 ++ (portions others).2) := by
  induction arguments with
  | nil => exact Prod.ext unfollowed rfl
  | cons first rest ih =>
    cases first with
    | plain text => simp [ih]
    | switch | unknown =>
      rw [List.cons_append, portions_head (by simp), portions_head (by simp), ih]
      rfl

theorem Draft.carryOutAll_append {draft next : Draft} (carried : carryOutAll draft list = .ok next)
    (others : List Portion) : carryOutAll draft (list ++ others) = carryOutAll next others := by
  induction list generalizing draft with
  | nil =>
    obtain rfl := Except.ok.inj carried
    rfl
  | cons portion rest ih =>
    simp only [List.cons_append, carryOutAll] at carried ⊢
    cases first : draft.carryOut portion with
    | error refusal => simp [first] at carried
    | ok later =>
      simp only [first] at carried ⊢
      exact ih carried

theorem ReadAs.append (first : ReadAs arguments list request) (second : ReadAs others list' other) :
    ReadAs (arguments ++ others) (list ++ list') (request.joined other) := by
  obtain ⟨classified, ok, cut⟩ := first.cut
  obtain ⟨classified', ok', cut'⟩ := second.cut
  refine ⟨?_, ⟨_, Argument.classifyAll_append ok ok', ?_⟩, ?_⟩
  · rw [List.mem_append, not_or]
    exact ⟨first.unended, second.unended⟩
  · rw [portions_append classified (by rw [cut']), cut, cut']
  · rw [Draft.carryOutAll_append first.carried, Draft.carryOutAll_eq, second.carried]
    rfl

/-- Two command lines, one behind the other, are read as the parts of both requests together. -/
theorem ofArguments_append (first : Request.ofArguments arguments = .ok request)
    (second : Request.ofArguments others = .ok other) :
    Request.ofArguments (arguments ++ others) = .ok (request.joined other) := by
  obtain ⟨_, read⟩ := exists_readAs first
  obtain ⟨_, read'⟩ := exists_readAs second
  exact (read.append read').ofArguments

/-- A command line of one portion. -/
theorem ofArguments_portion {portion : Portion} (written : portion.Written texts)
    (carried : Draft.empty.carryOut portion = .ok ⟨base, []⟩) :
    Request.ofArguments texts = .ok base := by
  have head : ∀ p ∈ [portion], ∀ text, p.head ≠ .plain text := by simpa using written.head
  have cut := portions_flatMap head
  rw [List.flatMap_singleton] at cut
  have read : ReadAs texts [portion] base :=
    ⟨written.unended, ⟨_, written.classified, cut⟩, by rw [Draft.carryOutAll, carried]; rfl⟩
  exact read.ofArguments

theorem ofArguments_search (parsed : Request.ofArguments arguments = .ok request) :
    Request.ofArguments ("--search" :: arguments) = .ok { request with search := true } := by
  have single : Request.ofArguments ["--search"] = .ok { Request.empty with search := true } := rfl
  rw [← List.singleton_append, ofArguments_append single parsed]
  simp [Request.joined, Request.empty]

theorem ofArguments_verbatim (parsed : Request.ofArguments arguments = .ok request)
    {fragment : String} (whole : fragment ≠ "--") :
    Request.ofArguments (("--raw" ++ "=" ++ fragment) :: arguments) =
      .ok { request with verbatim := .text fragment :: request.verbatim } := by
  have named : ("--raw", Switch.verbatim) ∈ Switch.names := by decide
  have closed : "--" ≠ "--raw" ++ "=" ++ fragment := fun same => by
    simpa using congrArg String.toList same
  have written : Portion.Written ["--raw" ++ "=" ++ fragment]
      ⟨.switch .verbatim false (some fragment), []⟩ :=
    ⟨Argument.classifyAll_cons (Argument.classify_attached named fragment) rfl, by simp,
      by simpa using closed⟩
  have carried : Draft.empty.carryOut ⟨.switch .verbatim false (some fragment), []⟩ =
      .ok ⟨{ Request.empty with verbatim := [.text fragment] }, []⟩ := by
    simp [Draft.carryOut, Draft.takeFragment, Draft.attachedFragment, whole, Draft.mapRequest,
      Draft.leave, Draft.empty, Request.empty]
  rw [← List.singleton_append, ofArguments_append (ofArguments_portion written carried) parsed]
  simp [Request.joined, Request.empty]

end DirectoryQuery.CommandLine
