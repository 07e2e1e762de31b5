import DirectoryQuery.Log
import DirectoryQuery.Proofs.Text.Occurrences
import Mathlib.Data.List.Infix

/-! What is told of a session in which the application's logger is set up any number of times, and messages
are logged in between. Whatever handlers there were, a set-up leaves one, so that from the first one on
each message to the application is told once or not at all, as the last set-up chose. No other logger is
touched, and what is said here of a logger is said of those that leave their records to the application. -/
namespace DirectoryQuery.Log

/-- The application's logger after a set-up. -/
def configured (verbose : Bool) : Logger :=
  ⟨some (chosenLevel verbose), false, [⟨chosenLevel verbose, true⟩]⟩

namespace Logger

theorem foldl_removeHandler (unwanted : List Handler) (logger : Logger) :
    unwanted.foldl removeHandler logger =
      { logger with handlers := unwanted.foldl List.erase logger.handlers } := by
  induction unwanted generalizing logger with
  | nil => rfl
  | cons handler unwanted ih =>
    rw [List.foldl_cons, ih]
    rfl

theorem foldl_erase_self (handlers : List Handler) : handlers.foldl List.erase handlers = [] := by
  induction handlers with
  | nil => rfl
  | cons handler handlers ih => rw [List.foldl_cons, List.erase_cons_head, ih]

/-- However a logger was configured, nothing of that is left. -/
theorem setUp_eq (logger : Logger) (verbose : Bool) : logger.setUp verbose = configured verbose := by
  simp only [setUp, foldl_removeHandler, foldl_erase_self]
  rfl

end Logger

namespace Name

/-- The loggers above another one are those whose names begin its own. -/
theorem ancestry_eq_inits (name : Name) : ancestry name = name.inits.reverse := by
  induction name with
  | nil => rfl
  | cons part rest ih => simp [ancestry, ih]

theorem mem_ancestry_iff {above name : Name} : above ∈ ancestry name ↔ above <+: name := by
  rw [ancestry_eq_inits, List.mem_reverse, List.mem_inits]

theorem exists_ancestry_root (name : Name) : ∃ below, ancestry name = below ++ [[]] ∧ [] ∉ below := by
  cases name with
  | nil => exact ⟨[], rfl, List.not_mem_nil⟩
  | cons part rest => exact ⟨(ancestry rest).map (part :: ·), rfl, by simp⟩

/-- On the way up from a logger of the application, the last ones are the application's and the root. -/
theorem exists_ancestry_application {name : Name} (inside : application <+: name) :
    ∃ below, ancestry name = below ++ [application, []] ∧
      ∀ above ∈ below, application <+: above ∧ above ≠ application := by
  obtain ⟨rest, rfl⟩ := inside
  obtain ⟨below, ancestry_rest, rootless⟩ := exists_ancestry_root rest
  refine ⟨below.map (application ++ ·), ?_, ?_⟩
  · show (ancestry rest).map (application ++ ·) ++ [[]] = _
    rw [ancestry_rest, List.map_append, List.append_assoc]
    rfl
  · intro above member
    obtain ⟨parts, listed, rfl⟩ := List.mem_map.mp member
    refine ⟨List.prefix_append application parts, ?_⟩
    rw [ne_eq, List.append_right_eq_self]
    rintro rfl
    exact rootless listed

theorem application_prefix_ofText_iff (text : String) :
    application <+: ofText text ↔
      text = "ldap_filter_grammar" ∨ "ldap_filter_grammar.".toList <+: text.toList := by
  have whole : '.' ∉ "ldap_filter_grammar".toList := by decide
  have pieces : application <+: (Text.pieces '.' text.toList).map String.ofList ↔
      ["ldap_filter_grammar".toList] <+: Text.pieces '.' text.toList := by
    rw [List.prefix_map_iff]
    constructor
    · rintro ⟨front, leads, same⟩
      obtain ⟨parts, rfl, name⟩ := List.map_eq_singleton_iff.mp same.symm
      rwa [← name, String.toList_ofList]
    · intro leads
      exact ⟨_, leads, rfl⟩
  rw [ofText]
  split
  · rename_i root
    simp only [Bool.or_eq_true, decide_eq_true_eq] at root
    rcases root with rfl | rfl
    all_goals exact iff_of_false (by decide) (by decide)
  · rw [pieces, Text.singleton_prefix_pieces_iff whole, String.toList_inj]
    rfl

end Name

/-- A logger that leaves its records to the application: the application's own, or one below it that
nobody has configured, as long as that is true of those between as well. -/
def Loggers.Serves (loggers : Loggers) (name : Name) : Prop :=
  application <+: name ∧
    ∀ above, above <+: name → application <+: above → above ≠ application → loggers above = .bare

instance (loggers : Loggers) : DecidablePred loggers.Serves := fun name =>
  decidable_of_iff (application <+: name ∧ ∀ above ∈ name.ancestry,
      application <+: above → above ≠ application → loggers above = .bare)
    (and_congr_right fun _ => forall_congr' fun _ => by rw [Name.mem_ancestry_iff])

inductive Event
  | setUp (verbose : Bool)
  | message (record : Record)

namespace Loggers

def after (loggers : Loggers) : Event → Loggers
  | .setUp verbose => loggers.setUp verbose
  | .message _ => loggers

def afterAll (loggers : Loggers) (events : List Event) : Loggers := events.foldl after loggers

/-- The messages of a session, each with what it adds to the error stream. -/
def told (loggers : Loggers) : List Event → List (Record × String)
  | [] => []
  | .setUp verbose :: events => (loggers.setUp verbose).told events
  | .message record :: events => (record, loggers.written record) :: loggers.told events

variable {loggers : Loggers} {verbose : Bool} {name : Name} {record : Record}

theorem setUp_application (loggers : Loggers) (verbose : Bool) :
    loggers.setUp verbose application = configured verbose := by
  rw [setUp, if_pos rfl, Logger.setUp_eq]

theorem setUp_of_ne (other : name ≠ application) : loggers.setUp verbose name = loggers name := by
  rw [setUp, if_neg other]

/-- A set-up makes up for all that earlier ones did. -/
theorem setUp_setUp (loggers : Loggers) (verbose again : Bool) :
    (loggers.setUp verbose).setUp again = loggers.setUp again := by
  funext name
  by_cases own : name = application
  · rw [own, setUp_application, setUp_application]
  · rw [setUp_of_ne own, setUp_of_ne own, setUp_of_ne own]

/-- It does not matter to the others how the application's own logger is configured. -/
theorem serves_congr {others : Loggers}
    (same : ∀ name, name ≠ application → others name = loggers name) :
    others.Serves name ↔ loggers.Serves name := by
  refine and_congr_right fun _ => ?_
  constructor
  · intro bare above leads inside other
    rw [← same above other, bare above leads inside other]
  · intro bare above leads inside other
    rw [same above other, bare above leads inside other]

theorem exists_path_of_serves (serves : loggers.Serves name) :
    ∃ below, name.ancestry = below ++ [application, []] ∧ ∀ above ∈ below, loggers above = .bare := by
  obtain ⟨below, path, within⟩ := Name.exists_ancestry_application serves.1
  refine ⟨below, path, ?_⟩
  intro above member
  have leads : above <+: name := Name.mem_ancestry_iff.mp (by simp [path, member])
  exact serves.2 above leads (within above member).1 (within above member).2

theorem reached_append_of_bare {below : List Name} (bare : ∀ above ∈ below, loggers above = .bare)
    (names : List Name) : loggers.reached (below ++ names) = loggers.reached names := by
  induction below with
  | nil => rfl
  | cons above below ih =>
    rw [List.cons_append, reached, bare above (.head _), ih fun other member => bare other (.tail _ member)]
    rfl

theorem threshold_of_serves (own : loggers application = configured verbose)
    (serves : loggers.Serves name) :
    loggers.threshold name = chosenLevel verbose := by
  obtain ⟨below, path, bare⟩ := exists_path_of_serves serves
  have unset : below.findSome? (fun above => (loggers above).level) = none := by
    rw [List.findSome?_eq_none_iff]
    intro above member
    rw [bare above member]
    rfl
  rw [threshold, path, List.findSome?_append, unset, Option.none_or, List.findSome?_cons, own]
  rfl

theorem handlersOf_of_serves (own : loggers application = configured verbose)
    (serves : loggers.Serves name) :
    loggers.handlersOf name = [⟨chosenLevel verbose, true⟩] := by
  obtain ⟨below, path, bare⟩ := exists_path_of_serves serves
  have reached : loggers.reached name.ancestry = [⟨chosenLevel verbose, true⟩] := by
    rw [path, reached_append_of_bare bare, reached, own]
    rfl
  rw [handlersOf, reached]

/-- A record as the application tells it, if it matters enough. -/
def due (verbose : Bool) (record : Record) : String :=
  if record.level.reaches (chosenLevel verbose) then
    "[" ++ record.level.name ++ "] " ++ record.message ++ "\n"
  else ""

theorem ne_all_of_reaches {level : Level} (reaches : level.reaches (chosenLevel verbose) = true) :
    level ≠ .all := by
  rintro rfl
  cases verbose <;> exact absurd reaches (by decide)

/-- The logger that decides and the one handler ask for the same level. -/
theorem written_of_serves (own : loggers application = configured verbose)
    (serves : loggers.Serves record.logger) :
    loggers.written record = due verbose record := by
  rw [written, threshold_of_serves own serves, handlersOf_of_serves own serves, due]
  by_cases reaches : record.level.reaches (chosenLevel verbose) = true
  · rw [if_pos ⟨ne_all_of_reaches reaches, reaches⟩, if_pos reaches]
    simp [Handler.line, reaches]
  · rw [if_neg fun counts => reaches counts.2, if_neg reaches]

theorem transcript_append (loggers : Loggers) (records others : List Record) :
    loggers.transcript (records ++ others) = loggers.transcript records ++ loggers.transcript others := by
  simp [transcript]

theorem transcript_setUp {records : List Record}
    (served : ∀ record ∈ records, loggers.Serves record.logger) (verbose : Bool) :
    (loggers.setUp verbose).transcript records = String.join (records.map (due verbose)) := by
  refine congrArg String.join (List.map_congr_left fun record logged => ?_)
  exact written_of_serves (setUp_application loggers verbose)
    ((serves_congr fun _ other => setUp_of_ne other).mpr (served record logged))

theorem serves_initial (inside : application <+: name) : initial.Serves name := by
  refine ⟨inside, fun above _ within _ => ?_⟩
  have named : above ≠ [] := by
    rintro rfl
    exact absurd within (by decide)
  rw [initial, if_neg named]

theorem afterAll_of_ne (other : name ≠ application) (loggers : Loggers) (events : List Event) :
    loggers.afterAll events name = loggers name := by
  induction events generalizing loggers with
  | nil => rfl
  | cons event events ih =>
    cases event with
    | setUp verbose => exact (ih _).trans (setUp_of_ne other)
    | message record => exact ih _

/-- What the last set-up of a session chose, after one that chose this. -/
def lastChoice (verbose : Bool) : List Event → Bool
  | [] => verbose
  | .setUp again :: events => lastChoice again events
  | .message _ :: events => lastChoice verbose events

theorem afterAll_setUp (loggers : Loggers) (verbose : Bool) (events : List Event) :
    (loggers.setUp verbose).afterAll events = loggers.setUp (lastChoice verbose events) := by
  induction events generalizing verbose with
  | nil => rfl
  | cons event events ih =>
    cases event with
    | setUp again =>
      show ((loggers.setUp verbose).setUp again).afterAll events = _
      rw [setUp_setUp, ih]
      rfl
    | message record => exact ih verbose

theorem told_append (loggers : Loggers) (events others : List Event) :
    loggers.told (events ++ others) = loggers.told events ++ (loggers.afterAll events).told others := by
  induction events generalizing loggers with
  | nil => rfl
  | cons event events ih =>
    cases event with
    | setUp verbose => exact ih _
    | message record => exact congrArg (_ :: ·) (ih _)

/-- The messages of a session, each as the application tells it after the last set-up before it. -/
def dueAll (verbose : Bool) : List Event → List (Record × String)
  | [] => []
  | .setUp again :: events => dueAll again events
  | .message record :: events => (record, due verbose record) :: dueAll verbose events

/-- Of the messages that are left to the application, what is told after a set-up is what is due. -/
theorem told_setUp (loggers : Loggers) (verbose : Bool) (events : List Event) :
    ((loggers.setUp verbose).told events).filter (fun line => loggers.Serves line.1.logger) =
      (dueAll verbose events).filter fun line => loggers.Serves line.1.logger := by
  induction events generalizing verbose with
  | nil => rfl
  | cons event events ih =>
    cases event with
    | setUp again =>
      rw [told, setUp_setUp, dueAll, ih]
    | message record =>
      rw [told, dueAll]
      by_cases serves : loggers.Serves record.logger
      · have written := written_of_serves (setUp_application loggers verbose)
          ((serves_congr fun _ other => setUp_of_ne other).mpr serves)
        simp only [List.filter_cons, serves, decide_true, if_true, written, ih]
      · simp only [List.filter_cons, serves, decide_false, Bool.false_eq_true, if_false, ih]

/-- From the first set-up of a session on, the application's logger has one handler, of its own level, and
passes nothing on. That level is what the last set-up chose, and no other logger is touched. Of every
message that is left to the application, in the order of the messages, one line is told if it reaches
the level that was last chosen before it, and nothing if it does not. Such a message is one to a logger
named for the application or, behind its name and a point, for a part of it. -/
theorem told_once_since_setUp (loggers : Loggers) (before : List Event) (verbose : Bool)
    (later : List Event) :
    let events := before ++ .setUp verbose :: later
    let level := if lastChoice verbose later then Level.debug else .info
    loggers.afterAll events application = ⟨some level, false, [⟨level, true⟩]⟩ ∧
    (∀ name, name ≠ application → loggers.afterAll events name = loggers name) ∧
    ∃ since, loggers.told events = loggers.told before ++ since ∧
      since.filter (fun line => loggers.Serves line.1.logger) =
        (dueAll verbose later).filter (fun line => loggers.Serves line.1.logger) ∧
      ∀ text, application <+: Name.ofText text ↔
        text = "ldap_filter_grammar" ∨ "ldap_filter_grammar.".toList <+: text.toList := by
  intro events level
  have present : loggers.afterAll events =
      (loggers.afterAll before).setUp (lastChoice verbose later) := by
    rw [← afterAll_setUp, afterAll, List.foldl_append]
    rfl
  refine ⟨?_, ?_, _, told_append loggers before _, ?_, Name.application_prefix_ofText_iff⟩
  · rw [present, setUp_application]
    rfl
  · intro name other
    exact afterAll_of_ne other loggers events
  · have same (name : Name) : (loggers.afterAll before).Serves name ↔ loggers.Serves name :=
      serves_congr fun _ other => afterAll_of_ne other loggers before
    simpa only [told, same] using told_setUp (loggers.afterAll before) verbose later

/-- Two handlers from before, and a set-up after another one. -/
example : (Loggers.told
    (fun name => if name = application then ⟨some .error, true, [⟨.all, true⟩, ⟨.info, false⟩]⟩ else .bare)
    [.message ⟨application, .error, "early"⟩, .setUp true, .message ⟨compiler, .debug, "a"⟩,
      .setUp false, .message ⟨directory, .debug, "b"⟩, .message ⟨directory, ⟨25⟩, "c"⟩]).map Prod.snd =
    ["[ERROR] early\nearly\n", "[DEBUG] a\n", "", "[Level 25] c\n"] := by decide

end Loggers

end DirectoryQuery.Log
