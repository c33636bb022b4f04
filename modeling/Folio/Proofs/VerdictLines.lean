-- SUMMARY: The lines that the handlers of the library's logger are given for verdicts.
import Folio.Journal.Verdict
import Folio.Proofs.LoggerHistory

/-!
# The lines for verdicts

Verdicts are recorded two names below the library's logger, at the level of debugging.
As long as neither of these names has a level of its own, it is the level of the library's
logger that decides whether the record is made, or that of the root if the former is 0.
The handlers of a logger that was configured have its level, so they refuse nothing that
was made.

Recording a verdict changes no logger. So it is enough to say what one record adds to what
a handler was given (`received_write`), whatever came before; a run of checks adds that
much for each of them (`received_checkEach`). What the lines say is put together here once
more, from the check and the layout that was asked for (`Check.line`).
-/

namespace Folio.Journal

/-! ## Checks -/

/-- A tree to be judged, by asking for the verdict or by validation. -/
inductive Check where
  | isWellFormed (node : Node) (options : Option Options)
  | validate (node : Node) (options : Option Options)

namespace Check

def node : Check → Node
  | isWellFormed node _ => node
  | validate node _ => node

/-- Whether the tree is well-formed. -/
def verdict : Check → Bool
  | isWellFormed node options => node.isWellFormed options
  | validate node options => node.isWellFormed options

/-- What the caller is given; for a refused tree this may be an error. -/
def answer : Check → Except Error Bool
  | isWellFormed node options => .ok (node.isWellFormed options)
  | validate node options => node.validate options

def act (time : String) : Check → Action Bool
  | isWellFormed node options => judge time node options
  | validate node options => Journal.validate time node options

/-- The name of the root's kind and the verdict. -/
def message (check : Check) : String :=
  check.node.kind.name ++ " tree is " ++
    (if check.verdict then "well-formed" else "not well-formed")

def record (check : Check) : Record where
  logger := grammarLogger
  level := .debug
  message := check.message

/-- The line for a check at a time, as it is with tracing and without. -/
def line (check : Check) (traced : Bool) (time : String) : String :=
  (if traced then "[" ++ time ++ "] [DEBUG] [domtree.ast.grammar] " else "DEBUG: ") ++ check.message

end Check

theorem verdictRecord_eq (check : Check) :
    verdictRecord check.node check.verdict = check.record := by
  unfold verdictRecord Check.record Check.message
  rw [String.append_assoc]
  cases check.verdict <;> rfl

/-- Whatever stands in front of it, a line ends with the message. -/
theorem render_record (configuration : Configuration) (time : String) (check : Check) :
    configuration.layout.render time check.record = check.line configuration.traced time := by
  rw [Layout.render_eq, Check.line, Configuration.layout]
  cases configuration.traced with
  | true =>
    have hname : grammarLogger.text = "domtree.ast.grammar" := by decide
    have hfront : String.join (Layout.traced.front.map (Part.render time check.record)) =
        "[" ++ time ++ "] [" ++ "DEBUG" ++ "] [" ++ grammarLogger.text ++ "] " := rfl
    simp only [if_true, hfront, hname, String.append_assoc]
    rfl
  | false => rfl

/-- Judging never fails, and what comes next finds the verdict recorded. -/
theorem judge_bind_runOn {α : Type} (time : String) (node : Node) (options : Option Options)
    (next : Bool → Action α) (journal : Journal) :
    (judge time node options >>= next).runOn journal =
      (next (node.isWellFormed options)).runOn
        (journal.write time (verdictRecord node (node.isWellFormed options))) := rfl

/-- The verdict is recorded whether or not it then becomes an error. -/
theorem validate_runOn (time : String) (node : Node) (options : Option Options) (journal : Journal) :
    (validate time node options).runOn journal =
      (node.validate options,
        journal.write time (verdictRecord node (node.isWellFormed options))) := by
  unfold validate Node.validate
  rw [judge_bind_runOn]
  by_cases hrefused : ((Options.resolve options).strict && !node.isWellFormed options) = true
  · rw [if_pos hrefused, if_pos hrefused]
    rfl
  · rw [if_neg hrefused, if_neg hrefused]
    rfl

theorem act_runOn (time : String) (check : Check) (journal : Journal) :
    (check.act time).runOn journal = (check.answer, journal.write time check.record) := by
  rw [← verdictRecord_eq]
  cases check with
  | isWellFormed node options => rfl
  | validate node options => exact validate_runOn time node options journal

/-- Checks one after the other, each at its time. -/
def checkEach (journal : Journal) (calls : List (String × Check)) :
    List (Except Error Bool) × Journal :=
  journal.run (calls.map fun call => call.2.act call.1)

/-! ## What a handler was given -/

/-- The lines that a handler was given, in order. -/
def received (journal : Journal) (holder : LoggerName) (place : Nat) : List Delivery :=
  journal.delivered.filter fun delivery => delivery.holder = holder ∧ delivery.place = place

/-- What the handler at a place is given for a record. -/
def Handler.delivery (handler : Handler) (holder : LoggerName) (place : Nat) (time : String)
    (record : Record) : Delivery where
  holder := holder
  place := place
  sink := handler.sink
  line := handler.layout.render time record

theorem filter_zipIdx {α : Type} {xs : List α} {x : α} {place : Nat} (start : Nat)
    (h : xs[place]? = some x) :
    ((xs.zipIdx start).filter fun entry => entry.2 = start + place) = [(x, start + place)] := by
  induction xs generalizing start place with
  | nil => cases h
  | cons y xs ih =>
    rw [List.zipIdx_cons]
    cases place with
    | zero =>
      obtain rfl : y = x := by simpa using h
      have hlater : ∀ entry ∈ xs.zipIdx (start + 1), ¬ (decide (entry.2 = start + 0)) = true := by
        intro entry hentry
        have hle := List.le_snd_of_mem_zipIdx hentry
        simp only [decide_eq_true_eq]
        omega
      rw [List.filter_cons_of_pos (by simp), List.filter_eq_nil_iff.mpr hlater]
      rfl
    | succ place =>
      have hnext : start + (place + 1) = start + 1 + place := by omega
      rw [List.filter_cons_of_neg (by simp), hnext]
      exact ih (start + 1) (by simpa using h)

section

variable {logger : Logger} {handler : Handler} {place : Nat} (holder : LoggerName) (time : String)
  (record : Record)

/-- One handler of a logger is given at most one line for a record. -/
theorem filter_deliveries (h : logger.handlers[place]? = some handler) :
    ((logger.deliveries holder time record).filter fun delivery =>
        delivery.holder = holder ∧ delivery.place = place) =
      if handler.passes record then [handler.delivery holder place time record] else [] := by
  have hplace : (logger.handlers.zipIdx.filter fun entry => entry.2 = place) = [(handler, place)] := by
    simpa using filter_zipIdx 0 h
  have hswap : ((logger.handlers.zipIdx.filter fun entry => entry.1.passes record).filter
        fun entry => entry.2 = place) =
      [(handler, place)].filter fun entry => entry.1.passes record := by
    simp only [← hplace, List.filter_filter, Bool.and_comm]
  simp only [Logger.deliveries, List.filter_map, Function.comp_def, true_and, hswap]
  by_cases hpasses : handler.passes record = true
  · simp only [hpasses, List.filter_cons_of_pos, List.filter_nil, if_true]
    rfl
  · simp [hpasses]

theorem filter_deliveries_of_ne {other : LoggerName} (h : other ≠ holder) :
    ((logger.deliveries other time record).filter fun delivery =>
        delivery.holder = holder ∧ delivery.place = place) = [] := by
  rw [List.filter_eq_nil_iff]
  intro delivery hdelivery
  obtain ⟨entry, -, rfl⟩ := List.mem_map.mp hdelivery
  simp [h]

end

/-! ## Levels -/

/-- The loggers around the library's own are at the levels that they have to begin with: those
    below it have none, and the root lets warnings through. -/
structure Untouched (journal : Journal) : Prop where
  grammar : (journal.logger grammarLogger).severity.rank = 0
  ast : (journal.logger ["domtree", "ast"]).severity.rank = 0
  root : (journal.logger .root).severity.rank = 30

theorem untouched_initial : Untouched initial where
  grammar := rfl
  ast := rfl
  root := rfl

/-- What is done with the library's own logger does not count. -/
theorem untouched_of_others {journal next : Journal} (h : Untouched journal)
    (hnext : ∀ name, name ≠ defaultLogger → next.logger name = journal.logger name) :
    Untouched next where
  grammar := by
    rw [hnext grammarLogger (by decide)]
    exact h.grammar
  ast := by
    rw [hnext ["domtree", "ast"] (by decide)]
    exact h.ast
  root := by
    rw [hnext .root (by decide)]
    exact h.root

theorem untouched_configure {journal : Journal} (h : Untouched journal) (time : String)
    {configuration : Configuration} (hlogger : configuration.logger = defaultLogger) :
    Untouched ((configure time configuration).runOn journal).2 := by
  have houtcome := configure_outcome time configuration journal
  generalize (configure time configuration).runOn journal = outcome at houtcome
  cases houtcome with
  | done _ _ hother =>
    rw [hlogger] at hother
    exact untouched_of_others h hother
  | refused _ => exact h

theorem ancestry_grammarLogger :
    grammarLogger.ancestry = [grammarLogger, ["domtree", "ast"], defaultLogger, .root] := by
  decide

/-- The records of verdicts are made if the library's logger lets them through by a level of its
    own. -/
theorem effectiveRank_grammarLogger_le_iff {journal : Journal} (h : Untouched journal) :
    journal.effectiveRank grammarLogger ≤ RecordLevel.debug.rank ↔
      (journal.logger defaultLogger).severity.rank ≠ 0 ∧
        (journal.logger defaultLogger).severity.rank ≤ 10 := by
  simp only [effectiveRank, ancestry_grammarLogger, List.map_cons, List.map_nil, h.grammar, h.ast,
    h.root, RecordLevel.rank]
  by_cases hzero : (journal.logger defaultLogger).severity.rank = 0
  · simp [hzero]
  · simp [hzero]

/-- The handler stands at the place among those of the library's logger, writes somewhere, and has
    the logger's level. -/
structure Listening (place : Nat) (handler : Handler) (journal : Journal) : Prop extends
    Untouched journal where
  held : (journal.logger defaultLogger).handlers[place]? = some handler
  writes : handler.sink ≠ .nowhere
  level : handler.severity = (journal.logger defaultLogger).severity

section

variable {journal : Journal} {place : Nat} {handler : Handler}

theorem listening_write (h : Listening place handler journal) (time : String) (record : Record) :
    Listening place handler (journal.write time record) where
  toUntouched := untouched_of_others h.toUntouched fun name _ => logger_write journal time record name
  held := by
    rw [logger_write]
    exact h.held
  writes := h.writes
  level := by
    rw [logger_write]
    exact h.level

/-- What one verdict adds to what the handler was given. -/
theorem received_write (h : Listening place handler journal) (time : String) (check : Check) :
    (journal.write time check.record).received defaultLogger place =
      journal.received defaultLogger place ++
        if handler.severity.rank ≠ 0 ∧ handler.severity.rank ≤ 10 then
          [handler.delivery defaultLogger place time check.record]
        else [] := by
  have hmade := effectiveRank_grammarLogger_le_iff h.toUntouched
  rw [← h.level] at hmade
  have hlogger : check.record.logger = grammarLogger := rfl
  have hdebug : check.record.level = .debug := rfl
  rw [received, write, List.filter_append, received, deliveries, hlogger, hdebug]
  by_cases hlevel : handler.severity.rank ≠ 0 ∧ handler.severity.rank ≤ 10
  · have hpasses : handler.passes check.record = true :=
      decide_eq_true ⟨h.writes, hlevel.2⟩
    rw [if_pos hlevel, if_pos (hmade.mpr hlevel), ancestry_grammarLogger]
    simp only [List.flatMap_cons, List.flatMap_nil, List.append_nil, List.filter_append]
    have hgrammar : grammarLogger ≠ defaultLogger := by decide
    have hast : ["domtree", "ast"] ≠ defaultLogger := by decide
    have hroot : LoggerName.root ≠ defaultLogger := by decide
    rw [filter_deliveries_of_ne _ _ _ hgrammar, filter_deliveries_of_ne _ _ _ hast,
      filter_deliveries_of_ne _ _ _ hroot, filter_deliveries _ _ _ h.held, if_pos hpasses]
    rfl
  · rw [if_neg hlevel, if_neg (mt hmade.mp hlevel)]
    rfl

/-! ## Runs -/

theorem checkEach_cons (journal : Journal) (call : String × Check) (calls : List (String × Check)) :
    journal.checkEach (call :: calls) =
      let (answers, last) := (journal.write call.1 call.2.record).checkEach calls
      (call.2.answer :: answers, last) := by
  rw [checkEach, List.map_cons, run, act_runOn]
  rfl

theorem answers_checkEach (journal : Journal) (calls : List (String × Check)) :
    (journal.checkEach calls).1 = calls.map fun call => call.2.answer := by
  induction calls generalizing journal with
  | nil => rfl
  | cons call calls ih =>
    rw [checkEach_cons, List.map_cons]
    exact congrArg _ (ih (journal.write call.1 call.2.record))

theorem logger_checkEach (journal : Journal) (calls : List (String × Check)) (name : LoggerName) :
    (journal.checkEach calls).2.logger name = journal.logger name := by
  induction calls generalizing journal with
  | nil => rfl
  | cons call calls ih =>
    rw [checkEach_cons]
    exact (ih _).trans (logger_write journal call.1 call.2.record name)

theorem untouched_checkEach (h : Untouched journal) (calls : List (String × Check)) :
    Untouched (journal.checkEach calls).2 :=
  untouched_of_others h fun name _ => logger_checkEach journal calls name

/-- Each verdict adds its line behind those of the calls before. -/
theorem received_checkEach (h : Listening place handler journal) (calls : List (String × Check)) :
    (journal.checkEach calls).2.received defaultLogger place =
      journal.received defaultLogger place ++
        if handler.severity.rank ≠ 0 ∧ handler.severity.rank ≤ 10 then
          calls.map fun call => handler.delivery defaultLogger place call.1 call.2.record
        else [] := by
  induction calls generalizing journal with
  | nil => simp [checkEach, run]
  | cons call calls ih =>
    rw [checkEach_cons]
    simp only [ih (listening_write h call.1 call.2.record), received_write h, List.append_assoc]
    congr 1
    split <;> rfl

end

/-- The handlers of a logger that was configured write somewhere, and have the level and the layout
    that were asked for. -/
theorem handler_of_carries {configuration : Configuration} {severity : Severity} {logger : Logger}
    (h : Carries configuration severity logger) {place : Nat} {handler : Handler}
    (hplace : logger.handlers[place]? = some handler) :
    ∃ sink, sink ≠ .nowhere ∧ handler = configuration.handler severity sink := by
  have hmem : handler ∈ logger.handlers := List.mem_of_getElem? hplace
  obtain ⟨path, -, hhandlers⟩ | ⟨-, hhandlers⟩ := h.handlers
  · rw [hhandlers] at hmem
    obtain rfl | hmem := List.mem_cons.mp hmem
    · exact ⟨.console, nofun, rfl⟩
    · exact ⟨.file path, nofun, List.mem_singleton.mp hmem⟩
  · rw [hhandlers] at hmem
    exact ⟨.console, nofun, List.mem_singleton.mp hmem⟩

/-- After a configuration of the library's logger that gave the logger back, whatever trees are
    then checked with whatever options: every handler of the logger is given one line for each
    check, in the order of the checks, also where the verdict becomes an error; this if the level
    that was set is not 0 and not above 10. At any other level the handlers are given nothing.
    In either layout the line ends with the name of the root's kind and the verdict; in front of
    them stands the level, and with tracing also the time and the logger that made the record. -/
theorem lines_of_checks (journal : Journal) (hjournal : Untouched journal) (time : String)
    (configuration : Configuration) (hlogger : configuration.logger = defaultLogger)
    (name : LoggerName) (configured : Journal)
    (hconfigured : (configure time configuration).runOn journal = (.ok name, configured)) :
    ∃ severity, Level.resolve configuration.level = .severity severity ∧
      Carries configuration severity (configured.logger defaultLogger) ∧
      ∀ calls : List (String × Check), ∃ ended,
        configured.checkEach calls = (calls.map fun call => call.2.answer, ended) ∧
        Untouched ended ∧
        ∀ place handler, (configured.logger defaultLogger).handlers[place]? = some handler →
          ended.received defaultLogger place =
            configured.received defaultLogger place ++
              if severity.rank ≠ 0 ∧ severity.rank ≤ 10 then
                calls.map fun call =>
                  { holder := defaultLogger, place, sink := handler.sink,
                    line := call.2.line configuration.traced call.1 }
              else [] := by
  have huntouched := untouched_configure hjournal time hlogger
  have houtcome := configure_outcome time configuration journal
  rw [hconfigured] at huntouched houtcome
  cases houtcome with
  | done hlevel hcarries _ =>
    rw [hlogger] at hcarries
    refine ⟨_, hlevel, hcarries, fun calls => ?_⟩
    refine ⟨(configured.checkEach calls).2, ?answers, untouched_checkEach huntouched calls, ?lines⟩
    case answers => exact Prod.ext (answers_checkEach configured calls) rfl
    case lines =>
      intro place handler hplace
      obtain ⟨sink, hsink, rfl⟩ := handler_of_carries hcarries hplace
      have hlistening : Listening place (configuration.handler _ sink) configured :=
        { huntouched with held := hplace, writes := hsink, level := hcarries.level.symm }
      simp only [received_checkEach hlistening, Handler.delivery, Configuration.handler,
        render_record]

/-- Everything is shown on the console and also goes to a file. -/
def verbose (traced : Bool) : Configuration where
  level := .text "debug"
  file := some { path := "a.log" }
  traced := traced

/-- A document, and a paragraph that is refused strictly. -/
def twoChecks : List (String × Check) :=
  [("2", .isWellFormed (.element .body .empty) none),
    ("3", .validate (.element .para .empty) (some { strict := true }))]

/-- A refused tree that is validated strictly has its line in the file, in either layout. -/
theorem lines_of_strict_refusal :
    (∃ configured ended,
      (configure "1" (verbose false)).runOn initial = (.ok defaultLogger, configured) ∧
      configured.checkEach twoChecks = ([.ok true, .error (.ungrammatical .para)], ended) ∧
      (ended.received defaultLogger 1).map Delivery.line =
        ["INFO: Logging to file: a.log", "DEBUG: Body tree is well-formed",
          "DEBUG: Para tree is not well-formed"]) ∧
    ∃ configured ended,
      (configure "1" (verbose true)).runOn initial = (.ok defaultLogger, configured) ∧
      configured.checkEach twoChecks = ([.ok true, .error (.ungrammatical .para)], ended) ∧
      (ended.received defaultLogger 1).map Delivery.line =
        ["[1] [INFO] [domtree] Logging to file: a.log",
          "[2] [DEBUG] [domtree.ast.grammar] Body tree is well-formed",
          "[3] [DEBUG] [domtree.ast.grammar] Para tree is not well-formed"] := by
  refine ⟨?plain, ?traced⟩
  case plain =>
    obtain ⟨severity, hlevel, -, hchecks⟩ :=
      lines_of_checks initial untouched_initial "1" (verbose false) rfl defaultLogger _ rfl
    obtain rfl : Severity.number 10 = severity := Level.severity.inj hlevel
    obtain ⟨ended, hrun, -, hlines⟩ := hchecks twoChecks
    refine ⟨_, ended, rfl, hrun, ?_⟩
    rw [hlines 1 ((verbose false).handler (.number 10) (.file "a.log")) rfl]
    rfl
  case traced =>
    obtain ⟨severity, hlevel, -, hchecks⟩ :=
      lines_of_checks initial untouched_initial "1" (verbose true) rfl defaultLogger _ rfl
    obtain rfl : Severity.number 10 = severity := Level.severity.inj hlevel
    obtain ⟨ended, hrun, -, hlines⟩ := hchecks twoChecks
    refine ⟨_, ended, rfl, hrun, ?_⟩
    rw [hlines 1 ((verbose true).handler (.number 10) (.file "a.log")) rfl]
    rfl

end Folio.Journal
