-- SUMMARY: What a logger carries after any run of configurations, those included that are refused.
import Folio.Journal.Configuration
import Folio.Proofs.LatestCall

/-!
# The history of a logger

A configuration that is carried out leaves a logger with the level it asked for and with
handlers of its own only: a console handler, and a file handler behind it if a log file
was asked for and could be opened (`Carries`). One whose level is no level fails in its
first step and leaves the journal as it is. So handlers do not pile up, however often a
logger is configured: what it carries after a run is what the last configuration of it
that was carried out asked for (`logger_of_run`).

Writing a record changes no logger, so the records that a configuration writes about its
log file need no thought here.
-/

namespace Folio.Journal

/-! ## What is asked for -/

/-- The configuration gives a log file with this path, and the file can be opened. -/
def Configuration.Opens (configuration : Configuration) (path : String) : Prop :=
  ∃ file, configuration.file = some file ∧ file.path = path ∧ path ≠ "" ∧ file.access = .writable

/-- Why something cannot be set as a level, if it is none. -/
def Level.refusal? : Level → Option Error
  | .severity _ => none
  | .template text => some (.unknownLevel text)
  | .styles => some (.levelRefused stylesLiteral)

/-- A handler with the level that was resolved and with the layout that was asked for. -/
def Configuration.handler (configuration : Configuration) (severity : Severity) (sink : Sink) :
    Handler where
  sink := sink
  severity := severity
  layout := configuration.layout

/-- The logger has the level, and one console handler with the level; behind it stands a file
    handler with the level if there is a log file that can be opened, and no handler otherwise. -/
structure Carries (configuration : Configuration) (severity : Severity) (logger : Logger) : Prop where
  level : logger.severity = severity
  handlers :
    (∃ path, configuration.Opens path ∧
        logger.handlers =
          [configuration.handler severity .console, configuration.handler severity (.file path)]) ∨
      (∀ path, ¬ configuration.Opens path) ∧
        logger.handlers = [configuration.handler severity .console]

theorem opens_of_file? {configuration : Configuration} {file : LogFile}
    (hfile : configuration.file? = some file) (hrefusal : file.refusal? = none) :
    configuration.Opens file.path := by
  obtain ⟨hgiven, hpath⟩ := Option.filter_eq_some_iff.mp hfile
  refine ⟨file, hgiven, rfl, by simpa using hpath, ?_⟩
  unfold LogFile.refusal? at hrefusal
  cases haccess : file.access with
  | writable => rfl
  | _ =>
    rw [haccess] at hrefusal
    cases hrefusal

theorem file?_of_opens {configuration : Configuration} {path : String}
    (h : configuration.Opens path) :
    ∃ file, configuration.file? = some file ∧ file.refusal? = none := by
  obtain ⟨file, hgiven, rfl, hpath, haccess⟩ := h
  refine ⟨file, Option.filter_eq_some_iff.mpr ⟨hgiven, by simpa using hpath⟩, ?_⟩
  unfold LogFile.refusal?
  rw [haccess]

theorem not_opens_of_file? {configuration : Configuration}
    (h : ∀ file, configuration.file? = some file → file.refusal? ≠ none) :
    ∀ path, ¬ configuration.Opens path := by
  intro path hopens
  obtain ⟨file, hfile, hrefusal⟩ := file?_of_opens hopens
  exact h file hfile hrefusal

/-! ## One configuration -/

section

variable {configuration : Configuration} {severity : Severity}

/-- The journal after the steps that every configuration makes: the level is set, the handlers are
    cleared, the console handler is added. -/
def shownOnly (configuration : Configuration) (severity : Severity) (journal : Journal) : Journal :=
  let name := configuration.logger
  ((journal.adjust name fun logger => { logger with severity }).adjust name fun logger =>
    { logger with handlers := [] }).adjust name fun logger =>
      { logger with handlers := logger.handlers ++ [configuration.handler severity .console] }

/-- The journal after a file handler was added as well. -/
def filed (configuration : Configuration) (severity : Severity) (path : String) (journal : Journal) :
    Journal :=
  (shownOnly configuration severity journal).adjust configuration.logger fun logger =>
    { logger with handlers := logger.handlers ++ [configuration.handler severity (.file path)] }

theorem carries_shownOnly (journal : Journal) (h : ∀ path, ¬ configuration.Opens path) :
    Carries configuration severity
      ((shownOnly configuration severity journal).logger configuration.logger) := by
  simp only [shownOnly, logger_adjust, List.nil_append]
  exact ⟨rfl, .inr ⟨h, rfl⟩⟩

theorem carries_filed {path : String} (journal : Journal) (h : configuration.Opens path) :
    Carries configuration severity
      ((filed configuration severity path journal).logger configuration.logger) := by
  simp only [filed, shownOnly, logger_adjust, List.nil_append, List.singleton_append]
  exact ⟨rfl, .inl ⟨path, h, rfl⟩⟩

theorem logger_shownOnly_of_ne (journal : Journal) {other : LoggerName}
    (h : other ≠ configuration.logger) :
    (shownOnly configuration severity journal).logger other = journal.logger other := by
  simp only [shownOnly, logger_adjust_of_ne _ _ h]

theorem logger_filed_of_ne (path : String) (journal : Journal) {other : LoggerName}
    (h : other ≠ configuration.logger) :
    (filed configuration severity path journal).logger other = journal.logger other := by
  simp only [filed, logger_adjust_of_ne _ _ h, logger_shownOnly_of_ne _ h]

variable (time : String) (journal : Journal)

theorem configure_of_template {text : String} (hlevel : Level.resolve configuration.level = .template text) :
    (configure time configuration).runOn journal = (.error (.unknownLevel text), journal) := by
  unfold configure
  rw [hlevel]
  rfl

theorem configure_of_styles (hlevel : Level.resolve configuration.level = .styles) :
    (configure time configuration).runOn journal =
      (.error (.levelRefused Level.stylesLiteral), journal) := by
  unfold configure
  rw [hlevel]
  rfl

theorem configure_without_file (hlevel : Level.resolve configuration.level = .severity severity)
    (hfile : configuration.file? = none) :
    (configure time configuration).runOn journal =
      (.ok configuration.logger, shownOnly configuration severity journal) := by
  unfold configure
  rw [hlevel, hfile]
  rfl

/-- The record about the file is written when the logger has its console handler only. -/
theorem configure_of_refusal {file : LogFile} {reason : String}
    (hlevel : Level.resolve configuration.level = .severity severity)
    (hfile : configuration.file? = some file) (hrefusal : file.refusal? = some reason) :
    ∃ record, (configure time configuration).runOn journal =
      (.ok configuration.logger, (shownOnly configuration severity journal).write time record) := by
  unfold configure
  simp only [hlevel, hfile, hrefusal]
  exact ⟨_, rfl⟩

/-- The record about the file is written when the logger has both handlers. -/
theorem configure_with_file {file : LogFile}
    (hlevel : Level.resolve configuration.level = .severity severity)
    (hfile : configuration.file? = some file) (hrefusal : file.refusal? = none) :
    ∃ record, (configure time configuration).runOn journal =
      (.ok configuration.logger, (filed configuration severity file.path journal).write time record) := by
  unfold configure
  simp only [hlevel, hfile, hrefusal]
  exact ⟨_, rfl⟩

end

/-- The two ways in which a configuration can end. -/
inductive Outcome (configuration : Configuration) (journal : Journal) :
    Except Error LoggerName × Journal → Prop
  | done {severity : Severity} {next : Journal} :
      Level.resolve configuration.level = .severity severity →
      Carries configuration severity (next.logger configuration.logger) →
      (∀ other, other ≠ configuration.logger → next.logger other = journal.logger other) →
      Outcome configuration journal (.ok configuration.logger, next)
  | refused {e : Error} :
      (Level.resolve configuration.level).refusal? = some e →
      Outcome configuration journal (.error e, journal)

theorem configure_outcome (time : String) (configuration : Configuration) (journal : Journal) :
    Outcome configuration journal ((configure time configuration).runOn journal) := by
  cases hlevel : Level.resolve configuration.level with
  | template text =>
    rw [configure_of_template time journal hlevel]
    exact .refused (congrArg Level.refusal? hlevel)
  | styles =>
    rw [configure_of_styles time journal hlevel]
    exact .refused (congrArg Level.refusal? hlevel)
  | severity severity =>
    cases hfile : configuration.file? with
    | none =>
      have hnone : ∀ path, ¬ configuration.Opens path := not_opens_of_file? (by simp [hfile])
      rw [configure_without_file time journal hlevel hfile]
      exact .done hlevel (carries_shownOnly journal hnone)
        fun other => logger_shownOnly_of_ne journal
    | some file =>
      cases hrefusal : file.refusal? with
      | some reason =>
        have hnone : ∀ path, ¬ configuration.Opens path :=
          not_opens_of_file? (by simp [hfile, hrefusal])
        obtain ⟨record, hrun⟩ := configure_of_refusal time journal hlevel hfile hrefusal
        rw [hrun]
        exact .done hlevel (carries_shownOnly journal hnone)
          fun other => logger_shownOnly_of_ne journal
      | none =>
        obtain ⟨record, hrun⟩ := configure_with_file time journal hlevel hfile hrefusal
        rw [hrun]
        exact .done hlevel (carries_filed journal (opens_of_file? hfile hrefusal))
          fun other => logger_filed_of_ne file.path journal

/-! ## Runs -/

/-- Configurations one after the other, each at its time. -/
def configureEach (journal : Journal) (calls : List (String × Configuration)) :
    List (Except Error LoggerName) × Journal :=
  journal.run (calls.map fun call => configure call.1 call.2)

theorem last_configureEach (journal : Journal) (calls : List (String × Configuration)) :
    (journal.configureEach calls).2 =
      calls.foldl (fun between call => ((configure call.1 call.2).runOn between).2) journal := by
  rw [configureEach, last_run, List.foldl_map]

/-- The call is about the logger, and its level is a level. -/
def Sets (name : LoggerName) (call : String × Configuration) : Prop :=
  call.2.logger = name ∧ ∃ severity, Level.resolve call.2.level = .severity severity

/-- What the logger carries from the call that set it last, or what it carried to begin with. -/
def HasFrom (start logger : Logger) : Option (String × Configuration) → Prop
  | some call => ∃ severity, Level.resolve call.2.level = .severity severity ∧
      Carries call.2 severity logger
  | none => logger = start

section

variable {name : LoggerName} {call : String × Configuration}

theorem hasFrom_configure (h : Sets name call) (journal : Journal) (start : Logger) :
    HasFrom start (((configure call.1 call.2).runOn journal).2.logger name) (some call) := by
  obtain ⟨rfl, severity, hlevel⟩ := h
  have houtcome := configure_outcome call.1 call.2 journal
  generalize (configure call.1 call.2).runOn journal = outcome at houtcome
  cases houtcome with
  | done hlevel' hcarries _ => exact ⟨_, hlevel', hcarries⟩
  | refused hrefusal =>
    rw [hlevel] at hrefusal
    cases hrefusal

theorem logger_configure_of_not_sets (h : ¬ Sets name call) (journal : Journal) :
    ((configure call.1 call.2).runOn journal).2.logger name = journal.logger name := by
  have houtcome := configure_outcome call.1 call.2 journal
  generalize (configure call.1 call.2).runOn journal = outcome at houtcome
  cases houtcome with
  | done hlevel _ hother =>
    apply hother
    intro hname
    exact h ⟨hname.symm, _, hlevel⟩
  | refused _ => rfl

end

/-- Whatever configurations are made of whatever loggers: a call whose level is a level gives its
    logger back, which then has that level and exactly the handlers of this call, one for the
    console and behind it one for the log file if there is one that can be opened, all with that
    level; no other logger is changed. A call whose level is no level fails and changes nothing. In
    the end each logger carries what the last call of the first kind made of it, or what it carried
    to begin with. -/
theorem logger_of_run (journal : Journal) (calls : List (String × Configuration)) :
    (∀ before time configuration later, calls = before ++ (time, configuration) :: later →
      ∃ between answer next,
        (journal.configureEach before).2 = between ∧
        (configure time configuration).runOn between = (answer, next) ∧
        (journal.configureEach calls).1[before.length]? = some answer ∧
        (journal.configureEach (before ++ [(time, configuration)])).2 = next ∧
        ((∃ severity, Level.resolve configuration.level = .severity severity ∧
            answer = .ok configuration.logger ∧
            Carries configuration severity (next.logger configuration.logger) ∧
            ∀ other, other ≠ configuration.logger → next.logger other = between.logger other) ∨
          (∃ e, (Level.resolve configuration.level).refusal? = some e ∧ answer = .error e) ∧
            next = between)) ∧
    ∀ name, ∃ latest, Latest (Sets name) calls latest ∧
      HasFrom (journal.logger name) ((journal.configureEach calls).2.logger name) latest := by
  refine ⟨?calls, ?latest⟩
  case calls =>
    rintro before time configuration later rfl
    have hanswer := answer_run journal (before.map fun call => configure call.1 call.2)
      (configure time configuration) (later.map fun call => configure call.1 call.2)
    rw [List.length_map] at hanswer
    have hnext : (journal.configureEach (before ++ [(time, configuration)])).2 =
        ((configure time configuration).runOn (journal.configureEach before).2).2 := by
      simp only [last_configureEach, List.foldl_append, List.foldl_cons, List.foldl_nil]
    have houtcome := configure_outcome time configuration (journal.configureEach before).2
    cases hrun : (configure time configuration).runOn (journal.configureEach before).2 with
    | mk answer next =>
      rw [hrun] at houtcome hnext
      refine ⟨_, answer, next, rfl, hrun, ?_, hnext, ?_⟩
      · rw [configureEach, List.map_append, List.map_cons, hanswer]
        exact congrArg (fun outcome => some outcome.1) hrun
      · cases houtcome with
        | done hlevel hcarries hother => exact .inl ⟨_, hlevel, rfl, hcarries, hother⟩
        | refused hrefusal => exact .inr ⟨⟨_, hrefusal, rfl⟩, rfl⟩
  case latest =>
    intro name
    have hsets : ∀ (between : Journal) call, Sets name call →
        HasFrom (journal.logger name) (((configure call.1 call.2).runOn between).2.logger name)
          (some call) :=
      fun between call h => hasFrom_configure h between _
    have hother : ∀ (between : Journal) call latest, ¬ Sets name call →
        HasFrom (journal.logger name) (between.logger name) latest →
        HasFrom (journal.logger name) (((configure call.1 call.2).runOn between).2.logger name)
          latest := by
      intro between call latest hcall hlatest
      rw [logger_configure_of_not_sets hcall]
      exact hlatest
    have hstart : Latest (Sets name) [] none := .never (List.forall_mem_nil _)
    rw [last_configureEach]
    exact exists_latest_foldl hsets hother hstart rfl calls

/-- A log file, a name that is no level, and a log file that cannot be opened. -/
def reconfigurations : List (String × Configuration) :=
  [("1", { level := .int 10, file := some { path := "a.log" }, traced := true }),
    ("2", { level := .text "Basic_Format" }),
    ("3", { level := .bool true, file := some { path := "b", access := .isDirectory } })]

/-- The last of these calls leaves the console handler only. -/
theorem logger_of_reconfigurations :
    ∃ latest, Latest (Sets defaultLogger) reconfigurations latest ∧
      HasFrom (initial.logger defaultLogger)
        ((initial.configureEach reconfigurations).2.logger defaultLogger) latest ∧
      (initial.configureEach reconfigurations).2.logger defaultLogger =
        { severity := .flag true,
          handlers := [{ sink := .console, severity := .flag true, layout := .plain }] } := by
  obtain ⟨-, hlatest⟩ := logger_of_run initial reconfigurations
  obtain ⟨latest, hcall, hfrom⟩ := hlatest defaultLogger
  exact ⟨latest, hcall, hfrom, by decide⟩

end Folio.Journal
