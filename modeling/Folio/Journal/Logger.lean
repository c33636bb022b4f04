-- SUMMARY: Loggers in a hierarchy of names, their handlers, and where a record goes.
import Folio.Error
import Folio.Journal.Level
import Folio.Text.Splitting

/-!
# Loggers

Loggers are named by the parts between dots; leaving parts off the end leads to
the ancestors, and last to the root. A record is made if its level is not below
the first level other than 0 among those of its logger and the ancestors. It then
goes to every handler of the logger and of each ancestor, nearest first; a handler
that writes somewhere lets it through if the record's level is not below the handler's
own. The levels of the ancestors play no further part.

A layout is a list of parts (`Layout.parts`). The template that is given for it and the
lines that are written after it are both read off that list.
-/

namespace Folio.Journal

/-! ## Names -/

/-- The parts of a logger's name; the root has none. -/
abbrev LoggerName : Type := List String

namespace LoggerName

def root : LoggerName := []

/-- The logger of a name; the empty name and the root's own name stand for the root. -/
def ofText (s : String) : LoggerName :=
  if s = "" ∨ s = "root" then root else (Text.splitAt '.' s.toList).map String.ofList

def text (name : LoggerName) : String :=
  match name with
  | [] => "root"
  | name => ".".intercalate name

/-- The name and those of its ancestors, nearest first. -/
def ancestry (name : LoggerName) : List LoggerName :=
  (List.range (name.length + 1)).reverse.map name.take

end LoggerName

/-! ## Records -/

/-- The levels at which the library itself writes records. -/
inductive RecordLevel where
  | debug | info | warning
  deriving DecidableEq

namespace RecordLevel

def name : RecordLevel → String
  | debug => "DEBUG"
  | info => "INFO"
  | warning => "WARNING"

def rank : RecordLevel → Int
  | debug => 10
  | info => 20
  | warning => 30

end RecordLevel

structure Record where
  logger : LoggerName
  level : RecordLevel
  message : String

/-! ## Layouts -/

/-- What a line is put together from. -/
inductive Part where
  | time | level | logger | message
  | fixed (text : String)

namespace Part

/-- The part as a template has it. -/
def placeholder : Part → String
  | time => "%(asctime)s"
  | level => "%(levelname)s"
  | logger => "%(name)s"
  | message => "%(message)s"
  | fixed text => text

/-- The part as the line for a record has it that is written at the given time. -/
def render (time : String) (record : Record) : Part → String
  | .time => time
  | level => record.level.name
  | logger => record.logger.text
  | message => record.message
  | fixed text => text

end Part

inductive Layout where
  /-- The layout of a handler that was given none. -/
  | bare
  | plain | traced
  deriving DecidableEq

namespace Layout

/-- What stands in front of the message, with which every line ends. -/
def front : Layout → List Part
  | bare => []
  | plain => [.level, .fixed ": "]
  | traced => [.fixed "[", .time, .fixed "] [", .level, .fixed "] [", .logger, .fixed "] "]

def parts (layout : Layout) : List Part :=
  layout.front ++ [.message]

def template (layout : Layout) : String :=
  String.join (layout.parts.map Part.placeholder)

/-- The line for a record that is written at the given time. -/
def render (layout : Layout) (time : String) (record : Record) : String :=
  String.join (layout.parts.map (Part.render time record))

theorem render_eq (layout : Layout) (time : String) (record : Record) :
    layout.render time record =
      String.join (layout.front.map (Part.render time record)) ++ record.message := by
  simp only [render, parts, List.map_append, List.map_singleton, String.join_append]
  rfl

end Layout

/-! ## Handlers -/

inductive Sink where
  | console
  | file (path : String)
  /-- Nowhere: a handler that is there only so that the logger has one. -/
  | nowhere
  deriving DecidableEq

def Sink.className : Sink → String
  | console => "StreamHandler"
  | file _ => "FileHandler"
  | nowhere => "NullHandler"

structure Handler where
  sink : Sink
  severity : Severity
  layout : Layout
  deriving DecidableEq

structure Logger where
  severity : Severity := .number 0
  handlers : List Handler := []
  deriving DecidableEq

/-- A line that a handler was given. The handler is known by the logger that holds it and by its
    place among the handlers of that logger. -/
structure Delivery where
  holder : LoggerName
  place : Nat
  sink : Sink
  line : String
  deriving DecidableEq

/-- Whether a handler gives out a line for a record. -/
def Handler.passes (handler : Handler) (record : Record) : Bool :=
  handler.sink ≠ .nowhere ∧ handler.severity.rank ≤ record.level.rank

/-- The lines that a record gives to those handlers of a logger that let it through. -/
def Logger.deliveries (logger : Logger) (holder : LoggerName) (time : String) (record : Record) :
    List Delivery :=
  let passing := logger.handlers.zipIdx.filter fun entry => entry.1.passes record
  passing.map fun entry =>
    { holder, place := entry.2, sink := entry.1.sink, line := entry.1.layout.render time record }

end Folio.Journal

/-! ## Journals -/

namespace Folio

/-- The loggers that were configured, and the lines that handlers were given, in order. -/
structure Journal where
  loggers : List (Journal.LoggerName × Journal.Logger)
  delivered : List Journal.Delivery

namespace Journal

/-- The library's own logger. -/
def defaultLogger : LoggerName := ["domtree"]

/-- No lines; the root lets warnings through, and the library's logger has a handler that gives
    out nothing. -/
def initial : Journal where
  loggers :=
    [(LoggerName.root, { severity := .number 30 }),
      (defaultLogger,
        { handlers := [{ sink := .nowhere, severity := .number 0, layout := .bare }] })]
  delivered := []

def logger (journal : Journal) (name : LoggerName) : Logger :=
  (journal.loggers.lookup name).getD {}

/-- Changes one logger. -/
def adjust (journal : Journal) (name : LoggerName) (change : Logger → Logger) : Journal where
  loggers := (name, change (journal.logger name)) ::
    journal.loggers.filter fun entry => entry.1 != name
  delivered := journal.delivered

/-- What stands on the console or in a file: the lines that went there. -/
def lines (journal : Journal) (sink : Sink) : List String :=
  (journal.delivered.filter fun delivery => delivery.sink = sink).map Delivery.line

/-- The level below which a logger makes no records. -/
def effectiveRank (journal : Journal) (name : LoggerName) : Int :=
  ((name.ancestry.map fun ancestor => (journal.logger ancestor).severity.rank).find? (· != 0)).getD 0

/-- The lines that a record gives, to the handlers of its logger first. -/
def deliveries (journal : Journal) (time : String) (record : Record) : List Delivery :=
  if journal.effectiveRank record.logger ≤ record.level.rank then
    record.logger.ancestry.flatMap fun holder =>
      (journal.logger holder).deliveries holder time record
  else []

def write (journal : Journal) (time : String) (record : Record) : Journal where
  loggers := journal.loggers
  delivered := journal.delivered ++ journal.deliveries time record

@[simp] theorem logger_adjust (journal : Journal) (name : LoggerName) (change : Logger → Logger) :
    (journal.adjust name change).logger name = change (journal.logger name) := by
  unfold adjust
  rw [logger, List.lookup_cons_self]
  rfl

theorem lookup_filter_of_ne {loggers : List (LoggerName × Logger)} {name other : LoggerName}
    (h : other ≠ name) :
    (loggers.filter fun entry => entry.1 != name).lookup other = loggers.lookup other := by
  induction loggers with
  | nil => rfl
  | cons entry loggers ih =>
    obtain ⟨owner, logger⟩ := entry
    by_cases howner : owner = name
    · subst howner
      have hother : (other == owner) = false := beq_eq_false_iff_ne.mpr h
      rw [List.filter_cons_of_neg (by simp), ih, List.lookup_cons, hother]
    · rw [List.filter_cons_of_pos (by simpa using howner), List.lookup_cons, List.lookup_cons, ih]

theorem logger_adjust_of_ne (journal : Journal) {name other : LoggerName}
    (change : Logger → Logger) (h : other ≠ name) :
    (journal.adjust name change).logger other = journal.logger other := by
  have hother : (other == name) = false := beq_eq_false_iff_ne.mpr h
  unfold adjust
  rw [logger, List.lookup_cons, hother, lookup_filter_of_ne h]
  rfl

@[simp] theorem logger_write (journal : Journal) (time : String) (record : Record) (name : LoggerName) :
    (journal.write time record).logger name = journal.logger name := rfl

/-! ## Actions -/

/-- What is done with a journal and gives an answer or fails; the journal is as it was left in
    either case. -/
abbrev Action : Type → Type := ExceptT Error (StateM Journal)

/-- The answer or the failure, and the journal after it. -/
def Action.runOn {α : Type} (act : Action α) (journal : Journal) : Except Error α × Journal :=
  (act.run.run journal).run

/-- Runs actions one after the other, whether or not they fail. -/
def run {α : Type} (journal : Journal) : List (Action α) → List (Except Error α) × Journal
  | [] => ([], journal)
  | act :: acts =>
    let (answer, next) := act.runOn journal
    let (answers, last) := next.run acts
    (answer :: answers, last)

theorem last_run {α : Type} (journal : Journal) (acts : List (Action α)) :
    (journal.run acts).2 = acts.foldl (fun between act => (act.runOn between).2) journal := by
  induction acts generalizing journal with
  | nil => rfl
  | cons act acts ih => exact ih (act.runOn journal).2

/-- Each answer is the one on the journal that the actions before left. -/
theorem answer_run {α : Type} (journal : Journal) (before : List (Action α)) (act : Action α)
    (later : List (Action α)) :
    (journal.run (before ++ act :: later)).1[before.length]? =
      some (act.runOn (journal.run before).2).1 := by
  induction before generalizing journal with
  | nil => rfl
  | cons first before ih => exact ih (first.runOn journal).2

def log (time : String) (record : Record) : Action Unit :=
  modify fun journal => journal.write time record

end Journal

end Folio
