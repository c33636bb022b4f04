-- SUMMARY: Judging trees with each verdict recorded.
import Folio.Grammar
import Folio.Journal.Configuration

/-!
# Recorded verdicts

Judging a tree writes one record with the verdict, before a strict judgement turns
a refusal into an error.
-/

namespace Folio.Journal

def grammarLogger : LoggerName := ["domtree", "ast", "grammar"]

/-- The record of a verdict on a tree. -/
def verdictRecord (node : Node) (verdict : Bool) : Record where
  logger := grammarLogger
  level := .debug
  message :=
    if verdict then s!"{node.kind.name} tree is well-formed"
    else s!"{node.kind.name} tree is not well-formed"

/-- Asks whether a tree is well-formed, recording the verdict. -/
def judge (time : String) (node : Node) (options : Option Options) : Action Bool := do
  let verdict := node.isWellFormed options
  log time (verdictRecord node verdict)
  return verdict

/-- Validates a tree: the verdict is recorded before a refusal becomes an error. -/
def validate (time : String) (node : Node) (options : Option Options) : Action Bool := do
  let verdict ← judge time node options
  if (Options.resolve options).strict && !verdict then
    throw (.ungrammatical node.kind)
  return verdict

end Folio.Journal
