-- SUMMARY: Log levels and what a caller may give for one.
import Folio.Text.Upper
import Folio.Value.Literal

/-!
# Levels

A level is given as a number or by name. Numbers (and the two truth values, which
are numbers) stand for themselves. A name is looked up in upper case; a name that
is not known stands for the level of information. Two names are known but stand for
no level: `BASIC_FORMAT` for a line template, and `_STYLES` for the table of the ways
in which templates are written.
-/

namespace Folio.Journal

/-- A level, as it was given. -/
inductive Severity where
  | number (n : Int)
  | flag (b : Bool)
  deriving DecidableEq

namespace Severity

def rank : Severity → Int
  | number n => n
  | flag b => if b then 1 else 0

def toValue : Severity → Value
  | number n => .int n
  | flag b => .bool b

end Severity

/-- What a name or number for a level turns out to be. -/
inductive Level where
  | severity (severity : Severity)
  | template (text : String)
  | styles
  deriving DecidableEq

namespace Level

def information : Int := 20

def named : List (String × Int) :=
  [("CRITICAL", 50), ("FATAL", 50), ("ERROR", 40), ("WARNING", 30), ("WARN", 30), ("INFO", 20),
    ("DEBUG", 10), ("NOTSET", 0)]

def basicFormat : String := "%(levelname)s:%(name)s:%(message)s"

/-- The table of styles as it is written in messages. -/
def stylesLiteral : String :=
  "\x7b'%': (<class 'logging.PercentStyle'>, '%(levelname)s:%(name)s:%(message)s'), " ++
    "'\x7b': (<class 'logging.StrFormatStyle'>, " ++
    "'\x7blevelname\x7d:\x7bname\x7d:\x7bmessage\x7d'), " ++
    "'$': (<class 'logging.StringTemplateStyle'>, " ++
    "'$\x7blevelname\x7d:$\x7bname\x7d:$\x7bmessage\x7d')\x7d"

/-- The meaning of a name in upper case. -/
def ofName (name : String) : Level :=
  if name = "BASIC_FORMAT" then .template basicFormat
  else if name = "_STYLES" then .styles
  else .severity (.number ((named.lookup name).getD information))

def resolve : Value → Level
  | .int n => .severity (.number n)
  | .bool b => .severity (.flag b)
  | value => ofName (Text.upper value.plain)

/-- A level as a value; of the table it is only told that it is a mapping. -/
def toValue : Level → Value
  | severity s => s.toValue
  | template text => .text text
  | styles => .mapping []

end Level

end Folio.Journal
