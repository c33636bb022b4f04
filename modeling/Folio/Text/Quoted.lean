-- SUMMARY: Text between quotes, with escapes for what cannot stand there as itself.
import Folio.Text.Printable

/-!
# Quoted text

Text is written between apostrophes, or between quotation marks if it holds an
apostrophe and no quotation mark. The quote in use and the backslash are written
with a backslash in front; line feed, carriage return and tab have escapes of
their own; any other character that is not printable is written by its code
point in the shortest of three fixed widths. So the closing quote is the first
one that no backslash precedes, and no two characters start alike.

Everything is written in front of what follows, so long texts are built in one
pass from the right.
-/

namespace Folio.Text

def apostrophe : Char := Char.ofNat 0x27
def quotationMark : Char := Char.ofNat 0x22
def backslash : Char := Char.ofNat 0x5c

/-- The quote that a text is written between. -/
def quoteOf (s : List Char) : Char :=
  if s.contains apostrophe && !s.contains quotationMark then quotationMark else apostrophe

/-- The last `width` digits of `n` to base sixteen, in lower case. -/
def hexDigits : Nat → Nat → List Char
  | 0, _ => []
  | width + 1, n => hexDigits width (n / 16) ++ [Nat.digitChar (n % 16)]

/-- How one character is written between the given quotes. -/
def escape (quote c : Char) : List Char :=
  if c = quote ∨ c = backslash then [backslash, c]
  else if c = Char.ofNat 0x0a then [backslash, 'n']
  else if c = Char.ofNat 0x0d then [backslash, 'r']
  else if c = Char.ofNat 0x09 then [backslash, 't']
  else if isPrintable c then [c]
  else if c.toNat < 0x100 then backslash :: 'x' :: hexDigits 2 c.toNat
  else if c.toNat < 0x10000 then backslash :: 'u' :: hexDigits 4 c.toNat
  else backslash :: 'U' :: hexDigits 8 c.toNat

/-- The quoted text, in front of what follows. -/
def quotedOnto (s : List Char) (tail : List Char) : List Char :=
  quoteOf s :: s.foldr (fun c rest => escape (quoteOf s) c ++ rest) (quoteOf s :: tail)

def quoted (s : String) : String :=
  String.ofList (quotedOnto s.toList [])

end Folio.Text
