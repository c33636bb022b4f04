-- SUMMARY: Quoted text can be read back, character by character, whatever follows the closing quote.
import Folio.Text.Piece
import Folio.Text.Quoted
import Mathlib.Algebra.Ring.Nat
import Mathlib.Data.List.Basic

/-!
# Reading quoted text

`unescape` reads what stands at the front of the text between two quotes: one
character, however it is written, or the closing quote. It undoes `escape` whatever
comes after (`unescape_escape`), and so a quoted text tells which text it is of and
where it ends (`determines_quotedOnto`), also if the text looks like quoted text itself.

`Piece.Determines` is that property for anything that is written in front of what
follows.
-/

namespace Folio.Text

/-- What is written for `a` is written for nothing else, and shows where it ends. -/
def Piece.Determines {α : Type} (write : α → Piece) (a : α) : Prop :=
  ∀ b tail other, write a tail = write b other → a = b ∧ tail = other

/-! ## Digits to base sixteen -/

/-- The number that a digit stands for: letters come after the decimal digits. -/
def hexValue (digit : Char) : Nat :=
  if digit.toNat < 0x61 then digit.toNat - 0x30 else digit.toNat - 0x57

def ofHexDigits (digits : List Char) : Nat :=
  digits.foldl (fun n digit => 16 * n + hexValue digit) 0

theorem hexValue_digitChar {n : Nat} (h : n < 16) : hexValue (Nat.digitChar n) = n := by
  have hall : ∀ n < 16, hexValue (Nat.digitChar n) = n := by decide
  exact hall n h

@[simp] theorem length_hexDigits (width n : Nat) : (hexDigits width n).length = width := by
  induction width generalizing n with
  | zero => rfl
  | succ width ih => rw [hexDigits, List.length_append, ih, List.length_singleton]

theorem ofHexDigits_hexDigits {width n : Nat} (h : n < 16 ^ width) :
    ofHexDigits (hexDigits width n) = n := by
  induction width generalizing n with
  | zero =>
    have hzero : n = 0 := by simpa using h
    rw [hzero]
    rfl
  | succ width ih =>
    have hquotient : n / 16 < 16 ^ width := by
      rw [Nat.div_lt_iff_lt_mul (by decide), ← Nat.pow_succ]
      exact h
    have hdigit : hexValue (Nat.digitChar (n % 16)) = n % 16 :=
      hexValue_digitChar (Nat.mod_lt n (by decide))
    have hfront : (hexDigits width (n / 16)).foldl (fun n digit => 16 * n + hexValue digit) 0 =
        n / 16 := ih hquotient
    rw [hexDigits, ofHexDigits, List.foldl_append, hfront]
    simp only [List.foldl_cons, List.foldl_nil, hdigit]
    exact Nat.div_add_mod n 16

/-- Reads a code point that is written with as many digits as `width` says. -/
def readHex (width : Nat) (s : List Char) : Char × List Char :=
  (Char.ofNat (ofHexDigits (s.take width)), s.drop width)

theorem readHex_hexDigits {width : Nat} {c : Char} (h : c.toNat < 16 ^ width) (tail : List Char) :
    readHex width (hexDigits width c.toNat ++ tail) = (c, tail) := by
  unfold readHex
  rw [List.take_left' (length_hexDigits _ _), List.drop_left' (length_hexDigits _ _),
    ofHexDigits_hexDigits h, Char.ofNat_toNat]

/-! ## Characters -/

/-- Reads what follows a backslash. -/
def readCode : List Char → Option (Char × List Char)
  | [] => none
  | code :: rest =>
    if code = 'n' then some (Char.ofNat 0x0a, rest)
    else if code = 'r' then some (Char.ofNat 0x0d, rest)
    else if code = 't' then some (Char.ofNat 0x09, rest)
    else if code = 'x' then some (readHex 2 rest)
    else if code = 'u' then some (readHex 4 rest)
    else if code = 'U' then some (readHex 8 rest)
    else some (code, rest)

/-- Reads one character of quoted text; there is none where the closing quote stands. -/
def unescape (quote : Char) : List Char → Option (Char × List Char)
  | [] => none
  | first :: rest =>
    if first = quote then none
    else if first = backslash then readCode rest
    else some (first, rest)

def IsQuote (c : Char) : Prop := c = apostrophe ∨ c = quotationMark

theorem isQuote_quoteOf (s : List Char) : IsQuote (quoteOf s) := by
  unfold quoteOf
  split
  · exact .inr rfl
  · exact .inl rfl

theorem unescape_quote (quote : Char) (tail : List Char) : unescape quote (quote :: tail) = none := by
  rw [unescape, if_pos rfl]

/-- No quote is a backslash, so what stands after a backslash is a code. -/
theorem unescape_backslash {quote : Char} (hquote : IsQuote quote) (rest : List Char) :
    unescape quote (backslash :: rest) = readCode rest := by
  have hne : backslash ≠ quote := by
    rcases hquote with rfl | rfl <;> decide
  rw [unescape, if_neg hne, if_pos rfl]

/-- A quote or a backslash is its own code. -/
theorem readCode_self {quote c : Char} (hquote : IsQuote quote) (hc : c = quote ∨ c = backslash)
    (tail : List Char) : readCode (c :: tail) = some (c, tail) := by
  have hnot : c ∉ ['n', 'r', 't', 'x', 'u', 'U'] := by
    rcases hc with rfl | rfl
    · rcases hquote with rfl | rfl <;> decide
    · decide
  simp only [List.mem_cons, List.not_mem_nil, or_false, not_or] at hnot
  obtain ⟨hn, hr, ht, hx, hu, hU⟩ := hnot
  rw [readCode, if_neg hn, if_neg hr, if_neg ht, if_neg hx, if_neg hu, if_neg hU]

/-- A character that is written by its code point, in as many digits as its code says. -/
theorem unescape_codePoint {quote code c : Char} {width : Nat} (hquote : IsQuote quote)
    (hcode : ∀ rest, readCode (code :: rest) = some (readHex width rest))
    (hwidth : c.toNat < 16 ^ width) (tail : List Char) :
    unescape quote (backslash :: code :: (hexDigits width c.toNat ++ tail)) = some (c, tail) := by
  rw [unescape_backslash hquote, hcode, readHex_hexDigits hwidth]

/-- Reading undoes writing, whatever comes after the character. -/
theorem unescape_escape {quote : Char} (hquote : IsQuote quote) (c : Char) (tail : List Char) :
    unescape quote (escape quote c ++ tail) = some (c, tail) := by
  unfold escape
  split
  case isTrue hc => exact (unescape_backslash hquote _).trans (readCode_self hquote hc tail)
  rename_i hself
  rw [not_or] at hself
  split
  case isTrue hfeed =>
    rw [hfeed]
    exact unescape_backslash hquote _
  split
  case isTrue hreturn =>
    rw [hreturn]
    exact unescape_backslash hquote _
  split
  case isTrue htab =>
    rw [htab]
    exact unescape_backslash hquote _
  split
  case isTrue =>
    rw [List.singleton_append, unescape, if_neg hself.1, if_neg hself.2]
  -- What is left is written by its code point, with the digits that it needs.
  split
  case isTrue hbyte => exact unescape_codePoint hquote (fun _ => rfl) hbyte tail
  split
  case isTrue hshort => exact unescape_codePoint hquote (fun _ => rfl) hshort tail
  case isFalse =>
    have hlong : c.toNat < 16 ^ 8 := Nat.lt_of_lt_of_eq c.val.toNat_lt (by decide)
    exact unescape_codePoint hquote (fun _ => rfl) hlong tail

/-! ## Texts -/

/-- Between the same quotes, what is written tells the text and where the closing quote is. -/
theorem escaped_inj {quote : Char} (hquote : IsQuote quote) {s t tail other : List Char}
    (h : s.foldr (fun c rest => escape quote c ++ rest) (quote :: tail) =
      t.foldr (fun c rest => escape quote c ++ rest) (quote :: other)) :
    s = t ∧ tail = other := by
  induction s generalizing t with
  | nil =>
    cases t with
    | nil => exact ⟨rfl, (List.cons.inj h).2⟩
    | cons d t =>
      have hread := congrArg (unescape quote) h
      rw [List.foldr_nil, List.foldr_cons, unescape_quote, unescape_escape hquote] at hread
      cases hread
  | cons c s ih =>
    have hread := congrArg (unescape quote) h
    rw [List.foldr_cons, unescape_escape hquote] at hread
    cases t with
    | nil =>
      rw [List.foldr_nil, unescape_quote] at hread
      cases hread
    | cons d t =>
      rw [List.foldr_cons, unescape_escape hquote] at hread
      obtain ⟨rfl, hrest⟩ := Prod.mk.inj (Option.some.inj hread)
      obtain ⟨rfl, htail⟩ := ih hrest
      exact ⟨rfl, htail⟩

theorem determines_quotedOnto (s : List Char) : Piece.Determines quotedOnto s := by
  intro t tail other h
  obtain ⟨hquote, hbody⟩ := List.cons.inj h
  rw [hquote] at hbody
  exact escaped_inj (isQuote_quoteOf t) hbody

end Folio.Text
