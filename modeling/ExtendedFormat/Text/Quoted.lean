/-
# ExtendedFormat.Text.Quoted -- text and bytes between quotes

A quoted form shows every code point in printable ASCII or as a printable
character.  The quote is an apostrophe, unless the content has an apostrophe and
no double quote.  The quote itself and the backslash get a backslash, tab, line
feed and carriage return are `\t`, `\n` and `\r`, and whatever is not printable
is written by number: `\x` and two hexadecimal digits, `\u` and four, or `\U` and
eight, the shortest that holds it.

Bytes are quoted alike after a `b`; there only printable ASCII stands for itself.
The bytes of a buffer that can grow are quoted with one difference: an apostrophe
gets its backslash between double quotes too.
-/
import ExtendedFormat.Text.Printable

namespace ExtendedFormat.Quoted

set_option autoImplicit false

/-- The last `width` hexadecimal digits of a number, in lower case. -/
def hex (width n : Nat) : Text :=
  (List.range width).reverse.map fun i =>
    let d := n / Nat.pow 16 i % 16
    CodePoint.ofNat (if d < 10 then 0x30 + d else 0x57 + d)

def backslash : CodePoint := ⟨0x5C, by decide⟩

/-- By number, in the shortest of the three forms. -/
def numbered (n : Nat) : Text :=
  if n < 0x100 then backslash :: ⟨0x78, by decide⟩ :: hex 2 n
  else if n < 0x10000 then backslash :: ⟨0x75, by decide⟩ :: hex 4 n
  else backslash :: ⟨0x55, by decide⟩ :: hex 8 n

/-- One code point between quotes: those in `guarded` get a backslash, and `shown`
says which of the others may stand for themselves. -/
def escape (guarded : List CodePoint) (shown : CodePoint → Bool) (c : CodePoint) : Text :=
  if guarded.contains c then [backslash, c]
  else if c.val = 0x09 then [backslash, ⟨0x74, by decide⟩]
  else if c.val = 0x0A then [backslash, ⟨0x6E, by decide⟩]
  else if c.val = 0x0D then [backslash, ⟨0x72, by decide⟩]
  else if shown c then [c]
  else numbered c.val

def apostrophe : CodePoint := ⟨0x27, by decide⟩

def doubleQuote : CodePoint := ⟨0x22, by decide⟩

def quoteFor (t : Text) : CodePoint :=
  if t.contains apostrophe && !t.contains doubleQuote then doubleQuote else apostrophe

/-- The text between its quotes, with backslashes before the quote, the backslash
and what else is `guarded`. -/
def enclose (guarded : List CodePoint) (shown : CodePoint → Bool) (t : Text) : Text :=
  let quote := quoteFor t
  quote :: t.flatMap (escape (quote :: backslash :: guarded) shown) ++ [quote]

def text (t : Text) : Text := enclose [] CodePoint.isPrintable t

def isPrintableAscii (c : CodePoint) : Bool := decide (0x20 ≤ c.val ∧ c.val < 0x7F)

def bytes (bs : Bytes) : Text :=
  ⟨0x62, by decide⟩ :: enclose [] isPrintableAscii (bs.map CodePoint.ofByte)

/-- The bytes of a buffer that can grow. -/
def growableBytes (bs : Bytes) : Text :=
  ⟨0x62, by decide⟩ :: enclose [apostrophe] isPrintableAscii (bs.map CodePoint.ofByte)

end ExtendedFormat.Quoted
