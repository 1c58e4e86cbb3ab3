import LiterateConfig.Text.Hex
import LiterateConfig.Text.Printable

/-!
# Quoted text

How a text is shown inside a message or a synthesised block: between
apostrophes, or between double quotes when it holds an apostrophe and no double
quote. A backslash and the quote are escaped, so are the characters that cannot
be printed, with the shortest of the escapes `\x`, `\u` and `\U` that fits.
-/
namespace LiterateConfig.Text

/-- The quote that needs the fewer escapes, by preference the apostrophe. -/
def quoteFor (l : List Char) : Char := if l.contains '\'' && !l.contains '"' then '"' else '\''

/-- The escape of a character by its code point. -/
def escapeCode (n : Nat) : List Char :=
  if n < 0x100 then '\\' :: 'x' :: hexPadded 2 n
  else if n < 0x10000 then '\\' :: 'u' :: hexPadded 4 n
  else '\\' :: 'U' :: hexPadded 8 n

/-- How `c` is written between two quotes `q`. -/
def escapeChar (q c : Char) : List Char :=
  if c = q || c = '\\' then ['\\', c]
  else if c = '\t' then ['\\', 't']
  else if c = '\n' then ['\\', 'n']
  else if c = '\r' then ['\\', 'r']
  else if isPrintable c then [c]
  else escapeCode c.toNat

def quoteChars (l : List Char) : List Char :=
  let q := quoteFor l
  q :: l.flatMap (escapeChar q) ++ [q]

/-- The quoted form of a text. -/
def quoted (s : String) : String := String.ofList (quoteChars s.toList)

/-- How a byte is written between two quotes `q`. -/
def escapeByte (q : Char) (b : UInt8) : List Char :=
  if b < 0x80 then escapeChar q (Char.ofNat b.toNat) else escapeCode b.toNat

/-- The quoted form of bytes, marked with a `b`. -/
def quotedBytes (bs : List UInt8) : String :=
  let q := quoteFor (bs.map fun b => Char.ofNat b.toNat)
  String.ofList ('b' :: q :: bs.flatMap (escapeByte q) ++ [q])

end LiterateConfig.Text
