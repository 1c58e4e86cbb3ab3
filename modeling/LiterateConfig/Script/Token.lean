/-!
# Tokens of the block language

Blocks are written in a small indentation-based language. Its tokens are names,
reserved words, literals, marks, and the ends and indentations of lines.
-/
namespace LiterateConfig.Script

/-- The words that cannot be names. Some of them have no use in this language. -/
def reservedWords : List String := [
  "False", "None", "True", "and", "as", "assert", "async", "await", "break", "class", "continue",
  "def", "del", "elif", "else", "except", "finally", "for", "from", "global", "if", "import", "in",
  "is", "lambda", "nonlocal", "not", "or", "pass", "raise", "return", "try", "while", "with",
  "yield"]

/-- One or two characters that separate or combine. -/
inductive Mark where
  | openRound | closeRound | openSquare | closeSquare | openCurly | closeCurly
  | comma | colon | semicolon | dot | assign | equals | plus | minus | star | slash | decorate
  deriving DecidableEq, Repr

inductive Token where
  /-- A name, in composed form. -/
  | name (s : String)
  | word (s : String)
  | int (n : Nat)
  | float (x : Float)
  | text (s : String)
  | bytes (b : List UInt8)
  | mark (m : Mark)
  | newline
  | indent
  | dedent

/-- A token and the line it starts on. -/
structure Lexeme where
  token : Token
  line : Nat

end LiterateConfig.Script
