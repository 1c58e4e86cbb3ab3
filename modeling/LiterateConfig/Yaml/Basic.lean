/-!
# YAML: characters, tokens and problems

A document is read in three steps: text to tokens, tokens to nodes, nodes to
data. Indentation has been turned into tokens after the first step.
-/
namespace LiterateConfig.Yaml

/-- Why a text gives no data. -/
inductive Problem where
  | malformed
  /-- A number, code point or moment that does not exist. -/
  | badValue
  /-- A text that is declared a truth value but is none. -/
  | badTruth (text : String)
  /-- A number declared for an empty text. -/
  | emptyNumber
  /-- A moment declared for a text of another form. -/
  | badMoment
  /-- A number beyond the range of doubles or characters. -/
  | tooLarge
  /-- Collections inside one another, or nodes that stand for one another, without end. -/
  | tooDeep
  deriving DecidableEq, Repr

/-- The most collections that are read inside one another. -/
def depthLimit : Nat := 480

/-- The most nodes that may stand for one another, each for the one before. -/
def chainLimit : Nat := 970

/-! ## Characters -/

/-- A character that a document can have. -/
def isAllowed (c : Char) : Bool :=
  let n := c.toNat
  n == 9 || n == 10 || n == 13 || (0x20 ≤ n && n ≤ 0x7e) || n == 0x85 || (0xa0 ≤ n && n ≤ 0xd7ff) ||
    (0xe000 ≤ n && n ≤ 0xfffd) || 0x10000 ≤ n

/-- A character that ends a line. -/
def isBreak (c : Char) : Bool :=
  c == '\n' || c == '\r' || c.toNat == 0x85 || c.toNat == 0x2028 || c.toNat == 0x2029

/-- The end of a line or of the text. -/
def atBreak (c : Option Char) : Bool := c.all isBreak

/-- The end of a line or of the text, or a space. -/
def atSpace (c : Option Char) : Bool := c.all fun c => c == ' ' || isBreak c

/-- The end of a line or of the text, or a space or tab. -/
def atBlank (c : Option Char) : Bool := c.all fun c => c == ' ' || c == '\t' || isBreak c

/-- A character of the names of anchors, directives and tag handles. -/
def isHandleChar (c : Char) : Bool := c.isAlphanum || c == '-' || c == '_'

/-! ## Tokens -/

/-- The handle of a tag, if it has one, and what follows. -/
structure TagName where
  handle : Option String
  suffix : String
  deriving DecidableEq, Repr

inductive Directive where
  | version (major : Nat)
  | handle (name target : String)
  | other
  deriving DecidableEq, Repr

inductive Token where
  | streamEnd
  | directive (d : Directive)
  | documentStart
  | documentEnd
  | blockSequence
  | blockMapping
  | blockEnd
  | flowSequence
  | flowSequenceEnd
  | flowMapping
  | flowMappingEnd
  | blockEntry
  | flowEntry
  | key
  | value
  | alias (name : String)
  | anchor (name : String)
  | tag (t : TagName)
  /-- A text; `plain` when it is not quoted. -/
  | scalar (text : String) (plain : Bool)
  deriving DecidableEq, Repr

end LiterateConfig.Yaml
