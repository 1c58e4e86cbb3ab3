import LiterateConfig.Text.Blank
import LiterateConfig.Text.CaseClass
import LiterateConfig.Text.Word

/-!
# Patterns

A pattern describes texts: single characters by sets, sequences, choices,
repetitions, groups that remember what they matched, and conditions on the place
that take up no character. Code points stand for themselves, so a set may also
name code points that no text has.
-/
namespace LiterateConfig.Pattern

/-- A kind of character that has a name of its own. -/
inductive Category where
  | digit
  | space
  | word
  deriving DecidableEq, Repr

/-- A part of a set of characters. -/
inductive Member where
  | code (n : Nat)
  | range (first last : Nat)
  | category (k : Category) (ascii negated : Bool)
  deriving DecidableEq, Repr

/-- What counts as the same letter. -/
inductive Folding where
  | exact
  | asciiCase
  | anyCase
  deriving DecidableEq, Repr

structure CharSet where
  members : List Member
  negated : Bool
  folding : Folding
  deriving DecidableEq, Repr

/-- A condition on a place. -/
inductive Anchor where
  | textStart
  | lineStart
  | textEnd
  /-- The end of the text, or in front of a line feed that ends it. -/
  | lastLineEnd
  | lineEnd
  /-- Between a word character and another one; `negated` for elsewhere. -/
  | wordEdge (ascii negated : Bool)
  deriving DecidableEq, Repr

/-- How often a repetition tries. -/
inductive Greed where
  | greedy
  | lazy
  /-- Greedy, and never taken back. -/
  | possessive
  deriving DecidableEq, Repr

inductive Node where
  | empty
  | one (s : CharSet)
  | anchor (a : Anchor)
  | sequence (a b : Node)
  | choice (a b : Node)
  | many (item : Node) (least : Nat) (most : Option Nat) (greed : Greed)
  /-- Remembers what it matched under a number. -/
  | group (number : Nat) (n : Node)
  /-- Matched once and never again in another way. -/
  | atomic (n : Node)
  /-- What follows matches `n`, or does not. -/
  | ahead (negated : Bool) (n : Node)
  /-- The `width` characters in front match `n`, or do not. -/
  | behind (negated : Bool) (width : Nat) (n : Node)
  /-- The text that a group matched. -/
  | again (number : Nat) (folding : Folding)
  /-- One of two, by whether a group has matched. -/
  | given (number : Nat) (yes no : Node)
  deriving Repr

/-! ## Characters in sets -/

def Category.holds (ascii : Bool) (c : Char) : Category → Bool
  | .digit => if ascii then c.isDigit else Text.isDecimal c
  | .space => if ascii then c == ' ' || (9 ≤ c.toNat && c.toNat ≤ 13) else Text.isBlank c
  | .word => if ascii then c.isAlphanum || c == '_' else Text.isWord c

/-- The code points that count as the same as a character's. -/
def Folding.variants (f : Folding) (n : Nat) : List Nat :=
  match f with
  | .exact => [n]
  | .asciiCase => Text.asciiVariants n
  | .anyCase => Text.caseVariants n

/-- Whether two characters count as the same in a text that is repeated. -/
def Folding.same (f : Folding) (a b : Char) : Bool :=
  match f with
  | .exact => a == b
  | .asciiCase => a.toLower == b.toLower
  | .anyCase => Text.lowerChar a == Text.lowerChar b

/-- Whether a member has a character, `variants` being its code points. -/
def Member.holds (variants : List Nat) (c : Char) : Member → Bool
  | .code n => variants.contains n
  | .range first last => variants.any fun n => first ≤ n && n ≤ last
  | .category k ascii negated => k.holds ascii c != negated

def CharSet.holds (s : CharSet) (c : Char) : Bool :=
  let variants := s.folding.variants c.toNat
  (s.members.any fun m => m.holds variants c) != s.negated

end LiterateConfig.Pattern
