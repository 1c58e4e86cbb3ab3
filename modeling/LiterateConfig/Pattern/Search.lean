import LiterateConfig.Keyed
import LiterateConfig.Pattern.Basic

/-!
# Searching for a pattern

`Node.match?` looks for a way in which a node matches at a place, such that what
comes next succeeds too; choices are tried in order. It is by recursion on the
node, and what comes next is a function of the place reached and of what the
groups have matched so far.

A repetition beyond its least count tries its item only at a place where the
item has not been tried just before, so it ends.

Results:
* `found_of_empty`: the empty pattern is found in every text.
-/
namespace LiterateConfig.Pattern

/-- What the groups have matched, by number and latest first: start and end. -/
abbrev Groups := Keyed Nat (Nat × Nat)

/-- Where a match ended, with what its groups matched. -/
abbrev Found := Option (Nat × Groups)

/-- What has to succeed behind a match. -/
abbrev Next := Nat → Groups → Found

/-- A way to match at a place. -/
abbrev Attempt := Nat → Groups → Next → Found

/-- The end of a match as its result. -/
def done : Next := fun p g => some (p, g)

/-! ## Characters and places -/

def charAt? (text : Array Char) (p : Nat) : Option Char := text[p]?

def charBefore? (text : Array Char) (p : Nat) : Option Char := if p = 0 then none else text[p - 1]?

/-- Whether a condition holds at a place; an empty text has no word edges, nor
places without one. -/
def Anchor.holds (text : Array Char) (p : Nat) : Anchor → Bool
  | .textStart => p == 0
  | .lineStart => p == 0 || charBefore? text p == some '\n'
  | .textEnd => p == text.size
  | .lastLineEnd => p == text.size || (p + 1 == text.size && charAt? text p == some '\n')
  | .lineEnd => p == text.size || charAt? text p == some '\n'
  | .wordEdge ascii negated =>
    let word := Category.holds ascii
    let edge := (charBefore? text p).any (word · .word) != (charAt? text p).any (word · .word)
    !text.isEmpty && edge != negated

/-- The place behind `text[a, b)` when it stands at `p` again. -/
def repeatedAt? (text : Array Char) (f : Folding) (a b p : Nat) : Option Nat :=
  let size := b - a
  if (List.range size).all fun i => match charAt? text (a + i), charAt? text (p + i) with
    | some x, some y => f.same x y
    | _, _ => false
  then some (p + size) else none

/-! ## Repetition -/

/-- Whether one more repetition is allowed after `count`. -/
def hasRoom (most : Option Nat) (count : Nat) : Bool :=
  match most with
  | none => true
  | some m => count < m

/-- Repeats an item, as often as possible first. `last` is the place where it
was last tried beyond the least count. -/
def manyGreedy (item : Attempt) (least : Nat) (most : Option Nat) (next : Next) :
    Nat → Nat → Option Nat → Nat → Groups → Found
  | 0, _, _, _, _ => none
  | fuel + 1, count, last, p, g =>
    if count < least then item p g (manyGreedy item least most next fuel (count + 1) last)
    else
      (if hasRoom most count && last != some p then
        item p g (manyGreedy item least most next fuel (count + 1) (some p))
      else none) <|> next p g

/-- Repeats an item, as rarely as possible first. -/
def manyLazy (item : Attempt) (least : Nat) (most : Option Nat) (next : Next) :
    Nat → Nat → Option Nat → Nat → Groups → Found
  | 0, _, _, _, _ => none
  | fuel + 1, count, last, p, g =>
    if count < least then item p g (manyLazy item least most next fuel (count + 1) last)
    else
      next p g <|>
        (if hasRoom most count && last != some p then
          item p g (manyLazy item least most next fuel (count + 1) (some p))
        else none)

/-- Repeats an item, each time in the first way that it matches. -/
def manyPossessive (item : Attempt) (least : Nat) (most : Option Nat) :
    Nat → Nat → Option Nat → Nat → Groups → Found
  | 0, _, _, _, _ => none
  | fuel + 1, count, last, p, g =>
    if count < least then
      match item p g done with
      | some (q, g) => manyPossessive item least most fuel (count + 1) last q g
      | none => none
    else if hasRoom most count && last != some p then
      match item p g done with
      | some (q, g) => manyPossessive item least most fuel (count + 1) (some p) q g
      | none => some (p, g)
    else some (p, g)

/-! ## Matching -/

namespace Node

/-- A way in which the node matches at a place so that `next` succeeds. -/
def match? (text : Array Char) : Node → Attempt
  | .empty, p, g, next => next p g
  | .one s, p, g, next =>
    match charAt? text p with
    | some c => if s.holds c then next (p + 1) g else none
    | none => none
  | .anchor a, p, g, next => if a.holds text p then next p g else none
  | .sequence a b, p, g, next => a.match? text p g fun p g => b.match? text p g next
  | .choice a b, p, g, next => a.match? text p g next <|> b.match? text p g next
  | .many item least most greed, p, g, next =>
    let fuel := least + text.size + 2
    match greed with
    | .greedy => manyGreedy (item.match? text) least most next fuel 0 none p g
    | .lazy => manyLazy (item.match? text) least most next fuel 0 none p g
    | .possessive =>
      match manyPossessive (item.match? text) least most fuel 0 none p g with
      | some (p, g) => next p g
      | none => none
  | .group number n, p, g, next => n.match? text p g fun q g => next q ((number, p, q) :: g)
  | .atomic n, p, g, next =>
    match n.match? text p g done with
    | some (p, g) => next p g
    | none => none
  | .ahead negated n, p, g, next =>
    match n.match? text p g done with
    | some (_, inner) => if negated then none else next p inner
    | none => if negated then next p g else none
  | .behind negated width n, p, g, next =>
    match if width ≤ p then n.match? text (p - width) g done else none with
    | some (_, inner) => if negated then none else next p inner
    | none => if negated then next p g else none
  | .again number f, p, g, next =>
    match g.get? number with
    | some (a, b) => match repeatedAt? text f a b p with
      | some q => next q g
      | none => none
    | none => none
  | .given number yes no, p, g, next =>
    if (g.get? number).isSome then yes.match? text p g next else no.match? text p g next

/-- Whether the pattern matches at `p` or one of the `left` places behind it. -/
def foundFrom (n : Node) (text : Array Char) (p : Nat) : Nat → Bool
  | 0 => (n.match? text p [] done).isSome
  | left + 1 => (n.match? text p [] done).isSome || foundFrom n text (p + 1) left

/-- Whether the pattern matches somewhere in a text. -/
def found (n : Node) (text : List Char) : Bool :=
  let text := text.toArray
  n.foundFrom text 0 text.size

theorem found_of_empty (text : List Char) : found .empty text = true := by
  simp only [found]
  cases h : text.toArray.size <;> simp [foundFrom, match?, done]

end Node

end LiterateConfig.Pattern
