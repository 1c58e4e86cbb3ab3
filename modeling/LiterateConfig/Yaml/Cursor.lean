import LiterateConfig.Yaml.Basic

/-!
# A place in a document

A cursor is what is left of the text, and where that starts: the number of
characters in front, the line and the column. A byte-order mark takes up no
column.

Results:
* `advance_rest`: advancing leaves the rest of the text.
-/
namespace LiterateConfig.Yaml

structure Cursor where
  rest : List Char
  index : Nat
  line : Nat
  column : Nat

namespace Cursor

def start (text : List Char) : Cursor := ⟨text, 0, 0, 0⟩

def peek (c : Cursor) : Option Char := c.rest.head?

def peekAt (c : Cursor) (n : Nat) : Option Char := c.rest[n]?

/-- One character further. -/
def advance (c : Cursor) : Cursor :=
  match c.rest with
  | [] => c
  | x :: r =>
    if isBreak x then ⟨r, c.index + 1, c.line + 1, 0⟩
    else ⟨r, c.index + 1, c.line, if x.toNat = 0xfeff then c.column else c.column + 1⟩

/-- `n` characters further. -/
def advanceBy (c : Cursor) : Nat → Cursor
  | 0 => c
  | n + 1 => c.advance.advanceBy n

/-- Behind the next characters that satisfy `p`. -/
def skipWhile (c : Cursor) (p : Char → Bool) : Cursor := c.advanceBy (c.rest.takeWhile p).length

/-- The next characters that satisfy `p`, and the place behind them. -/
def span (c : Cursor) (p : Char → Bool) : List Char × Cursor := (c.rest.takeWhile p, c.skipWhile p)

def skipSpaces (c : Cursor) : Cursor := c.skipWhile (· == ' ')

/-- Behind a comment, if one is next. -/
def skipComment (c : Cursor) : Cursor :=
  if c.peek = some '#' then c.skipWhile fun x => !isBreak x else c

/-- A line end: how it counts in a text, and the place behind it. -/
def lineBreak? (c : Cursor) : Option (Char × Cursor) :=
  match c.peek with
  | some x =>
    if isBreak x then some (if x.toNat = 0x2028 || x.toNat = 0x2029 then x else '\n', c.advance) else none
  | none => none

/-- Behind a line end, if one is next. -/
def skipBreak (c : Cursor) : Cursor := if c.peek.any isBreak then c.advance else c

/-- Whether one of the two marks between documents is next: three hyphens or
three dots, and nothing behind them. -/
def atMark (c : Cursor) (x : Char) : Bool :=
  c.rest.take 3 == [x, x, x] && atBlank (c.peekAt 3)

def atSeparator (c : Cursor) : Bool := c.atMark '-' || c.atMark '.'

/-- What is left of a line behind an indicator: spaces and a comment only. -/
def endLine (c : Cursor) : Except Problem Cursor :=
  let d := c.skipSpaces.skipComment
  if atBreak d.peek then .ok d.skipBreak else .error .malformed

theorem advance_rest (c : Cursor) : c.advance.rest = c.rest.tail := by
  unfold advance
  cases h : c.rest with
  | nil => simp [h]
  | cons x r => by_cases hx : isBreak x <;> simp [hx]

end Cursor

end LiterateConfig.Yaml
