import LiterateConfig.Text.Numeral
import LiterateConfig.Yaml.Basic

/-!
# Moments in a document

A moment is a date, perhaps with a time of day and a distance from universal
time. Nothing here is done with moments, but one that does not exist is an
error.
-/
namespace LiterateConfig.Yaml

/-- A date, a time of day and the minutes from universal time. -/
structure Moment where
  year : Nat
  month : Nat
  day : Nat
  hour : Nat
  minute : Nat
  second : Nat
  distance : Nat
  deriving DecidableEq, Repr

namespace Moment

def isLeap (year : Nat) : Bool := year % 4 == 0 && (year % 100 != 0 || year % 400 == 0)

def daysIn (year month : Nat) : Nat :=
  if month = 2 then if isLeap year then 29 else 28
  else if month ∈ [4, 6, 9, 11] then 30
  else 31

/-- Whether there is such a moment. -/
def real (m : Moment) : Bool :=
  1 ≤ m.year && 1 ≤ m.month && m.month ≤ 12 && 1 ≤ m.day && m.day ≤ daysIn m.year m.month &&
    m.hour < 24 && m.minute < 60 && m.second < 60 && m.distance < 24 * 60

/-- Between `least` and `most` digits as a number, and the rest. -/
def number? (least most : Nat) (l : List Char) : Option (Nat × List Char) :=
  let ds := (l.take most).takeWhile Char.isDigit
  if ds.length < least then none
  else some (Text.ofDigits 10 (ds.map fun c => c.toNat - 48), l.drop ds.length)

def behind? (c : Char) : List Char → Option (List Char)
  | d :: r => if c = d then some r else none
  | [] => none

/-- The end of the text, a last line feed not counting. -/
def atEnd (l : List Char) : Bool := l.isEmpty || l == ['\n']

/-- The minutes from universal time, up to the end. -/
def distance? (l : List Char) : Option Nat :=
  match l.dropWhile fun c => c == ' ' || c == '\t' with
  | 'Z' :: r => if atEnd r then some 0 else none
  | c :: r =>
    if c = '+' || c = '-' then do
      let (hours, r) ← number? 1 2 r
      match r with
      | ':' :: r => do
        let (minutes, r) ← number? 2 2 r
        if atEnd r then some (hours * 60 + minutes) else none
      | r => if atEnd r then some (hours * 60) else none
    else none
  | [] => none

/-- The time of day and what follows it. -/
def withTime? (m : Moment) (l : List Char) : Option Moment := do
  let r ← (match l with
    | c :: r =>
      if c = 'T' || c = 't' then some r
      else if c = ' ' || c = '\t' then some (r.dropWhile fun c => c == ' ' || c == '\t')
      else none
    | [] => none)
  let (hour, r) ← number? 1 2 r
  let (minute, r) ← number? 2 2 (← behind? ':' r)
  let (second, r) ← number? 2 2 (← behind? ':' r)
  let r := match r with
    | '.' :: r => r.dropWhile Char.isDigit
    | r => r
  let distance ← if atEnd r then some 0 else distance? r
  return { m with hour, minute, second, distance }

/-- The moment that a text has the form of. -/
def ofText? (text : String) : Option Moment := do
  let (year, r) ← number? 4 4 text.toList
  let (month, r) ← number? 1 2 (← behind? '-' r)
  let (day, r) ← number? 1 2 (← behind? '-' r)
  let m : Moment := ⟨year, month, day, 0, 0, 0, 0⟩
  if atEnd r then some m else withTime? m r

end Moment

/-- The moment that a text spells. -/
def readMoment (text : String) : Except Problem Moment :=
  match Moment.ofText? text with
  | none => .error .badMoment
  | some m => if m.real then .ok m else .error .badValue

end LiterateConfig.Yaml
