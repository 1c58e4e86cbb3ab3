import LiterateConfig.Pattern.Search
import LiterateConfig.Text.Hex
import LiterateConfig.Text.Name
import LiterateConfig.Text.Numeral

/-!
# Reading a pattern

The written form of a pattern: most characters stand for themselves, and
`.[](){}*+?^$|\` have a meaning. Groups may be named, look ahead or behind,
depend on another group, or set flags for their part; flags for the whole
pattern stand at its very start.

What is read is kept with the least and the greatest number of characters that
it takes up, because what looks behind needs a fixed number.
-/
namespace LiterateConfig.Pattern

open LiterateConfig.Text

/-- Why a pattern is refused. -/
inductive Problem where
  | malformed
  /-- A repetition count of `countLimit` or more. -/
  | countTooLarge
  /-- A count with more digits than are read. -/
  | countTooLong
  /-- Flags for the whole pattern that exclude each other. -/
  | flagsClash
  /-- Groups inside one another, more than are read. -/
  | tooDeep
  deriving DecidableEq, Repr

/-- The most groups that are read inside one another. -/
def depthLimit : Nat := 480

def countLimit : Nat := 0xffffffff

/-- Widths are exact up to this one. -/
def widthLimit : Nat := 0x10000000000000000

/-! ## Tokens -/

/-- A character, or a backslash and the character behind it. -/
inductive Token where
  | plain (c : Char)
  | escaped (c : Char)
  deriving DecidableEq, Repr

def Token.chars : Token → List Char
  | .plain c => [c]
  | .escaped c => ['\\', c]

/-- The tokens of a pattern; a backslash cannot be last. -/
def tokens? : List Char → Option (List Token)
  | [] => some []
  | ['\\'] => none
  | '\\' :: c :: r => (tokens? r).map (.escaped c :: ·)
  | c :: r => (tokens? r).map (.plain c :: ·)

/-! ## Flags and widths -/

structure Flags where
  ignoreCase : Bool
  multiline : Bool
  dotAll : Bool
  verbose : Bool
  ascii : Bool
  unicode : Bool
  /-- No repetition is allowed. -/
  noRepeat : Bool

namespace Flags

def none : Flags := ⟨false, false, false, false, false, false, false⟩

def letters : List Char := ['i', 'L', 'm', 's', 'x', 'a', 't', 'u']

/-- The letters of the flags that choose a kind of character; they exclude each other. -/
def isKind (c : Char) : Bool := c == 'a' || c == 'u' || c == 'L'

def set (f : Flags) (c : Char) (b : Bool) : Flags :=
  match c with
  | 'i' => { f with ignoreCase := b }
  | 'm' => { f with multiline := b }
  | 's' => { f with dotAll := b }
  | 'x' => { f with verbose := b }
  | 'a' => { f with ascii := b }
  | 'u' => { f with unicode := b }
  | 't' => { f with noRepeat := b }
  | _ => f

/-- The flags within a group that turns some on and some off. -/
def within (f : Flags) (on off : List Char) : Flags :=
  let f := if on.any isKind then { f with ascii := false, unicode := false } else f
  let f := on.foldl (fun f c => f.set c true) f
  off.foldl (fun f c => f.set c false) f

def folding (f : Flags) : Folding :=
  if !f.ignoreCase then .exact else if f.ascii then .asciiCase else .anyCase

end Flags

/-- The least and the greatest number of characters that something takes up. -/
structure Width where
  least : Nat
  most : Nat
  deriving DecidableEq, Repr

namespace Width

def zero : Width := ⟨0, 0⟩

def capped (w : Width) : Width := ⟨min w.least widthLimit, min w.most widthLimit⟩

def add (a b : Width) : Width := capped ⟨a.least + b.least, a.most + b.most⟩

def either (a b : Width) : Width := ⟨min a.least b.least, max a.most b.most⟩

def times (w : Width) (least : Nat) (most : Option Nat) : Width :=
  let greatest := match most with
    | some m => w.most * m
    | none => if w.most = 0 then 0 else widthLimit
  capped ⟨w.least * least, greatest⟩

end Width

/-! ## Pieces -/

/-- Whether a piece can be repeated: neither an anchor nor a repetition can. -/
structure Piece where
  node : Node
  width : Width
  repeatable : Bool

namespace Piece

def ofSet (f : Flags) (members : List Member) (negated : Bool) : Piece :=
  ⟨.one ⟨members, negated, f.folding⟩, ⟨1, 1⟩, true⟩

def ofCode (f : Flags) (n : Nat) : Piece := ofSet f [.code n] false

def ofAnchor (a : Anchor) : Piece := ⟨.anchor a, .zero, false⟩

/-- Pieces one behind the other; the last comes first in the list. -/
def joined (pieces : List Piece) : Node × Width :=
  match pieces with
  | [] => (.empty, .zero)
  | last :: rest =>
    rest.foldl (fun (n, w) p => (.sequence p.node n, p.width.add w)) (last.node, last.width)

end Piece

/-! ## The state of reading -/

structure State where
  rest : List Token
  /-- The flags of the whole pattern. -/
  flags : Flags
  /-- The widths of the groups in order; a group that is still open has none. -/
  widths : Array (Option Width)
  names : List (List Char × Nat)
  /-- The number of groups at the start of the outermost part that looks behind. -/
  behindFrom : Option Nat
  /-- The groups that something depends on. -/
  conditions : List Nat
  /-- Whether something was read that no search can use. -/
  unusable : Bool
  /-- The number of groups around. -/
  depth : Nat

abbrev Read := StateT State (Except Problem)

def refuse {α : Type} (p : Problem := .malformed) : Read α := throw p

def peek : Read (Option Token) := return (← get).rest.head?

def advance : Read Unit := modify fun s => { s with rest := s.rest.tail }

def take? : Read (Option Token) := do
  let t ← peek
  advance
  return t

/-- Takes a character if it comes next. -/
def accept (c : Char) : Read Bool := do
  if (← peek) = some (.plain c) then
    advance
    return true
  else return false

def require (c : Char) : Read Unit := do
  if ← accept c then return () else refuse

/-- Takes the next characters that satisfy `p`, at most `n` of them. -/
def takeSome (p : Char → Bool) : Nat → Read (List Char)
  | 0 => return []
  | n + 1 => do
    match ← peek with
    | some (.plain c) =>
      if p c then
        advance
        return c :: (← takeSome p n)
      else return []
    | _ => return []

/-- Takes all next characters that satisfy `p`. -/
def takeAll (p : Char → Bool) : Read (List Char) := do takeSome p (← get).rest.length

/-- Takes what stands in front of a character, at least something, and the character. -/
def takeUntil (c : Char) : Read (List Char) := do
  let rest := (← get).rest
  let before := rest.takeWhile (· != .plain c)
  if before.isEmpty || before.length == rest.length then refuse
  else
    modify fun s => { s with rest := rest.drop (before.length + 1) }
    return before.flatMap Token.chars

/-- Leaves a comment behind its hash sign. -/
def skipComment : Read Unit :=
  modify fun s => { s with rest := (s.rest.dropWhile (· != .plain '\n')).tail }

/-! ## Groups by number and name -/

def isClosed (s : State) (number : Nat) : Bool :=
  match s.widths[number - 1]? with
  | some (some _) => number != 0
  | _ => false

/-- Within a part that looks behind, only groups closed in front of it can be referred to. -/
def requireInFront (number : Nat) : Read Unit := do
  let s ← get
  match s.behindFrom with
  | none => return ()
  | some k => if isClosed s number && number < k then return () else refuse

/-- The text of a closed group, once more. -/
def again (f : Flags) (number : Nat) : Read Piece := do
  let s ← get
  match s.widths[number - 1]? with
  | some (some w) =>
    requireInFront number
    return ⟨.again number f.folding, w, true⟩
  | _ => refuse

/-- Opens a group, giving its number. -/
def openGroup (name : Option (List Char)) : Read Nat := do
  let s ← get
  let number := s.widths.size + 1
  let names ← match name with
    | none => pure s.names
    | some n => if (s.names.lookup n).isSome then refuse else pure ((n, number) :: s.names)
  set { s with widths := s.widths.push none, names }
  return number

/-- Reads what is in brackets. -/
def inside {α : Type} (x : Read α) : Read α := do
  if depthLimit ≤ (← get).depth then refuse .tooDeep
  modify fun s => { s with depth := s.depth + 1 }
  let a ← x
  modify fun s => { s with depth := s.depth - 1 }
  return a

def closeGroup (number : Nat) (w : Width) : Read Unit :=
  modify fun s => { s with widths := s.widths.setIfInBounds (number - 1) (some w) }

/-! ## Escapes -/

def isOctal (c : Char) : Bool := '0' ≤ c && c ≤ '7'

def octalValue (l : List Char) : Nat := ofDigits 8 (l.map fun c => c.toNat - 48)

def isHex (c : Char) : Bool := (hexValue? c).isSome

def isAsciiLetter (c : Char) : Bool := c.isAlpha

/-- A code point in exactly `n` hexadecimal digits. -/
def hexCode (n : Nat) : Read Nat := do
  let ds ← takeSome isHex n
  match readHex? ds with
  | some code => if ds.length = n && code < 0x110000 then return code else refuse
  | none => refuse

/-- The code point of a letter that stands for a control character. -/
def controlCode? (c : Char) : Option Nat :=
  match c with
  | 'a' => some 7
  | 'b' => some 8
  | 'f' => some 12
  | 'n' => some 10
  | 'r' => some 13
  | 't' => some 9
  | 'v' => some 11
  | _ => none

/-- The kind of character that a letter stands for, and whether negated. -/
def category? (c : Char) : Option (Category × Bool) :=
  match c with
  | 'd' => some (.digit, false)
  | 'D' => some (.digit, true)
  | 's' => some (.space, false)
  | 'S' => some (.space, true)
  | 'w' => some (.word, false)
  | 'W' => some (.word, true)
  | _ => none

/-- The code point of an escape that means the same everywhere. -/
def escapedCode (c : Char) : Read Nat := do
  match c with
  | 'x' => hexCode 2
  | 'u' => hexCode 4
  | 'U' => hexCode 8
  | c =>
    match controlCode? c with
    | some n => return n
    | none => if isAsciiLetter c then refuse else return c.toNat

/-- An escape within a set. -/
def setEscape (f : Flags) (c : Char) : Read Member := do
  match category? c with
  | some (k, negated) => return .category k f.ascii negated
  | none =>
    if isOctal c then
      let n := octalValue (c :: (← takeSome isOctal 2))
      if n < 256 then return .code n else refuse
    else if c.isDigit then refuse
    else return .code (← escapedCode c)

/-- An escape that starts with a digit other than zero: three octal digits are a
code point, otherwise one or two digits are the number of a group. -/
def digitEscape (f : Flags) (c : Char) : Read Piece := do
  match ← takeSome Char.isDigit 1 with
  | [d] =>
    let last ← if isOctal c && isOctal d then takeSome isOctal 1 else pure []
    if last.isEmpty then again f (ofDigits 10 [c.toNat - 48, d.toNat - 48])
    else
      let n := octalValue (c :: d :: last)
      if n < 256 then return .ofCode f n else refuse
  | _ => again f (c.toNat - 48)

/-- An escape outside of sets. -/
def escape (f : Flags) (c : Char) : Read Piece := do
  match c with
  | 'A' => return .ofAnchor .textStart
  | 'Z' => return .ofAnchor .textEnd
  | 'b' => return .ofAnchor (.wordEdge f.ascii false)
  | 'B' => return .ofAnchor (.wordEdge f.ascii true)
  | '0' => return .ofCode f (octalValue (← takeSome isOctal 2))
  | c =>
    match category? c with
    | some (k, negated) => return .ofSet f [.category k f.ascii negated] false
    | none => if c.isDigit then digitEscape f c else return .ofCode f (← escapedCode c)

/-! ## Sets -/

/-- One end of a range, or a member on its own. -/
def setMember (f : Flags) : Token → Read Member
  | .escaped c => setEscape f c
  | .plain c => return .code c.toNat

/-- A range from one member to another. -/
def rangeOf : Member → Member → Read Member
  | .code a, .code b => if b < a then refuse else return .range a b
  | _, _ => refuse

/-- The members of a set up to its closing bracket; a bracket in first place is
a member. -/
def setMembers (f : Flags) : Nat → List Member → Read (List Member)
  | 0, _ => refuse
  | fuel + 1, seen => do
    match ← take? with
    | none => refuse
    | some t =>
      if t = .plain ']' && !seen.isEmpty then return seen
      else
        let first ← setMember f t
        if ← accept '-' then
          match ← take? with
          | none => refuse
          | some (.plain ']') => return seen ++ [first, .code '-'.toNat]
          | some t =>
            let last ← setMember f t
            setMembers f fuel (seen ++ [← rangeOf first last])
        else setMembers f fuel (seen ++ [first])

/-- A set behind its opening bracket. -/
def readSet (f : Flags) : Read Piece := do
  let negated ← accept '^'
  let members ← setMembers f ((← get).rest.length + 1) []
  return .ofSet f members negated

/-! ## Repetition -/

/-- How often a repetition tries, by the mark behind its counts. -/
def readGreed : Read Greed := do
  if ← accept '?' then return .lazy
  else if ← accept '+' then return .possessive
  else return .greedy

/-- Repeats the last piece. -/
def repeatLast (f : Flags) (least : Nat) (most : Option Nat) : List Piece → Read (List Piece)
  | [] => refuse
  | p :: rest => do
    if !p.repeatable then refuse
    let greed ← readGreed
    if f.noRepeat then modify fun s => { s with unusable := true }
    return ⟨.many p.node least most greed, p.width.times least most, false⟩ :: rest

/-- A count in digits; no digits are no count. -/
def readCount (ds : List Char) : Read (Option Nat) :=
  if ds.isEmpty then return none
  else if digitLimit < ds.length then refuse .countTooLong
  else
    let n := ofDigits 10 (ds.map fun c => c.toNat - 48)
    if countLimit ≤ n then refuse .countTooLarge else return some n

/-- The counts in braces, behind the opening one; without counts and a closing
brace the opening one stands for itself. -/
def readBraces (f : Flags) (done : List Piece) : Read (List Piece) := do
  let start ← get
  let itself := Piece.ofCode f '{'.toNat :: done
  if (← peek) = some (.plain '}') then return itself
  let low ← takeAll Char.isDigit
  let high ← if ← accept ',' then takeAll Char.isDigit else pure low
  if ← accept '}' then
    let least ← readCount low
    let most ← readCount high
    match most with
    | some m => if m < least.getD 0 then refuse else repeatLast f (least.getD 0) most done
    | none => repeatLast f (least.getD 0) none done
  else
    set start
    return itself

/-! ## Flags in groups -/

/-- Flag letters up to one of the characters in `ends`, which comes last. -/
def flagLetters (ends : List Char) : Nat → Char → Read (List Char × Char)
  | 0, _ => refuse
  | fuel + 1, c => do
    if !Flags.letters.contains c || c = 'L' then refuse
    match ← take? with
    | some (.plain d) =>
      if ends.contains d then return ([c], d)
      else
        let (more, last) ← flagLetters ends fuel d
        return (c :: more, last)
    | _ => refuse

/-- What flags in a group do. -/
inductive FlagGroup where
  /-- Sets flags for the whole pattern. -/
  | whole (on : List Char)
  | part (on off : List Char)

/-- The flags turned off behind a hyphen. -/
def flagsOff : Read (List Char) := do
  match ← take? with
  | some (.plain c) =>
    let (off, _) ← flagLetters [':'] ((← get).rest.length + 1) c
    if off.any Flags.isKind || off.contains 't' then refuse else return off
  | _ => refuse

/-- Flags that start with `c`, up to the end of the flags. -/
def readFlags (c : Char) : Read FlagGroup := do
  let (on, last) ← if c = '-' then pure ([], '-')
    else flagLetters [')', '-', ':'] ((← get).rest.length + 1) c
  if on.contains 'a' && on.contains 'u' then refuse
  if last = ')' then return .whole on
  if on.contains 't' then refuse
  let off ← if last = '-' then flagsOff else pure []
  if on.any off.contains then refuse
  return .part on off

/-! ## Groups, sequences and choices -/

/-- What stands in brackets. -/
inductive Bracketed where
  | piece (p : Piece)
  | comment
  | flags (f : Flags)

/-- The number of the group that a condition names. -/
def conditionNumber (name : List Char) : Read Nat := do
  if isNameChars name then
    match (← get).names.lookup name with
    | some n => return n
    | none => refuse
  else
    match readInt? (String.ofList name) with
    | some (.ofNat (n + 1)) =>
      modify fun s => { s with conditions := (n + 1) :: s.conditions }
      return n + 1
    | _ => refuse

/-- The name of a group. -/
def groupName (last : Char) : Read (List Char) := do
  let name ← takeUntil last
  if isNameChars name then return name else refuse

/-- What looks at the characters around, given what it matches. -/
def lookAround (isBehind negated : Bool) (n : Node) (w : Width) : Read Piece := do
  if isBehind then
    if w.least != w.most || countLimit < w.least then modify fun s => { s with unusable := true }
    return ⟨.behind negated w.least n, .zero, true⟩
  else return ⟨.ahead negated n, .zero, true⟩

mutual

/-- Choices up to a closing bracket or the end; `top` for the whole pattern. -/
def readChoices : Nat → Flags → (top first : Bool) → Read (Node × Width)
  | 0, _, _, _ => refuse
  | fuel + 1, f, top, first => do
    let whole := (← get).flags
    let f := if top then whole else f
    let (a, wa) ← readSequence fuel f first []
    if ← accept '|' then
      let (b, wb) ← readChoices fuel f top false
      return (.choice a b, wa.either wb)
    else return (a, wa)

/-- Pieces up to a bar, a closing bracket or the end; `done` has the last first. -/
def readSequence : Nat → Flags → Bool → List Piece → Read (Node × Width)
  | 0, _, _, _ => refuse
  | fuel + 1, f, first, done => do
    match ← peek with
    | none | some (.plain '|') | some (.plain ')') => return Piece.joined done
    | some (.escaped c) =>
      advance
      let p ← escape f c
      readSequence fuel f first (p :: done)
    | some (.plain c) =>
      advance
      if f.verbose && (c == ' ' || (9 ≤ c.toNat && c.toNat ≤ 13)) then
        readSequence fuel f first done
      else if f.verbose && c == '#' then
        skipComment
        readSequence fuel f first done
      else match c with
        | '[' => do
          let p ← readSet f
          readSequence fuel f first (p :: done)
        | '*' => do readSequence fuel f first (← repeatLast f 0 none done)
        | '+' => do readSequence fuel f first (← repeatLast f 1 none done)
        | '?' => do readSequence fuel f first (← repeatLast f 0 (some 1) done)
        | '{' => do readSequence fuel f first (← readBraces f done)
        | '.' =>
          let members := if f.dotAll then [] else [Member.code 10]
          readSequence fuel f first (.ofSet { f with ignoreCase := false } members true :: done)
        | '^' =>
          readSequence fuel f first (.ofAnchor (if f.multiline then .lineStart else .textStart) :: done)
        | '$' =>
          readSequence fuel f first (.ofAnchor (if f.multiline then .lineEnd else .lastLineEnd) :: done)
        | '(' => do
          match ← inside (readBracketed fuel f (first && done.isEmpty)) with
          | .piece p => readSequence fuel f first (p :: done)
          | .comment => readSequence fuel f first done
          | .flags f => readSequence fuel f first done
        | c => readSequence fuel f first (.ofCode f c.toNat :: done)

/-- What stands behind an opening bracket, up to the closing one. -/
def readBracketed : Nat → Flags → Bool → Read Bracketed
  | 0, _, _ => refuse
  | fuel + 1, f, atStart => do
    if ← accept '?' then
      match ← take? with
      | some (.plain 'P') =>
        if ← accept '<' then .piece <$> readGroup fuel f (some (← groupName '>'))
        else if ← accept '=' then
          match (← get).names.lookup (← groupName ')') with
          | some number => .piece <$> again f number
          | none => refuse
        else refuse
      | some (.plain ':') => .piece <$> readInner fuel f
      | some (.plain '>') => do
        let p ← readInner fuel f
        return .piece { p with node := .atomic p.node }
      | some (.plain '#') => do
        let rest := (← get).rest.dropWhile (· != .plain ')')
        if rest.isEmpty then refuse
        modify fun s => { s with rest := rest.tail }
        return .comment
      | some (.plain '=') => .piece <$> readLook fuel f false false
      | some (.plain '!') => .piece <$> readLook fuel f false true
      | some (.plain '<') => do
        if ← accept '=' then .piece <$> readLook fuel f true false
        else if ← accept '!' then .piece <$> readLook fuel f true true
        else refuse
      | some (.plain '(') => .piece <$> readGiven fuel f
      | some (.plain c) =>
        if Flags.letters.contains c || c = '-' then
          match ← readFlags c with
          | .whole on =>
            modify fun s => { s with flags := on.foldl (fun f c => f.set c true) s.flags }
            if atStart then return .flags (← get).flags else refuse
          | .part on off => .piece <$> readInner fuel (f.within on off)
        else refuse
      | _ => refuse
    else .piece <$> readGroup fuel f none

/-- A group that remembers what it matched. -/
def readGroup : Nat → Flags → Option (List Char) → Read Piece
  | 0, _, _ => refuse
  | fuel + 1, f, name => do
    let number ← openGroup name
    let (n, w) ← readChoices fuel f false false
    require ')'
    closeGroup number w
    return ⟨.group number n, w, true⟩

/-- The inside of brackets that remember nothing. -/
def readInner : Nat → Flags → Read Piece
  | 0, _ => refuse
  | fuel + 1, f => do
    let (n, w) ← readChoices fuel f false false
    require ')'
    return ⟨n, w, true⟩

/-- What looks ahead or behind. -/
def readLook : Nat → Flags → (isBehind negated : Bool) → Read Piece
  | 0, _, _, _ => refuse
  | fuel + 1, f, isBehind, negated => do
    let outer := (← get).behindFrom
    if isBehind && outer.isNone then modify fun s => { s with behindFrom := some (s.widths.size + 1) }
    let (n, w) ← readChoices fuel f false false
    if isBehind then modify fun s => { s with behindFrom := outer }
    require ')'
    lookAround isBehind negated n w

/-- One of two sequences by whether a group has matched. -/
def readGiven : Nat → Flags → Read Piece
  | 0, _ => refuse
  | fuel + 1, f => do
    let number ← conditionNumber (← takeUntil ')')
    requireInFront number
    let (yes, wy) ← readSequence fuel f false []
    if ← accept '|' then
      let (no, wn) ← readSequence fuel f false []
      require ')'
      return ⟨.given number yes no, wy.either wn, true⟩
    else
      require ')'
      return ⟨.given number yes .empty, ⟨0, wy.most⟩, true⟩

end

/-- The whole pattern. -/
def readAll : Read Node := do
  let start ← get
  let (n, _) ← readChoices (4 * start.rest.length + 4) Flags.none true true
  let s ← get
  if s.flags.ascii && s.flags.unicode then refuse .flagsClash
  else if !s.rest.isEmpty || s.unusable || s.conditions.any (s.widths.size < ·) then refuse
  else return n

/-- The pattern that a text spells. -/
def read (text : String) : Except Problem Node :=
  match tokens? text.toList with
  | none => .error .malformed
  | some ts => (readAll.run ⟨ts, .none, #[], [], none, [], false, 0⟩).map Prod.fst

end LiterateConfig.Pattern
