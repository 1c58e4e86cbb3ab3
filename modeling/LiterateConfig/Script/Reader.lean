import LiterateConfig.Script.Lexer
import LiterateConfig.Script.Syntax

/-!
# Reading tokens as syntax

`module?` reads a whole block as statements, `expression?` reads a block that
is one expression. Operators bind from `or` (loosest) over `and`, `not`, `==`,
sums, products and the minus sign to calls, indices and attributes.
-/
namespace LiterateConfig.Script

/-- A reader of the front of a token list. -/
abbrev Parse (α : Type) := List Lexeme → Option (α × List Lexeme)

def atMark (m : Mark) : List Lexeme → Bool
  | ⟨.mark k, _⟩ :: _ => k == m
  | _ => false

def atWord (w : String) : List Lexeme → Bool
  | ⟨.word k, _⟩ :: _ => k == w
  | _ => false

/-- What follows a mark at the front. -/
def mark? (m : Mark) : List Lexeme → Option (List Lexeme)
  | ⟨.mark k, _⟩ :: r => if k = m then some r else none
  | _ => none

def word? (w : String) : List Lexeme → Option (List Lexeme)
  | ⟨.word k, _⟩ :: r => if k = w then some r else none
  | _ => none

def newline? : List Lexeme → Option (List Lexeme)
  | ⟨.newline, _⟩ :: r => some r
  | _ => none

/-- Neighbouring texts are one text; texts and bytes do not mix. -/
def takeTexts (s : String) : List Lexeme → Option (Expr × List Lexeme)
  | ⟨.text t, _⟩ :: r => takeTexts (s ++ t) r
  | ⟨.bytes _, _⟩ :: _ => none
  | r => some (.text s, r)

def takeBytes (b : List UInt8) : List Lexeme → Option (Expr × List Lexeme)
  | ⟨.bytes c, _⟩ :: r => takeBytes (b ++ c) r
  | ⟨.text _, _⟩ :: _ => none
  | r => some (.bytes b, r)

/-! ## Expressions

Each level reads its operands from the next tighter one. Every call but the
passage to a tighter level uses up a token, and there are ten levels. -/

mutual

/-- Any expression. -/
def readExpr : Nat → Parse Expr
  | 0, _ => none
  | fuel + 1, l =>
    if atWord "lambda" l then do
      let l ← mark? .colon l.tail
      let (body, l) ← readExpr fuel l
      return (.function body, l)
    else do
      let (e, l) ← readAnd fuel l
      readOrRest fuel e l

def readOrRest : Nat → Expr → Parse Expr
  | 0, _, _ => none
  | fuel + 1, e, l =>
    match word? "or" l with
    | some l => do
      let (r, l) ← readAnd fuel l
      let (rest, l) ← readOrRest fuel r l
      return (.or e rest, l)
    | none => some (e, l)

def readAnd : Nat → Parse Expr
  | 0, _ => none
  | fuel + 1, l => do
    let (e, l) ← readNot fuel l
    match word? "and" l with
    | some l => do
      let (r, l) ← readAnd fuel l
      return (.and e r, l)
    | none => some (e, l)

def readNot : Nat → Parse Expr
  | 0, _ => none
  | fuel + 1, l =>
    match word? "not" l with
    | some l => do
      let (e, l) ← readNot fuel l
      return (.not e, l)
    | none => do
      let (e, l) ← readSum fuel l
      let (rest, l) ← readEqualRest fuel l
      return (if rest.isEmpty then e else .equal e rest, l)

/-- The further operands of a comparison. -/
def readEqualRest : Nat → Parse (List Expr)
  | 0, _ => none
  | fuel + 1, l =>
    match mark? .equals l with
    | some l => do
      let (e, l) ← readSum fuel l
      let (rest, l) ← readEqualRest fuel l
      return (e :: rest, l)
    | none => some ([], l)

def readSum : Nat → Parse Expr
  | 0, _ => none
  | fuel + 1, l => do
    let (e, l) ← readProduct fuel l
    readSumRest fuel e l

def readSumRest : Nat → Expr → Parse Expr
  | 0, _, _ => none
  | fuel + 1, e, l =>
    if atMark .plus l then do
      let (r, l) ← readProduct fuel l.tail
      readSumRest fuel (.binary .add e r) l
    else if atMark .minus l then do
      let (r, l) ← readProduct fuel l.tail
      readSumRest fuel (.binary .subtract e r) l
    else some (e, l)

def readProduct : Nat → Parse Expr
  | 0, _ => none
  | fuel + 1, l => do
    let (e, l) ← readSigned fuel l
    readProductRest fuel e l

def readProductRest : Nat → Expr → Parse Expr
  | 0, _, _ => none
  | fuel + 1, e, l =>
    if atMark .star l then do
      let (r, l) ← readSigned fuel l.tail
      readProductRest fuel (.binary .multiply e r) l
    else if atMark .slash l then do
      let (r, l) ← readSigned fuel l.tail
      readProductRest fuel (.binary .divide e r) l
    else some (e, l)

def readSigned : Nat → Parse Expr
  | 0, _ => none
  | fuel + 1, l =>
    if atMark .minus l then do
      let (e, l) ← readSigned fuel l.tail
      return (.negate e, l)
    else do
      let (e, l) ← readAtom fuel l
      readTrailers fuel e l

/-- Calls, indices and attributes behind an expression. -/
def readTrailers : Nat → Expr → Parse Expr
  | 0, _, _ => none
  | fuel + 1, e, l =>
    match l with
    | ⟨.mark .openRound, _⟩ :: l => do
      let (args, _, l) ← readItems fuel .closeRound l
      readTrailers fuel (.call e args) l
    | ⟨.mark .openSquare, _⟩ :: l => do
      let (items, comma, l) ← readItems fuel .closeSquare l
      let i ← match items, comma with
        | [], _ => none
        | [i], false => some i
        | items, _ => some (.tuple items)
      readTrailers fuel (.index e i) l
    | ⟨.mark .dot, _⟩ :: ⟨.name n, _⟩ :: l => readTrailers fuel (.attribute e n) l
    | ⟨.mark .dot, _⟩ :: _ => none
    | l => some (e, l)

/-- A literal, a name, or something in brackets. -/
def readAtom : Nat → Parse Expr
  | 0, _ => none
  | fuel + 1, l =>
    match l with
    | ⟨.name n, _⟩ :: l => some (.name n, l)
    | ⟨.int n, _⟩ :: l => some (.int n, l)
    | ⟨.float x, _⟩ :: l => some (.float x, l)
    | ⟨.text s, _⟩ :: l => takeTexts s l
    | ⟨.bytes b, _⟩ :: l => takeBytes b l
    | ⟨.word w, _⟩ :: l =>
      if w = "None" then some (.nothing, l)
      else if w = "True" then some (.bool true, l)
      else if w = "False" then some (.bool false, l)
      else none
    | ⟨.mark .openRound, _⟩ :: l => do
      let (items, comma, l) ← readItems fuel .closeRound l
      match items, comma with
      | [e], false => some (e, l)
      | items, _ => some (.tuple items, l)
    | ⟨.mark .openSquare, _⟩ :: l => do
      let (items, _, l) ← readItems fuel .closeSquare l
      return (.list items, l)
    | ⟨.mark .openCurly, _⟩ :: l =>
      if atMark .closeCurly l then some (.dict [], l.tail)
      else do
        let (e, l) ← readExpr fuel l
        if atMark .colon l then do
          let (v, l) ← readExpr fuel l.tail
          let (pairs, l) ← readPairs fuel l
          return (.dict ((e, v) :: pairs), l)
        else if atMark .comma l then do
          let (items, _, l) ← readItems fuel .closeCurly l.tail
          return (.set (e :: items), l)
        else do
          let l ← mark? .closeCurly l
          return (.set [e], l)
    | _ => none

/-- Expressions between commas up to a closing bracket, and whether the last
comma stands behind all of them. -/
def readItems : Nat → Mark → List Lexeme → Option (List Expr × Bool × List Lexeme)
  | 0, _, _ => none
  | fuel + 1, close, l =>
    if atMark close l then some ([], false, l.tail)
    else do
      let (e, l) ← readExpr fuel l
      if atMark close l then some ([e], false, l.tail)
      else do
        let l ← mark? .comma l
        if atMark close l then some ([e], true, l.tail)
        else do
          let (rest, comma, l) ← readItems fuel close l
          return (e :: rest, comma, l)

/-- The further pairs of a dictionary up to its closing brace. -/
def readPairs : Nat → Parse (List (Expr × Expr))
  | 0, _ => none
  | fuel + 1, l =>
    if atMark .closeCurly l then some ([], l.tail)
    else do
      let l ← mark? .comma l
      if atMark .closeCurly l then some ([], l.tail)
      else do
        let (k, l) ← readExpr fuel l
        let l ← mark? .colon l
        let (v, l) ← readExpr fuel l
        let (rest, l) ← readPairs fuel l
        return ((k, v) :: rest, l)

end

/-- Whether an expression can start here. -/
def startsExpr : List Lexeme → Bool
  | ⟨.word w, _⟩ :: _ => ["None", "True", "False", "not", "lambda"].contains w
  | ⟨.mark m, _⟩ :: _ => m == .openRound || m == .openSquare || m == .openCurly || m == .minus
  | ⟨.newline, _⟩ :: _ | ⟨.indent, _⟩ :: _ | ⟨.dedent, _⟩ :: _ | [] => false
  | _ => true

/-- Further expressions behind a comma; the flag says that there was a comma. -/
def readExprsRest : Nat → List Lexeme → Option (List Expr × Bool × List Lexeme)
  | 0, _ => none
  | fuel + 1, l =>
    if atMark .comma l then
      if startsExpr l.tail then do
        let (e, l) ← readExpr fuel l.tail
        let (rest, _, l) ← readExprsRest fuel l
        return (e :: rest, true, l)
      else some ([], true, l.tail)
    else some ([], false, l)

/-- One expression, or several with commas, which make a tuple. -/
def readExprs (fuel : Nat) (l : List Lexeme) : Option (Expr × List Lexeme) := do
  let (e, l) ← readExpr fuel l
  let (rest, comma, l) ← readExprsRest fuel l
  return (if comma then .tuple (e :: rest) else e, l)

/-! ## Statements -/

def target? : Expr → Option Target
  | .name s => some (.name s)
  | .index e i => some (.index e i)
  | _ => none

/-- What follows an expression: assignments of it, or nothing. The targets so
far are in reverse. -/
def readAssigned (line : Nat) : Nat → List Target → Expr → Parse Stmt
  | 0, _, _, _ => none
  | fuel + 1, targets, e, l =>
    if atMark .assign l then do
      let t ← target? e
      let (next, l) ← readExprs fuel l.tail
      readAssigned line fuel (t :: targets) next l
    else some (if targets.isEmpty then .expr line e else .assign targets.reverse e, l)

/-- A statement on one line. -/
def readSmall (fuel : Nat) : Parse Stmt
  | ⟨.word "pass", _⟩ :: l => some (.pass, l)
  | ⟨.word "return", _⟩ :: l =>
    if startsExpr l then (readExprs fuel l).map fun (e, l) => (.return (some e), l)
    else some (.return none, l)
  | ⟨.word "raise", _⟩ :: l => (readExpr fuel l).map fun (e, l) => (.raise e, l)
  | ⟨.word "import", _⟩ :: ⟨.name m, _⟩ :: l => some (.load m, l)
  | ⟨.mark .star, line⟩ :: l => (readSum fuel l).map fun (e, l) => (.starred line e, l)
  | ⟨t, line⟩ :: l => do
    let (e, l) ← readExprs fuel (⟨t, line⟩ :: l)
    readAssigned line fuel [] e l
  | [] => none

/-- The statements of a line, up to its end; a semicolon may end it. -/
def readLine : Nat → Parse (List Stmt)
  | 0, _ => none
  | fuel + 1, l => do
    let (s, l) ← readSmall fuel l
    match newline? l with
    | some l => some ([s], l)
    | none => do
      let l ← mark? .semicolon l
      match newline? l with
      | some l => some ([s], l)
      | none => do
        let (rest, l) ← readLine fuel l
        return (s :: rest, l)

/-- Parameter names up to the closing bracket. -/
def readParams : Nat → Parse (List String)
  | 0, _ => none
  | fuel + 1, l =>
    match l with
    | ⟨.mark .closeRound, _⟩ :: l => some ([], l)
    | ⟨.name n, _⟩ :: ⟨.mark .closeRound, _⟩ :: l => some ([n], l)
    | ⟨.name n, _⟩ :: ⟨.mark .comma, _⟩ :: l => (readParams fuel l).map fun (ns, l) => (n :: ns, l)
    | _ => none

mutual

/-- A statement, or the statements of one line. -/
def readStmt : Nat → Parse (List Stmt)
  | 0, _ => none
  | fuel + 1, l =>
    if atWord "if" l then do
      let (cond, l) ← readExpr fuel l.tail
      let (yes, l) ← readSuite fuel l
      if atWord "else" l then do
        let (no, l) ← readSuite fuel l.tail
        return ([.branch cond yes no], l)
      else return ([.branch cond yes []], l)
    else if atMark .decorate l || atWord "def" l then do
      let (s, l) ← readDefinition fuel [] l
      return ([s], l)
    else readLine fuel l

/-- A function, behind the decorators so far. -/
def readDefinition : Nat → List Expr → Parse Stmt
  | 0, _, _ => none
  | fuel + 1, decorators, l =>
    if atMark .decorate l then do
      let (d, l) ← readExpr fuel l.tail
      let l ← newline? l
      readDefinition fuel (d :: decorators) l
    else
      match l with
      | ⟨.word "def", _⟩ :: ⟨.name n, _⟩ :: ⟨.mark .openRound, _⟩ :: l => do
        let (params, l) ← readParams fuel l
        let (body, l) ← readSuite fuel l
        return (.define decorators n params body, l)
      | _ => none

/-- A colon and the statements behind it, on the line or indented below. -/
def readSuite : Nat → Parse (List Stmt)
  | 0, _ => none
  | fuel + 1, l => do
    let l ← mark? .colon l
    match l with
    | ⟨.newline, _⟩ :: ⟨.indent, _⟩ :: l => readIndented fuel l
    | ⟨.newline, _⟩ :: _ => none
    | l => readLine fuel l

/-- Statements up to the end of the indentation, at least one. -/
def readIndented : Nat → Parse (List Stmt)
  | 0, _ => none
  | fuel + 1, l => do
    let (ss, l) ← readStmt fuel l
    match l with
    | ⟨.dedent, _⟩ :: l => some (ss, l)
    | l => do
      let (rest, l) ← readIndented fuel l
      return (ss ++ rest, l)

end

/-- Statements up to the end of the block. -/
def readModule : Nat → List Lexeme → Option (List Stmt)
  | _, [] => some []
  | 0, _ => none
  | fuel + 1, l => do
    let (ss, l) ← readStmt fuel l
    let rest ← readModule fuel l
    return ss ++ rest

/-- Enough fuel for a token list: a token is passed down at most fifteen calls. -/
def fuelFor (l : List Lexeme) : Nat := 16 * (l.length + 2)

/-- The statements of a block. -/
def module? (source : String) : Option (List Stmt) := do
  let l ← tokens? source
  readModule (fuelFor l) l

/-- The expression that a block is. -/
def expression? (source : String) : Option Expr := do
  let l ← tokensAsGiven? source
  let (e, l) ← readExprs (fuelFor l) l
  if l.all fun x => x.token matches .newline then some e else none

end LiterateConfig.Script
