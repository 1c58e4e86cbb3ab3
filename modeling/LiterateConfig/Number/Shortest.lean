import LiterateConfig.Number.Binary64

/-!
# The shortest decimal text of a double

A double is shown with the fewest digits that read back as the same double;
of two such texts the nearer is taken, and of two equally near the even one.
`layout` decides between positional and exponent notation.
-/
namespace LiterateConfig.Number

/-- `digits · 10^exponent`. -/
structure Decimal where
  digits : Nat
  exponent : Int
  deriving DecidableEq, Repr

/-- The number of decimal digits of `n`; zero has one. -/
def digitCount (n : Nat) : Nat := (toString n).length

/-- The least `j ≤ fuel` with `d ≤ n · 10^j`. -/
def leadingZeros (n d : Nat) : Nat → Nat
  | 0 => 0
  | fuel + 1 => if d ≤ n then 0 else leadingZeros (n * 10) d fuel + 1

/-- The `e` with `10^(e-1) ≤ n/d < 10^e`, for `n` and `d` positive. -/
def decimalSize (n d : Nat) : Int :=
  if d ≤ n then digitCount (n / d) else 1 - (leadingZeros n d 400 : Int)

/-- The half-open or closed interval of reals that round to `m · 2^q`, in
quarters of `2^q`: its ends are a half unit away, or a quarter below a power of two. -/
def roundingEnds (m : Nat) (q : Int) : Nat × Nat :=
  (if m = twoTo 52 ∧ -1074 < q then 4 * m - 1 else 4 * m - 2, 4 * m + 2)

/-- The grid point with `k` digits nearest to `m · 2^q`, if it reads back as that number. -/
def shortestAt (m : Nat) (q size : Int) (k : Nat) : Option Decimal :=
  let s := size - k
  let scale := twoTo (q - 2).toNat * tenTo (-s).toNat
  let step := tenTo s.toNat * twoTo (2 - q).toNat
  let (lo, hi) := roundingEnds m q
  let reads (c : Nat) : Bool :=
    if m % 2 = 0 then lo * scale ≤ c * step && c * step ≤ hi * scale
    else lo * scale < c * step && c * step < hi * scale
  let v := 4 * m * scale
  let below := v / step
  let down := v - below * step
  let up := (below + 1) * step - v
  match reads below, reads (below + 1) with
  | false, false => none
  | true, false => some ⟨below, s⟩
  | false, true => some ⟨below + 1, s⟩
  | true, true =>
    if down < up || (down == up && below % 2 == 0) then some ⟨below, s⟩ else some ⟨below + 1, s⟩

/-- The shortest decimal that reads back as `m · 2^q`; seventeen digits always do. -/
def shortest (m : Nat) (q : Int) : Decimal :=
  let size := if 0 ≤ q then decimalSize (m * twoTo q.toNat) 1 else decimalSize m (twoTo (-q).toNat)
  ((List.range 17).findSome? fun k => shortestAt m q size (k + 1)).getD ⟨m, 0⟩

/-- Drops the zeros at the end of the digits. -/
def Decimal.reduced (d : Decimal) : Decimal :=
  let cs := (toString d.digits).toList.reverse
  let zeros := (cs.takeWhile (· == '0')).length
  if d.digits = 0 then d else ⟨d.digits / tenTo zeros, d.exponent + zeros⟩

/-- Positional from `0.0001` to below `10^16`, otherwise one digit, a point and a
signed exponent of at least two digits. -/
def Decimal.layout (d : Decimal) : String :=
  let r := d.reduced
  let cs := (toString r.digits).toList
  let n : Int := cs.length
  let size := n + r.exponent
  let zeros (k : Int) : List Char := List.replicate k.toNat '0'
  if -4 < size && size ≤ 16 then
    if 0 ≤ r.exponent then String.ofList (cs ++ zeros r.exponent ++ ['.', '0'])
    else if 0 < size then String.ofList (cs.take size.toNat ++ '.' :: cs.drop size.toNat)
    else String.ofList (['0', '.'] ++ zeros (-size) ++ cs)
  else
    let e := size - 1
    let body := match cs with
      | c :: [] => [c]
      | c :: rest => c :: '.' :: rest
      | [] => []
    let digits := (toString e.natAbs).toList
    let padded := if digits.length < 2 then '0' :: digits else digits
    String.ofList (body ++ ['e', if e < 0 then '-' else '+'] ++ padded)

/-- The text of a double. -/
def floatText (x : Float) : String :=
  match parts? x with
  | none => if x.isNaN then "nan" else if x < 0 then "-inf" else "inf"
  | some p =>
    let body := if p.mantissa = 0 then "0.0" else (shortest p.mantissa p.exponent).layout
    if p.negative then "-" ++ body else body

end LiterateConfig.Number
