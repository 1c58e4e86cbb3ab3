/-!
# Double-precision numbers as exact fractions

A finite double is a mantissa times a power of two. `parts?` takes it apart,
`ofRatio` rounds a fraction to the nearest double with ties to even, and
`equalsInt` compares a double with a whole number without rounding either.
-/
namespace LiterateConfig.Number

/-- A sign and a non-negative mantissa times a power of two. -/
structure Parts where
  negative : Bool
  mantissa : Nat
  exponent : Int
  deriving DecidableEq, Repr

/-- The power of two with an exponent. -/
def twoTo (e : Nat) : Nat := Nat.pow 2 e

/-- The power of ten with an exponent. -/
def tenTo (e : Nat) : Nat := Nat.pow 10 e

/-- The exact value of a finite double. -/
def parts? (x : Float) : Option Parts :=
  let bits := x.toBits.toNat
  let e : Nat := bits / twoTo 52 % twoTo 11
  let fraction : Nat := bits % twoTo 52
  if e = 2047 then none
  else if e = 0 then some ⟨bits / twoTo 63 = 1, fraction, -1074⟩
  else some ⟨bits / twoTo 63 = 1, fraction + twoTo 52, (e : Int) - 1075⟩

/-- The double with the given fields; the exponent field may carry from the fraction. -/
def ofFields (negative : Bool) (fields : Nat) : Float :=
  Float.ofBits (UInt64.ofNat ((if negative then twoTo 63 else 0) + fields))

/-- `n / d` rounded to the nearest whole number, ties to even. -/
def divideEven (n d : Nat) : Nat :=
  let q := n / d
  let r := n % d
  if 2 * r < d then q else if d < 2 * r then q + 1 else if q % 2 = 0 then q else q + 1

/-- The fraction `n / d` as the nearest double, ties to even; too large is infinite. -/
def ofRatio (negative : Bool) (n d : Nat) : Float :=
  if n = 0 || d = 0 then ofFields negative 0
  else
    -- the exponent that gives the quotient 53 bits, or one more
    let e : Int := max ((Nat.log2 n : Int) - (Nat.log2 d : Int) - 53) (-1074)
    let scaled (e : Int) : Nat :=
      if 0 ≤ e then divideEven n (d * twoTo e.toNat) else divideEven (n * twoTo (-e).toNat) d
    let fits (e : Int) : Bool :=
      if 0 ≤ e then n < d * twoTo (e.toNat + 53) else n * twoTo (-e).toNat < d * twoTo 53
    let e := if fits e then e else e + 1
    let m := scaled e
    -- a mantissa below 2^52 is subnormal; rounding up to 2^53 carries into the exponent
    let fields := if m < twoTo 52 then m else (e + 1074).toNat * twoTo 52 + m
    if 2047 * twoTo 52 ≤ fields then ofFields negative (2047 * twoTo 52) else ofFields negative fields

def ofNat (n : Nat) : Float := ofRatio false n 1

def ofInt (n : Int) : Float := ofRatio (n < 0) n.natAbs 1

/-- `m · 10^e` as the nearest double. -/
def ofDecimal (negative : Bool) (m : Nat) (e : Int) : Float :=
  if m = 0 then ofFields negative 0
  else
    let size := (Nat.log2 m : Int) + e * 3
    if e < 0 && size + 5000 < 0 then ofFields negative 0
    else if 0 ≤ e && 5000 < e then ofFields negative (2047 * twoTo 52)
    else if 0 ≤ e then ofRatio negative (m * tenTo e.toNat) 1
    else ofRatio negative m (tenTo (-e).toNat)

/-- Whether a double is exactly the whole number `n`. -/
def equalsInt (x : Float) (n : Int) : Bool :=
  match parts? x with
  | none => false
  | some p =>
    let sized : Int := if p.negative then -(p.mantissa : Int) else p.mantissa
    if 0 ≤ p.exponent then sized * twoTo p.exponent.toNat == n
    else sized == n * twoTo (-p.exponent).toNat

end LiterateConfig.Number
