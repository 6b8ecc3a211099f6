/-
  Transcripts/Numeral/Shortest.lean
  =================================
  **The shortest decimal text of a number.**

  A number is written with the fewest digits that read back as the same number,
  and with those digits nearest to it.  The decimals that read back lie in the
  interval half way to the two neighbours, ends included when the mantissa is
  even.  For one digit, two digits, … the two decimals around the number are
  tried; the first count with one inside the interval wins.
-/
import Transcripts.Numeral.Binary64

namespace Transcripts.Numeral

/-- How numbers are written: which decimal exponents are written without an
    exponent mark, and the least number of digits in an exponent. -/
structure NumberStyle where
  /-- The least position of the leading digit that is written positionally. -/
  positionalFrom : Int
  /-- The greatest position of the leading digit that is written positionally. -/
  positionalTo : Int
  exponentDigits : Nat
deriving Repr

/-- Positional from `0.0001` to below `10^16`; exponents have two digits or more. -/
def standardStyle : NumberStyle := ⟨-3, 16, 2⟩

namespace Shortest

/-- A positive number between its neighbours' midpoints, all over one denominator. -/
structure Interval where
  low : Nat
  value : Nat
  high : Nat
  denominator : Nat
  closed : Bool

/-- The interval of reals that round to `mantissa · 2 ^ exponent`.  Below a power
    of two the neighbours are half as far apart. -/
def interval (mantissa : Nat) (exponent : Int) : Interval :=
  let narrow := mantissa = 0x10000000000000 ∧ Binary64.minExponent < exponent
  let down := if narrow then 1 else 2
  let scale := exponent - 2
  let up := if 0 ≤ scale then Nat.pow 2 scale.toNat else 1
  { low := (4 * mantissa - down) * up
    value := 4 * mantissa * up
    high := (4 * mantissa + 2) * up
    denominator := if 0 ≤ scale then 1 else Nat.pow 2 (-scale).toNat
    closed := mantissa % 2 = 0 }

/-- Whether `n · 10 ^ k` lies in the interval. -/
def Interval.contains (i : Interval) (n : Nat) (k : Int) : Bool :=
  let x := if 0 ≤ k then n * Nat.pow 10 k.toNat * i.denominator else n * i.denominator
  let scale := if 0 ≤ k then 1 else Nat.pow 10 (-k).toNat
  if i.closed then i.low * scale ≤ x ∧ x ≤ i.high * scale
  else i.low * scale < x ∧ x < i.high * scale

/-- The whole part of `value / 10 ^ k`, and how the rest compares to a half. -/
def Interval.divide (i : Interval) (k : Int) : Nat × Ordering :=
  let num := if 0 ≤ k then i.value else i.value * Nat.pow 10 (-k).toNat
  let den := if 0 ≤ k then i.denominator * Nat.pow 10 k.toNat else i.denominator
  (num / den, compare (2 * (num % den)) den)

/-- The decimals on the grid `10 ^ k` next to the value, the better one first:
    the nearer, and of two equally near the even one. -/
def Interval.candidates (i : Interval) (k : Int) : List Nat :=
  let (n, half) := i.divide k
  match half with
  | .lt => [n, n + 1]
  | .gt => [n + 1, n]
  | .eq => if n % 2 = 0 then [n, n + 1] else [n + 1, n]

/-- The position of the leading digit: `10 ^ (p - 1) ≤ value < 10 ^ p`.  Starts
    from an estimate by the binary logarithm that is never too great. -/
def Interval.leading (i : Interval) : Int :=
  let bits : Int := (i.value.log2 : Int) - i.denominator.log2 - 1
  let guess := bits * 30103 / 100000 - 1
  let reaches (p : Int) : Bool :=
    if 0 ≤ p then i.denominator * Nat.pow 10 p.toNat ≤ i.value
    else i.denominator ≤ i.value * Nat.pow 10 (-p).toNat
  (List.range 5).foldl (fun p _ => if reaches p then p + 1 else p) guess

/-- Try grids from coarse to fine: the digits and the exponent of the first hit. -/
def Interval.search (i : Interval) (p : Int) : (tries : Nat) → (digits : Nat) → Option (Nat × Int)
  | 0, _ => none
  | tries + 1, digits =>
    let k := p - digits
    match (i.candidates k).find? (i.contains · k) with
    | some n => some (n, k)
    | none => i.search p tries (digits + 1)

/-- The shortest decimal `n · 10 ^ k` that reads back as a positive number.
    Seventeen digits always suffice. -/
def decimal (mantissa : Nat) (exponent : Int) : Nat × Int :=
  let i := interval mantissa exponent
  (i.search i.leading 17 1).getD (0, 0)

end Shortest

def dropTrailingZeros (ds : List Char) : List Char := (ds.reverse.dropWhile (· = '0')).reverse

/-- Digits with the point after position `p`, and at least one digit on each side. -/
def positional (ds : List Char) (p : Int) : List Char :=
  if p ≤ 0 then '0' :: '.' :: List.replicate (-p).toNat '0' ++ ds
  else
    let whole := ds.take p.toNat ++ List.replicate (p.toNat - ds.length) '0'
    let part := ds.drop p.toNat
    whole ++ '.' :: (if part.isEmpty then ['0'] else part)

/-- Digits with the point after the first, and an exponent. -/
def scientific (style : NumberStyle) (ds : List Char) (p : Int) : List Char :=
  let e := p - 1
  let size := Nat.toDigits 10 e.natAbs
  let mantissa := match ds with
    | [] => ['0']
    | [d] => [d]
    | d :: ds => d :: '.' :: ds
  mantissa ++ 'e' :: (if e < 0 then '-' else '+') ::
    (List.replicate (style.exponentDigits - size.length) '0' ++ size)

def Binary64.text (style : NumberStyle) : Binary64 → String
  | .nan => "nan"
  | .infinite negative => if negative then "-inf" else "inf"
  | .finite negative m e =>
    let body :=
      if m = 0 then ['0', '.', '0']
      else
        let (n, k) := Shortest.decimal m e
        let all := Nat.toDigits 10 n
        let p : Int := all.length + k
        let ds := dropTrailingZeros all
        if style.positionalFrom ≤ p ∧ p ≤ style.positionalTo then positional ds p
        else scientific style ds p
    .ofList (if negative then '-' :: body else body)

end Transcripts.Numeral
