/-
  Transcripts/Numeral/Binary64.lean
  =================================
  **Numbers of double precision, exactly.**

  A finite number is a sign, a whole mantissa below `2^53` and a power of two.
  Reading a decimal rounds its exact value to the nearest such number, ties to
  the even mantissa, so everything here is arithmetic on whole numbers.
-/

namespace Transcripts.Numeral

inductive Binary64 where
  /-- `± mantissa · 2 ^ exponent`. -/
  | finite (negative : Bool) (mantissa : Nat) (exponent : Int)
  | infinite (negative : Bool)
  | nan
deriving DecidableEq, Repr, Inhabited

namespace Binary64

/-- The exponent of the finest grid. -/
def minExponent : Int := -1074

/-- The exponent of the coarsest grid. -/
def maxExponent : Int := 971

def zero (negative : Bool) : Binary64 := .finite negative 0 minExponent

/-- `num / den` rounded to the nearest whole number, ties to even. -/
def roundRatio (num den : Nat) : Nat :=
  let q := num / den
  let twice := 2 * (num % den)
  if twice < den then q else if den < twice then q + 1 else q + q % 2

/-- `num / den / 2 ^ e` as a fraction of whole numbers. -/
def scaleDown (num den : Nat) (e : Int) : Nat × Nat :=
  if 0 ≤ e then (num, den * Nat.pow 2 e.toNat) else (num * Nat.pow 2 (-e).toNat, den)

/-- The grid that the positive fraction `num / den` is rounded on: the one on
    which its mantissa takes 53 bits, within the range of exponents. -/
def gridExponent (num den : Nat) : Int :=
  let guess := max minExponent ((num.log2 : Int) - den.log2 - 53)
  let (n, d) := scaleDown num den guess
  if n / d < 0x20000000000000 then guess else guess + 1

/-- The number nearest to `± num / den`. -/
def ofRatio (negative : Bool) (num den : Nat) : Binary64 :=
  if num = 0 then zero negative
  else
    let e := gridExponent num den
    let (n, d) := scaleDown num den e
    let m := roundRatio n d
    let (m, e) := if m = 0x20000000000000 then (0x10000000000000, e + 1) else (m, e)
    if maxExponent < e then .infinite negative else .finite negative m e

/-- The number nearest to `± digits · 10 ^ exponent`.  Magnitudes far outside the
    range are settled first, by the position of the leading digit. -/
def ofDecimal (negative : Bool) (digits : Nat) (exponent : Int) : Binary64 :=
  if digits = 0 then zero negative
  else
    let top := (Nat.toDigits 10 digits).length + exponent
    if 310 < top then .infinite negative
    else if top < -330 then zero negative
    else if 0 ≤ exponent then ofRatio negative (digits * Nat.pow 10 exponent.toNat) 1
    else ofRatio negative digits (Nat.pow 10 (-exponent).toNat)

def ofInt (n : Int) : Binary64 := ofRatio (n < 0) n.natAbs 1

/-- Whether a number is zero, of either sign. -/
def isZero : Binary64 → Bool
  | .finite _ m _ => m = 0
  | _ => false

def truncate (negative : Bool) (mantissa : Nat) (exponent : Int) : Int :=
  let magnitude :=
    if 0 ≤ exponent then mantissa * Nat.pow 2 exponent.toNat else mantissa / Nat.pow 2 (-exponent).toNat
  if negative then -(magnitude : Int) else magnitude

def magnitudeRatio (mantissa : Nat) (exponent : Int) : Nat × Nat :=
  if 0 ≤ exponent then (mantissa * Nat.pow 2 exponent.toNat, 1) else (mantissa, Nat.pow 2 (-exponent).toNat)

def negate : Binary64 → Binary64
  | .finite s m e => .finite (!s) m e
  | .infinite s => .infinite (!s)
  | .nan => .nan

def signed (negative : Bool) (n : Nat) : Int := if negative then -(n : Int) else n

def add : Binary64 → Binary64 → Binary64
  | .finite s m e, .finite s' m' e' =>
    let (a, b) := magnitudeRatio m e
    let (a', b') := magnitudeRatio m' e'
    let sum := signed s a * b' + signed s' a' * b
    ofRatio (if sum = 0 then s && s' else sum < 0) sum.natAbs (b * b')
  | .nan, _ => .nan
  | _, .nan => .nan
  | .infinite s, .infinite s' => if s = s' then .infinite s else .nan
  | .infinite s, _ => .infinite s
  | _, .infinite s => .infinite s

def mul : Binary64 → Binary64 → Binary64
  | .finite s m e, .finite s' m' e' =>
    let (a, b) := magnitudeRatio m e
    let (a', b') := magnitudeRatio m' e'
    ofRatio (s != s') (a * a') (b * b')
  | .nan, _ => .nan
  | _, .nan => .nan
  | .infinite s, .infinite s' => .infinite (s != s')
  | .infinite s, .finite s' m _ => if m = 0 then .nan else .infinite (s != s')
  | .finite s m _, .infinite s' => if m = 0 then .nan else .infinite (s != s')

/-- Whether two numbers are equal as numbers: the zeros are, and no number is
    equal to an undefined one. -/
def equal : Binary64 → Binary64 → Bool
  | .finite s m e, .finite s' m' e' =>
    (m = 0 && m' = 0) || (s = s' && m = m' && e = e')
  | .infinite s, .infinite s' => s = s'
  | _, _ => false

def equalsInt (x : Binary64) (n : Int) : Bool :=
  match x with
  | .finite s m e =>
    let (a, b) := magnitudeRatio m e
    signed s a = n * b
  | _ => false

end Binary64

end Transcripts.Numeral
