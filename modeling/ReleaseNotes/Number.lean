import ReleaseNotes.Text.Basic

namespace ReleaseNotes

/-!
Binary floating-point numbers of double precision, kept exactly: a finite one is its significand
times two to its exponent. The significand lies below 2 ^ 53, the exponent between -1074 and 971,
and the exponent is the least one possible.
-/

inductive Double where
  | nan
  | infinite (negative : Bool)
  | finite (negative : Bool) (significand : Nat) (exponent : Int)
deriving DecidableEq

namespace Double

def leastExponent : Int := -1074

def greatestExponent : Int := 971

/-- One for every exponent that is not positive. -/
def power (base : Nat) (exponent : Int) : Nat := base.pow exponent.toNat

def zero (negative : Bool) : Double := .finite negative 0 leastExponent

/-- Nearest integer to a quotient, the even one of two that are equally near. -/
def roundQuotient (num den : Nat) : Nat :=
  let q := num / den
  let r := num % den
  if den < 2 * r ∨ (den = 2 * r ∧ q % 2 = 1) then q + 1 else q

/-- Least exponent at which the integer part of a positive quotient fits a significand. -/
def exponentFor (num den : Nat) : Int :=
  let k : Int := num.log2 - den.log2
  let isBelow := num * power 2 (-k) < den * power 2 k
  let e := if isBelow then k - 53 else k - 52
  if e < leastExponent then leastExponent else e

def ofQuotient (negative : Bool) (num den : Nat) : Double :=
  if num = 0 then zero negative
  else
    let e := exponentFor num den
    let m := roundQuotient (num * power 2 (-e)) (den * power 2 e)
    let (m, e) := if m = power 2 53 then (power 2 52, e + 1) else (m, e)
    if greatestExponent < e then .infinite negative else .finite negative m e

/-- The digits are read as an integer and moved by powers of ten. Beyond four hundred places the
result is zero or infinite whatever the digits are. -/
def ofDecimal (negative : Bool) (digits : Nat) (exponent : Int) : Double :=
  let size : Int := (Nat.toDigits 10 digits).length + exponent
  if digits = 0 ∨ size < -400 then zero negative
  else if 400 < size then .infinite negative
  else ofQuotient negative (digits * power 10 exponent) (power 10 (-exponent))

/-- None for an integer that rounds past the greatest finite number. -/
def ofInt? (i : Int) : Option Double :=
  match ofQuotient (decide (i < 0)) i.natAbs 1 with
  | .infinite _ => none
  | d => some d

def isZero : Double → Bool
  | .finite _ m _ => m == 0
  | _ => false

def isAtMostZero : Double → Bool
  | .nan => false
  | .infinite negative => negative
  | .finite negative m _ => negative || m == 0

def isAtMost (n : Nat) : Double → Bool
  | .nan => false
  | .infinite negative => negative
  | .finite negative m e =>
      negative || decide (m * power 2 e ≤ n * power 2 (-e))

/-!
The decimal form of a number has the fewest digits that read back as that number, and of those the
digits nearest to it. It is positional for magnitudes from 10 ^ -4 up to 10 ^ 16 and has an exponent
of at least two digits beyond.
-/

structure Digits where
  digits : Text
  /-- Position of the decimal point, counted from the first digit. -/
  point : Int

def magnitude (m : Nat) (e : Int) : Nat × Nat :=
  (m * power 2 e, power 2 (-e))

/-- No finite number but zero lies below 10 ^ -340. -/
def pointOf (num den : Nat) : Int :=
  (Nat.toDigits 10 (num * power 10 340 / den)).length - 340

def withoutTrailingZeros (digits : Text) : Text :=
  Text.dropEndWhile (· == '0') digits

/-- The two neighbours of a number among the decimals of `count` digits, as far as they read back
as the number, the nearer one if both do. -/
def digitsOf? (m : Nat) (e : Int) (count : Nat) : Option Digits :=
  let (num, den) := magnitude m e
  let point := pointOf num den
  let shift : Int := count - point
  let num' := num * power 10 shift
  let den' := den * power 10 (-shift)
  let lower := num' / den'
  let readsBack (n : Nat) := ofDecimal false n (-shift) == .finite false m e
  let chosen :=
    match readsBack lower, readsBack (lower + 1) with
    | true, true => some (roundQuotient num' den')
    | true, false => some lower
    | false, true => some (lower + 1)
    | false, false => none
  chosen.map fun n =>
    let digits := Text.ofNat n
    ⟨withoutTrailingZeros digits, point + ((digits.length : Int) - count)⟩

def shortest (m : Nat) (e : Int) : Digits :=
  ((List.range 17).findSome? fun k => digitsOf? m e (k + 1)).getD ⟨['0'], 1⟩

def signText (negative : Bool) : Text :=
  if negative then ['-'] else []

def exponentText (exponent : Int) : Text :=
  let digits := Text.ofNat exponent.natAbs
  (if exponent < 0 then "e-".text else "e+".text) ++
    List.replicate (2 - digits.length) (.char '0') ++ digits

namespace Digits

def positional (d : Digits) : Text :=
  let count := d.digits.length
  if d.point ≤ 0 then "0.".text ++ List.replicate (-d.point).toNat (.char '0') ++ d.digits
  else if count ≤ d.point.toNat then
    d.digits ++ List.replicate (d.point.toNat - count) (.char '0') ++ ".0".text
  else d.digits.take d.point.toNat ++ ".".text ++ d.digits.drop d.point.toNat

def scientific (d : Digits) : Text :=
  (match d.digits with
    | [] => []
    | [digit] => [digit]
    | digit :: rest => digit :: Letter.char '.' :: rest) ++ exponentText (d.point - 1)

def text (d : Digits) : Text :=
  if -4 < d.point ∧ d.point ≤ 16 then d.positional else d.scientific

end Digits

def text : Double → Text
  | .nan => "nan".text
  | .infinite negative => signText negative ++ "inf".text
  | .finite negative 0 _ => signText negative ++ "0.0".text
  | .finite negative m e => signText negative ++ (shortest m e).text

/-- One decimal place, an exact half going to the even neighbour. -/
def tenths : Double → Text
  | .nan => "nan".text
  | .infinite negative => signText negative ++ "inf".text
  | .finite negative m e =>
      let (num, den) := magnitude m e
      let n := roundQuotient (num * 10) den
      signText negative ++ Text.ofNat (n / 10) ++ ".".text ++ Text.ofNat (n % 10)

end Double

end ReleaseNotes
