/-! Binary floating-point numbers of 53 significant bits, kept as exact data: a finite number is a
sign, a significand and a power of two. Every operation rounds an exact rational once, to the nearest
number, a half going to the even significand; comparisons are exact. -/

namespace MailSearch

/-- A floating-point number; a finite one is `± significand * 2 ^ exponent`. An undefined number
carries a payload, which stays with its copies and tells it from other undefined numbers. -/
inductive Binary64 where
  | finite (negative : Bool) (significand : Nat) (exponent : Int)
  | infinite (negative : Bool)
  | undefined (payload : Nat)
  deriving DecidableEq, Repr, Inhabited

/-- A number as it compares: exactly, between the two infinities. -/
inductive Quantity where
  | exact (value : Rat)
  | infinite (negative : Bool)
  | undefined
  deriving DecidableEq

namespace Quantity

def ofInt (n : Int) : Quantity := .exact n

/-- The order of two numbers; an undefined number has none, not even with itself. -/
def compare? : Quantity → Quantity → Option Ordering
  | .exact a, .exact b => some (if a < b then .lt else if a = b then .eq else .gt)
  | .undefined, _ | _, .undefined => none
  | .infinite a, .infinite b => some (if a = b then .eq else if a then .lt else .gt)
  | .infinite negative, .exact _ => some (if negative then .lt else .gt)
  | .exact _, .infinite negative => some (if negative then .gt else .lt)

end Quantity

/-- Two to a power. -/
def twoTo (exponent : Nat) : Nat := Nat.pow 2 exponent

/-- Ten to a power. -/
def tenTo (exponent : Nat) : Nat := Nat.pow 10 exponent

/-- The whole number nearest to `numerator / denominator`; a half goes to the even neighbour. -/
def roundHalfEven (numerator denominator : Nat) : Nat :=
  let whole := numerator / denominator
  let twice := 2 * (numerator % denominator)
  if twice < denominator then whole
  else if denominator < twice then whole + 1
  else if whole % 2 = 0 then whole else whole + 1

namespace Binary64

def zero : Binary64 := .finite false 0 (-1074)

/-- The exponent of the leading binary digit of a positive `numerator / denominator`. -/
def binaryOrder (numerator denominator : Nat) : Int :=
  let guess : Int := (numerator.log2 : Int) - denominator.log2
  if denominator * twoTo guess.toNat ≤ numerator * twoTo (-guess).toNat then guess else guess - 1

/-- The number with this significand and exponent, infinite beyond the largest exponent. -/
def bounded (negative : Bool) (significand : Nat) (exponent : Int) : Binary64 :=
  if 971 < exponent then .infinite negative else .finite negative significand exponent

/-- The number nearest to `± numerator / denominator`. -/
def ofRatio (negative : Bool) (numerator denominator : Nat) : Binary64 :=
  if numerator = 0 then .finite negative 0 (-1074)
  else
    let exponent := max (binaryOrder numerator denominator - 52) (-1074)
    let significand :=
      roundHalfEven (numerator * twoTo (-exponent).toNat) (denominator * twoTo exponent.toNat)
    if significand < twoTo 53 then bounded negative significand exponent
    else bounded negative (twoTo 52) (exponent + 1)

def ofInt (n : Int) : Binary64 := ofRatio (n < 0) n.natAbs 1

/-- The number nearest to `± digits * 10 ^ exponent`. Exponents that overflow or vanish whatever the
digits are settled by their size. -/
def ofDecimal (negative : Bool) (digits : Nat) (exponent : Int) : Binary64 :=
  if digits = 0 then .finite negative 0 (-1074)
  else
    let order : Int := (Nat.toDigits 10 digits).length + exponent
    if 400 < order then .infinite negative
    else if order < -400 then .finite negative 0 (-1074)
    else ofRatio negative (digits * tenTo exponent.toNat) (tenTo (-exponent).toNat)

/-- The magnitude of a finite number as a fraction. -/
def fraction (significand : Nat) (exponent : Int) : Nat × Nat :=
  (significand * twoTo exponent.toNat, twoTo (-exponent).toNat)

def signed (negative : Bool) (n : Nat) : Int := if negative then -(n : Int) else n

def quantity : Binary64 → Quantity
  | .finite negative significand exponent =>
    let (numerator, denominator) := fraction significand exponent
    .exact (mkRat (signed negative numerator) denominator)
  | .infinite negative => .infinite negative
  | .undefined _ => .undefined

def isUndefined : Binary64 → Bool
  | .undefined _ => true
  | _ => false

def isInfinite : Binary64 → Bool
  | .infinite _ => true
  | _ => false

def isZero : Binary64 → Bool
  | .finite _ significand _ => significand == 0
  | _ => false

/-- The whole part of a finite number, toward zero. -/
def truncate? : Binary64 → Option Int
  | .finite negative significand exponent =>
    let (numerator, denominator) := fraction significand exponent
    some (signed negative (numerator / denominator))
  | _ => none

/-- The value of a finite number that is whole. -/
def toInt? : Binary64 → Option Int
  | .finite negative significand exponent =>
    let (numerator, denominator) := fraction significand exponent
    if numerator % denominator = 0 then some (signed negative (numerator / denominator)) else none
  | _ => none

/-- The number nearest to `dividend / divisor`, for a divisor other than zero. -/
def quotient (dividend divisor : Int) : Binary64 :=
  ofRatio ((dividend < 0) != (divisor < 0)) dividend.natAbs divisor.natAbs

/-- The number nearest to `factor` times a number. -/
def scale (factor : Nat) : Binary64 → Binary64
  | .finite negative significand exponent =>
    let (numerator, denominator) := fraction significand exponent
    ofRatio negative (factor * numerator) denominator
  | x => x

/-- Whether a finite number is greater in size than `bound`. -/
def exceeds (bound : Nat) : Binary64 → Bool
  | .finite _ significand exponent =>
    let (numerator, denominator) := fraction significand exponent
    bound * denominator < numerator
  | _ => false

/-- The greatest whole number up to a finite number, and the number nearest to what it leaves over. -/
def floor? : Binary64 → Option (Int × Binary64)
  | .finite negative significand exponent =>
    let (numerator, denominator) := fraction significand exponent
    let floor := signed negative numerator / (denominator : Int)
    some (floor, ofRatio false (signed negative numerator % (denominator : Int)).toNat denominator)
  | _ => none

/-- The whole number nearest to the size of a finite number; a half goes up. -/
def nearestNat : Binary64 → Nat
  | .finite _ significand exponent =>
    let (numerator, denominator) := fraction significand exponent
    (2 * numerator + denominator) / (2 * denominator)
  | _ => 0

/-- The number nearest to a decimal with `places` places, itself the nearest to `x`. -/
def roundPlaces (places : Nat) : Binary64 → Binary64
  | .finite negative significand exponent =>
    let (numerator, denominator) := fraction significand exponent
    ofRatio negative (roundHalfEven (numerator * tenTo places) denominator) (tenTo places)
  | x => x

end Binary64

end MailSearch
