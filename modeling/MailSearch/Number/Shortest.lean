import MailSearch.Number.Binary64

/-! The shortest decimal that reads back as a given floating-point number, and its layout. For one,
two, … digits the two neighbours of the number on that decimal grid are tried; the first that reads
back wins, and of two the nearer. -/

namespace MailSearch

/-- How a decimal is laid out: which exponents are written positionally, and the texts of the numbers
that are no decimals. -/
structure DecimalLayout where
  leastPositional : Int
  firstScientific : Int
  infinityText : String
  undefinedText : String

/-- Positional from 0.0001 up to 16 digits, always with a point; otherwise an exponent with a sign and
at least two digits. -/
def DecimalLayout.standard : DecimalLayout := ⟨-4, 16, "inf", "nan"⟩

namespace Binary64

/-- The exponent of the leading decimal digit of a positive `numerator / denominator`. -/
def decimalOrder (numerator denominator : Nat) : Int :=
  if denominator ≤ numerator then ((Nat.toDigits 10 (numerator / denominator)).length : Int) - 1
  else -((Nat.toDigits 10 ((denominator - 1) / numerator)).length : Int)

/-- Whether `digits * 10 ^ exponent` reads as the number. -/
def readsAs (x : Binary64) (digits : Nat) (exponent : Int) : Bool :=
  match x with
  | .finite negative _ _ => ofDecimal negative digits exponent == x
  | _ => false

/-- The decimal of `count` digits that reads back, if a neighbour of the number on that grid does. -/
def decimalWith? (x : Binary64) (numerator denominator count : Nat) : Option (Nat × Int) :=
  let exponent := decimalOrder numerator denominator - count + 1
  let top := numerator * tenTo (-exponent).toNat
  let bottom := denominator * tenTo exponent.toNat
  let below := top / bottom
  let nearest := roundHalfEven top bottom
  let other := if nearest = below then below + 1 else below
  if readsAs x nearest exponent then some (nearest, exponent)
  else if readsAs x other exponent then some (other, exponent)
  else none

/-- The digits and exponent of the shortest decimal that reads as a positive number. -/
def shortest (x : Binary64) (significand : Nat) (exponent : Int) : Nat × Int :=
  let (numerator, denominator) := fraction significand exponent
  ((List.range 17).findSome? fun count => decimalWith? x numerator denominator (count + 1)).getD
    (numerator, 0)

/-- The digits without their trailing zeros. -/
def significantDigits (digits : Nat) : List Char :=
  ((Nat.toDigits 10 digits).reverse.dropWhile (· == '0')).reverse

/-- A positive decimal, whose leading digit has exponent `order`, positionally. -/
def positional (digits : List Char) (order : Int) : List Char :=
  if order < 0 then '0' :: '.' :: List.replicate (-order - 1).toNat '0' ++ digits
  else
    let whole := order.toNat + 1
    let rest := digits.drop whole
    digits.take whole ++ List.replicate (whole - digits.length) '0' ++
      '.' :: (if rest.isEmpty then ['0'] else rest)

/-- A positive decimal as one digit, the others after a point, and the exponent. -/
def scientific (digits : List Char) (order : Int) : List Char :=
  let size := Nat.toDigits 10 order.natAbs
  let point := if digits.length ≤ 1 then [] else '.' :: digits.drop 1
  digits.take 1 ++ point ++ 'e' :: (if order < 0 then '-' else '+') ::
    List.replicate (2 - size.length) '0' ++ size

/-- The decimal text of a number. -/
def toText (layout : DecimalLayout) (x : Binary64) : String :=
  let sign (negative : Bool) (text : List Char) := String.ofList (if negative then '-' :: text else text)
  match x with
  | .undefined _ => layout.undefinedText
  | .infinite negative => sign negative layout.infinityText.toList
  | .finite negative 0 _ => sign negative ['0', '.', '0']
  | .finite negative significand exponent =>
    let (digits, scale) := shortest x significand exponent
    let order := scale + (Nat.toDigits 10 digits).length - 1
    let kept := significantDigits digits
    sign negative (if layout.leastPositional ≤ order ∧ order < layout.firstScientific
      then positional kept order else scientific kept order)

end Binary64

end MailSearch
