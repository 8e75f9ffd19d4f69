/-!
# Binary floating-point numbers

The finite doubles as exact values `± mantissa · 2 ^ exponent`, with the two
infinities and the double that is no number. A decimal is rounded to the nearest
double, a tie to the even mantissa; a double is written with the fewest digits that
read back as it. All arithmetic is on whole numbers.
-/
namespace EditorialDesk

/-- A double. A finite one has a mantissa below 2 ^ 53 and an exponent of at least -1074, and one of
the two is as small as that allows. -/
inductive Binary64 where
  | finite (negative : Bool) (mantissa : Nat) (exponent : Int)
  | infinite (negative : Bool)
  | nan
deriving DecidableEq, Repr

namespace Binary64

def pow2 (n : Nat) : Nat := Nat.pow 2 n

def pow10 (n : Nat) : Nat := Nat.pow 10 n

/-- The quotient of two numbers rounded to nearest, a tie to the even neighbour. -/
def roundQuotient (num den : Nat) : Nat :=
  let q := num / den
  let r := num % den
  if 2 * r < den || (2 * r == den && q % 2 == 0) then q else q + 1

/-- The fraction `num / den` divided by `2 ^ exponent`. -/
def scaleDown (num den : Nat) (exponent : Int) : Nat × Nat :=
  (num * pow2 (-exponent).toNat, den * pow2 exponent.toNat)

/-- The exponent of the double nearest to a positive fraction, before rounding. -/
def exponentFor (num den : Nat) : Int :=
  let guess : Int := max (-1074) ((num.log2 : Int) - den.log2 - 52)
  let (n, d) := scaleDown num den guess
  if n / d < pow2 52 && -1074 < guess then guess - 1 else guess

/-- The double nearest to the fraction `num / den`. -/
def nearest (negative : Bool) (num den : Nat) : Binary64 :=
  if num == 0 then .finite negative 0 (-1074)
  else
    let exponent := exponentFor num den
    let (n, d) := scaleDown num den exponent
    let m := roundQuotient n d
    let (m, exponent) := if m == pow2 53 then (pow2 52, exponent + 1) else (m, exponent)
    if 971 < exponent then .infinite negative else .finite negative m exponent

/-- Whether the double nearest to a whole number is infinite. -/
def isBeyond (n : Int) : Bool := nearest false n.natAbs 1 == .infinite false

/-- The double nearest to `digits · 10 ^ power`. Far outside the range of the doubles the answer
does not depend on the digits. -/
def ofDecimal (negative : Bool) (digits : Nat) (power : Int) : Binary64 :=
  if digits == 0 then .finite negative 0 (-1074)
  else if 400 < power then .infinite negative
  else if power < -400 - (digits.log2 : Int) then .finite negative 0 (-1074)
  else nearest negative (digits * pow10 power.toNat) (pow10 (-power).toNat)

/-- The magnitude of a finite double as a fraction. -/
def fraction? : Binary64 → Option (Nat × Nat)
  | .finite _ m e => some (m * pow2 e.toNat, pow2 (-e).toNat)
  | .infinite _ | .nan => none

/-- The double nearest to a fraction, as a fraction; an infinity is none. -/
def rounded? (num den : Nat) : Option (Nat × Nat) := (nearest false num den).fraction?

def isNegative : Binary64 → Bool
  | .finite negative _ _ => negative
  | .infinite negative => negative
  | .nan => false

def isZero : Binary64 → Bool
  | .finite _ m _ => m == 0
  | .infinite _ | .nan => false

/-- The number cut off at the point, if it is finite. -/
def truncate? (x : Binary64) : Option Int :=
  x.fraction?.map fun (n, d) => if x.isNegative then -(n / d : Nat) else (n / d : Nat)

/-- The number, if it is whole. -/
def whole? (x : Binary64) : Option Int :=
  match x.fraction? with
  | some (n, d) => if n % d == 0 then x.truncate? else none
  | none => none

/-- The greatest `k` with `10 ^ k` at most the positive fraction `num / den`. -/
def decade (num den : Nat) : Int :=
  let guess : Int := ((num.log2 : Int) - den.log2) * 30103 / 100000
  let atLeast (k : Int) : Bool := den * pow10 k.toNat ≤ num * pow10 (-k).toNat
  if atLeast (guess + 1) then guess + 1
  else if atLeast guess then guess
  else guess - 1

/-- Looks for the shortest digits: `count` of them first, then more while `fuel` lasts. The digits
stand for `digits · 10 ^ (k + 1 - count)`, where `k` is the decade of `num / den`. -/
def shortestFrom (num den : Nat) (k : Int) : (fuel count : Nat) → Nat × Int
  | 0, count => (0, k + 1 - count)
  | fuel + 1, count =>
    let power : Int := k + 1 - count
    let n := num * pow10 (-power).toNat
    let d := den * pow10 power.toNat
    let low := n / d
    let readsBack (digits : Nat) : Bool := ofDecimal false digits power == nearest false num den
    let lowNearer := 2 * (n % d) < d || (2 * (n % d) == d && low % 2 == 0)
    let (first, second) := if lowNearer then (low, low + 1) else (low + 1, low)
    if readsBack first then (first, power)
    else if readsBack second then (second, power)
    else shortestFrom num den k fuel (count + 1)

/-- The fewest digits that read back as the positive fraction's double, and their power of ten;
seventeen digits always do. -/
def shortest (num den : Nat) : Nat × Int := shortestFrom num den (decade num den) 17 1

def digitsOf (n : Nat) : List Char := Nat.toDigits 10 n

/-- Digits with the point after the first `lead` of them, and a zero where a side is empty. -/
def pointAt (digits : List Char) (lead : Int) : List Char :=
  if lead ≤ 0 then '0' :: '.' :: List.replicate (-lead).toNat '0' ++ digits
  else
    let whole := digits.take lead.toNat ++ List.replicate (lead.toNat - digits.length) '0'
    let rest := digits.drop lead.toNat
    whole ++ '.' :: (if rest.isEmpty then ['0'] else rest)

/-- Exponents are written with a sign and at least two digits. -/
def exponentText (e : Int) : List Char :=
  'e' :: (if e < 0 then '-' else '+') ::
    (if e.natAbs < 10 then '0' :: digitsOf e.natAbs else digitsOf e.natAbs)

/-- Drops the zeros at the end of the digits, for each raising the power by one. -/
def dropZeros (digits : List Char) : List Char :=
  (digits.reverse.dropWhile (· == '0')).reverse

/-- Magnitudes from 10 ^ -4 up to 10 ^ 16 are written with a point and no exponent. -/
def magnitudeText (num den : Nat) : List Char :=
  if num == 0 then ['0', '.', '0']
  else
    let (value, power) := shortest num den
    let all := digitsOf value
    let lead : Int := power + all.length
    let digits := dropZeros all
    if -4 < lead && lead ≤ 16 then pointAt digits lead
    else
      (match digits with
        | [d] => [d]
        | d :: rest => d :: '.' :: rest
        | [] => []) ++ exponentText (lead - 1)

/-- The written form of a double. -/
def text (x : Binary64) : String :=
  String.ofList <| (if x.isNegative then ['-'] else []) ++
    match x with
    | .finite _ m e => magnitudeText (m * pow2 e.toNat) (pow2 (-e).toNat)
    | .infinite _ => ['i', 'n', 'f']
    | .nan => ['n', 'a', 'n']

end Binary64
end EditorialDesk
