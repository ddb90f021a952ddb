import OnlineAssembler.Text.Basic

namespace OnlineAssembler

structure Decimal where
  coefficient : Nat
  exponent : Int
deriving DecidableEq, Repr

/-- A floating-point number of 64 bits. A finite one is `mantissa * 2 ^ exponent` up to its sign,
with a mantissa below `2 ^ 53` and an exponent from -1074 to 971. -/
inductive Binary64
  | nan
  | infinite (negative : Bool)
  | finite (negative : Bool) (mantissa : Nat) (exponent : Int)
deriving DecidableEq, Repr

def scale (n base : Nat) (e : Int) : Nat × Nat := (n * base.pow e.toNat, base.pow (-e).toNat)

def roundHalfEven (num den : Nat) : Nat :=
  let q := num / den
  let r := num % den
  if 2 * r < den ∨ (2 * r = den ∧ q % 2 = 0) then q else q + 1

namespace Binary64

def zero (negative : Bool) : Binary64 := finite negative 0 (-1074)

def leastFull : Nat := 0x10000000000000

def ofRatio (negative : Bool) (num den : Nat) : Binary64 :=
  if num = 0 then zero negative
  else
    -- With this exponent the mantissa lies between `2 ^ 52` and `2 ^ 54`.
    let low : Int := num.log2 - den.log2 - 53
    let quotient (q : Int) : Nat × Nat := ((scale num 2 (-q)).1, den * (scale num 2 (-q)).2)
    let q := if 2 * leastFull * (quotient low).2 ≤ (quotient low).1 then low + 1 else low
    let q := max q (-1074)
    let m := roundHalfEven (quotient q).1 (quotient q).2
    let (m, q) := if m = 2 * leastFull then (leastFull, q + 1) else (m, q)
    if 971 < q then infinite negative else finite negative m q

/-- The value nearest to a decimal. Decimals far outside the range are settled by their size
alone, so that no huge power of ten is formed. -/
def ofDecimal (negative : Bool) (d : Decimal) : Binary64 :=
  if d.coefficient = 0 then zero negative
  else if 400 < d.exponent + d.coefficient.log2 / 4 then infinite negative
  else if d.exponent + d.coefficient.log2 / 3 < -400 then zero negative
  else
    let (num, den) := scale d.coefficient 10 d.exponent
    ofRatio negative num den

def ofNat (n : Nat) : Binary64 := ofDecimal false ⟨n, 0⟩

def isZero : Binary64 → Bool
  | finite _ m _ => m = 0
  | _ => false

/-- Whether `d` lies among the numbers that round to `m * 2 ^ q`. They reach halfway to both
neighbours, and the ends belong to them if `m` is even. Below a power of two the neighbours stand
half as far apart. -/
def readsBack (m : Nat) (q : Int) (d : Decimal) : Bool :=
  let below := if m = leastFull ∧ -1074 < q then 1 else 2
  let (num, den) := scale d.coefficient 10 d.exponent
  let (low, lowDen) := scale (4 * m - below) 2 (q - 2)
  let (high, highDen) := scale (4 * m + 2) 2 (q - 2)
  if m % 2 = 0 then low * den ≤ num * lowDen && num * highDen ≤ high * den
  else low * den < num * lowDen && num * highDen < high * den

def leadingExponent (num den : Nat) : Int :=
  if den ≤ num then (Nat.toDigits 10 (num / den)).length - 1
  else -(((List.range 400).find? fun j ↦ den ≤ num * Nat.pow 10 j).getD 0)

/-- Of the two neighbours of `num / den` on the grid of step `10 ^ k`, the one that reads back as
`m * 2 ^ q`, and of two the nearer, a tie going to the even one. -/
def onGrid? (m : Nat) (q k : Int) : Option Decimal :=
  let (num, den) := scale m 2 q
  let (gridNum, gridDen) := scale 1 10 k
  let num := num * gridDen
  let den := den * gridNum
  let floor := num / den
  match readsBack m q ⟨floor, k⟩, readsBack m q ⟨floor + 1, k⟩ with
  | true, true => some ⟨roundHalfEven num den, k⟩
  | true, false => some ⟨floor, k⟩
  | false, true => some ⟨floor + 1, k⟩
  | false, false => none

def shortest (m : Nat) (q : Int) : Decimal :=
  let (num, den) := scale m 2 q
  let lead := leadingExponent num den
  ((List.range 17).findSome? fun i : Nat ↦ onGrid? m q (lead - i)).getD
    ⟨m * Nat.pow 2 q.toNat * Nat.pow 5 (-q).toNat, min q 0⟩

end Binary64

def natText (n : Nat) : Text := Nat.toDigits 10 n

def intText (n : Int) : Text := if n < 0 then '-' :: natText n.natAbs else natText n.natAbs

namespace Binary64

def signText (negative : Bool) : Text := if negative then ['-'] else []

/-- A decimal is written positionally if its leading exponent is from -4 to 15, with a digit on
each side of the point, and otherwise with a signed exponent of two digits or more. -/
def decimalText (d : Decimal) : Text :=
  let all := natText d.coefficient
  let lead : Int := all.length - 1 + d.exponent
  let digits := (all.reverse.dropWhile (· = '0')).reverse
  if lead < -4 ∨ 15 < lead then
    let fraction := if digits.length = 1 then [] else '.' :: digits.drop 1
    let sign := if lead < 0 then '-' else '+'
    let exponent := natText lead.natAbs
    digits.take 1 ++ fraction ++ 'e' :: sign ::
      (List.replicate (2 - exponent.length) '0' ++ exponent)
  else if lead < 0 then '0' :: '.' :: (List.replicate (lead.natAbs - 1) '0' ++ digits)
  else
    let places := lead.natAbs + 1
    let fraction := if digits.length ≤ places then ['0'] else digits.drop places
    digits.take places ++ List.replicate (places - digits.length) '0' ++ '.' :: fraction

def text : Binary64 → Text
  | nan => "nan".toList
  | infinite negative => signText negative ++ "inf".toList
  | finite negative m q =>
    signText negative ++ if m = 0 then "0.0".toList else decimalText (shortest m q)

def tenthsText : Binary64 → Text
  | nan => "nan".toList
  | infinite negative => signText negative ++ "inf".toList
  | finite negative m q =>
    let (num, den) := scale (10 * m) 2 q
    let tenths := roundHalfEven num den
    signText negative ++ natText (tenths / 10) ++ '.' :: natText (tenths % 10)

end Binary64

structure Numeral where
  sign : Option Char
  whole : Text
  fraction : Option Text
  exponent : Option Int
deriving DecidableEq, Repr

namespace Numeral

def digitsValue (digits : Text) : Nat := digits.foldl (fun n c ↦ 10 * n + (c.toNat - 48)) 0

def readSign : Text → Option Char × Text
  | '+' :: t => (some '+', t)
  | '-' :: t => (some '-', t)
  | t => (none, t)

def readExponent? : Text → Option (Option Int)
  | [] => some none
  | c :: t =>
    let (sign, digits) := readSign t
    if (c = 'e' ∨ c = 'E') ∧ digits ≠ [] ∧ digits.all Char.isDigit then
      let n : Int := digitsValue digits
      some (some (if sign = some '-' then -n else n))
    else none

def read? (t : Text) : Option Numeral :=
  let (sign, t) := readSign t
  let whole := t.takeWhile Char.isDigit
  let (fraction, rest) := match t.dropWhile Char.isDigit with
    | '.' :: t => (some (t.takeWhile Char.isDigit), t.dropWhile Char.isDigit)
    | t => (none, t)
  (readExponent? rest).map fun exponent ↦ { sign, whole, fraction, exponent }

def isNegative (n : Numeral) : Bool := n.sign = some '-'

def isWhole (n : Numeral) : Bool := n.fraction.isNone && n.exponent.isNone

def toDecimal (n : Numeral) : Decimal where
  coefficient := digitsValue (n.whole ++ n.fraction.getD [])
  exponent := n.exponent.getD 0 - (n.fraction.getD []).length

def toBinary64 (n : Numeral) : Binary64 := .ofDecimal n.isNegative n.toDecimal

def toInt (n : Numeral) : Int :=
  if n.isNegative then -(digitsValue n.whole : Int) else digitsValue n.whole

end Numeral

end OnlineAssembler
