import MarkupTemplate.Binary64.Shortest

/-!
How a double is written. The digits are always the shortest ones; a layout says
when they are written plainly and when with an exponent, and how the special values
are spelled.
-/

namespace MarkupTemplate

structure FloatLayout where
  tie : Tie
  /-- Decimal exponents of the leading digit that are written plainly. -/
  plain : Int → Bool
  /-- Whether an integral number keeps a zero behind the point. -/
  keepsFraction : Bool
  /-- Whether a positive exponent has a sign. -/
  signsExponent : Bool

namespace FloatLayout

/-- The significant digits without trailing zeros, and the decimal exponent of the first. -/
def significant (number : Decimal) : List Char × Int :=
  let digits := numeral 10 number.coefficient
  ((digits.reverse.dropWhile (· = '0')).reverse, number.exponent + digits.length - 1)

def fractionText (layout : FloatLayout) (fraction : List Char) : List Char :=
  if fraction.isEmpty then (if layout.keepsFraction then ['.', '0'] else []) else '.' :: fraction

/-- Digits around the point, with zeros on either side as far as the point needs them. -/
def plainText (layout : FloatLayout) (digits : List Char) (exponent : Int) : List Char :=
  if exponent < 0 then
    ['0', '.'] ++ List.replicate (-exponent - 1).toNat '0' ++ digits
  else
    let whole := (exponent + 1).toNat
    digits.take whole ++ List.replicate (whole - digits.length) '0' ++
      layout.fractionText (digits.drop whole)

def exponentText (layout : FloatLayout) (digits : List Char) (exponent : Int) : List Char :=
  let sign := if layout.signsExponent ∧ 0 ≤ exponent then ['+'] else []
  digits.take 1 ++ (if digits.length ≤ 1 then [] else '.' :: digits.drop 1) ++
    'e' :: sign ++ intText exponent

def finiteText (layout : FloatLayout) (x : Binary64) : List Char :=
  if x.isZero then '0' :: layout.fractionText []
  else
    let (digits, exponent) := significant (x.shortest layout.tie)
    if layout.plain exponent then layout.plainText digits exponent
    else layout.exponentText digits exponent

def text (layout : FloatLayout) (x : Binary64) : List Char :=
  if x.isNaN then "NaN".toList
  else
    (if x.isNegative then ['-'] else []) ++
      (if x.isInfinite then "inf".toList else layout.finiteText x)

end FloatLayout

end MarkupTemplate
