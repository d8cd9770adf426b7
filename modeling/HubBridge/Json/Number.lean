/-!
# Numbers of the double format

JSON numbers that are no natural numbers below 2^64 are kept in the double format, and one that this
format cannot hold is refused. What matters of such a number here is only whether it fits.
-/

namespace HubBridge.Json

/-- The nearest natural number with at most 53 significant binary digits; of two that are equally
near, the one whose last digit is even. -/
def roundToDouble (n : Nat) : Nat :=
  let unit := 1 <<< (n.log2 + 1 - 53)
  let q := n / unit
  let r := n % unit
  (if unit < 2 * r || (unit == 2 * r && q % 2 == 1) then q + 1 else q) * unit

/-- Whether `significand * 10 ^ exponent`, computed in doubles, stays finite. -/
def fitsDouble (significand : Nat) (exponent : Int) : Bool :=
  significand == 0 || exponent ≤ 0 ||
    (exponent ≤ 308 &&
      roundToDouble (roundToDouble significand * roundToDouble (Nat.pow 10 exponent.toNat))
        < 1 <<< 1024)

end HubBridge.Json
