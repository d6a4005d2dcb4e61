import PageAid.Number.Binary

/-!
Numerals with a fixed number of decimal places. The exact binary value is rounded, a tie to the
even neighbour.
-/

namespace PageAid.Number

/-- `n` in units of the last of `places` decimal places, written with a point. -/
def withPoint (places n : Nat) : List Char :=
  let digits := Nat.toDigits 10 n
  let padded := List.replicate (places + 1 - digits.length) '0' ++ digits
  padded.take (padded.length - places) ++ '.' :: padded.drop (padded.length - places)

/-- Text of `x` with two decimal places. A zero keeps its sign. -/
def twoPlaces (x : Float) : String :=
  match parts x with
  | .finite negative significand exponent _ =>
    let body := withPoint 2 (roundScaled .toEven significand exponent 100)
    String.ofList (if negative then '-' :: body else body)
  | .infinite negative => if negative then "-inf" else "inf"
  | .notANumber => "NaN"

end PageAid.Number
