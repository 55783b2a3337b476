import Mathlib.Data.Rat.Floor
import Mathlib.Algebra.Order.Field.Rat

/-!
# Double-precision values

A `double` is a rational number, an infinity or NaN. Arithmetic on finite
values is exact: rounding is not modelled, comparisons with NaN are false.
-/

/-- A `double`. -/
inductive Double where
  | finite (q : ℚ)
  | infinity (negative : Bool)
  | nan
  deriving DecidableEq, Repr

namespace Double

instance : Inhabited Double := ⟨.finite 0⟩

/-- `std::isfinite`. -/
def isFinite : Double → Bool
  | .finite _ => true
  | _ => false

/-- The comparison `a < b`. -/
def lt : Double → Double → Bool
  | .finite a, .finite b => a < b
  | .finite _, .infinity negative => !negative
  | .infinity negative, .finite _ => negative
  | .infinity a, .infinity b => a && !b
  | .nan, _ => false
  | _, .nan => false

/-- The comparison `a <= b`. -/
def le : Double → Double → Bool
  | .nan, _ => false
  | _, .nan => false
  | a, b => !lt b a

/-- The difference `a - b`. -/
def sub : Double → Double → Double
  | .finite a, .finite b => .finite (a - b)
  | .finite _, .infinity negative => .infinity (!negative)
  | .infinity negative, .finite _ => .infinity negative
  | .infinity a, .infinity b => if a = b then .nan else .infinity a
  | .nan, _ => .nan
  | _, .nan => .nan

/-- `std::abs`. -/
def abs : Double → Double
  | .finite a => .finite |a|
  | .infinity _ => .infinity false
  | .nan => .nan

end Double
