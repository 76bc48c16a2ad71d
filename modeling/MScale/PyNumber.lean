import Mathlib.Algebra.Order.Field.Rat
import Mathlib.Data.Rat.Cast.Order
import Mathlib.Tactic.Ring

/-!
# Numbers of Python 2

An arithmetic operation on two integers gives an integer, and the quotient of
two integers is rounded down.  As soon as one operand is a float the result is
one.  Floats are exact here: each stands for a rational number.
-/

namespace MScale

inductive PyNumber
  | int (number : ℤ)
  | float (number : ℚ)
  deriving DecidableEq, Repr

namespace PyNumber

/-- The number, whatever its type. -/
def value : PyNumber → ℚ
  | int number => number
  | float number => number

def add : PyNumber → PyNumber → PyNumber
  | int first, int second => int (first + second)
  | first, second => float (first.value + second.value)

def sub : PyNumber → PyNumber → PyNumber
  | int first, int second => int (first - second)
  | first, second => float (first.value - second.value)

def mul : PyNumber → PyNumber → PyNumber
  | int first, int second => int (first * second)
  | first, second => float (first.value * second.value)

/-- The result of `/` where it does not raise `ZeroDivisionError`. -/
def quotient : PyNumber → PyNumber → PyNumber
  | int dividend, int divisor => int (dividend.fdiv divisor)
  | dividend, divisor => float (dividend.value / divisor.value)

instance : Zero PyNumber := ⟨int 0⟩
instance : Add PyNumber := ⟨add⟩
instance : Sub PyNumber := ⟨sub⟩
instance : Mul PyNumber := ⟨mul⟩
instance : NatCast PyNumber := ⟨fun number => int number⟩

section Values

variable (first second : PyNumber)

@[simp]
theorem value_zero : (0 : PyNumber).value = 0 :=
  Int.cast_zero

@[simp]
theorem value_natCast (number : ℕ) : (number : PyNumber).value = number :=
  Int.cast_natCast number

@[simp]
theorem value_add : (first + second).value = first.value + second.value := by
  cases first with
  | int number =>
      cases second with
      | int number' => exact Int.cast_add number number'
      | float number' => rfl
  | float number => rfl

@[simp]
theorem value_sub : (first - second).value = first.value - second.value := by
  cases first with
  | int number =>
      cases second with
      | int number' => exact Int.cast_sub number number'
      | float number' => rfl
  | float number => rfl

@[simp]
theorem value_mul : (first * second).value = first.value * second.value := by
  cases first with
  | int number =>
      cases second with
      | int number' => exact Int.cast_mul number number'
      | float number' => rfl
  | float number => rfl

/-- A quotient with a float is exact. -/
@[simp]
theorem value_quotient_float (dividend : ℚ) (divisor : PyNumber) :
    ((float dividend).quotient divisor).value = dividend / divisor.value :=
  rfl

end Values

/-- A product with a float is a float. -/
theorem float_mul (first : ℚ) (second : PyNumber) :
    float first * second = float (first * second.value) :=
  rfl

theorem sub_float (first : PyNumber) (second : ℚ) :
    first - float second = float (first.value - second) := by
  cases first <;> rfl

/-- Numbers are added in any order: a sum is a float exactly if one of its
terms is. -/
instance : AddCommMonoid PyNumber where
  add_assoc first second third := by
    cases first with
    | int first =>
        cases second with
        | int second =>
            cases third with
            | int third => exact congrArg int (add_assoc first second third)
            | float third =>
                change float (((first + second : ℤ) : ℚ) + third) =
                  float (first + (second + third))
                rw [Int.cast_add, add_assoc]
        | float second =>
            cases third <;> exact congrArg float (add_assoc _ _ _)
    | float first =>
        cases second with
        | int second =>
            cases third with
            | int third =>
                change float (first + second + third) =
                  float (first + ((second + third : ℤ) : ℚ))
                rw [Int.cast_add, add_assoc]
            | float third => exact congrArg float (add_assoc _ _ _)
        | float second =>
            cases third <;> exact congrArg float (add_assoc _ _ _)
  add_comm first second := by
    cases first <;> cases second
    · exact congrArg int (add_comm _ _)
    · exact congrArg float (add_comm _ _)
    · exact congrArg float (add_comm _ _)
    · exact congrArg float (add_comm _ _)
  zero_add number := by
    cases number with
    | int number => exact congrArg int (zero_add number)
    | float number =>
        change float (((0 : ℤ) : ℚ) + number) = float number
        rw [Int.cast_zero, zero_add]
  add_zero number := by
    cases number with
    | int number => exact congrArg int (add_zero number)
    | float number =>
        change float (number + ((0 : ℤ) : ℚ)) = float number
        rw [Int.cast_zero, add_zero]
  nsmul := nsmulRec

end PyNumber

end MScale
