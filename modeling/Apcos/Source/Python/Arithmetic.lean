import Apcos.Source.Python.Text

/-!
# Float arithmetic

Sums, products and quotients of doubles round; how is a parameter, on which no
result rests. What results rest on is how the comparisons, `min` and `max` treat
a NaN.
-/
namespace Apcos.Source.Python

/-- The rounding operations on doubles, and `f"{x:.2f}"`. -/
structure Arithmetic where
  add : PyFloat → PyFloat → PyFloat
  sub : PyFloat → PyFloat → PyFloat
  mul : PyFloat → PyFloat → PyFloat
  /-- `a / b` of two integers. -/
  quotient : Int → Int → PyFloat
  fixed2 : PyFloat → String

/-- `n / d` to the nearest integer, ties to even. -/
def roundQuotient (n d : Nat) : Nat :=
  let up := d < 2 * (n % d) ∨ (2 * (n % d) = d ∧ n / d % 2 = 1)
  if up then n / d + 1 else n / d

/-- The double nearest to a rational, ties to even; beyond the largest an infinity. -/
def roundRat (q : Rat) : PyFloat :=
  let n := q.num.natAbs
  let d := q.den
  let guess : Int := (n.log2 : Int) - d.log2
  let exponent := if n * 2 ^ (-guess).toNat < d * 2 ^ guess.toNat then guess - 1 else guess
  let ulp := Max.max (exponent - 52) (-1074)
  let mantissa := roundQuotient (n * 2 ^ (-ulp).toNat) (d * 2 ^ ulp.toNat)
  let magnitude := mkRat (mantissa * 2 ^ ulp.toNat) (2 ^ (-ulp).toNat)
  if magnitude < 2 ^ 1024 then .finite (if q < 0 then -magnitude else magnitude)
  else .infinity (q < 0)

/-- IEEE 754 binary64, without the sign of a zero. -/
def binary64 : Arithmetic where
  add
    | .finite x, .finite y => roundRat (x + y)
    | .infinity negative, .finite _ => .infinity negative
    | .finite _, .infinity negative => .infinity negative
    | .infinity negative, .infinity negative' =>
      if negative = negative' then .infinity negative else .nan
    | _, _ => .nan
  sub
    | .finite x, .finite y => roundRat (x - y)
    | .infinity negative, .finite _ => .infinity negative
    | .finite _, .infinity negative => .infinity (!negative)
    | .infinity negative, .infinity negative' =>
      if negative = negative' then .nan else .infinity negative
    | _, _ => .nan
  mul
    | .finite x, .finite y => roundRat (x * y)
    | .infinity negative, .finite y => if y = 0 then .nan else .infinity (negative != decide (y < 0))
    | .finite x, .infinity negative => if x = 0 then .nan else .infinity (negative != decide (x < 0))
    | .infinity negative, .infinity negative' => .infinity (negative != negative')
    | _, _ => .nan
  quotient a b := roundRat ((a : Rat) / b)
  fixed2
    | .nan => "nan"
    | .infinity negative => if negative then "-inf" else "inf"
    | .finite q =>
      let cents := roundQuotient (q.num.natAbs * 100) q.den
      (if q < 0 then "-" else "") ++ toString (cents / 100) ++ "." ++ padded 2 (cents % 100)

/-- Sums, differences, products and quotients of rational numbers that do not round. What a
quotient by zero is, is given; the operations on what is no number are those of binary64. -/
def exactWith (byZero : Int → PyFloat) : Arithmetic where
  add
    | .finite x, .finite y => .finite (x + y)
    | x, y => binary64.add x y
  sub
    | .finite x, .finite y => .finite (x - y)
    | x, y => binary64.sub x y
  mul
    | .finite x, .finite y => .finite (x * y)
    | x, y => binary64.mul x y
  quotient a b := if b = 0 then byZero a else .finite ((a : Rat) / b)
  fixed2 := binary64.fixed2

/-- Exact arithmetic, where a quotient by zero is no number. -/
def exact : Arithmetic := exactWith fun _ => .nan

example : binary64.add (.finite (1 / 2)) (roundRat (1 / 10)) = roundRat (6 / 10) := by decide +kernel

/-- The double of a literal with two decimals. -/
def hundredths (n : Nat) : PyFloat := roundRat (mkRat n 100)

namespace PyFloat

/-- `x == y`. -/
def eq : PyFloat → PyFloat → Bool
  | .nan, _ => false
  | x, y => decide (x = y)

/-- `min(x, y)`: the first argument unless the second is smaller. -/
def min (x y : PyFloat) : PyFloat := if y.lt x then y else x

/-- `max(x, y)`: the first argument unless the second is greater. -/
def max (x y : PyFloat) : PyFloat := if x.lt y then y else x

theorem lt_nan_left (x : PyFloat) : PyFloat.lt .nan x = false := rfl

theorem lt_nan_right (x : PyFloat) : x.lt .nan = false := by
  cases x <;> rfl

theorem le_nan_right (x : PyFloat) : x.le .nan = false := by
  cases x <;> rfl

theorem ne_nan_of_lt {x y : PyFloat} (less : x.lt y = true) : x ≠ .nan ∧ y ≠ .nan := by
  constructor
  · rintro rfl
    cases less
  · rintro rfl
    rw [lt_nan_right] at less
    cases less

theorem min_ne_nan {x : PyFloat} (number : x ≠ .nan) (y : PyFloat) : x.min y ≠ .nan := by
  unfold min
  split
  · rename_i less
    exact (ne_nan_of_lt less).1
  · exact number

theorem max_ne_nan {x : PyFloat} (number : x ≠ .nan) (y : PyFloat) : x.max y ≠ .nan := by
  unfold max
  split
  · rename_i less
    exact (ne_nan_of_lt less).2
  · exact number

theorem max_nan (y : PyFloat) : PyFloat.max .nan y = .nan := by
  rw [max, lt_nan_left, if_neg (by simp)]

/-- A number is at most its maximum with anything, a NaN included. -/
theorem le_max {x : PyFloat} (number : x.le x = true) (y : PyFloat) : x.le (x.max y) = true := by
  unfold PyFloat.max
  split
  · rename_i less
    cases x with
    | nan => cases number
    | infinity negative => cases y <;> simp_all [PyFloat.lt, PyFloat.le]
    | finite q =>
      cases y with
      | nan => cases less
      | infinity negative => simpa [PyFloat.lt, PyFloat.le] using less
      | finite r =>
        simp only [PyFloat.lt, PyFloat.le, decide_eq_true_eq] at less ⊢
        exact less.le
  · exact number

theorem max_eq_of_le {x y : PyFloat} (below : x.le y = true) : x.max y = y := by
  unfold max
  split
  · rfl
  · rename_i not_less
    cases x with
    | nan => cases below
    | infinity negative =>
      cases y with
      | nan => cases below
      | infinity negative' => cases negative <;> cases negative' <;> simp_all [PyFloat.lt, PyFloat.le]
      | finite r => simp_all [PyFloat.lt, PyFloat.le]
    | finite q =>
      cases y with
      | nan => cases below
      | infinity negative => simp_all [PyFloat.lt, PyFloat.le]
      | finite r =>
        simp only [PyFloat.lt, PyFloat.le, decide_eq_true_eq, Rat.not_lt] at below not_less
        rw [Rat.le_antisymm below not_less]

/-- Comparison of floats is transitive where it holds; a NaN satisfies neither premise. -/
theorem le_of_lt_of_le {x y z : PyFloat} (less : x.lt y = true) (below : y.le z = true) :
    x.le z = true := by
  cases x with
  | nan => cases less
  | infinity negative =>
    cases y with
    | nan => cases less
    | infinity negative' =>
      cases z with
      | nan => cases negative' <;> cases below
      | infinity negative'' => cases negative <;> simp_all [PyFloat.lt, PyFloat.le]
      | finite r => cases negative <;> simp_all [PyFloat.lt, PyFloat.le]
    | finite q =>
      cases z with
      | nan => cases below
      | infinity negative'' => cases negative <;> simp_all [PyFloat.lt, PyFloat.le]
      | finite r => simp_all [PyFloat.lt, PyFloat.le]
  | finite p =>
    cases y with
    | nan => cases less
    | infinity negative' =>
      cases z with
      | nan => cases negative' <;> cases below
      | infinity negative'' => cases negative' <;> simp_all [PyFloat.lt, PyFloat.le]
      | finite r => cases negative' <;> simp_all [PyFloat.lt, PyFloat.le]
    | finite q =>
      cases z with
      | nan => cases below
      | infinity negative'' => simp_all [PyFloat.lt, PyFloat.le]
      | finite r =>
        simp only [PyFloat.lt, PyFloat.le, decide_eq_true_eq] at less below ⊢
        exact (lt_of_lt_of_le less below).le

/-- Of two numbers the comparison decides either way. -/
theorem le_of_not_lt {x y : PyFloat} (first : x ≠ .nan) (second : y ≠ .nan)
    (not_less : y.lt x = false) : x.le y = true := by
  cases x with
  | nan => exact absurd rfl first
  | infinity negative =>
    cases y with
    | nan => exact absurd rfl second
    | infinity negative' => cases negative <;> cases negative' <;> simp_all [PyFloat.lt, PyFloat.le]
    | finite y => cases negative <;> simp_all [PyFloat.lt, PyFloat.le]
  | finite x =>
    cases y with
    | nan => exact absurd rfl second
    | infinity negative => cases negative <;> simp_all [PyFloat.lt, PyFloat.le]
    | finite y =>
      simp only [PyFloat.lt, decide_eq_false_iff_not, Rat.not_lt] at not_less
      simpa [PyFloat.le] using not_less

theorem le_refl {x : PyFloat} (number : x ≠ .nan) : x.le x = true := by
  cases x with
  | nan => exact absurd rfl number
  | infinity negative => cases negative <;> rfl
  | finite q => simp [PyFloat.le]

/-- Floats that bound one another are equal; there is one zero here. -/
theorem le_antisymm {x y : PyFloat} (below : x.le y = true) (above : y.le x = true) : x = y := by
  cases x with
  | nan => cases below
  | infinity negative =>
    cases y with
    | nan => cases above
    | infinity negative' => cases negative <;> cases negative' <;> simp_all [PyFloat.le]
    | finite r => simp_all [PyFloat.le]
  | finite q =>
    cases y with
    | nan => cases above
    | infinity negative' => simp_all [PyFloat.le]
    | finite r =>
      simp only [PyFloat.le, decide_eq_true_eq] at below above
      rw [Rat.le_antisymm below above]

theorem lt_or_eq_of_le {x y : PyFloat} (below : x.le y = true) : x.lt y = true ∨ x = y := by
  cases less : x.lt y with
  | true => exact Or.inl rfl
  | false =>
    have number : y ≠ .nan := by
      rintro rfl
      rw [le_nan_right] at below
      cases below
    have number' : x ≠ .nan := by
      rintro rfl
      cases below
    exact Or.inr (le_antisymm below (le_of_not_lt number number' less))

theorem le_trans {x y z : PyFloat} (first : x.le y = true) (second : y.le z = true) :
    x.le z = true := by
  rcases lt_or_eq_of_le first with less | rfl
  · exact le_of_lt_of_le less second
  · exact second

theorem lt_of_not_le {x y : PyFloat} (first : x ≠ .nan) (second : y ≠ .nan)
    (not_below : y.le x = false) : x.lt y = true := by
  cases less : x.lt y with
  | true => rfl
  | false =>
    rw [le_of_not_lt second first less] at not_below
    cases not_below

end PyFloat

/-- No integer is converted to a NaN. -/
theorem floatOfInt_ne_nan {n : Int} {x : PyFloat} (converted : floatOfInt n = some x) :
    x ≠ .nan := by
  rintro rfl
  unfold floatOfInt at converted
  dsimp only at converted
  split at converted <;> cases converted

/-- `value.date()`, as the number of days since 0001-01-01. -/
def DateTime.date (d : DateTime) : Nat := d.micros.val / microsPerDay

/-- `value.year`. -/
def DateTime.year (d : DateTime) : Nat := (ord2ymd d.date).1

end Apcos.Source.Python
