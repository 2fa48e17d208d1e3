import Mathlib.Data.Rat.Defs
import Mathlib.Tactic.FieldSimp
import Mathlib.Tactic.Linarith
import Mathlib.Tactic.Ring

/-! # Areas below step functions

A step function has a value from each of its points on, up to the next one. Two neighbouring steps may become
one of the mean height, which keeps the area as long as all of both is inside.
-/

namespace GoldenGate.Areas

/-- A point of time, and the value from then on. -/
abbrev Point := ℚ × ℚ

/-- The area up to an end, of a step function that begins with some value. -/
def area (stop : ℚ) : Point → List Point → ℚ
  | last, [] => (stop - last.1) * last.2
  | last, next :: points => (next.1 - last.1) * last.2 + area stop next points

variable {stop : ℚ}

/-- The area up to the last two points, and from there on. -/
theorem area_append (first : Point) (points : List Point) (previous target : Point) :
    area stop first (points ++ [previous, target]) =
      area previous.1 first points + ((target.1 - previous.1) * previous.2 + (stop - target.1) * target.2) := by
  induction points generalizing first with
  | nil => rfl
  | cons next points ih =>
      show (next.1 - first.1) * first.2 + area stop next (points ++ [previous, target]) =
        (next.1 - first.1) * first.2 + area previous.1 next points +
          ((target.1 - previous.1) * previous.2 + (stop - target.1) * target.2)
      rw [ih, add_assoc]

/-- The height of two steps that become one, from a point on. -/
def mean (stop start height middle height' : ℚ) : ℚ :=
  ((middle - start) * height + (stop - middle) * height') / (stop - start)

/-- The mean keeps the area of both steps. If the left one begins before the area does, it takes heights along that
    are not inside, which shows unless the right one is empty or as high. -/
theorem mean_keeps_iff {start inside middle height height' : ℚ} (notStop : start ≠ stop) :
    (stop - inside) * mean stop start height middle height' = (middle - inside) * height + (stop - middle) * height' ↔
      start = inside ∨ middle = stop ∨ height = height' := by
  have some_ : stop - start ≠ 0 := sub_ne_zero.mpr notStop.symm
  have difference : (stop - inside) * mean stop start height middle height' -
      ((middle - inside) * height + (stop - middle) * height') =
      (inside - start) * ((stop - middle) * (height - height')) / (stop - start) := by
    unfold mean
    field_simp
    ring
  rw [← sub_eq_zero, difference, div_eq_zero_iff, or_iff_left some_, mul_eq_zero, mul_eq_zero, sub_eq_zero, sub_eq_zero,
    sub_eq_zero]
  exact or_congr eq_comm (or_congr eq_comm Iff.rfl)

end GoldenGate.Areas
