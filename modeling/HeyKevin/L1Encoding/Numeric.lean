import HeyKevin.L1Encoding.Value
/-!
# Numbers that may be infinite or NaN

A stored double can be an infinity or NaN, and a clock reading is a float as
well. `Numeric` is what passes `isinstance(v, (int, float))`, where `True`
counts as 1; `PyFloat` is what `float(v)` makes of it.

Comparisons are exact between `int` and `float`, and NaN compares false with
everything, so `a < b` and `b <= a` may both be false.

* `lt_of_le`: what is at most `b` is not above it.
* `lt_eq_false_mono`: what is not below `c` stays so as it grows.
-/
namespace HeyKevin.L1

open HeyKevin.Core.Binary64

inductive Numeric
  | finite (n : Number)
  | nonFinite (f : NonFinite)
deriving DecidableEq

inductive PyFloat
  | finite (d : Double)
  | nonFinite (f : NonFinite)
deriving DecidableEq

/-- `isinstance(v, (int, float))`, and the number it is. -/
def Value.numeric? : Value → Option Numeric
  | .bool b => some (.finite (.int (if b then 1 else 0)))
  | .number n => some (.finite n)
  | .nonFinite f => some (.nonFinite f)
  | _ => Option.none

namespace PyFloat

def numeric : PyFloat → Numeric
  | finite d => .finite (.float d)
  | nonFinite f => .nonFinite f

/-- `0.0` -/
def zero : PyFloat := finite (.ofRat 0)

/-- `a + b` -/
def add : PyFloat → PyFloat → PyFloat
  | finite a, finite b => finite (.ofRat (a.val + b.val))
  | finite _, nonFinite f => nonFinite f
  | nonFinite f, finite _ => nonFinite f
  | nonFinite .inf, nonFinite .inf => nonFinite .inf
  | nonFinite .negInf, nonFinite .negInf => nonFinite .negInf
  | _, _ => nonFinite .nan

/-- `a - b` -/
def sub : PyFloat → PyFloat → PyFloat
  | finite a, finite b => finite (.ofRat (a.val - b.val))
  | finite _, nonFinite .inf => nonFinite .negInf
  | finite _, nonFinite .negInf => nonFinite .inf
  | nonFinite f, finite _ => nonFinite f
  | nonFinite .inf, nonFinite .negInf => nonFinite .inf
  | nonFinite .negInf, nonFinite .inf => nonFinite .negInf
  | _, _ => nonFinite .nan

/-- `a + k` for an integer that a double holds exactly -/
def addInt : PyFloat → ℤ → PyFloat
  | finite a, k => finite (.ofRat (a.val + k))
  | nonFinite f, _ => nonFinite f

end PyFloat

namespace Numeric

/-- `float(n)` -/
def toFloat : Numeric → PyFloat
  | finite n => .finite n.toFloat
  | nonFinite f => .nonFinite f

def value : Numeric → Value
  | finite n => .number n
  | nonFinite f => .nonFinite f

/-- `bool(n)` -/
def truthy : Numeric → Bool
  | finite n => n.val != 0
  | nonFinite _ => true

/-- `n + 1` -/
def addOne : Numeric → Numeric
  | finite n => finite (n.add (.int 1))
  | nonFinite f => nonFinite f

/-- `a < b` -/
def lt : Numeric → Numeric → Bool
  | finite a, finite b => decide (a.val < b.val)
  | finite _, nonFinite .inf => true
  | nonFinite .negInf, finite _ => true
  | nonFinite .negInf, nonFinite .inf => true
  | _, _ => false

/-- `a <= b` -/
def le : Numeric → Numeric → Bool
  | finite a, finite b => decide (a.val ≤ b.val)
  | finite _, nonFinite .inf => true
  | nonFinite .negInf, finite _ => true
  | nonFinite .negInf, nonFinite .inf => true
  | nonFinite .inf, nonFinite .inf => true
  | nonFinite .negInf, nonFinite .negInf => true
  | _, _ => false

@[simp] theorem numeric?_value (n : Numeric) : n.value.numeric? = some n := by
  cases n <;> rfl

@[simp] theorem truthy_value (n : Numeric) : n.value.truthy = n.truthy := by
  cases n <;> rfl

theorem lt_of_le {a b : Numeric} (h : le a b = true) : lt b a = false := by
  unfold le at h
  split at h
  · simpa [lt] using h
  · rfl
  · rfl
  · rfl
  · rfl
  · rfl
  · cases h

theorem lt_eq_false_mono {a b c : Numeric} (h : le a b = true) (hc : lt a c = false) :
    lt b c = false := by
  rcases a with m | (_ | _ | _) <;> rcases b with n | (_ | _ | _) <;>
    rcases c with k | (_ | _ | _) <;> try first | rfl | exact Bool.noConfusion hc | exact Bool.noConfusion h
  simp only [le, lt, decide_eq_true_eq, decide_eq_false_iff_not, not_lt] at *
  exact hc.trans h

end Numeric

namespace PyFloat

/-- `max(a, b)`, which keeps the first unless the second is above it -/
def max (a b : PyFloat) : PyFloat := if a.numeric.lt b.numeric then b else a

@[simp] theorem toFloat_numeric (x : PyFloat) : x.numeric.toFloat = x := by
  cases x with
  | finite d =>
    obtain ⟨q, hq⟩ := d
    simp only [numeric, Numeric.toFloat, Number.toFloat, Number.val, Double.ofRat, hq]
  | nonFinite f => rfl

end PyFloat

end HeyKevin.L1
