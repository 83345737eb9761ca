import HeyKevin.Core.Binary64
import HeyKevin.Core.Entries
import HeyKevin.L1Encoding.Datetime
/-!
# Stored values

What a Firestore field can hold, as Python reads it back, and the dictionary
operations the transaction bodies use: `data.get(k)`, `k in data`,
`data[k] = v`, `data.pop(k, None)`, `data.update(...)`.

An absent field and a stored null read the same through `get` and differ
through `has`. The simp lemmas here say what each operation of
`Core.Entries` does to the two, so nothing above unfolds them.

Python's numbers: an `int` is unbounded, a finite `float` is a double, and
comparisons between the two are exact. Arithmetic that touches a float
rounds once (`Core.Binary64.rnd`).
-/
namespace HeyKevin.L1

open HeyKevin.Core Binary64 L1.Text L1.Datetime

/-- A finite `int` or `float`. -/
inductive Number
  | int (z : ℤ)
  | float (d : Double)
deriving DecidableEq

inductive NonFinite
  | nan
  | inf
  | negInf
deriving DecidableEq

inductive Value
  | none
  | bool (b : Bool)
  | number (n : Number)
  | nonFinite (f : NonFinite)
  | str (s : Str)
  | time (t : DateTime)
  | list (xs : List Value)
  | dict (kvs : List (String × Value))

abbrev Dict := Entries String Value

/-! ## Numbers -/

namespace Number

def val : Number → ℚ
  | int z => z
  | float d => d.val

/-- `float(n)` -/
def toFloat (n : Number) : Double := .ofRat n.val

/-- `a + b` -/
def add : Number → Number → Number
  | int a, int b => int (a + b)
  | a, b => float (.ofRat (a.toFloat.val + b.toFloat.val))

/-- `a - b` -/
def sub : Number → Number → Number
  | int a, int b => int (a - b)
  | a, b => float (.ofRat (a.toFloat.val - b.toFloat.val))

/-- `a / k` for an integer `k` that a double holds exactly; Python rounds the
true quotient also when `a` is an `int`. -/
def divInt (a : Number) (k : ℤ) : Double := .ofRat (a.val / k)

/-- `math.floor(x)` -/
def floor (x : Double) : ℤ := ⌊x.val⌋

end Number

/-! ## Reading a value -/

namespace Value

def int (z : ℤ) : Value := .number (.int z)

def text (s : String) : Value := .str (py s)

/-- `isinstance(v, (int, float)) and not isinstance(v, bool) and math.isfinite(v)` -/
def finite? : Value → Option Number
  | .number n => some n
  | _ => Option.none

/-- `v == s` for a string `s`. -/
def isStr (v : Value) (s : Str) : Bool :=
  match v with
  | .str t => decide (t = s)
  | _ => false

/-- `v == n` for an integer `n`: `True` equals 1 and a float equals its integer value. -/
def isInt (v : Value) (z : ℤ) : Bool :=
  match v with
  | .number n => n.val == z
  | .bool b => z == if b then 1 else 0
  | _ => false

/-- `bool(v)` -/
def truthy : Value → Bool
  | .none => false
  | .bool b => b
  | .number n => n.val != 0
  | .str s => !s.isEmpty
  | .list xs => !xs.isEmpty
  | .dict kvs => !kvs.isEmpty
  | _ => true

@[simp] theorem isStr_str (s t : Str) : (Value.str s).isStr t = decide (s = t) := rfl
@[simp] theorem isStr_text (s t : String) : (Value.text s).isStr (py t) = decide (s = t) := by
  simp [text]
@[simp] theorem isStr_none (s : Str) : Value.none.isStr s = false := rfl
@[simp] theorem finite?_int (z : ℤ) : (Value.int z).finite? = some (.int z) := rfl
@[simp] theorem finite?_number (n : Number) : (Value.number n).finite? = some n := rfl

theorem isStr_iff (v : Value) (s : Str) : v.isStr s = true ↔ v = .str s := by
  cases v <;> simp [isStr]

end Value

/-! ## Equality -/

namespace Value

mutual

/-- `a == b`. Numbers compare by value, `True` as 1; dictionaries in any order of their keys. -/
def eq : Value → Value → Bool
  | .none, .none => true
  | .bool a, .bool b => a == b
  | .bool a, .number n => n.val == if a then 1 else 0
  | .number n, .bool b => n.val == if b then 1 else 0
  | .number m, .number n => m.val == n.val
  | .nonFinite .inf, .nonFinite .inf => true
  | .nonFinite .negInf, .nonFinite .negInf => true
  | .str s, .str t => decide (s = t)
  | .time t, .time u => t.offset.isSome == u.offset.isSome && t.instant == u.instant
  | .list xs, .list ys => eqList xs ys
  | .dict d, .dict e => d.length == e.length && eqIn d e
  | _, _ => false

def eqList : List Value → List Value → Bool
  | [], [] => true
  | x :: xs, y :: ys => eq x y && eqList xs ys
  | _, _ => false

def eqIn : List (String × Value) → Dict → Bool
  | [], _ => true
  | (k, v) :: d, e =>
    (match Entries.find? e k with
    | some w => eq v w
    | Option.none => false) && eqIn d e

end

theorem eq_str {v : Value} {s : Str} (h : v.eq (.str s) = true) : v = .str s := by
  cases v with
  | str t =>
    have : t = s := by simpa [eq] using h
    rw [this]
  | nonFinite f => cases f <;> cases h
  | _ => cases h

end Value

/-! ## Dictionaries -/

namespace Dict

/-- `data[k] = v` -/
abbrev set (d : Dict) (k : String) (v : Value) : Dict := Entries.set d k v

/-- `data.pop(k, None)` -/
abbrev pop (d : Dict) (k : String) : Dict := Entries.pop d k

/-- `data.update(e)` -/
abbrev update (d e : Dict) : Dict := Entries.update d e

abbrev keys (d : Dict) : List String := Entries.keys d

/-- `data.get(k)` -/
def get (d : Dict) (k : String) : Value := (Entries.find? d k).getD .none

/-- `k in data` -/
def has (d : Dict) (k : String) : Bool := (Entries.find? d k).isSome

/-- `set(data) == set(ks)` -/
def keysAre (d : Dict) (ks : List String) : Bool :=
  (keys d).all (fun k => ks.contains k) && ks.all fun k => has d k

@[simp] theorem get_nil (k : String) : get [] k = .none := rfl
@[simp] theorem has_nil (k : String) : has [] k = false := rfl

@[simp] theorem get_cons (a : String) (v : Value) (d : Dict) (k : String) :
    get ((a, v) :: d) k = if a = k then v else get d k := by
  rw [get, Entries.find?_cons]; split <;> rfl

@[simp] theorem has_cons (a : String) (v : Value) (d : Dict) (k : String) :
    has ((a, v) :: d) k = (decide (a = k) || has d k) := by
  by_cases h : a = k <;> simp [has, Entries.find?_cons, h]

@[simp] theorem get_set (d : Dict) (k j : String) (v : Value) :
    get (set d k v) j = if k = j then v else get d j := by
  rw [get, Entries.find?_set]; split <;> rfl

@[simp] theorem has_set (d : Dict) (k j : String) (v : Value) :
    has (set d k v) j = (decide (k = j) || has d j) := by
  rw [has, Entries.find?_set]
  by_cases h : k = j <;> simp [h, has]

@[simp] theorem get_pop (d : Dict) (k j : String) :
    get (pop d k) j = if k = j then .none else get d j := by
  rw [get, Entries.find?_pop]; split <;> rfl

@[simp] theorem has_pop (d : Dict) (k j : String) :
    has (pop d k) j = (decide (k ≠ j) && has d j) := by
  rw [has, Entries.find?_pop]
  by_cases h : k = j <;> simp [h, has]

theorem get_update_of_not_mem (d e : Dict) {k : String} (h : k ∉ keys e) :
    get (update d e) k = get d k := by
  rw [get, get, Entries.find?_update_of_not_mem d e h]

theorem keysAre_iff {d : Dict} {ks : List String} :
    d.keysAre ks = true ↔ ∀ k, d.has k = true ↔ k ∈ ks := by
  simp only [keysAre, Bool.and_eq_true, List.all_eq_true, List.contains_iff_mem, keys,
    Entries.mem_keys, has]
  exact ⟨fun h k => ⟨h.1 k, h.2 k⟩, fun h => ⟨fun k => (h k).mp, fun k => (h k).mpr⟩⟩

def Same (d e : Dict) : Prop := ∀ k, Entries.find? d k = Entries.find? e k

theorem Same.get {d e : Dict} (h : Same d e) (k : String) : d.get k = e.get k := by
  rw [Dict.get, Dict.get, h k]

theorem Same.keysAre {d e : Dict} (h : Same d e) (ks : List String) :
    d.keysAre ks = e.keysAre ks := by
  have h' : ∀ k, Entries.find? d k = Entries.find? e k := h
  rw [Bool.eq_iff_iff, keysAre_iff, keysAre_iff]
  simp only [has, h']

theorem same_of_get {d e : Dict} {ks : List String} (hd : d.keysAre ks = true)
    (he : e.keysAre ks = true) (h : ∀ k ∈ ks, d.get k = e.get k) : Same d e := by
  intro k
  have hd := keysAre_iff.mp hd k
  have he := keysAre_iff.mp he k
  by_cases hk : k ∈ ks
  · have hg := h k hk
    obtain ⟨v, hv⟩ := Option.isSome_iff_exists.mp (hd.mpr hk)
    obtain ⟨w, hw⟩ := Option.isSome_iff_exists.mp (he.mpr hk)
    rw [Dict.get, Dict.get, hv, hw] at hg
    rw [hv, hw]
    exact congrArg some hg
  · have hn : d.has k = false := Bool.eq_false_iff.mpr fun h => hk (hd.mp h)
    have hm : e.has k = false := Bool.eq_false_iff.mpr fun h => hk (he.mp h)
    simp only [has, Option.isSome_eq_false_iff, Option.isNone_iff_eq_none] at hn hm
    rw [hn, hm]

theorem Same.set {d e : Dict} (h : Same d e) (k : String) (v : Value) :
    Same (d.set k v) (e.set k v) := by
  intro j
  rw [Entries.find?_set, Entries.find?_set, h j]

theorem get_of_not_has {d : Dict} {k : String} (h : has d k = false) : get d k = .none := by
  simp only [has, Option.isSome_eq_false_iff, Option.isNone_iff_eq_none] at h
  simp [get, h]

end Dict

end HeyKevin.L1
