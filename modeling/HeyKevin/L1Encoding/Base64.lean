import HeyKevin.L1Encoding.Text
/-!
# Base64

The standard codec: `base64.b64encode` and `base64.b64decode(s, validate=True)`,
which refuses a character outside the alphabet and a wrong padding, but not
bits that are left over before the padding.

* `b64decode_b64encode`: what was encoded decodes to itself.
-/
namespace HeyKevin.L1.Base64

open L1.Text

def digit (n : ℕ) : CodePoint :=
  if n < 26 then chr (65 + n)
  else if n < 52 then chr (71 + n)
  else if n < 62 then chr (n - 4)
  else if n = 62 then 43
  else 47

def sextet (c : CodePoint) : Option ℕ :=
  if 65 ≤ c.val ∧ c.val < 91 then some (c.val - 65)
  else if 97 ≤ c.val ∧ c.val < 123 then some (c.val - 71)
  else if 48 ≤ c.val ∧ c.val < 58 then some (c.val + 4)
  else if c.val = 43 then some 62
  else if c.val = 47 then some 63
  else none

/-- `=` -/
def pad : CodePoint := 61

def byte (n : ℕ) : Byte := Fin.ofNat _ n

/-- `base64.b64encode(bs)` -/
def b64encode : List Byte → Str
  | [] => []
  | [a] => [digit (a.val / 4), digit (a.val % 4 * 16), pad, pad]
  | [a, b] => [digit (a.val / 4), digit (a.val % 4 * 16 + b.val / 16), digit (b.val % 16 * 4), pad]
  | a :: b :: c :: bs =>
    digit (a.val / 4) :: digit (a.val % 4 * 16 + b.val / 16) ::
      digit (b.val % 16 * 4 + c.val / 64) :: digit (c.val % 64) :: b64encode bs

def lastQuad (a b c d : CodePoint) : Option (List Byte) := do
  let w ← sextet a
  let x ← sextet b
  if d = pad then
    if c = pad then some [byte (w * 4 + x / 16)]
    else do
      let y ← sextet c
      some [byte (w * 4 + x / 16), byte (x % 16 * 16 + y / 4)]
  else do
    let y ← sextet c
    let z ← sextet d
    some [byte (w * 4 + x / 16), byte (x % 16 * 16 + y / 4), byte (y % 4 * 64 + z)]

/-- `base64.b64decode(s, validate=True)` -/
def b64decode : Str → Option (List Byte)
  | [] => some []
  | [a, b, c, d] => lastQuad a b c d
  | a :: b :: c :: d :: rest => do
    let w ← sextet a
    let x ← sextet b
    let y ← sextet c
    let z ← sextet d
    let bs ← b64decode rest
    some (byte (w * 4 + x / 16) :: byte (x % 16 * 16 + y / 4) :: byte (y % 4 * 64 + z) :: bs)
  | _ => none

theorem sextet_digit : ∀ n < 64, sextet (digit n) = some n := by decide

theorem digit_ne_pad : ∀ n < 64, digit n ≠ pad := by decide

theorem byte_eq {n : ℕ} {a : Byte} (h : n = a.val) : byte n = a := by
  subst h
  exact Fin.ext (Nat.mod_eq_of_lt a.isLt)

theorem b64decode_b64encode (bs : List Byte) : b64decode (b64encode bs) = some bs := by
  induction bs using b64encode.induct with
  | case1 => rfl
  | case2 a =>
    have ha := a.isLt
    simp only [b64encode, b64decode, lastQuad, sextet_digit _ (show a.val / 4 < 64 by omega),
      sextet_digit _ (show a.val % 4 * 16 < 64 by omega), if_true, Option.bind_eq_bind,
      Option.bind_some]
    rw [byte_eq (a := a) (by omega)]
  | case3 a b =>
    have ha := a.isLt
    have hb := b.isLt
    have h3 : b.val % 16 * 4 < 64 := by omega
    simp only [b64encode, b64decode, lastQuad, sextet_digit _ (show a.val / 4 < 64 by omega),
      sextet_digit _ (show a.val % 4 * 16 + b.val / 16 < 64 by omega), sextet_digit _ h3,
      digit_ne_pad _ h3, if_true, if_false, Option.bind_eq_bind, Option.bind_some]
    rw [byte_eq (a := a) (by omega), byte_eq (a := b) (by omega)]
  | case4 a b c bs ih =>
    have ha := a.isLt
    have hb := b.isLt
    have hc := c.isLt
    have h1 := sextet_digit (a.val / 4) (by omega)
    have h2 := sextet_digit (a.val % 4 * 16 + b.val / 16) (by omega)
    have h3 := sextet_digit (b.val % 16 * 4 + c.val / 64) (by omega)
    have h4 := sextet_digit (c.val % 64) (by omega)
    have hpad := digit_ne_pad (c.val % 64) (by omega)
    have ea : byte (a.val / 4 * 4 + (a.val % 4 * 16 + b.val / 16) / 16) = a := byte_eq (by omega)
    have eb : byte ((a.val % 4 * 16 + b.val / 16) % 16 * 16 +
        (b.val % 16 * 4 + c.val / 64) / 4) = b := byte_eq (by omega)
    have ec : byte ((b.val % 16 * 4 + c.val / 64) % 4 * 64 + c.val % 64) = c :=
      byte_eq (by omega)
    cases hrest : b64encode bs with
    | nil =>
      rw [hrest] at ih
      cases ih
      simp only [b64encode, b64decode, lastQuad, h1, h2, h3, h4, hpad, if_false,
        Option.bind_eq_bind, Option.bind_some, ea, eb, ec]
    | cons d rest =>
      rw [hrest] at ih
      simp only [b64encode, hrest, b64decode, h1, h2, h3, h4, ih, Option.bind_eq_bind,
        Option.bind_some, ea, eb, ec]

theorem b64encode_injective : Function.Injective b64encode := by
  intro a b h
  have hdecode := congrArg b64decode h
  rw [b64decode_b64encode, b64decode_b64encode] at hdecode
  exact Option.some.inj hdecode

end HeyKevin.L1.Base64
