import HeyKevin.L1Encoding.Value
/-!
# What the model takes from the interpreter

Python carries the Unicode tables, the `str()` of arbitrary values and
SHA-256. They are not in the repository, so the model is parametric in them;
a result that relies on one of their documented properties takes that
property as a hypothesis.
-/
namespace HeyKevin.L1

open L1.Text L1.Datetime

structure Python where
  /-- `unicodedata.normalize("NFKC", s)` -/
  nfkc : Str → Str
  /-- `s.casefold()` -/
  casefold : Str → Str
  /-- `s.lower()` -/
  lower : Str → Str
  /-- `str(v)` of a value that is not a string -/
  strOf : Value → Str
  /-- `datetime.fromisoformat(s)` on the forms that `L1Encoding.Iso` does not read. -/
  otherIsoformat : Str → Option DateTime
  /-- `hashlib.sha256(bs).hexdigest()` -/
  sha256 : List Byte → Str

namespace Python

/-- `str(v or "")` -/
def strOrEmpty (P : Python) (v : Value) : Str :=
  if v.truthy then
    match v with
    | .str s => s
    | v => P.strOf v
  else []

/-- Documented properties of NFKC (Unicode Standard Annex 15): it is
idempotent, its normal forms are closed under substrings, and U+0020, a stable
starter, joins two normal forms to a normal form. -/
structure NfkcLaws (P : Python) : Prop where
  idem : ∀ s, P.nfkc (P.nfkc s) = P.nfkc s
  infix_closed : ∀ s t, P.nfkc s = s → t <:+: s → P.nfkc t = t
  space_closed : ∀ s t, P.nfkc s = s → P.nfkc t = t → P.nfkc (s ++ space :: t) = s ++ space :: t

/-- Documented property of `str.casefold`: text without upper-case letters in
ASCII is its own folding. -/
def CasefoldAscii (P : Python) : Prop :=
  ∀ s : Str, (∀ c ∈ s, c.val < 128 ∧ ¬ (65 ≤ c.val ∧ c.val ≤ 90)) → P.casefold s = s

def isLowerHex (c : CodePoint) : Bool := (48 ≤ c.val && c.val < 58) || (97 ≤ c.val && c.val < 103)

def isDigest (s : Str) : Bool := s.length == 64 && s.all isLowerHex

/-- The documented form of `hexdigest()`. -/
def HexDigest (P : Python) : Prop := ∀ bs, isDigest (P.sha256 bs) = true

end Python

end HeyKevin.L1
