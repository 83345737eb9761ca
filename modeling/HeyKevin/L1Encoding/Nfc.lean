import HeyKevin.L1Encoding.Text
/-!
# Normalization Form C

`unicodedata.normalize("NFC", s)` as the Unicode Standard defines it: the full
canonical decomposition, marks put in canonical order, and every mark that no
other one blocks composed with its starter. The character tables are a
parameter.
-/
namespace HeyKevin.L1.Nfc

open L1.Text

structure Tables where
  /-- The full canonical decomposition; a character without one is its own. -/
  decomposition : CodePoint → Str
  /-- Canonical_Combining_Class; zero for a starter. -/
  combiningClass : CodePoint → ℕ
  /-- The primary composite of two characters. -/
  composite : CodePoint → CodePoint → Option CodePoint

section

variable (T : Tables)

def insertMark (c : CodePoint) : Str → Str
  | [] => [c]
  | d :: s =>
    if T.combiningClass d ≠ 0 ∧ T.combiningClass d < T.combiningClass c then d :: insertMark c s
    else c :: d :: s

def reorder (s : Str) : Str := s.foldr (insertMark T) []

/-- The Canonical Composition Algorithm after a starter; `marks` have not composed with it, and
the last of them has class `last`. -/
def composeFrom (starter : CodePoint) (marks : Str) (last : ℕ) : Str → Str
  | [] => starter :: marks
  | c :: s =>
    let blocked := marks ≠ [] ∧ T.combiningClass c ≤ last
    match if blocked then none else T.composite starter c with
    | some p => composeFrom p marks last s
    | none =>
      if T.combiningClass c = 0 then starter :: marks ++ composeFrom c [] 0 s
      else composeFrom starter (marks ++ [c]) (T.combiningClass c) s

def compose : Str → Str
  | [] => []
  | c :: s => if T.combiningClass c = 0 then composeFrom T c [] 0 s else c :: compose s

/-- `unicodedata.normalize("NFC", s)` -/
def nfc (s : Str) : Str := compose T (reorder T (s.flatMap T.decomposition))

@[simp] theorem nfc_nil : nfc T [] = [] := rfl

end

end HeyKevin.L1.Nfc
