import HeyKevin.L1Encoding.Text
/-!
# Reading UTF-8

`bytes.decode("utf-8")` with strict errors: every code point in its shortest
form, and no surrogate.

`decodeUtf8_encodeUtf8`: what was encoded decodes to itself.
-/
namespace HeyKevin.L1.Text

/-- A byte after the first of a code point. -/
def isContinuation (b : Byte) : Bool := 0x80 ≤ b.val && b.val < 0xc0

/-- The low six bits of a continuation byte. -/
def low6 (b : Byte) : ℕ := b.val - 0x80

/-- The code point of two, three or four bytes, in its shortest form. -/
def shortest (continued : Bool) (least v : ℕ) (rest : List Byte) :
    Option (CodePoint × List Byte) :=
  if continued && least ≤ v && v < 0x110000 && !isSurrogate (chr v) then some (chr v, rest)
  else none

def decodeFirst : List Byte → Option (CodePoint × List Byte)
  | [] => none
  | a :: bs =>
    if a.val < 0x80 then some (chr a.val, bs)
    else if a.val < 0xc0 then none
    else if a.val < 0xe0 then
      match bs with
      | b :: rest =>
        shortest (isContinuation b) 0x80 ((a.val - 0xc0) * 64 + low6 b) rest
      | _ => none
    else if a.val < 0xf0 then
      match bs with
      | b :: c :: rest =>
        shortest (isContinuation b && isContinuation c) 0x800
          ((a.val - 0xe0) * 4096 + low6 b * 64 + low6 c) rest
      | _ => none
    else
      match bs with
      | b :: c :: d :: rest =>
        shortest (isContinuation b && isContinuation c && isContinuation d) 0x10000
          ((a.val - 0xf0) * 262144 + low6 b * 4096 + low6 c * 64 + low6 d) rest
      | _ => none

/-- At most this many code points. -/
def decodeUpTo : ℕ → List Byte → Option Str
  | _, [] => some []
  | 0, _ => none
  | n + 1, bs => do
    let (c, rest) ← decodeFirst bs
    return c :: (← decodeUpTo n rest)

/-- `bs.decode("utf-8")`; a code point takes a byte or more. -/
def decodeUtf8 (bs : List Byte) : Option Str := decodeUpTo bs.length bs

theorem chr_val (c : CodePoint) : chr c.val = c := Fin.ext (Nat.mod_eq_of_lt c.isLt)

theorem shortest_eq {c : CodePoint} {least v : ℕ} (hv : v = c.val) (hleast : least ≤ c.val)
    (hs : isSurrogate c = false) (rest : List Byte) :
    shortest true least v rest = some (c, rest) := by
  subst hv
  simp [shortest, hleast, c.isLt, chr_val, hs]

theorem isContinuation_of {b : Byte} {n : ℕ} (h : b.val = 0x80 + n % 64) :
    isContinuation b = true := by
  simp only [isContinuation, Bool.and_eq_true, decide_eq_true_eq]
  omega

theorem low6_of {b : Byte} {n : ℕ} (h : b.val = 0x80 + n % 64) : low6 b = n % 64 := by
  unfold low6
  omega

section CodePoints

variable {c : CodePoint} {b₁ b₂ b₃ b₄ : Byte} (hs : isSurrogate c = false) (rest : List Byte)

include hs

theorem decodeFirst_two (h80 : 0x80 ≤ c.val) (h800 : c.val < 0x800)
    (h₁ : b₁.val = 0xc0 + c.val / 64) (h₂ : b₂.val = 0x80 + c.val % 64) :
    decodeFirst (b₁ :: b₂ :: rest) = some (c, rest) := by
  have hv : (b₁.val - 0xc0) * 64 + low6 b₂ = c.val := by
    rw [low6_of h₂]
    omega
  simp only [decodeFirst, isContinuation_of h₂]
  rw [if_neg (by omega), if_neg (by omega), if_pos (by omega), shortest_eq hv h80 hs]

theorem decodeFirst_three (h800 : 0x800 ≤ c.val) (h10000 : c.val < 0x10000)
    (h₁ : b₁.val = 0xe0 + c.val / 4096) (h₂ : b₂.val = 0x80 + c.val / 64 % 64)
    (h₃ : b₃.val = 0x80 + c.val % 64) :
    decodeFirst (b₁ :: b₂ :: b₃ :: rest) = some (c, rest) := by
  have hv : (b₁.val - 0xe0) * 4096 + low6 b₂ * 64 + low6 b₃ = c.val := by
    rw [low6_of h₂, low6_of h₃]
    omega
  simp only [decodeFirst, isContinuation_of h₂, isContinuation_of h₃, Bool.and_self]
  rw [if_neg (by omega), if_neg (by omega), if_neg (by omega), if_pos (by omega),
    shortest_eq hv h800 hs]

theorem decodeFirst_four (h10000 : 0x10000 ≤ c.val) (h₁ : b₁.val = 0xf0 + c.val / 262144)
    (h₂ : b₂.val = 0x80 + c.val / 4096 % 64) (h₃ : b₃.val = 0x80 + c.val / 64 % 64)
    (h₄ : b₄.val = 0x80 + c.val % 64) :
    decodeFirst (b₁ :: b₂ :: b₃ :: b₄ :: rest) = some (c, rest) := by
  have hv : (b₁.val - 0xf0) * 262144 + low6 b₂ * 4096 + low6 b₃ * 64 + low6 b₄ = c.val := by
    rw [low6_of h₂, low6_of h₃, low6_of h₄]
    omega
  simp only [decodeFirst, isContinuation_of h₂, isContinuation_of h₃, isContinuation_of h₄,
    Bool.and_self]
  rw [if_neg (by omega), if_neg (by omega), if_neg (by omega), if_neg (by omega),
    shortest_eq hv h10000 hs]

end CodePoints

theorem decodeFirst_encodeCodePoint {c : CodePoint} {bs : List Byte}
    (h : encodeCodePoint c = some bs) (rest : List Byte) :
    decodeFirst (bs ++ rest) = some (c, rest) := by
  have hs : isSurrogate c = false := (encodeCodePoint_isSome_iff c).mp (by rw [h]; rfl)
  unfold encodeCodePoint at h
  split at h
  · rename_i hlt
    cases h
    simp only [List.cons_append, List.nil_append, decodeFirst, if_pos hlt, chr_val]
  split at h
  · cases h
    exact decodeFirst_two hs rest (by omega) ‹_› rfl rfl
  split at h
  · cases h
  split at h
  · cases h
    exact decodeFirst_three hs rest (by omega) ‹_› rfl rfl rfl
  · cases h
    exact decodeFirst_four hs rest (by omega) rfl rfl rfl rfl

theorem length_encodeCodePoint_pos {c : CodePoint} {bs : List Byte}
    (h : encodeCodePoint c = some bs) : 0 < bs.length := by
  refine List.length_pos_iff.mpr ?_
  rintro rfl
  exact encodeCodePoint_ne_nil c h

theorem decodeUpTo_encodeUtf8 {s : Str} {bs : List Byte} (h : encodeUtf8 s = some bs) {n : ℕ}
    (hn : bs.length ≤ n) : decodeUpTo n bs = some s := by
  induction s generalizing bs n with
  | nil =>
    cases h
    cases n <;> rfl
  | cons c s ih =>
    obtain ⟨b, t, hb, ht, rfl⟩ := encodeUtf8_cons h
    have hpos := length_encodeCodePoint_pos hb
    rw [List.length_append] at hn
    obtain ⟨m, rfl⟩ : ∃ m, n = m + 1 := ⟨n - 1, by omega⟩
    have hne : b ++ t ≠ [] := by
      intro hnil
      rw [(List.append_eq_nil_iff.mp hnil).1] at hpos
      cases hpos
    have hstep : decodeUpTo (m + 1) (b ++ t) = do
        let (c, rest) ← decodeFirst (b ++ t)
        return c :: (← decodeUpTo m rest) := by
      cases hbs : b ++ t with
      | nil => exact absurd hbs hne
      | cons => rfl
    rw [hstep, decodeFirst_encodeCodePoint hb]
    simp only [Option.bind_eq_bind, Option.bind_some, ih ht (show t.length ≤ m by omega)]
    rfl

theorem decodeUtf8_encodeUtf8 {s : Str} {bs : List Byte} (h : encodeUtf8 s = some bs) :
    decodeUtf8 bs = some s :=
  decodeUpTo_encodeUtf8 h le_rfl

end HeyKevin.L1.Text
