import Mathlib.Data.List.DropRight
import Mathlib.Data.List.Infix
import Mathlib.Data.Nat.Digits.Defs
import Mathlib.Data.String.Basic
/-!
# Text as the program sees it

A Python `str` is a sequence of code points, lone surrogates included: a JSON
escape can put one into a stored value, and encoding such a string raises.
So text is a list of code points below 0x110000, not a Lean `String`.

* `strip`, `split`, `joinSpace`: `str.strip()`, `str.split()`, `" ".join`,
  over the white-space set of `str.isspace`. `strip_strip` and
  `split_joinSpace` say that the two normal forms are fixed points.
* `decimal`: `str(n)` of an integer; `decimal_append_inj`: a decimal followed
  by a delimiter determines the integer, which is what makes a delimited
  number inside hashed material recoverable.
* `encodeUtf8`: `str.encode()`. It fails exactly on a surrogate
  (`encodeUtf8_isSome_iff`) and is injective (`encodeUtf8_inj`).
-/
namespace HeyKevin.L1.Text

abbrev CodePoint := Fin 0x110000

abbrev Str := List CodePoint

-- Found first wherever a module stands: a definition means the same under any imports.
instance instNeZeroCodePoints : NeZero 0x110000 := ⟨by decide⟩

instance instLawfulBEqCodePoint : LawfulBEq CodePoint := inferInstance

instance instLawfulBEqStr : LawfulBEq Str := inferInstance

theorem toNat_lt (c : Char) : c.toNat < 0x110000 := by
  rcases c.valid with h | h <;> simp only [Char.toNat] <;> omega

def ofChar (c : Char) : CodePoint := ⟨c.toNat, toNat_lt c⟩

theorem ofChar_injective : Function.Injective ofChar := by
  intro c d h
  exact Char.toNat_inj.mp (Fin.mk.inj h)

def py (s : String) : Str := s.toList.map ofChar

@[simp] theorem py_inj (s t : String) : py s = py t ↔ s = t := by
  refine ⟨fun h => ?_, fun h => h ▸ rfl⟩
  exact String.toList_inj.mp (List.map_injective_iff.mpr ofChar_injective h)

/-- `unicodedata.category(c) == "Cc"`. -/
def isCc (c : CodePoint) : Bool := c.val < 0x20 || (0x7f ≤ c.val && c.val < 0xa0)

/-- The characters `str.isspace`, `str.split` and `str.strip` take as white space. -/
def isSpace (c : CodePoint) : Bool :=
  (9 ≤ c.val && c.val ≤ 0xd) || (0x1c ≤ c.val && c.val ≤ 0x20) || c.val == 0x85 ||
    c.val == 0xa0 || c.val == 0x1680 || (0x2000 ≤ c.val && c.val ≤ 0x200a) ||
    c.val == 0x2028 || c.val == 0x2029 || c.val == 0x202f || c.val == 0x205f || c.val == 0x3000

def isSurrogate (c : CodePoint) : Bool := 0xd800 ≤ c.val && c.val < 0xe000

def space : CodePoint := 0x20

@[simp] theorem isSpace_space : isSpace space = true := by decide

/-! ## White space -/

/-- `str.strip()` -/
def strip (s : Str) : Str := (s.dropWhile isSpace).rdropWhile isSpace

/-- Put a non-space character in front of the words of the text that starts with `next`. -/
def push (c : CodePoint) (next : Option CodePoint) : List Str → List Str
  | w :: ws => if next.all isSpace then [c] :: w :: ws else (c :: w) :: ws
  | [] => [[c]]

/-- `str.split()`: the maximal runs without white space. -/
def split : Str → List Str
  | [] => []
  | c :: s => if isSpace c then split s else push c s.head? (split s)

/-- `" ".join(words)` -/
def joinSpace : List Str → Str
  | [] => []
  | [w] => w
  | w :: ws => w ++ space :: joinSpace ws

theorem strip_strip (s : Str) : strip (strip s) = strip s := by
  have hhead : (strip s).dropWhile isSpace = strip s := by
    cases hd : s.dropWhile isSpace with
    | nil => simp [strip, hd]
    | cons a t =>
      have ha : isSpace a = false := by
        have := List.head_dropWhile_not (p := isSpace) (l := s) (by simp [hd])
        simpa [hd] using this
      have hpre : strip s <+: a :: t := by
        have := List.rdropWhile_prefix isSpace (a :: t)
        simpa [strip, hd] using this
      cases hs : strip s with
      | nil => rfl
      | cons b u =>
        rw [hs] at hpre
        obtain ⟨rfl, -⟩ := List.cons_prefix_cons.mp hpre
        simp [ha]
  rw [strip, hhead]
  exact List.rdropWhile_idempotent _ _

def IsWord (w : Str) : Prop := w ≠ [] ∧ ∀ c ∈ w, isSpace c = false

theorem split_word (w : Str) (hw : IsWord w) : split w = [w] := by
  obtain ⟨hne, hns⟩ := hw
  induction w with
  | nil => exact absurd rfl hne
  | cons c w ih =>
    have hc := hns c (by simp)
    cases w with
    | nil => simp [split, push, hc]
    | cons d w =>
      have hd := hns d (by simp)
      have := ih (by simp) fun x hx => hns x (List.mem_cons_of_mem _ hx)
      rw [split, this]
      simp [push, hc, hd]

theorem split_word_space (w s : Str) (hw : IsWord w) :
    split (w ++ space :: s) = w :: split s := by
  obtain ⟨hne, hns⟩ := hw
  induction w with
  | nil => exact absurd rfl hne
  | cons c w ih =>
    have hc := hns c (by simp)
    cases w with
    | nil =>
      simp only [List.cons_append, List.nil_append, split, hc, isSpace_space]
      cases split s <;> simp [push]
    | cons d w =>
      have hd := hns d (by simp)
      have := ih (by simp) fun x hx => hns x (List.mem_cons_of_mem _ hx)
      rw [List.cons_append, split, this]
      simp [push, hc, hd]

theorem split_joinSpace : ∀ ws : List Str, (∀ w ∈ ws, IsWord w) → split (joinSpace ws) = ws
  | [], _ => rfl
  | [w], h => split_word w (h w (by simp))
  | w :: v :: ws, h => by
    rw [joinSpace, split_word_space w _ (h w (by simp)),
      split_joinSpace (v :: ws) fun x hx => h x (List.mem_cons_of_mem _ hx)]
    simp

/-- Every word is a substring without white space; a string that starts with
a non-space character starts with its first word. -/
theorem split_spec (s : Str) :
    (∀ w ∈ split s, IsWord w ∧ w <:+: s) ∧
      (∀ d ∈ s.head?, isSpace d = false → ∃ w ws, split s = w :: ws ∧ w <+: s) := by
  induction s with
  | nil => simp [split]
  | cons c s ih =>
    obtain ⟨ihw, ihh⟩ := ih
    have up : ∀ w ∈ split s, IsWord w ∧ w <:+: c :: s := fun w hw =>
      ⟨(ihw w hw).1, (ihw w hw).2.trans (List.suffix_cons c s).isInfix⟩
    rw [split]
    by_cases hc : isSpace c
    · rw [if_pos hc]
      refine ⟨up, fun d hd hns => ?_⟩
      simp only [List.head?_cons, Option.mem_some_iff] at hd
      subst hd
      rw [hc] at hns
      cases hns
    rw [if_neg hc]
    have hcf : isSpace c = false := by simpa using hc
    have hone : IsWord [c] ∧ [c] <+: c :: s := ⟨⟨by simp, by simpa using hcf⟩, ⟨s, rfl⟩⟩
    cases hws : split s with
    | nil => exact ⟨by simpa [push] using ⟨hone.1, hone.2.isInfix⟩, fun _ _ _ => ⟨_, _, rfl, hone.2⟩⟩
    | cons w ws =>
      rw [hws] at up
      by_cases hn : s.head?.all isSpace
      · rw [push, if_pos hn]
        refine ⟨fun v hv => ?_, fun _ _ _ => ⟨_, _, rfl, hone.2⟩⟩
        rcases List.mem_cons.mp hv with rfl | hv
        · exact ⟨hone.1, hone.2.isInfix⟩
        · exact up v hv
      · rw [push, if_neg hn]
        cases s with
        | nil => simp at hn
        | cons d t =>
          obtain ⟨w', ws', he, hpre⟩ := ihh d rfl (by simpa using hn)
          rw [hws] at he
          cases he
          have hcw : c :: w <+: c :: d :: t := List.cons_prefix_cons.mpr ⟨rfl, hpre⟩
          refine ⟨fun v hv => ?_, fun _ _ _ => ⟨_, _, rfl, hcw⟩⟩
          rcases List.mem_cons.mp hv with rfl | hv
          · refine ⟨⟨by simp, ?_⟩, hcw.isInfix⟩
            exact List.forall_mem_cons.mpr ⟨hcf, (up w (by simp)).1.2⟩
          · exact up v (List.mem_cons_of_mem _ hv)

theorem isWord_of_mem_split {s w : Str} (h : w ∈ split s) : IsWord w := ((split_spec s).1 w h).1

theorem infix_of_mem_split {s w : Str} (h : w ∈ split s) : w <:+: s := ((split_spec s).1 w h).2

/-! ## Decimals -/

/-- `chr(n)` -/
def chr (n : ℕ) : CodePoint := Fin.ofNat _ n

def digit (d : ℕ) : CodePoint := chr (48 + d)

def hexDigit (d : ℕ) : CodePoint := if d < 10 then digit d else chr (87 + d)

/-- `str(n)` -/
def decimal : Int → Str
  | .ofNat 0 => [digit 0]
  | .ofNat n => (Nat.digits 10 n).reverse.map digit
  | .negSucc n => 45 :: (Nat.digits 10 (n + 1)).reverse.map digit

def isNumeral (c : CodePoint) : Bool := c.val == 45 || (48 ≤ c.val && c.val < 58)

theorem digit_val {d : ℕ} (h : d < 10) : (digit d).val = 48 + d := by
  simp only [digit, chr, Fin.ofNat]
  omega

theorem map_digit_inj {n m : ℕ}
    (h : (Nat.digits 10 n).reverse.map digit = (Nat.digits 10 m).reverse.map digit) : n = m := by
  have hmem : ∀ k, ∀ d ∈ (Nat.digits 10 k).reverse, d < 10 := fun k d hd =>
    Nat.digits_lt_base (by decide) (List.mem_reverse.mp hd)
  have key : ∀ l : List ℕ, (∀ d ∈ l, d < 10) →
      (l.map digit).map (fun c => c.val - 48) = l := by
    intro l hl
    rw [List.map_map]
    refine (List.map_congr_left fun d hd => ?_).trans (List.map_id l)
    simp [digit_val (hl d hd)]
  have h' := congrArg (List.map fun c : CodePoint => c.val - 48) h
  rw [key _ (hmem n), key _ (hmem m)] at h'
  exact Nat.digits_inj_iff.mp (List.reverse_injective h')

theorem isNumeral_digits (n : ℕ) : ∀ c ∈ (Nat.digits 10 n).reverse.map digit,
    isNumeral c = true ∧ c ≠ 45 := by
  intro c hc
  simp only [List.mem_map, List.mem_reverse] at hc
  obtain ⟨d, hd, rfl⟩ := hc
  have hv := digit_val (Nat.digits_lt_base (by decide) hd)
  have := Nat.digits_lt_base (b := 10) (by decide) hd
  constructor
  · simp only [isNumeral, hv, Bool.or_eq_true, Bool.and_eq_true, decide_eq_true_eq]
    omega
  · intro h
    have h45 : (45 : CodePoint).val = 45 := rfl
    rw [h, h45] at hv
    omega

theorem decimal_isNumeral : ∀ z : Int, ∀ c ∈ decimal z, isNumeral c = true
  | .ofNat 0 => fun c hc => by
    rw [List.mem_singleton.mp hc]
    decide
  | .ofNat (n + 1) => fun c hc => (isNumeral_digits (n + 1) c hc).1
  | .negSucc n => fun c hc => by
    rcases List.mem_cons.mp hc with rfl | hc
    · decide
    · exact (isNumeral_digits (n + 1) c hc).1

theorem digits_ne_minus (n : ℕ) (s : Str) : (Nat.digits 10 n).reverse.map digit ≠ 45 :: s := by
  intro h
  exact (isNumeral_digits n 45 (by rw [h]; simp)).2 rfl

theorem digits_ne_zero (n : ℕ) : (Nat.digits 10 (n + 1)).reverse.map digit ≠ [digit 0] := by
  intro h
  have hz : [digit 0] = (Nat.digits 10 0).reverse.map digit ∨ Nat.digits 10 (n + 1) = [0] := by
    right
    have hl : (Nat.digits 10 (n + 1)).length = 1 := by simpa using congrArg List.length h
    obtain ⟨d, hd⟩ := List.length_eq_one_iff.mp hl
    rw [hd] at h ⊢
    have hlt : d < 10 := Nat.digits_lt_base (b := 10) (m := n + 1) (by decide) (by rw [hd]; simp)
    have := congrArg Fin.val (List.cons.inj h).1
    rw [digit_val hlt, digit_val (by decide)] at this
    rw [show d = 0 by omega]
  rcases hz with hz | hz
  · simp at hz
  · have := Nat.ofDigits_digits 10 (n + 1)
    rw [hz] at this
    simp at this

theorem decimal_injective : Function.Injective decimal := by
  intro a b h
  match a, b with
  | .ofNat 0, .ofNat 0 => rfl
  | .ofNat 0, .ofNat (n + 1) => exact absurd h.symm (digits_ne_zero n)
  | .ofNat (n + 1), .ofNat 0 => exact absurd h (digits_ne_zero n)
  | .ofNat (n + 1), .ofNat (k + 1) => exact congrArg Int.ofNat (map_digit_inj h)
  | .ofNat 0, .negSucc n => cases (List.cons.inj h).1
  | .negSucc n, .ofNat 0 => cases (List.cons.inj h).1
  | .ofNat (n + 1), .negSucc k => exact absurd h (digits_ne_minus _ _)
  | .negSucc n, .ofNat (k + 1) => exact absurd h.symm (digits_ne_minus _ _)
  | .negSucc n, .negSucc k =>
    have := map_digit_inj (List.cons.inj h).2
    rw [show n = k by omega]

theorem decimal_append_inj {a b : Int} {c d : CodePoint} {s t : Str}
    (hc : isNumeral c = false) (hd : isNumeral d = false)
    (h : decimal a ++ c :: s = decimal b ++ d :: t) : a = b ∧ c :: s = d :: t := by
  have key : ∀ z x u, isNumeral x = false →
      (decimal z ++ x :: u).takeWhile isNumeral = decimal z := by
    intro z x u hx
    rw [List.takeWhile_append_of_pos (decimal_isNumeral z)]
    simp [hx]
  have h' := congrArg (List.takeWhile isNumeral) h
  rw [key _ _ _ hc, key _ _ _ hd] at h'
  obtain rfl := decimal_injective h'
  exact ⟨rfl, List.append_cancel_left h⟩

/-! ## UTF-8 -/

abbrev Byte := Fin 256

instance instNeZeroBytes : NeZero 256 := ⟨by decide⟩

/-- The bytes of one code point; a surrogate has none. -/
def encodeCodePoint (c : CodePoint) : Option (List Byte) :=
  if h : c.val < 0x80 then some [⟨c.val, by omega⟩]
  else if h : c.val < 0x800 then
    some [⟨0xc0 + c.val / 64, by omega⟩, ⟨0x80 + c.val % 64, by omega⟩]
  else if isSurrogate c then none
  else if h : c.val < 0x10000 then
    some [⟨0xe0 + c.val / 4096, by omega⟩, ⟨0x80 + c.val / 64 % 64, by omega⟩,
      ⟨0x80 + c.val % 64, by omega⟩]
  else
    some [⟨0xf0 + c.val / 262144, by omega⟩, ⟨0x80 + c.val / 4096 % 64, by omega⟩,
      ⟨0x80 + c.val / 64 % 64, by omega⟩, ⟨0x80 + c.val % 64, by omega⟩]

/-- `str.encode()` -/
def encodeUtf8 : Str → Option (List Byte)
  | [] => some []
  | c :: s => do return (← encodeCodePoint c) ++ (← encodeUtf8 s)

theorem encodeCodePoint_isSome_iff (c : CodePoint) :
    (encodeCodePoint c).isSome ↔ isSurrogate c = false := by
  unfold encodeCodePoint
  have hs : isSurrogate c = true → 0x800 ≤ c.val := by
    simp only [isSurrogate, Bool.and_eq_true, decide_eq_true_eq]; omega
  split
  · simp only [Option.isSome_some, true_iff]
    by_contra h
    have := hs (by simpa using h)
    omega
  split
  · simp only [Option.isSome_some, true_iff]
    by_contra h
    have := hs (by simpa using h)
    omega
  split
  · simp_all
  split <;> simp_all

theorem isSurrogate_of_lt {c : CodePoint} (h : c.val < 0xd800) : isSurrogate c = false := by
  rw [isSurrogate, Bool.and_eq_false_iff, decide_eq_false_iff_not]
  exact .inl (by omega)

/-- No lone surrogate. -/
def Encodable (s : Str) : Prop := ∀ c ∈ s, isSurrogate c = false

instance (s : Str) : Decidable (Encodable s) := List.decidableBAll _ s

@[simp] theorem encodable_nil : Encodable [] := fun _ h => by cases h
@[simp] theorem encodable_cons (c : CodePoint) (s : Str) :
    Encodable (c :: s) ↔ isSurrogate c = false ∧ Encodable s := List.forall_mem_cons
@[simp] theorem encodable_append (s t : Str) :
    Encodable (s ++ t) ↔ Encodable s ∧ Encodable t := List.forall_mem_append

theorem encodable_py (s : String) : Encodable (py s) := by
  intro c hc
  obtain ⟨ch, -, rfl⟩ := List.mem_map.mp hc
  rw [Bool.eq_false_iff]
  intro hs
  rw [isSurrogate, Bool.and_eq_true, decide_eq_true_eq, decide_eq_true_eq] at hs
  simp only [ofChar, Char.toNat] at hs
  rcases ch.valid with h | h <;> omega

theorem encodeUtf8_isSome_iff (s : Str) : (encodeUtf8 s).isSome ↔ Encodable s := by
  induction s with
  | nil => simp [encodeUtf8]
  | cons c s ih =>
    rw [encodable_cons, ← ih, ← encodeCodePoint_isSome_iff]
    simp only [encodeUtf8]
    cases encodeCodePoint c <;> cases encodeUtf8 s <;> simp

theorem encodeCodePoint_append_inj {c d : CodePoint} {bs cs x y : List Byte}
    (hb : encodeCodePoint c = some bs) (hd : encodeCodePoint d = some cs)
    (h : bs ++ x = cs ++ y) : c = d ∧ x = y := by
  have hc := c.isLt
  have hd' := d.isLt
  have shift : ∀ n : ℕ, n / 4096 = n / 64 / 64 ∧ n / 262144 = n / 4096 / 64 := fun n =>
    ⟨by rw [Nat.div_div_eq_div_mul], by rw [Nat.div_div_eq_div_mul]⟩
  obtain ⟨e1, e2⟩ := shift c.val
  obtain ⟨e3, e4⟩ := shift d.val
  have split4 : ∀ {e : CodePoint} {es : List Byte}, encodeCodePoint e = some es →
      (e.val < 0x80 ∧ es.map Fin.val = [e.val]) ∨
      (0x80 ≤ e.val ∧ e.val < 0x800 ∧ es.map Fin.val = [0xc0 + e.val / 64, 0x80 + e.val % 64]) ∨
      (0x800 ≤ e.val ∧ e.val < 0x10000 ∧ es.map Fin.val =
        [0xe0 + e.val / 4096, 0x80 + e.val / 64 % 64, 0x80 + e.val % 64]) ∨
      (0x10000 ≤ e.val ∧ es.map Fin.val = [0xf0 + e.val / 262144, 0x80 + e.val / 4096 % 64,
        0x80 + e.val / 64 % 64, 0x80 + e.val % 64]) := by
    intro e es he
    unfold encodeCodePoint at he
    split at he
    · cases he; exact .inl ⟨‹_›, rfl⟩
    split at he
    · cases he; exact .inr (.inl ⟨by omega, ‹_›, rfl⟩)
    split at he
    · cases he
    split at he
    · cases he; exact .inr (.inr (.inl ⟨by omega, ‹_›, rfl⟩))
    · cases he; exact .inr (.inr (.inr ⟨by omega, rfl⟩))
  have hv : bs.map Fin.val ++ x.map Fin.val = cs.map Fin.val ++ y.map Fin.val := by
    rw [← List.map_append, ← List.map_append, h]
  have hcd : c.val = d.val := by
    rcases split4 hb with ⟨_, e⟩ | ⟨_, _, e⟩ | ⟨_, _, e⟩ | ⟨_, e⟩ <;>
    rcases split4 hd with ⟨_, f⟩ | ⟨_, _, f⟩ | ⟨_, _, f⟩ | ⟨_, f⟩ <;>
    · rw [e, f] at hv
      simp only [List.cons_append, List.nil_append, List.cons.injEq] at hv
      omega
  obtain rfl := Fin.ext hcd
  rw [hb] at hd
  cases hd
  exact ⟨rfl, List.append_cancel_left h⟩

theorem encodeUtf8_cons {c : CodePoint} {s : Str} {bs : List Byte}
    (h : encodeUtf8 (c :: s) = some bs) :
    ∃ b t, encodeCodePoint c = some b ∧ encodeUtf8 s = some t ∧ bs = b ++ t := by
  simp only [encodeUtf8, Option.bind_eq_bind, Option.bind_eq_some_iff, Option.pure_def,
    Option.some.injEq] at h
  obtain ⟨b, hb, t, ht, rfl⟩ := h
  exact ⟨b, t, hb, ht, rfl⟩

theorem encodeCodePoint_ne_nil (c : CodePoint) : encodeCodePoint c ≠ some [] := by
  unfold encodeCodePoint
  split
  · simp
  split
  · simp
  split
  · simp
  split <;> simp

theorem encodeUtf8_inj {s t : Str} {bs : List Byte} (hs : encodeUtf8 s = some bs)
    (ht : encodeUtf8 t = some bs) : s = t := by
  induction s generalizing t bs with
  | nil =>
    cases t with
    | nil => rfl
    | cons d t =>
      obtain ⟨b, u, hb, -, he⟩ := encodeUtf8_cons ht
      simp only [encodeUtf8, Option.some.injEq] at hs
      rw [← hs] at he
      rw [(List.append_eq_nil_iff.mp he.symm).1] at hb
      exact absurd hb (encodeCodePoint_ne_nil d)
  | cons c s ih =>
    obtain ⟨b, u, hb, hu, rfl⟩ := encodeUtf8_cons hs
    cases t with
    | nil =>
      simp only [encodeUtf8, Option.some.injEq] at ht
      rw [(List.append_eq_nil_iff.mp ht.symm).1] at hb
      exact absurd hb (encodeCodePoint_ne_nil c)
    | cons d t =>
      obtain ⟨b', u', hb', hu', he⟩ := encodeUtf8_cons ht
      obtain ⟨rfl, rfl⟩ := encodeCodePoint_append_inj hb hb' he
      rw [ih hu hu']

end HeyKevin.L1.Text
