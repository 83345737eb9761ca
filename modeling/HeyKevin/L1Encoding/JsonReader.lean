import HeyKevin.L1Encoding.Json
import HeyKevin.L1Encoding.Utf8
import Mathlib.Data.Nat.Digits.Lemmas
/-!
# Reading JSON

`json.loads` of the texts that are made of strings, integers, lists and
objects, with the blanks and escapes that it takes. It gives an object as its
pairs in order, and nothing for a text that has `true`, `false`, `null` or a
float in it, or that it raises on.

* `readBody_quoted`: a quoted string is read back, whatever is in it.
* `readInt_decimal`: an integer is read back.
* `loads_dumps`: **reading undoes writing**.
-/
namespace HeyKevin.L1.Json

open L1.Text

/-! ## Strings -/

def hexDigitVal (c : CodePoint) : Option ℕ :=
  if 48 ≤ c.val ∧ c.val < 58 then some (c.val - 48)
  else if 97 ≤ c.val ∧ c.val < 103 then some (c.val - 87)
  else if 65 ≤ c.val ∧ c.val < 71 then some (c.val - 55)
  else none

/-- `_decode_uXXXX` -/
def readHex4 : Str → Option (ℕ × Str)
  | a :: b :: c :: d :: rest => do
    let a ← hexDigitVal a
    let b ← hexDigitVal b
    let c ← hexDigitVal c
    let d ← hexDigitVal d
    some (a * 4096 + b * 256 + c * 16 + d, rest)
  | _ => none

/-- What follows a backslash and `u`; two surrogates in a row are one character. -/
def readUnicode (s : Str) : Option (CodePoint × Str) :=
  match readHex4 s with
  | none => none
  | some (high, rest) =>
    if 0xd800 ≤ high ∧ high < 0xdc00 ∧ py "\\u" <+: rest then
      match readHex4 (rest.drop 2) with
      | none => none
      | some (low, after) =>
        if 0xdc00 ≤ low ∧ low < 0xe000 then
          some (chr (0x10000 + (high - 0xd800) * 0x400 + (low - 0xdc00)), after)
        else some (chr high, rest)
    else some (chr high, rest)

/-- What follows a backslash. -/
def readEscape : Str → Option (CodePoint × Str)
  | [] => none
  | c :: s =>
    if c.val = 117 then readUnicode s
    else if c ∈ py "\"\\/bfnrt" then some (unescapeShort c, s)
    else none

/-- A string behind its opening quote, and what follows it. -/
def readBody : ℕ → Str → Option (Str × Str)
  | 0, _ => none
  | _ + 1, [] => none
  | n + 1, c :: s =>
    if c.val = 0x22 then some ([], s)
    else if c.val = 0x5c then
      (readEscape s).bind fun (d, rest) => (readBody n rest).map fun (t, rest) => (d :: t, rest)
    else if c.val < 0x20 then none
    else (readBody n s).map fun (t, rest) => (c :: t, rest)

/-! ## Integers -/

def isDecimal (c : CodePoint) : Bool := 48 ≤ c.val && c.val < 58

def readNat : Str → Option (ℕ × Str)
  | [] => none
  | c :: s =>
    if c.val = 48 then some (0, s)
    else if isDecimal c then
      some (Nat.ofDigits 10 (((c :: s).takeWhile isDecimal).reverse.map (·.val - 48)),
        (c :: s).dropWhile isDecimal)
    else none

/-- An integer that is not the beginning of a float. -/
def readInt (s : Str) : Option (ℤ × Str) :=
  let read : Option (ℤ × Str) :=
    match s with
    | [] => none
    | c :: rest =>
      if c.val = 45 then (readNat rest).map fun (n, rest) => (-(n : ℤ), rest)
      else (readNat s).map fun (n, rest) => ((n : ℤ), rest)
  read.filter fun (_, rest) => rest.head?.all (· ∉ py ".eE")

/-! ## Documents -/

def isBlank (c : CodePoint) : Bool := c.val == 0x20 || c.val == 9 || c.val == 10 || c.val == 13

def skip (s : Str) : Str := s.dropWhile isBlank

def charOf (c : CodePoint) : Option Char :=
  if h : c.val.isValidChar then some (Char.ofNatAux c.val h) else none

/-- A key; no key here has a lone surrogate. -/
def keyOf (s : Str) : Option String := (s.mapM charOf).map String.ofList

/-- The text behind a character that it starts with. -/
def after (c : CodePoint) : Str → Option Str
  | [] => none
  | d :: s => if d = c then some s else none

/-- A key and its colon. -/
def readKey (s : Str) : Option (String × Str) := do
  let rest ← after 0x22 s
  let (key, rest) ← readBody (rest.length + 1) rest
  let k ← keyOf key
  let rest ← after 0x3a (skip rest)
  some (k, rest)

mutual

def readValue : ℕ → Str → Option (Json × Str)
  | 0, _ => none
  | n + 1, s =>
    match after 0x22 s, after 0x5b s, after 0x7b s with
    | some rest, _, _ => (readBody (rest.length + 1) rest).map fun (t, rest) => (.str t, rest)
    | none, some rest, _ =>
      match after 0x5d (skip rest) with
      | some rest => some (.arr [], rest)
      | none => (readItems n (skip rest)).map fun (xs, rest) => (.arr xs, rest)
    | none, none, some rest =>
      match after 0x7d (skip rest) with
      | some rest => some (.obj [], rest)
      | none => (readEntries n (skip rest)).map fun (kvs, rest) => (.obj kvs, rest)
    | none, none, none => (readInt s).map fun (z, rest) => (.int z, rest)

/-- The items of a list up to its closing bracket. -/
def readItems : ℕ → Str → Option (List Json × Str)
  | 0, _ => none
  | n + 1, s =>
    (readValue n s).bind fun (x, rest) =>
      match after 0x2c (skip rest) with
      | some rest => (readItems n (skip rest)).map fun (xs, rest) => (x :: xs, rest)
      | none => (after 0x5d (skip rest)).map fun rest => ([x], rest)

/-- The pairs of an object up to its closing brace. -/
def readEntries : ℕ → Str → Option (List (String × Json) × Str)
  | 0, _ => none
  | n + 1, s =>
    (readKey s).bind fun (k, rest) => (readValue n (skip rest)).bind fun (v, rest) =>
      match after 0x2c (skip rest) with
      | some rest => (readEntries n (skip rest)).map fun (kvs, rest) => ((k, v) :: kvs, rest)
      | none => (after 0x7d (skip rest)).map fun rest => ([(k, v)], rest)

end

/-- `json.loads(s)` -/
def loads (s : Str) : Option Json := do
  let (j, rest) ← readValue (s.length + 1) (skip s)
  if skip rest = [] then some j else none

/-! ## Strings are read back -/

theorem hexDigitVal_hexDigit : ∀ n < 16, hexDigitVal (hexDigit n) = some n := by decide

theorem readBody_escape (n : ℕ) (c : CodePoint) (t : Str) :
    readBody (n + 1) (escape c ++ t) = (readBody n t).map fun (s, rest) => (c :: s, rest) := by
  have hval : ∀ d : CodePoint, c.val = d.val → c = d := fun d hc => Fin.ext hc
  have hshort : ∀ x : CodePoint, x.val ≠ 117 → x ∈ py "\"\\/bfnrt" →
      readBody (n + 1) (0x5c :: x :: t) =
        (readBody n t).map fun (s, rest) => (unescapeShort x :: s, rest) := by
    intro x hx hin
    have hread : readEscape (x :: t) = some (unescapeShort x, t) := by
      rw [readEscape, if_neg hx, if_pos hin]
    rw [readBody, if_neg (by decide), if_pos (by decide), hread]
    rfl
  unfold escape
  split; · obtain rfl := hval 0x22 ‹_›; exact hshort 0x22 (by decide) (by decide)
  split; · obtain rfl := hval 0x5c ‹_›; exact hshort 0x5c (by decide) (by decide)
  split; · obtain rfl := hval 8 ‹_›; exact hshort 98 (by decide) (by decide)
  split; · obtain rfl := hval 9 ‹_›; exact hshort 116 (by decide) (by decide)
  split; · obtain rfl := hval 10 ‹_›; exact hshort 110 (by decide) (by decide)
  split; · obtain rfl := hval 12 ‹_›; exact hshort 102 (by decide) (by decide)
  split; · obtain rfl := hval 13 ‹_›; exact hshort 114 (by decide) (by decide)
  split
  · rename_i hcontrol
    have hhex : readHex4 (48 :: 48 :: hexDigit (c.val / 16) :: hexDigit (c.val % 16) :: t) =
        some (c.val, t) := by
      have hzero : hexDigitVal 48 = some 0 := by decide
      simp only [readHex4, hzero, hexDigitVal_hexDigit _ (by omega : c.val / 16 < 16),
        hexDigitVal_hexDigit _ (by omega : c.val % 16 < 16), Option.bind_eq_bind, Option.bind_some]
      rw [show 0 * 4096 + 0 * 256 + c.val / 16 * 16 + c.val % 16 = c.val by omega]
    have hread : readEscape (117 :: 48 :: 48 :: hexDigit (c.val / 16) :: hexDigit (c.val % 16) ::
        t) = some (c, t) := by
      rw [readEscape, if_pos (by decide), readUnicode, hhex]
      simp only
      rw [if_neg (by omega), chr_val]
    change readBody (n + 1) (0x5c :: 117 :: 48 :: 48 :: hexDigit (c.val / 16) ::
      hexDigit (c.val % 16) :: t) = _
    rw [readBody, if_neg (by decide), if_pos (by decide), hread]
    rfl
  · rename_i hquote hslash _ _ _ _ _ hcontrol
    rw [List.singleton_append, readBody, if_neg hquote, if_neg hslash, if_neg hcontrol]

/-- **A quoted string is read back**, whatever is in it. -/
theorem readBody_quoted {s rest : Str} {n : ℕ} (h : s.length < n) :
    readBody n (s.flatMap escape ++ 0x22 :: rest) = some (s, rest) := by
  induction s generalizing n with
  | nil =>
    obtain ⟨m, rfl⟩ := Nat.exists_eq_succ_of_ne_zero (Nat.ne_of_gt h)
    rfl
  | cons c s ih =>
    obtain ⟨m, rfl⟩ := Nat.exists_eq_succ_of_ne_zero (Nat.ne_of_gt (Nat.zero_lt_of_lt h))
    rw [List.flatMap_cons, List.append_assoc, readBody_escape, ih (by simpa using h)]
    rfl

theorem length_le_escaped (s : Str) : s.length ≤ (s.flatMap escape).length := by
  have hpos : ∀ c, 1 ≤ (escape c).length := by
    intro c
    unfold escape
    repeat' split
    all_goals simp [py]
  induction s with
  | nil => exact Nat.le_refl _
  | cons c s ih =>
    have hc := hpos c
    rw [List.flatMap_cons, List.length_append, List.length_cons]
    omega

theorem charOf_ofChar (c : Char) : charOf (ofChar c) = some c := by
  have hvalid : (ofChar c).val.isValidChar := c.valid
  rw [charOf, dif_pos hvalid]
  exact congrArg some (Char.ext rfl)

theorem keyOf_py (k : String) : keyOf (py k) = some k := by
  have hchars : ∀ l : List Char, (l.map ofChar).mapM charOf = some l := by
    intro l
    induction l with
    | nil => rfl
    | cons c l ih => simp [charOf_ofChar, ih]
  rw [keyOf, py, hchars, Option.map_some, String.ofList_toList]

/-! ## Integers are read back -/

/-- What cannot continue a number. -/
def Stops (rest : Str) : Prop := ∀ c ∈ rest.head?, isDecimal c = false ∧ c ∉ py ".eE"

theorem digits_ne_zero_cons {n : ℕ} (h : 0 < n) (s : Str) :
    (Nat.digits 10 n).reverse.map digit ≠ digit 0 :: s := by
  intro heq
  have hne : Nat.digits 10 n ≠ [] := Nat.digits_ne_nil_iff_ne_zero.mpr h.ne'
  have hlast : (Nat.digits 10 n).getLast hne ≠ 0 := Nat.getLast_digit_ne_zero 10 h.ne'
  have hhead : digit ((Nat.digits 10 n).getLast hne) = digit 0 := by
    have hfirst := congrArg List.head? heq
    rw [List.head?_map, List.head?_reverse, List.getLast?_eq_some_getLast hne] at hfirst
    exact Option.some.inj hfirst
  have hlt : (Nat.digits 10 n).getLast hne < 10 :=
    Nat.digits_lt_base (by decide) (List.getLast_mem hne)
  have hval := congrArg Fin.val hhead
  rw [digit_val hlt, digit_val (by decide)] at hval
  omega

theorem isDecimal_digit {d : ℕ} (h : d < 10) : isDecimal (digit d) = true := by
  rw [isDecimal, digit_val h]
  simp only [Bool.and_eq_true, decide_eq_true_eq]
  omega

theorem isDecimal_digits (n : ℕ) :
    ∀ c ∈ (Nat.digits 10 n).reverse.map digit, isDecimal c = true := by
  intro c hc
  obtain ⟨d, hd, rfl⟩ := List.mem_map.mp hc
  exact isDecimal_digit (Nat.digits_lt_base (by decide) (List.mem_reverse.mp hd))

theorem readNat_digits {n : ℕ} {rest : Str} (hn : 0 < n) (h : Stops rest) :
    readNat ((Nat.digits 10 n).reverse.map digit ++ rest) = some (n, rest) := by
  have hall := isDecimal_digits n
  have hstop : rest.takeWhile isDecimal = [] ∧ rest.dropWhile isDecimal = rest := by
    cases rest with
    | nil => exact ⟨rfl, rfl⟩
    | cons c rest =>
      have hc := (h c rfl).1
      exact ⟨List.takeWhile_cons_of_neg (by rw [hc]; decide),
        List.dropWhile_cons_of_neg (by rw [hc]; decide)⟩
  have hvalue : Nat.ofDigits 10 (((Nat.digits 10 n).reverse.map digit).reverse.map (·.val - 48)) =
      n := by
    simp only [List.map_reverse, List.reverse_reverse, List.map_map]
    refine (congrArg (Nat.ofDigits 10) ?_).trans (Nat.ofDigits_digits 10 n)
    refine (List.map_congr_left fun d hd => ?_).trans (List.map_id _)
    rw [Function.comp, digit_val (Nat.digits_lt_base (by decide) hd), Nat.add_sub_cancel_left, id]
  cases hdigits : (Nat.digits 10 n).reverse.map digit with
  | nil =>
    rw [List.map_eq_nil_iff, List.reverse_eq_nil_iff, Nat.digits_eq_nil_iff_eq_zero] at hdigits
    omega
  | cons c ds =>
    have hfirst : c.val ≠ 48 := by
      intro hc
      rw [show c = digit 0 from Fin.ext hc] at hdigits
      exact digits_ne_zero_cons hn ds hdigits
    rw [hdigits] at hall hvalue
    rw [List.cons_append, readNat, if_neg hfirst, if_pos (hall c List.mem_cons_self),
      ← List.cons_append, List.takeWhile_append_of_pos hall, List.dropWhile_append_of_pos hall,
      hstop.1, hstop.2, List.append_nil, hvalue]

theorem readNat_zero (rest : Str) : readNat (digit 0 :: rest) = some (0, rest) := rfl

/-- **An integer is read back** before what cannot continue it. -/
theorem readInt_decimal (z : ℤ) {rest : Str} (h : Stops rest) :
    readInt (decimal z ++ rest) = some (z, rest) := by
  have hstop : (rest.head?.all fun c => decide (c ∉ py ".eE")) = true := by
    cases rest with
    | nil => rfl
    | cons c rest => exact decide_eq_true (h c rfl).2
  have hpositive : ∀ s : Str, ∀ n : ℕ, (∀ c ∈ s.head?, c.val ≠ 45) → s ≠ [] →
      readNat (s ++ rest) = some (n, rest) → readInt (s ++ rest) = some ((n : ℤ), rest) := by
    intro s n hminus hne hread
    cases s with
    | nil => exact absurd rfl hne
    | cons c s =>
      simp only [readInt, List.cons_append] at hread ⊢
      rw [if_neg (hminus c rfl), hread, Option.map_some, Option.filter_some, if_pos hstop]
  have hdigits : ∀ n : ℕ, 0 < n → (∀ c ∈ ((Nat.digits 10 n).reverse.map digit).head?,
      c.val ≠ 45) ∧ (Nat.digits 10 n).reverse.map digit ≠ [] := by
    intro n hn
    refine ⟨fun c hc hval => ?_, ?_⟩
    · have hdecimal := isDecimal_digits n c (List.mem_of_mem_head? hc)
      rw [isDecimal, hval] at hdecimal
      exact absurd hdecimal (by decide)
    · rw [Ne, List.map_eq_nil_iff, List.reverse_eq_nil_iff, Nat.digits_eq_nil_iff_eq_zero]
      exact hn.ne'
  cases z with
  | ofNat n =>
    cases n with
    | zero =>
      refine hpositive [digit 0] 0 (fun c hc => ?_) (List.cons_ne_nil _ _) (readNat_zero rest)
      cases hc
      decide
    | succ n =>
      obtain ⟨hminus, hne⟩ := hdigits (n + 1) (Nat.succ_pos n)
      exact hpositive _ (n + 1) hminus hne (readNat_digits (Nat.succ_pos n) h)
  | negSucc n =>
    have hread := readNat_digits (Nat.succ_pos n) h
    change readInt (45 :: ((Nat.digits 10 (n + 1)).reverse.map digit ++ rest)) = _
    simp only [readInt]
    rw [if_pos (by decide), hread, Option.map_some, Option.filter_some, if_pos hstop]
    rfl

/-! ## Documents are read back -/

mutual

/-- The fuel that reading takes. -/
def size : Json → ℕ
  | .str _ => 1
  | .int _ => 1
  | .arr xs => 1 + sizeItems xs
  | .obj kvs => 1 + sizeEntries kvs

def sizeItems : List Json → ℕ
  | [] => 0
  | x :: xs => 1 + size x + sizeItems xs

def sizeEntries : List (String × Json) → ℕ
  | [] => 0
  | (_, v) :: kvs => 1 + size v + sizeEntries kvs

end

theorem decimal_head (z : ℤ) : ∃ c s, decimal z = c :: s ∧ isNumeral c = true := by
  have hne : decimal z ≠ [] := by
    cases z with
    | ofNat n =>
      cases n with
      | zero => exact List.cons_ne_nil _ _
      | succ n =>
        change (Nat.digits 10 (n + 1)).reverse.map digit ≠ []
        rw [Ne, List.map_eq_nil_iff, List.reverse_eq_nil_iff, Nat.digits_eq_nil_iff_eq_zero]
        exact Nat.succ_ne_zero n
    | negSucc n => exact List.cons_ne_nil _ _
  obtain ⟨c, s, hz⟩ := List.exists_cons_of_ne_nil hne
  exact ⟨c, s, hz, decimal_isNumeral z c (by rw [hz]; exact List.mem_cons_self)⟩

theorem dumps_head (j : Json) : ∃ c s, dumps j = c :: s ∧ isBlank c = false ∧ c ≠ 0x5d ∧
    c ≠ 0x7d := by
  cases j with
  | str s => exact ⟨0x22, _, rfl, by decide, by decide, by decide⟩
  | int z =>
    obtain ⟨c, s, hz, hc⟩ := decimal_head z
    simp only [isNumeral, Bool.or_eq_true, beq_iff_eq, Bool.and_eq_true, decide_eq_true_eq] at hc
    refine ⟨c, s, hz, ?_, ?_, ?_⟩
    · simp only [isBlank, Bool.or_eq_false_iff, beq_eq_false_iff_ne]
      omega
    · rintro rfl
      revert hc
      decide
    · rintro rfl
      revert hc
      decide
  | arr xs => exact ⟨0x5b, _, rfl, by decide, by decide, by decide⟩
  | obj kvs => exact ⟨0x7b, _, rfl, by decide, by decide, by decide⟩

theorem skip_dumps (j : Json) (rest : Str) : skip (dumps j ++ rest) = dumps j ++ rest := by
  obtain ⟨c, s, hj, hblank, -⟩ := dumps_head j
  rw [hj, List.cons_append, skip, List.dropWhile_cons_of_neg (by rw [hblank]; decide)]

theorem skip_items {xs : List Json} (hne : xs ≠ []) (rest : Str) :
    skip (items xs ++ rest) = items xs ++ rest ∧ after 0x5d (items xs ++ rest) = none := by
  obtain ⟨x, xs, rfl⟩ := List.exists_cons_of_ne_nil hne
  obtain ⟨t, ht⟩ : ∃ t, items (x :: xs) ++ rest = dumps x ++ t := by
    cases xs with
    | nil => exact ⟨rest, rfl⟩
    | cons y ys => exact ⟨py "," ++ items (y :: ys) ++ rest, by simp [items]⟩
  obtain ⟨c, s, hx, -, hclose, -⟩ := dumps_head x
  refine ⟨by rw [ht, skip_dumps], ?_⟩
  rw [ht, hx, List.cons_append, after, if_neg hclose]

theorem skip_entries {kvs : List (String × Json)} (hne : kvs ≠ []) (rest : Str) :
    skip (entries kvs ++ rest) = entries kvs ++ rest ∧
      after 0x7d (entries kvs ++ rest) = none := by
  obtain ⟨⟨k, v⟩, kvs, rfl⟩ := List.exists_cons_of_ne_nil hne
  obtain ⟨t, ht⟩ : ∃ t, entries ((k, v) :: kvs) ++ rest = 0x22 :: t := by
    cases kvs with
    | nil => exact ⟨_, rfl⟩
    | cons kv kvs => exact ⟨_, rfl⟩
  rw [ht]
  exact ⟨rfl, rfl⟩

theorem readKey_quoted (k : String) (rest : Str) :
    readKey (quoted (py k) ++ 0x3a :: rest) = some (k, rest) := by
  have hbody : readBody (((py k).flatMap escape ++ 0x22 :: 0x3a :: rest).length + 1)
      ((py k).flatMap escape ++ 0x22 :: 0x3a :: rest) = some (py k, 0x3a :: rest) := by
    have hlength := length_le_escaped (py k)
    refine readBody_quoted ?_
    rw [List.length_append]
    omega
  have htext : quoted (py k) ++ 0x3a :: rest =
      0x22 :: ((py k).flatMap escape ++ 0x22 :: 0x3a :: rest) := by
    change (0x22 :: ((py k).flatMap escape ++ [0x22])) ++ 0x3a :: rest = _
    simp
  rw [htext, readKey]
  simp only [after, if_pos, Option.bind_eq_bind, Option.bind_some, hbody, keyOf_py]
  rfl

theorem stops_of_mem {c : CodePoint} {s : Str} (h : c ∈ py ",]\x7d") : Stops (c :: s) := by
  have hcases : c = 0x2c ∨ c = 0x5d ∨ c = 0x7d := by
    change c ∈ ([0x2c, 0x5d, 0x7d] : Str) at h
    simpa only [List.mem_cons, List.not_mem_nil, or_false] using h
  intro d hd
  cases hd
  rcases hcases with rfl | rfl | rfl
  · decide
  · decide
  · decide

mutual

/-- What is read of a value that is written. -/
theorem readValue_dumps : ∀ (j : Json) (n : ℕ) (rest : Str), size j ≤ n → Stops rest →
    readValue n (dumps j ++ rest) = some (j, rest)
  | j, 0, rest, h, _ => by cases j <;> simp [size] at h
  | .str s, n + 1, rest, _, _ => by
    have hbody : readBody ((s.flatMap escape ++ 0x22 :: rest).length + 1)
        (s.flatMap escape ++ 0x22 :: rest) = some (s, rest) := by
      have hlength := length_le_escaped s
      refine readBody_quoted ?_
      rw [List.length_append]
      omega
    have htext : dumps (.str s) ++ rest = 0x22 :: (s.flatMap escape ++ 0x22 :: rest) := by
      change (0x22 :: (s.flatMap escape ++ [0x22])) ++ rest = _
      simp
    rw [htext, readValue]
    simp only [after, if_pos, hbody, Option.map_some]
  | .int z, n + 1, rest, _, hstops => by
    obtain ⟨c, s, hz, hc⟩ := decimal_head z
    have hnone : ∀ d : CodePoint, isNumeral d = false →
        after d (dumps (.int z) ++ rest) = none := by
      intro d hd
      rw [dumps, hz, List.cons_append, after, if_neg (by rintro rfl; rw [hc] at hd; cases hd)]
    rw [readValue, hnone 0x22 (by decide), hnone 0x5b (by decide), hnone 0x7b (by decide)]
    simp only
    rw [dumps, readInt_decimal z hstops, Option.map_some]
  | .arr xs, n + 1, rest, h, _ => by
    have htext : dumps (.arr xs) ++ rest = 0x5b :: (items xs ++ 0x5d :: rest) := by
      change (0x5b :: (items xs ++ [0x5d])) ++ rest = _
      simp
    have hquote : after 0x22 (0x5b :: (items xs ++ 0x5d :: rest)) = none := rfl
    have hopen : after 0x5b (0x5b :: (items xs ++ 0x5d :: rest)) =
        some (items xs ++ 0x5d :: rest) := rfl
    rw [htext, readValue, hquote, hopen]
    simp only
    by_cases hne : xs = []
    · subst hne
      rfl
    · obtain ⟨hskip, hclose⟩ := skip_items hne (0x5d :: rest)
      rw [hskip, hclose]
      simp only
      rw [readItems_items xs n rest hne (by simp only [size] at h; omega), Option.map_some]
  | .obj kvs, n + 1, rest, h, _ => by
    have htext : dumps (.obj kvs) ++ rest = 0x7b :: (entries kvs ++ 0x7d :: rest) := by
      change (0x7b :: (entries kvs ++ [0x7d])) ++ rest = _
      simp
    have hquote : after 0x22 (0x7b :: (entries kvs ++ 0x7d :: rest)) = none := rfl
    have hbracket : after 0x5b (0x7b :: (entries kvs ++ 0x7d :: rest)) = none := rfl
    have hopen : after 0x7b (0x7b :: (entries kvs ++ 0x7d :: rest)) =
        some (entries kvs ++ 0x7d :: rest) := rfl
    rw [htext, readValue, hquote, hbracket, hopen]
    simp only
    by_cases hne : kvs = []
    · subst hne
      rfl
    · obtain ⟨hskip, hclose⟩ := skip_entries hne (0x7d :: rest)
      rw [hskip, hclose]
      simp only
      rw [readEntries_entries kvs n rest hne (by simp only [size] at h; omega), Option.map_some]

theorem readItems_items : ∀ (xs : List Json) (n : ℕ) (rest : Str), xs ≠ [] → sizeItems xs ≤ n →
    readItems n (items xs ++ 0x5d :: rest) = some (xs, rest)
  | [], _, _, hne, _ => absurd rfl hne
  | x :: xs, 0, _, _, h => by simp [sizeItems] at h
  | [x], n + 1, rest, _, h => by
    rw [items, readItems, readValue_dumps x n (0x5d :: rest)
      (by simp only [sizeItems] at h; omega) (stops_of_mem (by decide))]
    rfl
  | x :: y :: ys, n + 1, rest, _, h => by
    have htext : items (x :: y :: ys) ++ 0x5d :: rest =
        dumps x ++ 0x2c :: (items (y :: ys) ++ 0x5d :: rest) := by
      change dumps x ++ [0x2c] ++ items (y :: ys) ++ 0x5d :: rest = _
      simp
    have hrest := readItems_items (y :: ys) n rest (List.cons_ne_nil _ _)
      (by simp only [sizeItems] at h ⊢; omega)
    rw [htext, readItems, readValue_dumps x n _ (by simp only [sizeItems] at h; omega)
      (stops_of_mem (by decide)), Option.bind_some]
    change (readItems n (skip (items (y :: ys) ++ 0x5d :: rest))).map _ = _
    rw [(skip_items (List.cons_ne_nil _ _) _).1, hrest]
    rfl

theorem readEntries_entries : ∀ (kvs : List (String × Json)) (n : ℕ) (rest : Str), kvs ≠ [] →
    sizeEntries kvs ≤ n → readEntries n (entries kvs ++ 0x7d :: rest) = some (kvs, rest)
  | [], _, _, hne, _ => absurd rfl hne
  | _ :: _, 0, _, _, h => by simp [sizeEntries] at h
  | [(k, v)], n + 1, rest, _, h => by
    have htext : entries [(k, v)] ++ 0x7d :: rest =
        quoted (py k) ++ 0x3a :: (dumps v ++ 0x7d :: rest) := by
      change quoted (py k) ++ [0x3a] ++ dumps v ++ 0x7d :: rest = _
      simp
    rw [htext, readEntries, readKey_quoted, Option.bind_some]
    simp only
    rw [skip_dumps, readValue_dumps v n _ (by simp only [sizeEntries] at h; omega)
      (stops_of_mem (by decide))]
    rfl
  | (k, v) :: kv :: kvs, n + 1, rest, _, h => by
    have htext : entries ((k, v) :: kv :: kvs) ++ 0x7d :: rest =
        quoted (py k) ++ 0x3a :: (dumps v ++ 0x2c :: (entries (kv :: kvs) ++ 0x7d :: rest)) := by
      change quoted (py k) ++ [0x3a] ++ dumps v ++ [0x2c] ++ entries (kv :: kvs) ++ 0x7d :: rest = _
      simp
    have hrest := readEntries_entries (kv :: kvs) n rest (List.cons_ne_nil _ _)
      (by simp only [sizeEntries] at h ⊢; omega)
    rw [htext, readEntries, readKey_quoted, Option.bind_some]
    simp only
    rw [skip_dumps, readValue_dumps v n _ (by simp only [sizeEntries] at h; omega)
      (stops_of_mem (by decide)), Option.bind_some]
    change (readEntries n (skip (entries (kv :: kvs) ++ 0x7d :: rest))).map _ = _
    rw [(skip_entries (List.cons_ne_nil _ _) _).1, hrest]
    rfl

end

mutual

theorem size_le : ∀ j : Json, size j ≤ (dumps j).length
  | .str s => by
    rw [size, dumps, quoted]
    simp [py]
  | .int z => by
    obtain ⟨c, s, hz, -⟩ := decimal_head z
    rw [size, dumps, hz]
    exact Nat.succ_pos _
  | .arr xs => by
    have hitems := sizeItems_le xs
    have hlength : (dumps (.arr xs)).length = 1 + (items xs).length + 1 := by
      simp [dumps, py]
      omega
    rw [size, hlength]
    omega
  | .obj kvs => by
    have hentries := sizeEntries_le kvs
    have hlength : (dumps (.obj kvs)).length = 1 + (entries kvs).length + 1 := by
      simp [dumps, py]
      omega
    rw [size, hlength]
    omega

theorem sizeItems_le : ∀ xs : List Json, sizeItems xs ≤ (items xs).length + 1
  | [] => Nat.zero_le _
  | [x] => by
    have hx := size_le x
    simp only [sizeItems, items]
    omega
  | x :: y :: ys => by
    have hx := size_le x
    have hrest := sizeItems_le (y :: ys)
    have hlength : (items (x :: y :: ys)).length =
        (dumps x).length + 1 + (items (y :: ys)).length := by
      simp [items, py]
      omega
    rw [sizeItems, hlength]
    omega

theorem sizeEntries_le : ∀ kvs : List (String × Json), sizeEntries kvs ≤ (entries kvs).length + 1
  | [] => Nat.zero_le _
  | [(k, v)] => by
    have hv := size_le v
    have hlength : (entries [(k, v)]).length = (quoted (py k)).length + 1 + (dumps v).length := by
      simp [entries, py]
      omega
    simp only [sizeEntries]
    omega
  | (k, v) :: kv :: kvs => by
    have hv := size_le v
    have hrest := sizeEntries_le (kv :: kvs)
    have hlength : (entries ((k, v) :: kv :: kvs)).length = (quoted (py k)).length + 1 +
        (dumps v).length + 1 + (entries (kv :: kvs)).length := by
      simp [entries, py]
      omega
    rw [sizeEntries, hlength]
    omega

end

/-- **Reading undoes writing.** -/
theorem loads_dumps (j : Json) : loads (dumps j) = some j := by
  have hread := readValue_dumps j ((dumps j).length + 1) [] (Nat.le_succ_of_le (size_le j))
    (fun c hc => by cases hc)
  have hskip := skip_dumps j []
  rw [List.append_nil] at hread hskip
  rw [loads, hskip, hread]
  rfl

end HeyKevin.L1.Json
