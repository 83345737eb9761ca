import HeyKevin.Core.Entries
import HeyKevin.L1Encoding.JsonReader
/-!
# The `json` module

`json.dumps(value)` with its defaults, which writes ASCII, and `json.loads` of
a text, with all of the grammar. A number is kept as it is written; nesting is
read up to a depth, as the interpreter raises `RecursionError` beyond its own.

* `readBody_quotedAscii`: a string is read back with its surrogate pairs joined.
* `reads_obj`: an object is read back when its values are.
* `dumps_joined`: joining the pairs does not change what is written.
-/
namespace HeyKevin.L1.PyJson

open HeyKevin.Core L1.Text L1.Json

/-- What a JSON text says: the pairs of an object in order, repeated keys included. -/
inductive Doc
  | null
  | bool (b : Bool)
  | number (token : Str)
  | str (s : Str)
  | arr (xs : List Doc)
  | obj (kvs : List (Str × Doc))

/-! ## `json.dumps` -/

mutual

def dumps : Doc → Str
  | .null => py "null"
  | .bool b => py (if b then "true" else "false")
  | .number token => token
  | .str s => quotedAscii s
  | .arr xs => py "[" ++ dumpsItems xs ++ py "]"
  | .obj kvs => py "\x7b" ++ dumpsPairs kvs ++ py "\x7d"

def dumpsItems : List Doc → Str
  | [] => []
  | [x] => dumps x
  | x :: xs => dumps x ++ py ", " ++ dumpsItems xs

def dumpsPairs : List (Str × Doc) → Str
  | [] => []
  | [(k, v)] => quotedAscii k ++ py ": " ++ dumps v
  | (k, v) :: kvs => quotedAscii k ++ py ": " ++ dumps v ++ py ", " ++ dumpsPairs kvs

end

/-! ## `json.loads` -/

/-- The digits that a text starts with, and what follows them. -/
def readDigits (s : Str) : Option (Str × Str) :=
  if s.head?.any isDecimal then some (s.takeWhile isDecimal, s.dropWhile isDecimal) else none

def readInteger : Str → Option (Str × Str)
  | [] => none
  | c :: s => if c.val = 48 then some ([c], s) else readDigits (c :: s)

/-- `(\.\d+)?` -/
def readFraction (s : Str) : Str × Str :=
  match s with
  | [] => ([], [])
  | c :: rest =>
    if c.val = 0x2e then
      match readDigits rest with
      | some (digits, rest) => (c :: digits, rest)
      | none => ([], s)
    else ([], s)

/-- `([eE][-+]?\d+)?` -/
def readExponent (s : Str) : Str × Str :=
  match s with
  | [] => ([], [])
  | e :: rest =>
    if e ∈ py "eE" then
      let sign := rest.takeWhile (· ∈ py "+-")
      if 1 < sign.length then ([], s)
      else
        match readDigits (rest.drop sign.length) with
        | some (digits, rest) => (e :: sign ++ digits, rest)
        | none => ([], s)
    else ([], s)

/-- `(-?(?:0|[1-9]\d*))(\.\d+)?([eE][-+]?\d+)?` -/
def readNumber (s : Str) : Option (Str × Str) :=
  let sign := if s.head? = some 0x2d then s.take 1 else []
  (readInteger (s.drop sign.length)).map fun (digits, rest) =>
    let (fraction, rest) := readFraction rest
    let (exponent, rest) := readExponent rest
    (sign ++ digits ++ fraction ++ exponent, rest)

/-- The constants, of which the last three read as floats. -/
def constants : List (Str × Doc) :=
  [(py "null", .null), (py "true", .bool true), (py "false", .bool false),
    (py "NaN", .number (py "NaN")), (py "Infinity", .number (py "Infinity")),
    (py "-Infinity", .number (py "-Infinity"))]

def readScalar (s : Str) : Option (Doc × Str) :=
  match constants.find? fun (word, _) => word.isPrefixOf s with
  | some (word, doc) => some (doc, s.drop word.length)
  | none => (readNumber s).map fun (token, rest) => (.number token, rest)

/-- A key and its colon. -/
def readName (s : Str) : Option (Str × Str) := do
  let rest ← after 0x22 s
  let (name, rest) ← readBody (rest.length + 1) rest
  let rest ← after 0x3a (skip rest)
  some (name, rest)

mutual

def readValue : ℕ → ℕ → Str → Option (Doc × Str)
  | 0, _, _ => none
  | n + 1, depth, s =>
    match after 0x22 s, after 0x5b s, after 0x7b s with
    | some rest, _, _ => (readBody (rest.length + 1) rest).map fun (t, rest) => (.str t, rest)
    | none, some rest, _ =>
      match depth with
      | 0 => none
      | depth + 1 =>
        match after 0x5d (skip rest) with
        | some rest => some (.arr [], rest)
        | none => (readItems n depth (skip rest)).map fun (xs, rest) => (.arr xs, rest)
    | none, none, some rest =>
      match depth with
      | 0 => none
      | depth + 1 =>
        match after 0x7d (skip rest) with
        | some rest => some (.obj [], rest)
        | none => (readPairs n depth (skip rest)).map fun (kvs, rest) => (.obj kvs, rest)
    | none, none, none => readScalar s

/-- The items of a list up to its closing bracket. -/
def readItems : ℕ → ℕ → Str → Option (List Doc × Str)
  | 0, _, _ => none
  | n + 1, depth, s =>
    (readValue n depth s).bind fun (x, rest) =>
      match after 0x2c (skip rest) with
      | some rest => (readItems n depth (skip rest)).map fun (xs, rest) => (x :: xs, rest)
      | none => (after 0x5d (skip rest)).map fun rest => ([x], rest)

def readPairs : ℕ → ℕ → Str → Option (List (Str × Doc) × Str)
  | 0, _, _ => none
  | n + 1, depth, s =>
    (readName s).bind fun (k, rest) => (readValue n depth (skip rest)).bind fun (v, rest) =>
      match after 0x2c (skip rest) with
      | some rest => (readPairs n depth (skip rest)).map fun (kvs, rest) => ((k, v) :: kvs, rest)
      | none => (after 0x7d (skip rest)).map fun rest => ([(k, v)], rest)

end

/-- `json.loads(s)` of a text -/
def loads (depth : ℕ) (s : Str) : Option Doc := do
  let (doc, rest) ← readValue (s.length + 1) depth (skip s)
  if skip rest = [] then some doc else none

/-! ## Surrogate pairs -/

def isHigh (n : ℕ) : Bool := 0xd800 ≤ n && n < 0xdc00

def isLow (n : ℕ) : Bool := 0xdc00 ≤ n && n < 0xe000

def joinPair (high low : ℕ) : CodePoint := chr (0x10000 + (high - 0xd800) * 0x400 + (low - 0xdc00))

/-- What is read where `s` was written: a pair of surrogates reads as one character. -/
def joinPairs : Str → Str
  | [] => []
  | [c] => [c]
  | a :: b :: s =>
    if isHigh a.val && isLow b.val then joinPair a.val b.val :: joinPairs s
    else a :: joinPairs (b :: s)

mutual

def joined : Doc → Doc
  | .str s => .str (joinPairs s)
  | .arr xs => .arr (joinedItems xs)
  | .obj kvs => .obj (joinedPairs kvs)
  | doc => doc

def joinedItems : List Doc → List Doc
  | [] => []
  | x :: xs => joined x :: joinedItems xs

def joinedPairs : List (Str × Doc) → List (Str × Doc)
  | [] => []
  | (k, v) :: kvs => (joinPairs k, joined v) :: joinedPairs kvs

end

/-! ## Strings are read back -/

theorem readHex4_hex4 {v : ℕ} (h : v < 0x10000) (t : Str) :
    readHex4 (hex4 v ++ t) = some (v, t) := by
  change readHex4 (hexDigit (v / 4096 % 16) :: hexDigit (v / 256 % 16) ::
    hexDigit (v / 16 % 16) :: hexDigit (v % 16) :: t) = _
  simp only [readHex4, hexDigitVal_hexDigit _ (by omega : v / 4096 % 16 < 16),
    hexDigitVal_hexDigit _ (by omega : v / 256 % 16 < 16),
    hexDigitVal_hexDigit _ (by omega : v / 16 % 16 < 16),
    hexDigitVal_hexDigit _ (by omega : v % 16 < 16), Option.bind_eq_bind, Option.bind_some]
  rw [show v / 4096 % 16 * 4096 + v / 256 % 16 * 256 + v / 16 % 16 * 16 + v % 16 = v by omega]

theorem readBody_unicode (n : ℕ) (s : Str) :
    readBody (n + 1) (py "\\u" ++ s) = (readUnicode s).bind fun (d, rest) =>
      (readBody n rest).map fun (t, rest) => (d :: t, rest) := by
  change readBody (n + 1) (0x5c :: 117 :: s) = _
  have hread : readEscape (117 :: s) = readUnicode s := by
    rw [readEscape, if_pos (by decide)]
  rw [readBody, if_neg (by decide), if_pos (by decide), hread]

/-- No low surrogate is read behind `c`. -/
def Follows (c : ℕ) (t : Str) : Prop :=
  isHigh c = true → ∀ u, t = py "\\u" ++ u →
    ∃ low rest, readHex4 u = some (low, rest) ∧ isLow low = false

theorem readUnicode_single {v : ℕ} (hv : v < 0x10000) {t : Str} (h : Follows v t) :
    readUnicode (hex4 v ++ t) = some (chr v, t) := by
  rw [readUnicode, readHex4_hex4 hv]
  simp only
  split
  · rename_i hpair
    obtain ⟨hlow, hhigh, u, rfl⟩ := hpair
    obtain ⟨low, rest, hread, hno⟩ := h (by simp [isHigh, hlow, hhigh]) u rfl
    have hdrop : (py "\\u" ++ u).drop 2 = u := rfl
    rw [hdrop, hread]
    simp only
    refine if_neg fun hpair => ?_
    simp [isLow, hpair.1, hpair.2] at hno
  · rfl

theorem readUnicode_pair {high low : ℕ} (hhigh : isHigh high = true) (hlow : isLow low = true)
    (t : Str) : readUnicode (hex4 high ++ (py "\\u" ++ (hex4 low ++ t))) =
      some (joinPair high low, t) := by
  simp only [isHigh, isLow, Bool.and_eq_true, decide_eq_true_eq] at hhigh hlow
  rw [readUnicode, readHex4_hex4 (by omega)]
  simp only
  rw [if_pos ⟨hhigh.1, hhigh.2, List.prefix_append _ _⟩]
  have hdrop : (py "\\u" ++ (hex4 low ++ t)).drop 2 = hex4 low ++ t := rfl
  rw [hdrop, readHex4_hex4 (by omega)]
  simp only
  rw [if_pos hlow]
  rfl

theorem readBody_escapeAscii (n : ℕ) {c : CodePoint} {t : Str} (h : Follows c.val t) :
    readBody (n + 1) (escapeAscii c ++ t) =
      (readBody n t).map fun (s, rest) => (c :: s, rest) := by
  unfold escapeAscii
  split
  · exact readBody_escape n c t
  split
  · rw [List.append_assoc, readBody_unicode, readUnicode_single ‹_› h, Option.bind_some, chr_val]
  · have hlt := c.isLt
    have hhigh : isHigh (0xd800 + (c.val - 0x10000) / 0x400) = true := by
      simp only [isHigh, Bool.and_eq_true, decide_eq_true_eq]
      omega
    have hlow : isLow (0xdc00 + (c.val - 0x10000) % 0x400) = true := by
      simp only [isLow, Bool.and_eq_true, decide_eq_true_eq]
      omega
    rw [List.append_assoc, List.append_assoc, List.append_assoc, readBody_unicode,
      readUnicode_pair hhigh hlow, Option.bind_some]
    have hjoin : joinPair (0xd800 + (c.val - 0x10000) / 0x400)
        (0xdc00 + (c.val - 0x10000) % 0x400) = c := by
      rw [joinPair, show 0x10000 + (0xd800 + (c.val - 0x10000) / 0x400 - 0xd800) * 0x400 +
        (0xdc00 + (c.val - 0x10000) % 0x400 - 0xdc00) = c.val by omega, chr_val]
    rw [hjoin]

theorem readBody_pair (n : ℕ) {a b : CodePoint} (ha : isHigh a.val = true)
    (hb : isLow b.val = true) (t : Str) :
    readBody (n + 1) (escapeAscii a ++ (escapeAscii b ++ t)) =
      (readBody n t).map fun (s, rest) => (joinPair a.val b.val :: s, rest) := by
  have hhigh := ha
  have hlow := hb
  simp only [isHigh, isLow, Bool.and_eq_true, decide_eq_true_eq] at hhigh hlow
  have hunit : ∀ c : CodePoint, 0x7f ≤ c.val → c.val < 0x10000 →
      escapeAscii c = py "\\u" ++ hex4 c.val := by
    intro c hc hc'
    rw [escapeAscii, if_neg (by omega), if_pos hc']
  rw [hunit a (by omega) (by omega), hunit b (by omega) (by omega), List.append_assoc,
    List.append_assoc, readBody_unicode, readUnicode_pair ha hb, Option.bind_some]

theorem follows_quote (c : ℕ) (t : Str) : Follows c (0x22 :: t) := by
  intro _ u hu
  cases hu

theorem escape_unicode {b : CodePoint} {t u : Str} (h : escape b ++ t = py "\\u" ++ u) :
    b.val < 0x20 ∧ u = 48 :: 48 :: hexDigit (b.val / 16) :: hexDigit (b.val % 16) :: t := by
  have hu : escape b ++ t = 0x5c :: 117 :: u := h
  have hshort : ∀ x : CodePoint, x ≠ 117 → (0x5c :: x :: t : Str) = 0x5c :: 117 :: u → False :=
    fun x hx heq => hx (List.cons.inj (List.cons.inj heq).2).1
  unfold escape at hu
  split at hu; · exact (hshort 0x22 (by decide) hu).elim
  split at hu; · exact (hshort 0x5c (by decide) hu).elim
  split at hu; · exact (hshort 98 (by decide) hu).elim
  split at hu; · exact (hshort 116 (by decide) hu).elim
  split at hu; · exact (hshort 110 (by decide) hu).elim
  split at hu; · exact (hshort 102 (by decide) hu).elim
  split at hu; · exact (hshort 114 (by decide) hu).elim
  split at hu
  · exact ⟨‹_›, (List.cons.inj (List.cons.inj hu).2).2.symm⟩
  · rename_i hslash _ _ _ _ _ _
    exact absurd (congrArg Fin.val (List.cons.inj hu).1) hslash

theorem follows_escapeAscii {a b : CodePoint} (h : (isHigh a.val && isLow b.val) = false)
    (t : Str) : Follows a.val (escapeAscii b ++ t) := by
  intro ha u hu
  rw [ha, Bool.true_and] at h
  unfold escapeAscii at hu
  split at hu
  · obtain ⟨hcontrol, rfl⟩ := escape_unicode hu
    have hhex : hex4 b.val = [48, 48, hexDigit (b.val / 16), hexDigit (b.val % 16)] := by
      have hsmall : ∀ n < 32, hex4 n = [48, 48, hexDigit (n / 16), hexDigit (n % 16)] := by decide
      exact hsmall b.val hcontrol
    have hread := readHex4_hex4 (v := b.val) (by omega) t
    rw [hhex] at hread
    exact ⟨_, _, hread, h⟩
  split at hu
  · rw [List.append_assoc, List.append_cancel_left_eq] at hu
    subst hu
    exact ⟨_, _, readHex4_hex4 ‹_› t, h⟩
  · rw [List.append_assoc, List.append_assoc, List.append_assoc, List.append_cancel_left_eq] at hu
    subst hu
    have hlt := b.isLt
    refine ⟨_, _, readHex4_hex4 (by omega) _, ?_⟩
    simp only [isLow, Bool.and_eq_false_iff, decide_eq_false_iff_not]
    omega

/-- **A string is read back**, with its surrogate pairs joined. -/
theorem readBody_quotedAscii (s rest : Str) {n : ℕ} (h : s.length < n) :
    readBody n (s.flatMap escapeAscii ++ 0x22 :: rest) = some (joinPairs s, rest) := by
  induction s using joinPairs.induct generalizing n with
  | case1 =>
    obtain ⟨m, rfl⟩ := Nat.exists_eq_succ_of_ne_zero (Nat.ne_of_gt h)
    rfl
  | case2 c =>
    simp only [List.length_cons, List.length_nil] at h
    obtain ⟨m, rfl⟩ : ∃ m, n = m + 2 := ⟨n - 2, by omega⟩
    rw [List.flatMap_cons, List.flatMap_nil, List.append_nil,
      readBody_escapeAscii (m + 1) (follows_quote _ _)]
    rfl
  | case3 a b s hpair ih =>
    simp only [List.length_cons] at h
    obtain ⟨m, rfl⟩ : ∃ m, n = m + 1 := ⟨n - 1, by omega⟩
    have hboth := (Bool.and_eq_true _ _).mp hpair
    rw [List.flatMap_cons, List.flatMap_cons, List.append_assoc, List.append_assoc,
      readBody_pair m hboth.1 hboth.2, ih (by omega), joinPairs, if_pos hpair]
    rfl
  | case4 a b s hpair ih =>
    simp only [List.length_cons] at h
    obtain ⟨m, rfl⟩ : ∃ m, n = m + 1 := ⟨n - 1, by omega⟩
    rw [Bool.not_eq_true] at hpair
    have hfollows := follows_escapeAscii hpair (s.flatMap escapeAscii ++ 0x22 :: rest)
    rw [← List.append_assoc, ← List.flatMap_cons] at hfollows
    rw [List.flatMap_cons, List.append_assoc, readBody_escapeAscii m hfollows,
      ih (by simp only [List.length_cons]; omega), joinPairs, hpair]
    rfl

theorem length_le_escapedAscii (s : Str) : s.length ≤ (s.flatMap escapeAscii).length := by
  have hpos : ∀ c, 1 ≤ (escapeAscii c).length := by
    intro c
    unfold escapeAscii
    split
    · have hescape := length_le_escaped [c]
      rw [List.flatMap_singleton] at hescape
      exact hescape
    split
    all_goals simp [py, hex4]
  induction s with
  | nil => exact Nat.le_refl _
  | cons c s ih =>
    have hc := hpos c
    rw [List.flatMap_cons, List.length_append, List.length_cons]
    omega

theorem readBody_quoted_length (s rest : Str) :
    readBody ((s.flatMap escapeAscii ++ 0x22 :: rest).length + 1)
      (s.flatMap escapeAscii ++ 0x22 :: rest) = some (joinPairs s, rest) := by
  have hlength := length_le_escapedAscii s
  refine readBody_quotedAscii s rest ?_
  rw [List.length_append]
  omega

theorem quotedAscii_append (s rest : Str) :
    quotedAscii s ++ rest = 0x22 :: (s.flatMap escapeAscii ++ 0x22 :: rest) := by
  change (0x22 :: (s.flatMap escapeAscii ++ [0x22])) ++ rest = _
  simp

theorem readName_quotedAscii (k rest : Str) :
    readName (quotedAscii k ++ (py ": " ++ rest)) = some (joinPairs k, 0x20 :: rest) := by
  rw [quotedAscii_append, readName]
  simp only [after, if_pos, Option.bind_eq_bind, Option.bind_some, readBody_quoted_length]
  rfl

/-! ## Values are read back -/

/-- What is written for `doc` is read back with this much fuel, whatever follows it. -/
structure Reads (depth fuel : ℕ) (doc : Doc) : Prop where
  starts : ∃ c s, dumps doc = c :: s ∧ isBlank c = false
  reads : ∀ n, fuel ≤ n → ∀ rest, readValue n depth (dumps doc ++ rest) = some (joined doc, rest)

theorem reads_str (depth : ℕ) (s : Str) : Reads depth 1 (.str s) := by
  refine ⟨⟨0x22, _, rfl, by decide⟩, fun n hn rest => ?_⟩
  obtain ⟨n, rfl⟩ : ∃ m, n = m + 1 := ⟨n - 1, by omega⟩
  rw [dumps, quotedAscii_append, readValue]
  simp only [after, if_pos, readBody_quoted_length, Option.map_some]
  rfl

theorem reads_null (depth : ℕ) : Reads depth 1 .null := by
  refine ⟨⟨0x6e, py "ull", rfl, by decide⟩, fun n hn rest => ?_⟩
  obtain ⟨n, rfl⟩ : ∃ m, n = m + 1 := ⟨n - 1, by omega⟩
  rfl

theorem reads_true (depth : ℕ) : Reads depth 1 (.bool true) := by
  refine ⟨⟨0x74, py "rue", rfl, by decide⟩, fun n hn rest => ?_⟩
  obtain ⟨n, rfl⟩ : ∃ m, n = m + 1 := ⟨n - 1, by omega⟩
  rfl

theorem Reads.skip {depth fuel : ℕ} {doc : Doc} (h : Reads depth fuel doc) (rest : Str) :
    Json.skip (0x20 :: (dumps doc ++ rest)) = dumps doc ++ rest := by
  obtain ⟨c, s, hdoc, hblank⟩ := h.starts
  have hspace : Json.skip (0x20 :: (dumps doc ++ rest)) = Json.skip (dumps doc ++ rest) := rfl
  rw [hspace, hdoc, List.cons_append, Json.skip,
    List.dropWhile_cons_of_neg (by rw [hblank]; decide)]

theorem dumpsPairs_append {kvs : List (Str × Doc)} (hne : kvs ≠ []) (rest : Str) :
    ∃ s, dumpsPairs kvs ++ rest = 0x22 :: s := by
  obtain ⟨⟨k, v⟩, kvs, rfl⟩ := List.exists_cons_of_ne_nil hne
  cases kvs with
  | nil => exact ⟨_, rfl⟩
  | cons kv kvs => exact ⟨_, rfl⟩

theorem readPairs_dumpsPairs {depth fuel : ℕ} (rest : Str) :
    ∀ kvs : List (Str × Doc), kvs ≠ [] → (∀ kv ∈ kvs, Reads depth fuel kv.2) →
      ∀ n, fuel + kvs.length ≤ n →
        readPairs n depth (dumpsPairs kvs ++ 0x7d :: rest) = some (joinedPairs kvs, rest)
  | [], hne, _, _, _ => absurd rfl hne
  | [(k, v)], _, h, n, hn => by
    have hv := h (k, v) List.mem_cons_self
    simp only [List.length_cons, List.length_nil] at hn
    obtain ⟨n, rfl⟩ : ∃ m, n = m + 1 := ⟨n - 1, by omega⟩
    rw [dumpsPairs, List.append_assoc, List.append_assoc, readPairs, readName_quotedAscii,
      Option.bind_some]
    simp only
    rw [hv.skip, hv.reads n (by omega), Option.bind_some]
    rfl
  | (k, v) :: kv :: kvs, _, h, n, hn => by
    have hv := h (k, v) List.mem_cons_self
    simp only [List.length_cons] at hn
    obtain ⟨n, rfl⟩ : ∃ m, n = m + 1 := ⟨n - 1, by omega⟩
    have hrest := readPairs_dumpsPairs rest (kv :: kvs) (List.cons_ne_nil _ _)
      (fun kv hkv => h kv (List.mem_cons_of_mem _ hkv)) n (by simp only [List.length_cons]; omega)
    obtain ⟨s, hs⟩ := dumpsPairs_append (List.cons_ne_nil kv kvs) (0x7d :: rest)
    rw [dumpsPairs, List.append_assoc, List.append_assoc, List.append_assoc, List.append_assoc,
      readPairs, readName_quotedAscii, Option.bind_some]
    · simp only
      rw [hv.skip, hv.reads n (by omega), Option.bind_some]
      rw [hs] at hrest ⊢
      change (readPairs n depth (0x22 :: s)).map _ = _
      rw [hrest]
      rfl
    · exact List.cons_ne_nil _ _

/-- **An object is read back** when its values are. -/
theorem reads_obj {depth fuel : ℕ} {kvs : List (Str × Doc)}
    (h : ∀ kv ∈ kvs, Reads depth fuel kv.2) :
    Reads (depth + 1) (fuel + kvs.length + 1) (.obj kvs) := by
  refine ⟨⟨0x7b, _, rfl, by decide⟩, fun n hn rest => ?_⟩
  obtain ⟨n, rfl⟩ : ∃ m, n = m + 1 := ⟨n - 1, by omega⟩
  have htext : dumps (.obj kvs) ++ rest = 0x7b :: (dumpsPairs kvs ++ 0x7d :: rest) := by
    change (0x7b :: (dumpsPairs kvs ++ [0x7d])) ++ rest = _
    simp
  have hquote : after 0x22 (0x7b :: (dumpsPairs kvs ++ 0x7d :: rest)) = none := rfl
  have hbracket : after 0x5b (0x7b :: (dumpsPairs kvs ++ 0x7d :: rest)) = none := rfl
  have hopen : after 0x7b (0x7b :: (dumpsPairs kvs ++ 0x7d :: rest)) =
      some (dumpsPairs kvs ++ 0x7d :: rest) := rfl
  rw [htext, readValue, hquote, hbracket, hopen]
  simp only
  by_cases hne : kvs = []
  · subst hne
    rfl
  · obtain ⟨s, hs⟩ := dumpsPairs_append hne (0x7d :: rest)
    have hskip : Json.skip (dumpsPairs kvs ++ 0x7d :: rest) = dumpsPairs kvs ++ 0x7d :: rest := by
      rw [hs]
      rfl
    have hclose : after 0x7d (dumpsPairs kvs ++ 0x7d :: rest) = none := by
      rw [hs]
      rfl
    rw [hskip, hclose]
    simp only
    rw [readPairs_dumpsPairs rest kvs hne h n (by omega), Option.map_some]
    rfl

/-- **A document is read back** that the fuel of `loads` suffices for. -/
theorem loads_dumps {depth fuel : ℕ} {doc : Doc} (h : Reads depth fuel doc)
    (hfuel : fuel ≤ (dumps doc).length + 1) : loads depth (dumps doc) = some (joined doc) := by
  obtain ⟨c, s, hdoc, hblank⟩ := h.starts
  have hskip : Json.skip (dumps doc) = dumps doc := by
    rw [hdoc, Json.skip, List.dropWhile_cons_of_neg (by rw [hblank]; decide)]
  have hread := h.reads _ hfuel []
  rw [List.append_nil] at hread
  rw [loads, hskip, hread]
  rfl

theorem Reads.mono {depth fuel more : ℕ} {doc : Doc} (h : Reads depth fuel doc)
    (hmore : fuel ≤ more) : Reads depth more doc :=
  ⟨h.starts, fun n hn rest => h.reads n (hmore.trans hn) rest⟩

theorem length_le_dumpsPairs : ∀ kvs : List (Str × Doc), kvs.length ≤ (dumpsPairs kvs).length
  | [] => Nat.le_refl 0
  | [(k, v)] => by
    simp only [dumpsPairs, List.length_append, List.length_cons, List.length_nil]
    have hpy : (py ": ").length = 2 := rfl
    omega
  | (k, v) :: kv :: kvs => by
    have hrest := length_le_dumpsPairs (kv :: kvs)
    have hpy : (py ": ").length = 2 := rfl
    simp only [dumpsPairs, List.length_append, List.length_cons] at hrest ⊢
    omega

/-! ## What is written is ASCII -/

/-- ASCII without NUL. -/
def Ascii (s : Str) : Prop := ∀ c ∈ s, 0 < c.val ∧ c.val < 128

theorem ascii_append {s t : Str} (hs : Ascii s) (ht : Ascii t) : Ascii (s ++ t) :=
  List.forall_mem_append.mpr ⟨hs, ht⟩

theorem ascii_py {s : String} (h : ((py s).all fun c => 0 < c.val && c.val < 128) = true) :
    Ascii (py s) := by
  intro c hc
  simpa only [Bool.and_eq_true, decide_eq_true_eq] using List.all_eq_true.mp h c hc

theorem ascii_hexDigit : ∀ n < 16, 0 < (hexDigit n).val ∧ (hexDigit n).val < 128 := by decide

theorem ascii_hex4 (n : ℕ) : Ascii (hex4 n) := by
  intro c hc
  simp only [hex4, List.mem_cons, List.not_mem_nil, or_false] at hc
  rcases hc with rfl | rfl | rfl | rfl <;> exact ascii_hexDigit _ (Nat.mod_lt _ (by decide))

theorem ascii_escapeAscii (c : CodePoint) : Ascii (escapeAscii c) := by
  have hunit : Ascii (py "\\u") := ascii_py (by decide)
  unfold escapeAscii
  split
  · rename_i hlt
    have hall : ∀ n : Fin 0x7f, ((escape (chr n.val)).all fun c => 0 < c.val && c.val < 128) = true := by
      decide
    have hc := hall ⟨c.val, hlt⟩
    rw [chr_val] at hc
    intro d hd
    simpa only [Bool.and_eq_true, decide_eq_true_eq] using List.all_eq_true.mp hc d hd
  split
  · exact ascii_append hunit (ascii_hex4 _)
  · exact ascii_append (ascii_append (ascii_append hunit (ascii_hex4 _)) hunit) (ascii_hex4 _)

theorem ascii_quotedAscii (s : Str) : Ascii (quotedAscii s) := by
  refine ascii_append (ascii_append (ascii_py (by decide)) ?_) (ascii_py (by decide))
  intro c hc
  obtain ⟨d, -, hd⟩ := List.mem_flatMap.mp hc
  exact ascii_escapeAscii d c hd

theorem ascii_dumpsPairs : ∀ kvs : List (Str × Doc), (∀ kv ∈ kvs, Ascii (dumps kv.2)) →
    Ascii (dumpsPairs kvs)
  | [], _ => fun c hc => by cases hc
  | [(k, v)], h =>
    ascii_append (ascii_append (ascii_quotedAscii k) (ascii_py (by decide)))
      (h (k, v) List.mem_cons_self)
  | (k, v) :: kv :: kvs, h =>
    ascii_append (ascii_append (ascii_append (ascii_append (ascii_quotedAscii k)
      (ascii_py (by decide))) (h (k, v) List.mem_cons_self)) (ascii_py (by decide)))
      (ascii_dumpsPairs (kv :: kvs) fun kv hkv => h kv (List.mem_cons_of_mem _ hkv))

theorem ascii_obj {kvs : List (Str × Doc)} (h : ∀ kv ∈ kvs, Ascii (dumps kv.2)) :
    Ascii (dumps (.obj kvs)) :=
  ascii_append (ascii_append (ascii_py (by decide)) (ascii_dumpsPairs kvs h)) (ascii_py (by decide))

/-! ## What joining changes -/

theorem joinPair_val {a b : ℕ} (ha : isHigh a = true) (hb : isLow b = true) :
    (joinPair a b).val = 0x10000 + (a - 0xd800) * 0x400 + (b - 0xdc00) := by
  simp only [isHigh, isLow, Bool.and_eq_true, decide_eq_true_eq] at ha hb
  rw [joinPair, chr, Fin.val_ofNat]
  exact Nat.mod_eq_of_lt (by omega)

theorem escapeAscii_joinPair {a b : CodePoint} (ha : isHigh a.val = true)
    (hb : isLow b.val = true) :
    escapeAscii (joinPair a.val b.val) = escapeAscii a ++ escapeAscii b := by
  have hval := joinPair_val ha hb
  simp only [isHigh, isLow, Bool.and_eq_true, decide_eq_true_eq] at ha hb
  have hunit : ∀ c : CodePoint, 0x7f ≤ c.val → c.val < 0x10000 →
      escapeAscii c = py "\\u" ++ hex4 c.val := by
    intro c hc hc'
    rw [escapeAscii, if_neg (by omega), if_pos hc']
  rw [hunit a (by omega) (by omega), hunit b (by omega) (by omega), escapeAscii,
    if_neg (by omega), if_neg (by omega), hval]
  rw [show 0xd800 + (0x10000 + (a.val - 0xd800) * 0x400 + (b.val - 0xdc00) - 0x10000) / 0x400 =
      a.val by omega,
    show 0xdc00 + (0x10000 + (a.val - 0xd800) * 0x400 + (b.val - 0xdc00) - 0x10000) % 0x400 =
      b.val by omega, List.append_assoc, List.append_assoc]

theorem flatMap_joinPairs (s : Str) : (joinPairs s).flatMap escapeAscii = s.flatMap escapeAscii := by
  induction s using joinPairs.induct with
  | case1 => rfl
  | case2 c => rfl
  | case3 a b s hpair ih =>
    have hboth := (Bool.and_eq_true _ _).mp hpair
    rw [joinPairs, if_pos hpair, List.flatMap_cons, ih, escapeAscii_joinPair hboth.1 hboth.2,
      List.flatMap_cons, List.flatMap_cons, List.append_assoc]
  | case4 a b s hpair ih =>
    rw [joinPairs, if_neg hpair, List.flatMap_cons, ih, ← List.flatMap_cons]

theorem quotedAscii_joinPairs (s : Str) : quotedAscii (joinPairs s) = quotedAscii s := by
  rw [quotedAscii, flatMap_joinPairs, quotedAscii]

theorem dumpsItems_cons (x : Doc) {xs : List Doc} (hne : xs ≠ []) :
    dumpsItems (x :: xs) = dumps x ++ py ", " ++ dumpsItems xs := by
  obtain ⟨y, ys, rfl⟩ := List.exists_cons_of_ne_nil hne
  rfl

theorem dumpsPairs_cons (k : Str) (v : Doc) {kvs : List (Str × Doc)} (hne : kvs ≠ []) :
    dumpsPairs ((k, v) :: kvs) =
      quotedAscii k ++ py ": " ++ dumps v ++ py ", " ++ dumpsPairs kvs := by
  obtain ⟨kv, kvs, rfl⟩ := List.exists_cons_of_ne_nil hne
  rfl

mutual

/-- **Joining the pairs does not change what is written.** -/
theorem dumps_joined : ∀ doc : Doc, dumps (joined doc) = dumps doc
  | .null => rfl
  | .bool _ => rfl
  | .number _ => rfl
  | .str s => by rw [joined, dumps, dumps, quotedAscii_joinPairs]
  | .arr xs => by rw [joined, dumps, dumps, dumpsItems_joined xs]
  | .obj kvs => by rw [joined, dumps, dumps, dumpsPairs_joined kvs]

theorem dumpsItems_joined : ∀ xs : List Doc, dumpsItems (joinedItems xs) = dumpsItems xs
  | [] => rfl
  | [x] => dumps_joined x
  | x :: y :: ys => by
    have hrest : dumpsItems (joinedItems (y :: ys)) = dumpsItems (y :: ys) :=
      dumpsItems_joined (y :: ys)
    rw [joinedItems, dumpsItems_cons x (List.cons_ne_nil y ys), ← dumps_joined x, ← hrest]
    exact dumpsItems_cons _ (List.cons_ne_nil _ _)

theorem dumpsPairs_joined : ∀ kvs : List (Str × Doc),
    dumpsPairs (joinedPairs kvs) = dumpsPairs kvs
  | [] => rfl
  | [(k, v)] => by
    rw [joinedPairs, joinedPairs, dumpsPairs, dumpsPairs, quotedAscii_joinPairs, dumps_joined v]
  | (k, v) :: (k', v') :: kvs => by
    have hrest : dumpsPairs (joinedPairs ((k', v') :: kvs)) = dumpsPairs ((k', v') :: kvs) :=
      dumpsPairs_joined ((k', v') :: kvs)
    rw [joinedPairs, dumpsPairs_cons k v (List.cons_ne_nil _ kvs), ← dumps_joined v, ← hrest,
      ← quotedAscii_joinPairs k]
    exact dumpsPairs_cons _ _ (List.cons_ne_nil _ _)

end

/-- A high surrogate stands right before a low one. -/
def hasPair : Str → Bool
  | a :: b :: s => (isHigh a.val && isLow b.val) || hasPair (b :: s)
  | _ => false

theorem joinPairs_length (s : Str) : (joinPairs s).length ≤ s.length ∧
    (hasPair s = true → (joinPairs s).length < s.length) := by
  induction s using joinPairs.induct with
  | case1 => exact ⟨Nat.le_refl _, fun h => by cases h⟩
  | case2 c => exact ⟨Nat.le_refl _, fun h => by cases h⟩
  | case3 a b s hpair ih =>
    rw [joinPairs, if_pos hpair]
    simp only [List.length_cons]
    omega
  | case4 a b s hpair ih =>
    rw [Bool.not_eq_true] at hpair
    rw [joinPairs, hpair, hasPair, hpair]
    simp only [Bool.false_eq_true, if_false, Bool.false_or, List.length_cons] at ih ⊢
    exact ⟨by omega, fun h => Nat.succ_lt_succ (ih.2 h)⟩

theorem joinPairs_eq_self_iff (s : Str) : joinPairs s = s ↔ hasPair s = false := by
  constructor
  · intro h
    have hlength := (joinPairs_length s).2
    rw [h] at hlength
    cases hpair : hasPair s with
    | false => rfl
    | true => exact absurd (hlength hpair) (Nat.lt_irrefl _)
  · intro h
    induction s using joinPairs.induct with
    | case1 => rfl
    | case2 c => rfl
    | case3 a b s hpair ih =>
      rw [hasPair, hpair] at h
      cases h
    | case4 a b s hpair ih =>
      rw [hasPair, Bool.or_eq_false_iff] at h
      rw [joinPairs, if_neg hpair, ih h.2]

/-- A property of the characters above `0xffff` holds of what is read when it held of what was
written. -/
theorem forall_joinPairs {p : CodePoint → Prop} (hp : ∀ c : CodePoint, 0x10000 ≤ c.val → p c)
    {s : Str} (h : ∀ c ∈ s, p c) : ∀ c ∈ joinPairs s, p c := by
  induction s using joinPairs.induct with
  | case1 => exact h
  | case2 c => exact h
  | case3 a b s hpair ih =>
    have hboth := (Bool.and_eq_true _ _).mp hpair
    rw [joinPairs, if_pos hpair, List.forall_mem_cons]
    refine ⟨hp _ ?_, ih fun c hc => h c (List.mem_cons_of_mem _ (List.mem_cons_of_mem _ hc))⟩
    rw [joinPair_val hboth.1 hboth.2]
    omega
  | case4 a b s hpair ih =>
    rw [List.forall_mem_cons] at h
    rw [joinPairs, if_neg hpair, List.forall_mem_cons]
    exact ⟨h.1, ih h.2⟩

theorem joinPairs_ne_nil {s : Str} (h : s ≠ []) : joinPairs s ≠ [] := by
  induction s using joinPairs.induct with
  | case1 => exact h
  | case2 c => exact h
  | case3 a b s hpair ih =>
    rw [joinPairs, if_pos hpair]
    exact List.cons_ne_nil _ _
  | case4 a b s hpair ih =>
    rw [joinPairs, if_neg hpair]
    exact List.cons_ne_nil _ _

end HeyKevin.L1.PyJson
