import HeyKevin.L1Encoding.Text
/-!
# Canonical JSON

`json.dumps(value, ensure_ascii=False, separators=(",", ":"), sort_keys=True)`
of the values the program hashes: strings, integers, lists and objects.
Objects are written here with their keys in sorted order.

* `encodable_dumps`: the text encodes as UTF-8 exactly when every string in it
  does, so hashing a value raises exactly on a lone surrogate.
* `printable_dumps`: the text has no character below the space.
* `quoted_append_inj`: a quoted string determines the string and what follows.
-/
namespace HeyKevin.L1

open L1.Text

inductive Json
  | str (s : Str)
  | int (z : ℤ)
  | arr (xs : List Json)
  | obj (kvs : List (String × Json))

namespace Json

/-- One character of a JSON string: the two-character escapes, `\u00xx` for the
other control characters, anything else as it is. -/
def escape (c : CodePoint) : Str :=
  if c.val = 0x22 then py "\\\""
  else if c.val = 0x5c then py "\\\\"
  else if c.val = 8 then py "\\b"
  else if c.val = 9 then py "\\t"
  else if c.val = 10 then py "\\n"
  else if c.val = 12 then py "\\f"
  else if c.val = 13 then py "\\r"
  else if c.val < 0x20 then py "\\u00" ++ [hexDigit (c.val / 16), hexDigit (c.val % 16)]
  else [c]

def quoted (s : Str) : Str := py "\"" ++ s.flatMap escape ++ py "\""

mutual

def dumps : Json → Str
  | .str s => quoted s
  | .int z => decimal z
  | .arr xs => py "[" ++ items xs ++ py "]"
  | .obj kvs => py "\x7b" ++ entries kvs ++ py "\x7d"

def items : List Json → Str
  | [] => []
  | [x] => dumps x
  | x :: xs => dumps x ++ py "," ++ items xs

def entries : List (String × Json) → Str
  | [] => []
  | [(k, v)] => quoted (py k) ++ py ":" ++ dumps v
  | (k, v) :: kvs => quoted (py k) ++ py ":" ++ dumps v ++ py "," ++ entries kvs

end

/-! ## `ensure_ascii` -/

def hex4 (n : ℕ) : Str :=
  [hexDigit (n / 4096 % 16), hexDigit (n / 256 % 16), hexDigit (n / 16 % 16), hexDigit (n % 16)]

/-- A character of a JSON string under `ensure_ascii`. -/
def escapeAscii (c : CodePoint) : Str :=
  if c.val < 0x7f then Json.escape c
  else if c.val < 0x10000 then py "\\u" ++ hex4 c.val
  else py "\\u" ++ hex4 (0xd800 + (c.val - 0x10000) / 0x400) ++
    py "\\u" ++ hex4 (0xdc00 + (c.val - 0x10000) % 0x400)

def quotedAscii (s : Str) : Str := py "\"" ++ s.flatMap escapeAscii ++ py "\""

/-! ## What encodes -/

mutual

/-- The strings in a value; keys are literals of the source. -/
def strings : Json → List Str
  | .str s => [s]
  | .int _ => []
  | .arr xs => stringsItems xs
  | .obj kvs => stringsEntries kvs

def stringsItems : List Json → List Str
  | [] => []
  | x :: xs => strings x ++ stringsItems xs

def stringsEntries : List (String × Json) → List Str
  | [] => []
  | (k, v) :: kvs => py k :: strings v ++ stringsEntries kvs

end

theorem isSurrogate_hexDigit : ∀ n < 16, isSurrogate (hexDigit n) = false := by decide

theorem encodable_escape (c : CodePoint) : Encodable (escape c) ↔ isSurrogate c = false := by
  have hlit : ∀ s : String, c.val < 0xd800 → (Encodable (py s) ↔ isSurrogate c = false) :=
    fun s h => iff_of_true (encodable_py s) (isSurrogate_of_lt h)
  unfold escape
  split; · exact hlit _ (by omega)
  split; · exact hlit _ (by omega)
  split; · exact hlit _ (by omega)
  split; · exact hlit _ (by omega)
  split; · exact hlit _ (by omega)
  split; · exact hlit _ (by omega)
  split; · exact hlit _ (by omega)
  split
  · refine iff_of_true ?_ (isSurrogate_of_lt (by omega))
    rw [encodable_append, encodable_cons, encodable_cons]
    exact ⟨encodable_py _, isSurrogate_hexDigit _ (by omega), isSurrogate_hexDigit _ (by omega),
      encodable_nil⟩
  · simp

theorem encodable_quoted (s : Str) : Encodable (quoted s) ↔ Encodable s := by
  have : Encodable (s.flatMap escape) ↔ Encodable s := by
    induction s with
    | nil => simp
    | cons c s ih => rw [List.flatMap_cons, encodable_append, encodable_escape, ih, encodable_cons]
  simp only [quoted, encodable_append, encodable_py, this, true_and, and_true]

theorem encodable_decimal (z : ℤ) : Encodable (decimal z) := by
  intro c hc
  have := decimal_isNumeral z c hc
  simp only [isNumeral, Bool.or_eq_true, Bool.and_eq_true, beq_iff_eq, decide_eq_true_eq] at this
  exact isSurrogate_of_lt (by omega)

mutual

theorem encodable_dumps : ∀ j : Json, Encodable (dumps j) ↔ ∀ s ∈ strings j, Encodable s
  | .str s => by simp [dumps, strings, encodable_quoted]
  | .int z => by simp [dumps, strings, encodable_decimal]
  | .arr xs => by
    simp only [dumps, strings, encodable_append, encodable_py, encodable_items xs, true_and,
      and_true]
  | .obj kvs => by
    simp only [dumps, strings, encodable_append, encodable_py, encodable_entries kvs, true_and,
      and_true]

theorem encodable_items :
    ∀ xs : List Json, Encodable (items xs) ↔ ∀ s ∈ stringsItems xs, Encodable s
  | [] => by simp [items, stringsItems]
  | [x] => by simp [items, stringsItems, encodable_dumps x]
  | x :: y :: xs => by
    rw [items, stringsItems, encodable_append, encodable_append, encodable_dumps x,
      encodable_items (y :: xs), List.forall_mem_append]
    · simp only [encodable_py, and_true]
    · simp

theorem encodable_entries :
    ∀ kvs : List (String × Json), Encodable (entries kvs) ↔ ∀ s ∈ stringsEntries kvs, Encodable s
  | [] => by simp [entries, stringsEntries]
  | [(k, v)] => by
    simp [entries, stringsEntries, encodable_quoted, encodable_py, encodable_dumps v]
  | (k, v) :: kv :: kvs => by
    rw [entries, stringsEntries, List.cons_append, List.forall_mem_cons, List.forall_mem_append,
      encodable_append, encodable_append, encodable_append, encodable_append, encodable_quoted,
      encodable_dumps v, encodable_entries (kv :: kvs)]
    · simp only [encodable_py, and_true, true_and]
    · simp

end

/-! ## What is printed -/

/-- No character of the text is below the space. -/
def Printable (s : Str) : Prop := ∀ c ∈ s, 0x20 ≤ c.val

theorem printable_append {s t : Str} : Printable (s ++ t) ↔ Printable s ∧ Printable t :=
  List.forall_mem_append

theorem printable_py {s : String} (h : (s.toList.all fun c => decide (0x20 ≤ c.toNat)) = true) :
    Printable (py s) := by
  intro c hc
  obtain ⟨d, hd, rfl⟩ := List.mem_map.mp hc
  exact of_decide_eq_true (List.all_eq_true.mp h d hd)

theorem printable_escape (c : CodePoint) : Printable (escape c) := by
  have hdigit : ∀ n < 32, 0x20 ≤ (hexDigit (n / 16)).val ∧ 0x20 ≤ (hexDigit (n % 16)).val := by
    decide
  unfold escape
  split; · exact printable_py (by decide)
  split; · exact printable_py (by decide)
  split; · exact printable_py (by decide)
  split; · exact printable_py (by decide)
  split; · exact printable_py (by decide)
  split; · exact printable_py (by decide)
  split; · exact printable_py (by decide)
  split
  · rename_i hcontrol
    obtain ⟨hhigh, hlow⟩ := hdigit c.val (by omega)
    refine printable_append.mpr ⟨printable_py (by decide), ?_⟩
    simpa [Printable] using And.intro hhigh hlow
  · rename_i hcontrol
    simpa [Printable] using hcontrol

theorem printable_quoted (s : Str) : Printable (quoted s) := by
  have hbody : Printable (s.flatMap escape) := by
    intro c hc
    obtain ⟨d, -, hd⟩ := List.mem_flatMap.mp hc
    exact printable_escape d c hd
  exact printable_append.mpr ⟨printable_append.mpr ⟨printable_py (by decide), hbody⟩,
    printable_py (by decide)⟩

theorem printable_decimal (z : ℤ) : Printable (decimal z) := by
  intro c hc
  have hnumeral := decimal_isNumeral z c hc
  simp only [isNumeral, Bool.or_eq_true, Bool.and_eq_true, beq_iff_eq,
    decide_eq_true_eq] at hnumeral
  omega

mutual

/-- **No control characters** are in the text of a value. -/
theorem printable_dumps : ∀ j : Json, Printable (dumps j)
  | .str s => printable_quoted s
  | .int z => printable_decimal z
  | .arr xs => printable_append.mpr ⟨printable_append.mpr
      ⟨printable_py (by decide), printable_items xs⟩, printable_py (by decide)⟩
  | .obj kvs => printable_append.mpr ⟨printable_append.mpr
      ⟨printable_py (by decide), printable_entries kvs⟩, printable_py (by decide)⟩

theorem printable_items : ∀ xs : List Json, Printable (items xs)
  | [] => List.forall_mem_nil _
  | [x] => printable_dumps x
  | x :: y :: xs => by
    have hx := printable_dumps x
    have hrest := printable_items (y :: xs)
    rw [items]
    · exact printable_append.mpr ⟨printable_append.mpr ⟨hx, printable_py (by decide)⟩, hrest⟩
    · simp

theorem printable_entries : ∀ kvs : List (String × Json), Printable (entries kvs)
  | [] => List.forall_mem_nil _
  | [(k, v)] => printable_append.mpr ⟨printable_append.mpr
      ⟨printable_quoted (py k), printable_py (by decide)⟩, printable_dumps v⟩
  | (k, v) :: kv :: kvs => by
    have hv := printable_dumps v
    have hrest := printable_entries (kv :: kvs)
    rw [entries]
    · exact printable_append.mpr ⟨printable_append.mpr ⟨printable_append.mpr ⟨printable_append.mpr
        ⟨printable_quoted (py k), printable_py (by decide)⟩, hv⟩, printable_py (by decide)⟩, hrest⟩
    · simp

end

/-! ## Reading a string back -/

def hexVal (c : CodePoint) : ℕ := if c.val < 58 then c.val - 48 else c.val - 87

/-- The character that a two-character escape stands for. -/
def unescapeShort (c : CodePoint) : CodePoint :=
  if c.val = 98 then 8
  else if c.val = 116 then 9
  else if c.val = 110 then 10
  else if c.val = 102 then 12
  else if c.val = 114 then 13
  else c

/-- The first character of a string, and the rest; `none` at its closing quote. -/
def unescape : Str → Option (CodePoint × Str)
  | [] => none
  | c :: s =>
    if c.val = 0x22 then none
    else if c.val = 0x5c then
      match s with
      | x :: t =>
        if x.val = 117 then
          match t with
          | _ :: _ :: h :: l :: rest => some (chr (hexVal h * 16 + hexVal l), rest)
          | _ => none
        else some (unescapeShort x, t)
      | _ => none
    else some (c, s)

theorem hexVal_hexDigit : ∀ n < 32, hexVal (hexDigit (n / 16)) * 16 + hexVal (hexDigit (n % 16)) =
    n := by
  decide

theorem unescape_escape (c : CodePoint) (t : Str) : unescape (escape c ++ t) = some (c, t) := by
  have hval : ∀ d : CodePoint, c.val = d.val → c = d := fun d hc => Fin.ext hc
  unfold escape
  split; · obtain rfl := hval 0x22 ‹_›; rfl
  split; · obtain rfl := hval 0x5c ‹_›; rfl
  split; · obtain rfl := hval 8 ‹_›; rfl
  split; · obtain rfl := hval 9 ‹_›; rfl
  split; · obtain rfl := hval 10 ‹_›; rfl
  split; · obtain rfl := hval 12 ‹_›; rfl
  split; · obtain rfl := hval 13 ‹_›; rfl
  split
  · have hcode : hexVal (hexDigit (c.val / 16)) * 16 + hexVal (hexDigit (c.val % 16)) = c.val :=
      hexVal_hexDigit _ (by omega)
    have hchr : chr c.val = c := Fin.ext (Nat.mod_eq_of_lt c.isLt)
    have hstep : unescape (py "\\u00" ++ [hexDigit (c.val / 16), hexDigit (c.val % 16)] ++ t) =
        some (chr (hexVal (hexDigit (c.val / 16)) * 16 + hexVal (hexDigit (c.val % 16))), t) := rfl
    rw [hstep, hcode, hchr]
  · rename_i hquote hslash _ _ _ _ _ _
    simp only [List.cons_append, List.nil_append, unescape, if_neg hquote, if_neg hslash]

/-- A quoted string determines the string and what follows. -/
theorem quoted_append_inj {s t u v : Str} (h : quoted s ++ u = quoted t ++ v) : s = t ∧ u = v := by
  have hend : ∀ w : Str, unescape (py "\"" ++ w) = none := fun w => rfl
  simp only [quoted, List.append_assoc] at h
  have hbody := List.append_cancel_left h
  clear h
  induction s generalizing t with
  | nil =>
    cases t with
    | nil => exact ⟨rfl, List.append_cancel_left hbody⟩
    | cons d t =>
      have hfirst := congrArg unescape hbody
      rw [List.flatMap_cons, List.append_assoc, unescape_escape, List.flatMap_nil,
        List.nil_append, hend] at hfirst
      cases hfirst
  | cons c s ih =>
    cases t with
    | nil =>
      have hfirst := congrArg unescape hbody
      rw [List.flatMap_cons, List.append_assoc, unescape_escape, List.flatMap_nil,
        List.nil_append, hend] at hfirst
      cases hfirst
    | cons d t =>
      have hfirst := congrArg unescape hbody
      rw [List.flatMap_cons, List.flatMap_cons, List.append_assoc, List.append_assoc,
        unescape_escape, unescape_escape, Option.some.injEq, Prod.mk.injEq] at hfirst
      obtain ⟨rfl, hrest⟩ := hfirst
      obtain ⟨rfl, rfl⟩ := ih hrest
      exact ⟨rfl, rfl⟩

end Json

end HeyKevin.L1
