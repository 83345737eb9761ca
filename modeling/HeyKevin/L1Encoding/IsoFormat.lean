import HeyKevin.L1Encoding.Iso
/-!
# The inverse of isoformat

`datetime.fromisoformat` reads whatever `datetime.isoformat` writes: seconds
with or without a fraction, and no offset or one with a sign.

* `readIso_isoformat`: a value is read back from its own text.
-/
namespace HeyKevin.L1.Datetime

open L1.Text

def day : ℕ := 86400000000

theorem limit_pos : 0 < limit := by norm_num [limit]

/-- An offset that a `timezone` can have. -/
def DateTime.OffsetValid (t : DateTime) : Prop := ∀ o ∈ t.offset, o.natAbs < day

instance (t : DateTime) : Decidable t.OffsetValid :=
  inferInstanceAs (Decidable (∀ o ∈ t.offset, o.natAbs < day))

/-- Documented property of `datetime.fromisoformat`: an offset is less than a day. -/
def OffsetsValid (P : Python) : Prop := ∀ s t, P.otherIsoformat s = some t → t.OffsetValid

/-- `.ffffff`, or nothing -/
def readFraction (s : Str) : Option (ℕ × Str) :=
  match expect "." s with
  | some s => readDigits 6 0 s
  | none => some (0, s)

/-- `SS[.ffffff]`, in microseconds -/
def readSeconds (s : Str) : Option (ℕ × Str) := do
  let (second, s) ← readDigits 2 0 s
  let (micro, s) ← readFraction s
  if second < 60 then some (second * 1000000 + micro, s) else none

/-- `HH:MM`, in microseconds -/
def readHoursMinutes (s : Str) : Option (ℕ × Str) := do
  let (hour, s) ← readDigits 2 0 s
  let s ← expect ":" s
  let (minute, s) ← readDigits 2 0 s
  if hour < 24 ∧ minute < 60 then some (hour * 3600000000 + minute * 60000000, s) else none

/-- The `[:SS[.ffffff]]` that ends a text. -/
def readOffsetSeconds (s : Str) : Option ℕ :=
  if s = [] then some 0
  else do
    let s ← expect ":" s
    let (micros, s) ← readSeconds s
    if s = [] then some micros else none

/-- `HH:MM[:SS[.ffffff]]` at the end of a text, in microseconds -/
def readMagnitude (s : Str) : Option ℕ := do
  let (micros, s) ← readHoursMinutes s
  let rest ← readOffsetSeconds s
  some (micros + rest)

/-- The offset that ends a text, `none` inside for a naive value. -/
def readOffset (s : Str) : Option (Option ℤ) :=
  if s = [] then some none
  else
    match expect "+" s with
    | some s => (readMagnitude s).map fun m : ℕ => some (m : ℤ)
    | none =>
      match expect "-" s with
      | some s => (readMagnitude s).map fun m : ℕ => some (-(m : ℤ))
      | none => none

/-- `YYYY-MM-DD`, as a proleptic ordinal -/
def readDate (s : Str) : Option (ℕ × Str) := do
  let (year, s) ← readDigits 4 0 s
  let s ← expect "-" s
  let (month, s) ← readDigits 2 0 s
  let s ← expect "-" s
  let (dayOfMonth, s) ← readDigits 2 0 s
  if IsDate year month dayOfMonth then some (ymd2ord year month dayOfMonth, s) else none

/-- The text of `isoformat`. -/
def readIso (s : Str) : Option DateTime := do
  let (ord, s) ← readDate s
  let s ← expect "T" s
  let (hoursMinutes, s) ← readHoursMinutes s
  let s ← expect ":" s
  let (seconds, s) ← readSeconds s
  let offset ← readOffset s
  let micros := (ord - 1) * day + hoursMinutes + seconds
  if h : micros < limit then some ⟨micros, h, offset⟩ else none

/-! ## Reading back -/

theorem expect_append (t : String) (s : Str) : expect t (py t ++ s) = some s := by
  simp [expect]

theorem expect_of_ne {t : String} {c d : CodePoint} (ht : py t = [c]) (h : d ≠ c) (s : Str) :
    expect t (d :: s) = none := by
  rw [expect, if_neg]
  rw [ht]
  rintro ⟨rest, hrest⟩
  exact h (List.cons.inj hrest).1.symm

def Delimited (s : Str) : Prop := expect "." s = none

theorem delimited_nil : Delimited [] := if_neg (by decide)

theorem readFraction_text (micro : ℕ) (hmicro : micro < 10 ^ 6) {s : Str} (hs : Delimited s) :
    readFraction ((if micro = 0 then [] else py "." ++ padded 6 micro) ++ s) = some (micro, s) := by
  by_cases h : micro = 0
  · rw [if_pos h, h, List.nil_append, readFraction, hs]
  · rw [if_neg h, List.append_assoc, readFraction, expect_append]
    simp only
    rw [readDigits_padded, Nat.mod_eq_of_lt hmicro, Nat.zero_mul, Nat.zero_add]

theorem readSeconds_text (micros : ℕ) {s : Str} (hs : Delimited s) :
    readSeconds (secondsText micros ++ s) = some (micros % 60000000, s) := by
  have hfraction := readFraction_text (micros % 1000000) (Nat.mod_lt _ (by decide)) hs
  rw [secondsText, List.append_assoc, readSeconds]
  refine (readDigits_bind (show micros / 1000000 % 60 < 10 ^ 2 by omega) _ _).trans ?_
  simp only [hfraction, Option.bind_eq_bind, Option.bind_some]
  rw [if_pos (Nat.mod_lt _ (by decide))]
  have hsum : micros / 1000000 % 60 * 1000000 + micros % 1000000 = micros % 60000000 := by omega
  rw [hsum]

theorem readHoursMinutes_text {micros : ℕ} (h : micros < day) (s : Str) :
    readHoursMinutes (hoursMinutesText micros ++ s) = some (micros / 60000000 * 60000000, s) := by
  have hday : micros < 86400000000 := h
  rw [hoursMinutesText, List.append_assoc, List.append_assoc, readHoursMinutes]
  refine (readDigits_bind (show micros / 3600000000 < 10 ^ 2 by omega) _ _).trans ?_
  refine (expect_bind ":" _ _).trans ?_
  refine (readDigits_bind (show micros / 60000000 % 60 < 10 ^ 2 by omega) _ _).trans ?_
  simp only
  rw [if_pos ⟨by omega, Nat.mod_lt _ (by decide)⟩]
  have hsum : micros / 3600000000 * 3600000000 + micros / 60000000 % 60 * 60000000 =
      micros / 60000000 * 60000000 := by omega
  rw [hsum]

theorem readMagnitude_text {micros : ℕ} (h : micros < day) :
    readMagnitude (hoursMinutesText micros ++
      if micros % 60000000 = 0 then [] else py ":" ++ secondsText micros) = some micros := by
  rw [readMagnitude, readHoursMinutes_text h]
  simp only [Option.bind_eq_bind, Option.bind_some]
  by_cases hzero : micros % 60000000 = 0
  · rw [if_pos hzero, readOffsetSeconds, if_pos rfl]
    simp only [Option.bind_some]
    congr 1
    omega
  · have hne : py ":" ++ secondsText micros ≠ [] := by simp [py]
    have hseconds := readSeconds_text micros delimited_nil
    rw [List.append_nil] at hseconds
    rw [if_neg hzero, readOffsetSeconds, if_neg hne]
    have hread : (do
        let s ← expect ":" (py ":" ++ secondsText micros)
        let (micros, s) ← readSeconds s
        if s = [] then some micros else none) = some (micros % 60000000) := by
      refine (expect_bind ":" _ _).trans ?_
      simp only [hseconds, Option.bind_eq_bind, Option.bind_some, if_true]
    rw [hread]
    simp only [Option.bind_some]
    congr 1
    omega

theorem readOffset_text {o : ℤ} (h : o.natAbs < day) : readOffset (offsetText o) = some (some o) := by
  have hmagnitude := readMagnitude_text h
  have hminus : py "-" = [0x2d] := by decide
  have hplus : py "+" = [0x2b] := by decide
  rw [offsetText, List.append_assoc]
  generalize (hoursMinutesText o.natAbs ++
    if o.natAbs % 60000000 = 0 then [] else py ":" ++ secondsText o.natAbs) = text at hmagnitude
  by_cases hneg : o < 0
  · have hne : ¬ py "-" ++ text = [] := by
      rw [hminus]
      exact List.cons_ne_nil _ _
    have hother : expect "+" (py "-" ++ text) = none := by
      rw [hminus]
      exact expect_of_ne hplus (by decide) text
    have hvalue : -(o.natAbs : ℤ) = o := by omega
    rw [if_pos hneg, readOffset, if_neg hne, hother]
    simp only [expect_append, hmagnitude, Option.map_some, hvalue]
  · have hne : ¬ py "+" ++ text = [] := by
      rw [hplus]
      exact List.cons_ne_nil _ _
    have hvalue : (o.natAbs : ℤ) = o := by omega
    rw [if_neg hneg, readOffset, if_neg hne]
    simp only [expect_append, hmagnitude, Option.map_some, hvalue]

theorem delimited_offset (o : Option ℤ) : Delimited ((o.map offsetText).getD []) := by
  cases o with
  | none => exact delimited_nil
  | some o =>
    have hdot : py "." = [0x2e] := by decide
    rw [Option.map_some, Option.getD_some, Delimited, offsetText]
    simp only [List.append_assoc]
    split
    · exact expect_of_ne hdot (by decide) _
    · exact expect_of_ne hdot (by decide) _

theorem readDate_text {ord : ℕ} (h1 : 1 ≤ ord) (h2 : ord ≤ 3652059) (s : Str) :
    readDate (dateText ord ++ s) = some (ord, s) := by
  obtain ⟨hdate, hord⟩ := ymd2ord_ord2ymd h1 h2
  rw [dateText]
  generalize ord2ymd ord = date at hdate hord
  obtain ⟨year, month, dayOfMonth⟩ := date
  simp only at hdate hord
  have hdays := daysInMonth_le (isLeap year) month hdate.2.2.2.1
  simp only [List.append_assoc]
  rw [readDate]
  refine (readDigits_bind (show year < 10 ^ 4 by have := hdate.2.1; omega) _ _).trans ?_
  refine (expect_bind "-" _ _).trans ?_
  refine (readDigits_bind (show month < 10 ^ 2 by have := hdate.2.2.2.1; omega) _ _).trans ?_
  refine (expect_bind "-" _ _).trans ?_
  refine (readDigits_bind (show dayOfMonth < 10 ^ 2 by have := hdate.2.2.2.2.2; omega) _ _).trans ?_
  simp only
  rw [if_pos hdate, hord]

theorem readOffset_option {o : Option ℤ} (h : ∀ x ∈ o, x.natAbs < day) :
    readOffset ((o.map offsetText).getD []) = some o := by
  cases o with
  | none => rfl
  | some x => exact readOffset_text (h x rfl)

/-- **A value is read back from its text.** -/
theorem readIso_isoformat {t : DateTime} (h : t.OffsetValid) : readIso (isoformat t) = some t := by
  have hrange := t.inRange
  unfold limit at hrange
  have hdate : ∀ s, readDate (dateText (t.micros / 86400000000 + 1) ++ s) =
      some (t.micros / 86400000000 + 1, s) := readDate_text (by omega) (by omega)
  have hhours : ∀ s, readHoursMinutes (hoursMinutesText (t.micros % 86400000000) ++ s) =
      some (t.micros % 86400000000 / 60000000 * 60000000, s) :=
    readHoursMinutes_text (Nat.mod_lt _ (by decide))
  have hseconds := readSeconds_text (t.micros % 86400000000) (delimited_offset t.offset)
  have hmicros : (t.micros / 86400000000 + 1 - 1) * day +
      t.micros % 86400000000 / 60000000 * 60000000 + t.micros % 86400000000 % 60000000 =
        t.micros := by
    rw [day]
    omega
  simp only [isoformat, List.append_assoc]
  rw [readIso, hdate]
  simp only [Option.bind_eq_bind, Option.bind_some, expect_append, hhours, hseconds,
    readOffset_option h, hmicros, dif_pos t.inRange]

/-! ## What is written -/

/-- No `Z` in the text. -/
def NoZulu (s : Str) : Prop := ∀ c ∈ s, c.val ≠ 0x5a

theorem NoZulu.append {s t : Str} (hs : NoZulu s) (ht : NoZulu t) : NoZulu (s ++ t) := by
  intro c hc
  rcases List.mem_append.mp hc with hc | hc
  · exact hs c hc
  · exact ht c hc

theorem noZulu_of_eq {t : String} {c : CodePoint} (h : py t = [c]) (hc : c.val ≠ 0x5a) :
    NoZulu (py t) := by
  intro d hd
  rw [h] at hd
  obtain rfl := List.mem_singleton.mp hd
  exact hc

theorem noZulu_colon : NoZulu (py ":") := noZulu_of_eq (c := 0x3a) (by decide) (by decide)

theorem noZulu_dash : NoZulu (py "-") := noZulu_of_eq (c := 0x2d) (by decide) (by decide)

theorem noZulu_padded (k n : ℕ) : NoZulu (padded k n) := by
  induction k with
  | zero =>
    intro c hc
    cases hc
  | succ k ih =>
    intro c hc
    rcases List.mem_cons.mp hc with rfl | hc
    · have hlt : n / 10 ^ k % 10 < 10 := Nat.mod_lt _ (by decide)
      have hval := digit_val hlt
      omega
    · exact ih c hc

theorem noZulu_secondsText (micros : ℕ) : NoZulu (secondsText micros) := by
  have hdot : NoZulu (py ".") := noZulu_of_eq (c := 0x2e) (by decide) (by decide)
  rw [secondsText]
  refine (noZulu_padded _ _).append ?_
  split
  · exact List.forall_mem_nil _
  · exact hdot.append (noZulu_padded _ _)

theorem noZulu_hoursMinutesText (micros : ℕ) : NoZulu (hoursMinutesText micros) :=
  ((noZulu_padded _ _).append noZulu_colon).append (noZulu_padded _ _)

theorem noZulu_offsetText (offset : ℤ) : NoZulu (offsetText offset) := by
  have hplus : NoZulu (py "+") := noZulu_of_eq (c := 0x2b) (by decide) (by decide)
  rw [offsetText]
  have hsign : NoZulu (if offset < 0 then py "-" else py "+") := by
    split
    · exact noZulu_dash
    · exact hplus
  refine (hsign.append (noZulu_hoursMinutesText _)).append ?_
  split
  · exact List.forall_mem_nil _
  · exact noZulu_colon.append (noZulu_secondsText _)

theorem noZulu_dateText (ord : ℕ) : NoZulu (dateText ord) :=
  ((((noZulu_padded _ _).append noZulu_dash).append (noZulu_padded _ _)).append
    noZulu_dash).append (noZulu_padded _ _)

theorem noZulu_isoformat (t : DateTime) : NoZulu (isoformat t) := by
  have htime : NoZulu (py "T") := noZulu_of_eq (c := 0x54) (by decide) (by decide)
  have hoffset : NoZulu ((t.offset.map offsetText).getD []) := by
    cases t.offset with
    | none => exact List.forall_mem_nil _
    | some o => exact noZulu_offsetText o
  exact (((((noZulu_dateText _).append htime).append (noZulu_hoursMinutesText _)).append
    noZulu_colon).append (noZulu_secondsText _)).append hoffset

/-! ## What is read has a valid offset -/

theorem readDigits_lt {k acc n : ℕ} {s s' : Str} (h : readDigits k acc s = some (n, s')) :
    n < (acc + 1) * 10 ^ k := by
  induction k generalizing acc s with
  | zero =>
    simp only [readDigits, Option.some.injEq, Prod.mk.injEq] at h
    omega
  | succ k ih =>
    cases s with
    | nil => cases h
    | cons c s =>
      rw [readDigits] at h
      split at h
      · rename_i hdigit
        have hlt := ih h
        have hle : acc * 10 + (c.val - 48) + 1 ≤ (acc + 1) * 10 := by omega
        calc n < (acc * 10 + (c.val - 48) + 1) * 10 ^ k := hlt
          _ ≤ (acc + 1) * 10 * 10 ^ k := Nat.mul_le_mul_right _ hle
          _ = (acc + 1) * 10 ^ (k + 1) := by ring
      · cases h

theorem readFraction_lt {s s' : Str} {micro : ℕ} (h : readFraction s = some (micro, s')) :
    micro < 1000000 := by
  unfold readFraction at h
  split at h
  · exact readDigits_lt h
  · obtain ⟨rfl, -⟩ := Prod.mk.inj (Option.some.inj h)
    exact Nat.succ_pos _

theorem readSeconds_lt {s s' : Str} {micros : ℕ} (h : readSeconds s = some (micros, s')) :
    micros < 60000000 := by
  simp only [readSeconds, Option.bind_eq_bind, Option.bind_eq_some_iff] at h
  obtain ⟨⟨second, s₁⟩, -, ⟨micro, s₂⟩, hfraction, h⟩ := h
  have hmicro := readFraction_lt hfraction
  simp only at h
  split at h
  · obtain ⟨rfl, -⟩ := Prod.mk.inj (Option.some.inj h)
    omega
  · cases h

theorem readHoursMinutes_le {s s' : Str} {micros : ℕ}
    (h : readHoursMinutes s = some (micros, s')) : micros + 60000000 ≤ day := by
  simp only [readHoursMinutes, Option.bind_eq_bind, Option.bind_eq_some_iff] at h
  obtain ⟨⟨hour, s₁⟩, -, s₂, -, ⟨minute, s₃⟩, -, h⟩ := h
  simp only at h
  split at h
  · obtain ⟨rfl, -⟩ := Prod.mk.inj (Option.some.inj h)
    rw [day]
    omega
  · cases h

theorem readMagnitude_lt {s : Str} {micros : ℕ} (h : readMagnitude s = some micros) :
    micros < day := by
  simp only [readMagnitude, Option.bind_eq_bind, Option.bind_eq_some_iff] at h
  obtain ⟨⟨hoursMinutes, s₁⟩, hhours, rest, hrest, h⟩ := h
  have hle := readHoursMinutes_le hhours
  have hlt : rest < 60000000 := by
    unfold readOffsetSeconds at hrest
    split at hrest
    · obtain rfl := Option.some.inj hrest
      exact Nat.succ_pos _
    · simp only [Option.bind_eq_bind, Option.bind_eq_some_iff] at hrest
      obtain ⟨s₂, -, ⟨seconds, s₃⟩, hseconds, hrest⟩ := hrest
      simp only at hrest
      split at hrest
      · obtain rfl := Option.some.inj hrest
        exact readSeconds_lt hseconds
      · cases hrest
  obtain rfl := Option.some.inj h
  omega

theorem readOffset_lt {s : Str} {offset : Option ℤ} (h : readOffset s = some offset) :
    ∀ o ∈ offset, o.natAbs < day := by
  unfold readOffset at h
  split at h
  · obtain rfl := Option.some.inj h
    intro o ho
    cases ho
  · split at h
    · obtain ⟨m, hm, rfl⟩ := Option.map_eq_some_iff.mp h
      intro o ho
      obtain rfl := Option.some.inj ho
      have hlt := readMagnitude_lt hm
      omega
    · split at h
      · obtain ⟨m, hm, rfl⟩ := Option.map_eq_some_iff.mp h
        intro o ho
        obtain rfl := Option.some.inj ho
        have hlt := readMagnitude_lt hm
        omega
      · cases h

theorem readIso_offsetValid {s : Str} {t : DateTime} (h : readIso s = some t) : t.OffsetValid := by
  simp only [readIso, Option.bind_eq_bind, Option.bind_eq_some_iff] at h
  obtain ⟨⟨ord, s₁⟩, -, s₂, -, ⟨hoursMinutes, s₃⟩, -, s₄, -, ⟨seconds, s₅⟩, -, offset, hoffset, h⟩ := h
  split at h
  · obtain rfl := Option.some.inj h
    exact readOffset_lt hoffset
  · cases h

theorem of_bind {α β : Type} {x : Option α} {f : α → Option β} {b : β}
    (h : (x >>= f) = some b) : ∃ a, f a = some b := by
  obtain ⟨a, -, ha⟩ := Option.bind_eq_some_iff.mp h
  exact ⟨a, ha⟩

theorem readZulu_isUtc {s : Str} {t : DateTime} (h : readZulu s = some t) : t.IsUtc := by
  unfold readZulu at h
  obtain ⟨⟨year, _⟩, h⟩ := of_bind h
  obtain ⟨_, h⟩ := of_bind h
  obtain ⟨⟨month, _⟩, h⟩ := of_bind h
  obtain ⟨_, h⟩ := of_bind h
  obtain ⟨⟨dayOfMonth, _⟩, h⟩ := of_bind h
  obtain ⟨_, h⟩ := of_bind h
  obtain ⟨⟨hour, _⟩, h⟩ := of_bind h
  obtain ⟨_, h⟩ := of_bind h
  obtain ⟨⟨minute, _⟩, h⟩ := of_bind h
  obtain ⟨_, h⟩ := of_bind h
  obtain ⟨⟨second, _⟩, h⟩ := of_bind h
  obtain ⟨_, h⟩ := of_bind h
  obtain ⟨⟨micro, _⟩, h⟩ := of_bind h
  obtain ⟨_, h⟩ := of_bind h
  split at h
  · exact (DateTime.ofInstant_eq_some h).1
  · cases h

theorem readZulu_offsetValid {s : Str} {t : DateTime} (h : readZulu s = some t) :
    t.OffsetValid := by
  intro o ho
  obtain rfl := Option.some.inj (Eq.trans (readZulu_isUtc h).symm ho)
  decide

/-- `datetime.fromisoformat(s)`, the form that `isoformat` writes read here. -/
def fromisoformatText (P : Python) (s : Str) : Option DateTime :=
  match readIso s with
  | some t => some t
  | none => fromisoformat P s

theorem fromisoformatText_offsetValid {P : Python} (hP : OffsetsValid P) {s : Str} {t : DateTime}
    (h : fromisoformatText P s = some t) : t.OffsetValid := by
  unfold fromisoformatText at h
  split at h
  · rename_i hread
    obtain rfl := Option.some.inj h
    exact readIso_offsetValid hread
  · unfold fromisoformat at h
    split at h
    · rename_i hread
      obtain rfl := Option.some.inj h
      exact readZulu_offsetValid hread
    · exact hP _ _ h

@[simp] theorem fromisoformatText_isoformat {P : Python} {t : DateTime} (h : t.OffsetValid) :
    fromisoformatText P (isoformat t) = some t := by
  rw [fromisoformatText, readIso_isoformat h]

end HeyKevin.L1.Datetime
