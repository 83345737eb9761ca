import HeyKevin.L14Calendar.FailClosed
/-!
# Localizing a spoken slot

mirrors app/services/appointment_time.py. A value without an offset, or with
a zero one, is read as a clock of the contractor's zone; any other offset
makes it an instant, which is converted.

* `stable_iff`: when localizing twice is localizing once.
* `offeredInstant_iff`: when a slot on offer is localized to its own instant.

Line numbers are those of app/services/appointment_time.py.
-/
namespace HeyKevin.L14

open HeyKevin.Core L1 L1.Text L1.Datetime

/-- mirrors 18-25 -/
def contractorZone (E : Platform) (contractor : Option Dict) : Option Zone :=
  match Dict.get (contractor.getD []) "timezone" with
  | .str [] => none
  | .str name => E.zoneInfo name
  | _ => none

/-- mirrors 28-34 -/
def parseIsoDatetime (P : Python) (value : Str) : Option DateTime :=
  if value = [] then none else fromisoformatText P (replaceZulu value)

/-- mirrors 37-53; `none` is the
`OverflowError` of `astimezone` -/
def localizeSpokenSlot (E : Platform) (value : Str) (contractor : Option Dict) : Option Str :=
  match parseIsoDatetime E.python value with
  | none => some value
  | some parsed =>
    match contractorZone E contractor with
    | none => some (isoformat parsed)
    | some zone =>
      match parsed.offset with
      | none => some (isoformat (zone.replaceTzinfo parsed))
      | some offset =>
        if offset = 0 then some (isoformat (zone.replaceTzinfo parsed))
        else (zone.astimezone parsed).map isoformat

/-! ## Reading the result -/

theorem replaceZulu_of_noZulu {s : Str} (h : NoZulu s) : replaceZulu s = s := by
  induction s with
  | nil => rfl
  | cons c s ih =>
    have hc := h c List.mem_cons_self
    have ih := ih fun d hd => h d (List.mem_cons_of_mem _ hd)
    unfold replaceZulu at ih ⊢
    rw [List.flatMap_cons, ih, if_neg hc, List.singleton_append]

theorem isoformat_ne_nil {t : DateTime} (h : t.OffsetValid) : isoformat t ≠ [] := by
  intro hnil
  have hread := readIso_isoformat h
  rw [hnil] at hread
  cases hread

theorem parseIsoDatetime_isoformat {P : Python} {t : DateTime} (h : t.OffsetValid) :
    parseIsoDatetime P (isoformat t) = some t := by
  rw [parseIsoDatetime, if_neg (isoformat_ne_nil h), replaceZulu_of_noZulu (noZulu_isoformat t),
    fromisoformatText_isoformat h]

theorem parseIsoDatetime_offsetValid {P : Python} (hP : OffsetsValid P) {value : Str}
    {t : DateTime} (h : parseIsoDatetime P value = some t) : t.OffsetValid := by
  unfold parseIsoDatetime at h
  split at h
  · cases h
  · exact fromisoformatText_offsetValid hP h

theorem isoformat_inj {t u : DateTime} (ht : t.OffsetValid) (hu : u.OffsetValid) :
    isoformat t = isoformat u ↔ t = u := by
  refine ⟨fun h => ?_, congrArg isoformat⟩
  have hread := readIso_isoformat ht
  rw [h, readIso_isoformat hu] at hread
  exact (Option.some.inj hread).symm

/-! ## One pass over a parsed value -/

/-- What a parsed value is localized to in a known zone. -/
def Zone.localize (z : Zone) (t : DateTime) : Option DateTime :=
  if t.offset.getD 0 = 0 then some (z.replaceTzinfo t) else z.astimezone t

theorem Zone.localize_offsetValid {z : Zone} {t u : DateTime} (h : z.localize t = some u) :
    u.OffsetValid := by
  unfold Zone.localize at h
  split at h
  · obtain rfl := Option.some.inj h
    exact z.replaceTzinfo_offsetValid t
  · exact (Zone.astimezone_eq_some h).2.1

theorem localizeSpokenSlot_of_zone {E : Platform} {value : Str} {contractor : Option Dict}
    {t : DateTime} {z : Zone} (ht : parseIsoDatetime E.python value = some t)
    (hz : contractorZone E contractor = some z) :
    localizeSpokenSlot E value contractor = (z.localize t).map isoformat := by
  rw [localizeSpokenSlot, ht, hz, Zone.localize]
  simp only
  cases t.offset with
  | none => rfl
  | some offset =>
    simp only [Option.getD_some]
    split <;> rfl

theorem localizeSpokenSlot_isoformat {E : Platform} {contractor : Option Dict} {t : DateTime}
    {z : Zone} (ht : t.OffsetValid) (hz : contractorZone E contractor = some z) :
    localizeSpokenSlot E (isoformat t) contractor = (z.localize t).map isoformat :=
  localizeSpokenSlot_of_zone (parseIsoDatetime_isoformat ht) hz

/-! ## Stability -/

/-- The text is a time with an offset, at this instant. -/
def Names (P : Python) (value : Str) (i : ℤ) : Prop :=
  ∃ t, parseIsoDatetime P value = some t ∧ t.offset.isSome = true ∧ t.instant = i

theorem names_isoformat {P : Python} {t : DateTime} (ht : t.OffsetValid)
    (hsome : t.offset.isSome = true) {i : ℤ} : Names P (isoformat t) i ↔ t.instant = i := by
  refine ⟨?_, fun h => ⟨t, parseIsoDatetime_isoformat ht, hsome, h⟩⟩
  rintro ⟨u, hu, -, rfl⟩
  rw [parseIsoDatetime_isoformat ht] at hu
  rw [Option.some.inj hu]

/-- Localizing twice is localizing once, and keeps the instant of a value with a nonzero offset
where the zone is known. -/
def StableSlot (E : Platform) (value : Str) (contractor : Option Dict) : Prop :=
  ∃ out, localizeSpokenSlot E value contractor = some out ∧
    localizeSpokenSlot E out contractor = some out ∧
    ∀ t, parseIsoDatetime E.python value = some t → t.offset.getD 0 ≠ 0 →
      (contractorZone E contractor).isSome = true → Names E.python out t.instant

/-- The instant of the value, in UTC and in the zone, is in the range of `datetime`. -/
def Zone.InRange (z : Zone) (t : DateTime) : Prop :=
  (0 ≤ t.instant ∧ t.instant < limit) ∧
    0 ≤ (z.fromutc t.instant).1 ∧ (z.fromutc t.instant).1 < limit

/-- Localizing settles after one pass. A spoken clock has to be at zero offset in the zone, or a
clock that the zone does show, at an instant in range. An instant has to be in range, and where the
zone is at zero offset then, its clock has to be at zero offset also when it is read without
`fold`. -/
def Zone.Settles (z : Zone) (t : DateTime) : Prop :=
  if t.offset.getD 0 = 0 then
    z.utcoffset t.micros false = 0 ∨
      z.InRange (z.replaceTzinfo t) ∧ (z.fromutc (z.replaceTzinfo t).instant).1 = t.micros
  else
    z.InRange t ∧ ((z.fromutc t.instant).1 = t.instant → z.utcoffset t.instant false = 0)

theorem Zone.astimezone_isSome {z : Zone} {t : DateTime} :
    (z.astimezone t).isSome = true ↔ z.InRange t := by
  unfold Zone.astimezone DateTime.astimezoneUtc DateTime.ofInstant Zone.InRange
  split
  · rename_i h
    have hinstant : (⟨t.instant.toNat, by omega, some 0⟩ : DateTime).instant = t.instant := by
      simp only [DateTime.instant, Option.getD_some] at h ⊢
      omega
    rw [Option.bind_some, hinstant, Zone.ofInstant]
    split
    · rename_i hreading
      exact iff_of_true rfl ⟨h, hreading⟩
    · rename_i hreading
      exact iff_of_false Bool.false_ne_true fun hrange => hreading hrange.2
  · rename_i h
    exact iff_of_false Bool.false_ne_true fun hrange => h hrange.1

theorem Zone.astimezone_micros {z : Zone} {t u : DateTime} (h : z.astimezone t = some u) :
    (u.micros : ℤ) = (z.fromutc t.instant).1 := by
  obtain ⟨v, hv, hu⟩ := Option.bind_eq_some_iff.mp h
  rw [← (DateTime.astimezoneUtc_eq_some hv).2]
  exact Zone.ofInstant_micros hu

theorem DateTime.ext_of_instant {t u : DateTime} (ht : t.offset.isSome = true)
    (hu : u.offset.isSome = true) (hmicros : t.micros = u.micros)
    (hinstant : t.instant = u.instant) : t = u := by
  obtain ⟨m, _, o⟩ := t
  obtain ⟨m', _, o'⟩ := u
  obtain ⟨x, rfl⟩ := Option.isSome_iff_exists.mp ht
  obtain ⟨y, rfl⟩ := Option.isSome_iff_exists.mp hu
  simp only at hmicros
  subst hmicros
  simp only [DateTime.instant, Option.getD_some] at hinstant
  obtain rfl : x = y := by omega
  rfl

theorem Zone.localize_replaceTzinfo {z : Zone} {t : DateTime} :
    z.localize (z.replaceTzinfo t) = some (z.replaceTzinfo t) ↔
      z.utcoffset t.micros false = 0 ∨
        z.InRange (z.replaceTzinfo t) ∧
          (z.fromutc (z.replaceTzinfo t).instant).1 = t.micros := by
  rw [Zone.localize, Zone.replaceTzinfo_offset, Option.getD_some]
  split
  · rename_i hzero
    exact iff_of_true rfl (.inl hzero)
  · rename_i hzero
    constructor
    · intro h
      have hrange := Zone.astimezone_isSome.mp (by rw [h]; rfl)
      exact .inr ⟨hrange, (Zone.astimezone_micros h).symm⟩
    · intro h
      obtain ⟨hrange, hreading⟩ := h.resolve_left hzero
      obtain ⟨u, hu⟩ := Option.isSome_iff_exists.mp (Zone.astimezone_isSome.mpr hrange)
      obtain ⟨hinstant, -, hsome⟩ := Zone.astimezone_eq_some hu
      have hmicros := Zone.astimezone_micros hu
      rw [hu]
      refine congrArg some (DateTime.ext_of_instant hsome rfl ?_ hinstant)
      rw [Zone.replaceTzinfo_micros]
      omega

theorem Zone.localize_astimezone {z : Zone} {t u : DateTime} (h : z.astimezone t = some u) :
    z.localize u = some u ↔
      ((z.fromutc t.instant).1 = t.instant → z.utcoffset t.instant false = 0) := by
  obtain ⟨hinstant, -, hsome⟩ := Zone.astimezone_eq_some h
  have hmicros := Zone.astimezone_micros h
  obtain ⟨o, ho⟩ := Option.isSome_iff_exists.mp hsome
  have hoffset : u.instant = u.micros - o := by rw [DateTime.instant, ho, Option.getD_some]
  rw [Zone.localize, ho, Option.getD_some]
  split
  · rename_i hzero
    have hsame : (u.micros : ℤ) = t.instant := by omega
    rw [← hmicros, ← hsame]
    constructor
    · intro hlocal _
      have heq := congrArg DateTime.offset (Option.some.inj hlocal)
      rw [Zone.replaceTzinfo_offset, ho] at heq
      exact (Option.some.inj heq).trans hzero
    · intro hlocal
      refine congrArg some (DateTime.ext_of_instant rfl hsome rfl ?_)
      rw [DateTime.instant, Zone.replaceTzinfo_offset, Option.getD_some, hlocal rfl,
        Zone.replaceTzinfo_micros]
      omega
  · rename_i hzero
    rw [Zone.astimezone_congr hinstant, h]
    refine iff_of_true rfl fun hreading => absurd ?_ hzero
    omega

instance (z : Zone) (t : DateTime) : Decidable (z.InRange t) :=
  inferInstanceAs (Decidable (_ ∧ _))

instance (z : Zone) (t : DateTime) : Decidable (z.Settles t) :=
  inferInstanceAs (Decidable (if t.offset.getD 0 = 0 then
    z.utcoffset t.micros false = 0 ∨
      z.InRange (z.replaceTzinfo t) ∧ (z.fromutc (z.replaceTzinfo t).instant).1 = t.micros
  else
    z.InRange t ∧ ((z.fromutc t.instant).1 = t.instant → z.utcoffset t.instant false = 0)))

/-- A parsed value settles. -/
theorem Zone.settles_iff {z : Zone} {t : DateTime} :
    (∃ u, z.localize t = some u ∧ z.localize u = some u ∧
      (t.offset.getD 0 ≠ 0 → u.instant = t.instant)) ↔ z.Settles t := by
  unfold Zone.Settles
  by_cases hspoken : t.offset.getD 0 = 0
  · rw [if_pos hspoken, ← Zone.localize_replaceTzinfo]
    have hfirst : z.localize t = some (z.replaceTzinfo t) := by
      rw [Zone.localize, if_pos hspoken]
    constructor
    · rintro ⟨u, hu, hagain, -⟩
      rw [hfirst] at hu
      obtain rfl := Option.some.inj hu
      exact hagain
    · intro hagain
      exact ⟨_, hfirst, hagain, fun h => absurd hspoken h⟩
  · rw [if_neg hspoken]
    have hfirst : z.localize t = z.astimezone t := by rw [Zone.localize, if_neg hspoken]
    rw [hfirst]
    constructor
    · rintro ⟨u, hu, hagain, -⟩
      exact ⟨Zone.astimezone_isSome.mp (by rw [hu]; rfl), (Zone.localize_astimezone hu).mp hagain⟩
    · rintro ⟨hrange, hzero⟩
      obtain ⟨u, hu⟩ := Option.isSome_iff_exists.mp (Zone.astimezone_isSome.mpr hrange)
      exact ⟨u, hu, (Zone.localize_astimezone hu).mpr hzero,
        fun _ => (Zone.astimezone_eq_some hu).1⟩

/-! ## Slots on offer -/

/-- A value that the zone reads from a clock. -/
def Zone.Reads (z : Zone) (t : DateTime) : Prop := z.replaceTzinfo t = t

theorem reads_reading (z : Zone) (micros : ℕ) : z.Reads (reading z micros) := rfl

theorem Zone.Reads.offsetValid {z : Zone} {t : DateTime} (h : z.Reads t) : t.OffsetValid := by
  have hvalid := z.replaceTzinfo_offsetValid t
  rw [h] at hvalid
  exact hvalid

theorem Zone.Reads.isSome {z : Zone} {t : DateTime} (h : z.Reads t) : t.offset.isSome = true := by
  rw [← h]
  rfl

theorem daySlots_reads {z : Zone} {busy : List Busy} {closing : ℕ} :
    ∀ {fuel start count slots}, daySlots z busy closing fuel start count = .ok slots →
      ∀ slot ∈ slots, z.Reads slot.start := by
  intro fuel
  induction fuel with
  | zero =>
    intro start count slots h slot hslot
    obtain rfl := Except.ok.inj h
    cases hslot
  | succ fuel ih =>
    intro start count slots h slot hslot
    rw [daySlots] at h
    split at h
    · obtain ⟨taken, -, h⟩ := bind_eq_ok.mp h
      obtain ⟨rest, hrest, h⟩ := bind_eq_ok.mp h
      obtain rfl := Except.ok.inj h
      cases taken with
      | true => exact ih hrest slot hslot
      | false =>
        rcases List.mem_cons.mp hslot with rfl | hslot
        · exact reads_reading z start
        · exact ih hrest slot hslot
    · obtain rfl := Except.ok.inj h
      cases hslot

theorem windowSlots_reads {c : Configuration} {busy : List Busy} {days first : ℕ}
    {slots : List Slot} (h : windowSlots c busy days first = .ok slots) :
    ∀ slot ∈ slots, c.zone.Reads slot.start := by
  induction days generalizing first slots with
  | zero =>
    intro slot hslot
    obtain rfl := Except.ok.inj h
    cases hslot
  | succ days ih =>
    intro slot hslot
    rw [windowSlots] at h
    obtain ⟨today, htoday, h⟩ := bind_eq_ok.mp h
    obtain ⟨rest, hrest, h⟩ := bind_eq_ok.mp h
    obtain rfl := Except.ok.inj h
    rcases List.mem_append.mp hslot with hslot | hslot
    · exact daySlots_reads htoday slot hslot
    · exact ih hrest slot hslot

theorem calendarConfiguration_zone {E : Platform} {contractor : Dict} {c : Configuration} {z : Zone}
    (hc : calendarConfiguration E contractor = some c)
    (hz : contractorZone E (some contractor) = some z) : c.zone = z := by
  obtain ⟨name, hname, hc⟩ := Option.bind_eq_some_iff.mp hc
  obtain ⟨_, -, hc⟩ := Option.bind_eq_some_iff.mp hc
  obtain ⟨_, -, hc⟩ := Option.bind_eq_some_iff.mp hc
  obtain ⟨zone, hzone, hc⟩ := Option.bind_eq_some_iff.mp hc
  obtain ⟨_, -, hc⟩ := Option.bind_eq_some_iff.mp hc
  obtain ⟨_, -, hc⟩ := Option.bind_eq_some_iff.mp hc
  have hsame : E.zoneInfo name = some z := by
    unfold contractorZone at hz
    unfold textOr at hname
    rw [Option.getD_some] at hz
    split at hz
    · cases hz
    · rename_i hget
      simp only [hget] at hname
      split at hname
      · rw [← Option.some.inj hname]
        exact hz
      · rename_i htruthy hfalse
        cases ‹Str› with
        | nil => exact absurd rfl htruthy
        | cons _ _ => exact absurd rfl hfalse
    · cases hz
  split at hc
  · obtain rfl := Option.some.inj hc
    exact Option.some.inj (hzone.symm.trans hsame)
  · cases hc

theorem getAvailableSlots_reads {E : Platform} {contractor : Dict} {daysAhead : ℤ} {now : DateTime}
    {reply : Reply} {slots : List Slot} {z : Zone}
    (h : getAvailableSlots E contractor daysAhead now reply = .ok slots)
    (hz : contractorZone E (some contractor) = some z) :
    ∀ slot ∈ slots, z.Reads slot.start := by
  intro slot hslot
  unfold getAvailableSlots at h
  obtain ⟨c, hc, h⟩ := bind_eq_ok.mp h
  obtain ⟨first, -, h⟩ := bind_eq_ok.mp h
  have hc := require_eq_ok.mp hc
  split at h
  · obtain ⟨busy, -, h⟩ := bind_eq_ok.mp h
    obtain ⟨available, havailable, h⟩ := bind_eq_ok.mp h
    obtain rfl := Except.ok.inj h
    rw [← calendarConfiguration_zone hc hz]
    exact windowSlots_reads havailable slot (List.mem_of_mem_take hslot)
  · cases h

/-- Localizing the text of a value names the instant that the text names. -/
def KeepsInstant (E : Platform) (value : Str) (contractor : Option Dict) : Prop :=
  ∃ out i, localizeSpokenSlot E value contractor = some out ∧
    Names E.python value i ∧ Names E.python out i

theorem keepsInstant_of_reads {E : Platform} {contractor : Option Dict} {z : Zone} {t : DateTime}
    (hz : contractorZone E contractor = some z) (ht : z.Reads t) :
    KeepsInstant E (isoformat t) contractor ↔ t.offset = some 0 ∨ z.InRange t := by
  have hvalid := ht.offsetValid
  obtain ⟨o, ho⟩ := Option.isSome_iff_exists.mp ht.isSome
  unfold KeepsInstant
  rw [localizeSpokenSlot_isoformat hvalid hz, Zone.localize, ho, Option.getD_some]
  by_cases hzero : o = 0
  · rw [if_pos hzero, ht]
    have hnames := (names_isoformat (P := E.python) hvalid ht.isSome).mpr rfl
    exact iff_of_true ⟨_, _, rfl, hnames, hnames⟩ (.inl (congrArg some hzero))
  · rw [if_neg hzero]
    constructor
    · rintro ⟨out, i, hout, -, -⟩
      obtain ⟨u, hu, -⟩ := Option.map_eq_some_iff.mp hout
      exact .inr (Zone.astimezone_isSome.mp (by rw [hu]; rfl))
    · intro h
      have hrange := h.resolve_left fun heq => hzero (Option.some.inj heq)
      obtain ⟨u, hu⟩ := Option.isSome_iff_exists.mp (Zone.astimezone_isSome.mpr hrange)
      obtain ⟨hinstant, huvalid, husome⟩ := Zone.astimezone_eq_some hu
      rw [hu]
      exact ⟨_, _, rfl, (names_isoformat hvalid ht.isSome).mpr rfl,
        (names_isoformat huvalid husome).mpr hinstant⟩

/-! ## The whole -/

theorem stableSlot_iff {E : Platform} (hP : OffsetsValid E.python) (value : Str)
    (contractor : Option Dict) :
    StableSlot E value contractor ↔ ∀ t z, parseIsoDatetime E.python value = some t →
      contractorZone E contractor = some z → z.Settles t := by
  unfold StableSlot
  cases ht : parseIsoDatetime E.python value with
  | none =>
    have hout : localizeSpokenSlot E value contractor = some value := by
      rw [localizeSpokenSlot, ht]
    exact iff_of_true ⟨value, hout, hout, fun t h => by cases h⟩ fun t z h => by cases h
  | some t =>
    have hvalid := parseIsoDatetime_offsetValid hP ht
    cases hz : contractorZone E contractor with
    | none =>
      have hout : localizeSpokenSlot E value contractor = some (isoformat t) := by
        rw [localizeSpokenSlot, ht, hz]
      have hagain : localizeSpokenSlot E (isoformat t) contractor = some (isoformat t) := by
        rw [localizeSpokenSlot, parseIsoDatetime_isoformat hvalid, hz]
      exact iff_of_true ⟨_, hout, hagain, fun _ _ _ h => by cases h⟩ fun _ _ _ h => by cases h
    | some z =>
      have hsettles : (∀ t' z', some t = some t' → some z = some z' → z'.Settles t') ↔
          z.Settles t := by
        refine ⟨fun h => h t z rfl rfl, fun h t' z' ht' hz' => ?_⟩
        obtain rfl := Option.some.inj ht'
        obtain rfl := Option.some.inj hz'
        exact h
      rw [hsettles, ← Zone.settles_iff, localizeSpokenSlot_of_zone ht hz]
      constructor
      · rintro ⟨out, hout, hagain, hnames⟩
        obtain ⟨u, hu, rfl⟩ := Option.map_eq_some_iff.mp hout
        have huvalid := Zone.localize_offsetValid hu
        rw [localizeSpokenSlot_isoformat huvalid hz] at hagain
        obtain ⟨v, hv, hsame⟩ := Option.map_eq_some_iff.mp hagain
        obtain rfl := (isoformat_inj (Zone.localize_offsetValid hv) huvalid).mp hsame
        refine ⟨v, hu, hv, fun hne => ?_⟩
        obtain ⟨w, hw, -, hinstant⟩ := hnames t rfl hne rfl
        rw [parseIsoDatetime_isoformat huvalid] at hw
        obtain rfl := Option.some.inj hw
        exact hinstant
      · rintro ⟨u, hu, hagain, hinstant⟩
        have huvalid := Zone.localize_offsetValid hu
        refine ⟨isoformat u, by rw [hu]; rfl, ?_, ?_⟩
        · rw [localizeSpokenSlot_isoformat huvalid hz, hagain]
          rfl
        · intro t' ht' hne _
          obtain rfl := Option.some.inj ht'
          refine (names_isoformat huvalid ?_).mpr (hinstant hne)
          rw [Zone.localize, if_neg hne] at hu
          exact (Zone.astimezone_eq_some hu).2.2

/-- Localizing is stable exactly where the value settles, and a slot on offer is localized to its
own instant exactly where the zone is at zero offset or that instant is in range. -/
theorem localizing_iff {E : Platform} (hP : OffsetsValid E.python) :
    (∀ value contractor, StableSlot E value contractor ↔
      ∀ t z, parseIsoDatetime E.python value = some t → contractorZone E contractor = some z →
        z.Settles t) ∧
    ∀ contractor z daysAhead now reply slots, contractorZone E (some contractor) = some z →
      getAvailableSlots E contractor daysAhead now reply = .ok slots → ∀ slot ∈ slots,
        (KeepsInstant E slot.startIso (some contractor) ↔
          slot.start.offset = some 0 ∨ z.InRange slot.start) := by
  refine ⟨stableSlot_iff hP, ?_⟩
  intro contractor z daysAhead now reply slots hz hslots slot hslot
  exact keepsInstant_of_reads hz (getAvailableSlots_reads hslots hz slot hslot)

/-! ## London, when the clocks go back -/

def exampleChange : ℤ := 63928486800000000

theorem exampleSummer_valid : (3600000000 : ℤ).natAbs < day := by decide

def exampleLondonZone : Zone :=
  Zone.transition exampleChange 3600000000 0 exampleSummer_valid exampleOffset_valid

def exampleLondon : Platform where
  python := asciiPython
  zoneInfo := fun _ => some exampleLondonZone
  clockOf := exampleClock

def exampleLondoner : Dict := [("timezone", .text "Europe/London")]

theorem asciiPython_offsetsValid : OffsetsValid asciiPython := by
  intro s t h
  cases h

def exampleMorning (hours : ℕ) (offset : ℤ) : DateTime :=
  ⟨(day * 739848 + hour * hours) % limit, Nat.mod_lt _ limit_pos, some offset⟩

theorem exampleMorning_parsed :
    parseIsoDatetime asciiPython (py "2026-08-21T09:00:00Z") = some (exampleMorning 9 0) := by
  decide

theorem exampleMorning_offered :
    (getAvailableSlots exampleLondon exampleLondoner 1 exampleNow
      (.ok (some (exampleBody "2026-08-21T08:00:00Z" "2026-08-21T09:00:00Z")))).toOption.map
        (·.map Slot.start) =
      some [exampleMorning 10 3600000000, exampleMorning 11 3600000000,
        exampleMorning 12 3600000000] := by
  decide +kernel

/-- A clock in summer, and the slots of that day. -/
theorem exampleLondon_stable :
    StableSlot exampleLondon (py "2026-08-21T09:00:00Z") (some exampleLondoner) ∧
      ∃ slots, getAvailableSlots exampleLondon exampleLondoner 1 exampleNow
        (.ok (some (exampleBody "2026-08-21T08:00:00Z" "2026-08-21T09:00:00Z"))) = .ok slots ∧
        ∃ slot ∈ slots, KeepsInstant exampleLondon slot.startIso (some exampleLondoner) := by
  constructor
  · refine ((localizing_iff asciiPython_offsetsValid).1 _ _).mpr ?_
    intro t z ht hz
    obtain rfl := Option.some.inj (exampleMorning_parsed.symm.trans ht)
    obtain rfl := Option.some.inj hz
    decide
  · obtain ⟨slots, hslots, hstarts⟩ := Option.map_eq_some_iff.mp exampleMorning_offered
    have hslots := ok_of_toOption hslots
    obtain ⟨slot, hslot, hstart⟩ := List.exists_of_mem_map
      (hstarts ▸ List.mem_cons_self : exampleMorning 10 3600000000 ∈ slots.map Slot.start)
    refine ⟨slots, hslots, slot, hslot, ?_⟩
    refine ((localizing_iff asciiPython_offsetsValid).2 exampleLondoner exampleLondonZone 1
      exampleNow _ slots rfl hslots slot hslot).mpr (.inr ?_)
    rw [hstart]
    decide

/-- Half past one for the second time: the first pass keeps the instant, the second one moves it
an hour back. -/
theorem exampleLondon_twice :
    localizeSpokenSlot exampleLondon (py "2026-10-24T21:30:00-04:00") (some exampleLondoner) =
        some (py "2026-10-25T01:30:00+00:00") ∧
      localizeSpokenSlot exampleLondon (py "2026-10-25T01:30:00+00:00") (some exampleLondoner) =
        some (py "2026-10-25T01:30:00+01:00") := by
  decide

theorem exampleLondon_not_stable :
    ¬ StableSlot exampleLondon (py "2026-10-24T21:30:00-04:00") (some exampleLondoner) := by
  rintro ⟨out, hfirst, hagain, -⟩
  rw [exampleLondon_twice.1] at hfirst
  obtain rfl := Option.some.inj hfirst
  rw [exampleLondon_twice.2] at hagain
  exact absurd (Option.some.inj hagain) (by decide)

end HeyKevin.L14
