import HeyKevin.Core.FirstFew
import HeyKevin.L14Calendar.SpokenSlot
/-!
# The slots on offer

Whether what is offered is real, free and complete. The loop steps through
wall clock readings; the calendar and the clock of the world go by instants.
On a day when the zone changes its offset between opening and closing, an hour
of readings is no hour.

* `steps_spaced`: under `Steady`, the hours of the window follow each other as instants.
* `offered_right`: **then everything offered is as it should be**, for any busy intervals.
* `steady_of_offered`: a step that no hour is, or that overlaps an earlier one, is
  on offer where the calendar is busy until it begins.
* `offers_iff`: so `Steady` is exactly what it takes.
-/
namespace HeyKevin.L14

open HeyKevin.Core L1 L1.Text L1.Datetime

/-! ## What should hold of them -/

/-- The readings of a local day at which an hourly step starts. -/
def Configuration.stepsOn (c : Configuration) (localDay : ℕ) : List ℕ :=
  hourSteps (day * localDay + c.opening.micros) (day * localDay + c.closing.micros)

def Slot.onDay (localDay : ℕ) (s : Slot) : Bool := s.start.micros / day = localDay

def Slot.earlier (reading : ℕ) (s : Slot) : Bool := decide (s.start.micros < reading)

/-- The slot begins on this local day before that reading. -/
def Slot.earlierOn (localDay reading : ℕ) (s : Slot) : Bool := s.onDay localDay && s.earlier reading

def Slot.meets (s : Slot) (b : Busy) : Prop :=
  max s.start.instant b.start.instant < min s.finish.instant b.finish.instant

structure Right (P : Python) (c : Configuration) (now : DateTime) (days first : ℕ)
    (busy : List Busy) (slots : List Slot) : Prop where
  /-- The two texts name instants an hour apart. -/
  hourLong : ∀ s ∈ slots, ∃ i, Names P s.startIso i ∧ Names P s.endIso (i + hour)
  /-- The slot is within the business hours of its local day. -/
  inHours : ∀ s ∈ slots, ∃ k < days, s.onDay (first + k) = true ∧
    day * (first + k) + c.opening.micros ≤ s.start.micros ∧
    s.finish.micros ≤ day * (first + k) + c.closing.micros
  /-- It meets no busy interval of positive length. -/
  free : ∀ s ∈ slots, ∀ b ∈ busy, b.start.instant < b.finish.instant → ¬ s.meets b
  future : ∀ s ∈ slots, now.instant < s.start.instant
  /-- One after the other, without overlapping. -/
  increasing : slots.Pairwise fun s t => s.start.instant < t.start.instant
  disjoint : slots.Pairwise fun s t => s.finish.instant ≤ t.start.instant
  perDay : ∀ n, slots.countP (Slot.onDay n) ≤ maxSlotsPerDay
  total : slots.length ≤ maxReturnedSlots
  /-- A free step is offered, unless three earlier ones of its day are, or twenty earlier ones. -/
  complete : ∀ k < days, ∀ w ∈ c.stepsOn (first + k),
    (∀ b ∈ busy, (slotAt c.zone w).finish.instant ≤ b.start.instant ∨
      b.finish.instant ≤ (slotAt c.zone w).start.instant) →
    slotAt c.zone w ∈ slots ∨
      maxSlotsPerDay ≤ slots.countP (Slot.earlierOn (first + k) w) ∨
      maxReturnedSlots ≤ slots.countP (Slot.earlier w)

def Zone.at (z : Zone) (w : ℕ) : ℤ := w - z.utcoffset w false

/-- The zone keeps its offset through each hourly step, and never changes it so much that a later
day's step starts before an earlier one has ended, or is not after now. -/
structure Steady (c : Configuration) (now : DateTime) (days first : ℕ) : Prop where
  hours : ∀ k < days, ∀ w ∈ c.stepsOn (first + k),
    c.zone.utcoffset w false = c.zone.utcoffset (w + hour : ℕ) false
  order : ∀ j k, j < k → k < days → ∀ v ∈ c.stepsOn (first + j), ∀ w ∈ c.stepsOn (first + k),
    c.zone.at (v + hour) ≤ c.zone.at w
  future : ∀ k < days, ∀ w ∈ c.stepsOn (first + k), now.instant < c.zone.at w

section

variable {P : Python} {c : Configuration} {now : DateTime} {days first : ℕ} {busy : List Busy}

/-! ## Steps -/

theorem mem_stepsOn {n w : ℕ} : w ∈ c.stepsOn n ↔ ∃ i, w = day * n + c.opening.micros + hour * i ∧
    w + hour ≤ day * n + c.closing.micros := by
  have hpos := hour_pos
  unfold Configuration.stepsOn hourSteps stepsBy
  rw [List.mem_map]
  constructor
  · rintro ⟨i, hi, rfl⟩
    rw [List.mem_range, Nat.lt_iff_add_one_le, Nat.le_div_iff_mul_le hpos, Nat.add_one_mul,
      Nat.mul_comm] at hi
    exact ⟨i, rfl, by omega⟩
  · rintro ⟨i, rfl, hfits⟩
    refine ⟨i, ?_, rfl⟩
    rw [List.mem_range, Nat.lt_iff_add_one_le, Nat.le_div_iff_mul_le hpos, Nat.add_one_mul,
      Nat.mul_comm]
    omega

theorem stepsOn_bounds {n w : ℕ} (h : w ∈ c.stepsOn n) :
    day * n + c.opening.micros ≤ w ∧ w + hour ≤ day * n + c.closing.micros ∧
      w + hour < day * (n + 1) ∧ w / day = n := by
  obtain ⟨i, hi, hfits⟩ := mem_stepsOn.mp h
  have hclosing := c.closing.inDay
  have hpos := hour_pos
  have hnext : day * (n + 1) = day * n + day := Nat.mul_add_one _ _
  have hlow : day * n + c.opening.micros ≤ w := by
    rw [hi]
    exact Nat.le_add_right _ _
  refine ⟨hlow, hfits, by omega, ?_⟩
  refine Nat.div_eq_of_lt_le ?_ ?_
  · rw [Nat.mul_comm]
    omega
  · rw [Nat.mul_comm]
    omega

theorem stepsOn_sorted (n : ℕ) : (c.stepsOn n).Pairwise (· < ·) := by
  unfold Configuration.stepsOn hourSteps stepsBy
  rw [List.pairwise_map]
  refine List.pairwise_lt_range.imp fun {i j} hij => ?_
  exact Nat.add_lt_add_left ((Nat.mul_lt_mul_left hour_pos).mpr hij) _

theorem offset_opening {n w : ℕ} (hw : w ∈ c.stepsOn n)
    (h : ∀ v ∈ c.stepsOn n, v < w →
      c.zone.utcoffset v false = c.zone.utcoffset (v + hour : ℕ) false) :
    c.zone.utcoffset w false = c.zone.utcoffset (day * n + c.opening.micros : ℕ) false := by
  obtain ⟨i, rfl, hfits⟩ := mem_stepsOn.mp hw
  have hpos := hour_pos
  induction i with
  | zero => rw [Nat.mul_zero, Nat.add_zero]
  | succ i ih =>
    rw [Nat.mul_add_one, ← Nat.add_assoc] at hfits h ⊢
    have hstep : day * n + c.opening.micros + hour * i ∈ c.stepsOn n :=
      mem_stepsOn.mpr ⟨i, rfl, by omega⟩
    rw [← h _ hstep (by omega)]
    exact ih hstep (fun v hv hlt => h v hv (by omega)) (by omega)

theorem stepsOn_spaced {n v w : ℕ} (hv : v ∈ c.stepsOn n) (hw : w ∈ c.stepsOn n) (hlt : v < w)
    (h : ∀ u ∈ c.stepsOn n, u < w →
      c.zone.utcoffset u false = c.zone.utcoffset (u + hour : ℕ) false) :
    c.zone.at v + hour ≤ c.zone.at w := by
  have hoffset : c.zone.utcoffset v false = c.zone.utcoffset w false :=
    (offset_opening hv fun u hu hlt' => h u hu (hlt'.trans hlt)).trans (offset_opening hw h).symm
  obtain ⟨i, hi, -⟩ := mem_stepsOn.mp hv
  obtain ⟨j, hj, -⟩ := mem_stepsOn.mp hw
  have hij : i < j := by
    by_contra hle
    have := Nat.mul_le_mul_left hour (not_lt.mp hle)
    omega
  have hstep : hour * (i + 1) ≤ hour * j := Nat.mul_le_mul_left hour hij
  rw [Nat.mul_add_one] at hstep
  unfold Zone.at
  rw [hoffset]
  omega

theorem at_add_hour {v : ℕ}
    (h : c.zone.utcoffset v false = c.zone.utcoffset (v + hour : ℕ) false) :
    c.zone.at (v + hour) = c.zone.at v + hour := by
  unfold Zone.at
  rw [← h]
  push_cast
  ring

def Configuration.steps (c : Configuration) (days first : ℕ) : List ℕ :=
  (List.range days).flatMap fun k => c.stepsOn (first + k)

theorem mem_steps {w : ℕ} : w ∈ c.steps days first ↔ ∃ k < days, w ∈ c.stepsOn (first + k) := by
  unfold Configuration.steps
  simp only [List.mem_flatMap, List.mem_range]

theorem stepsOn_lt {m n v w : ℕ} (hmn : m < n) (hv : v ∈ c.stepsOn m) (hw : w ∈ c.stepsOn n) :
    v + hour ≤ w := by
  have hv := (stepsOn_bounds hv).2.2.1
  have hw := (stepsOn_bounds hw).1
  have hnext : day * (m + 1) ≤ day * n := Nat.mul_le_mul_left day hmn
  omega

theorem steps_sorted (c : Configuration) (days first : ℕ) :
    (c.steps days first).Pairwise (· < ·) := by
  unfold Configuration.steps
  rw [List.pairwise_flatMap]
  refine ⟨fun k _ => stepsOn_sorted _, List.pairwise_lt_range.imp fun {j k} hjk v hv w hw => ?_⟩
  have hlater := stepsOn_lt (Nat.add_lt_add_left hjk first) hv hw
  have hpos := hour_pos
  omega

/-- **The hours of a steady window follow each other as instants.** -/
theorem steps_spaced (h : Steady c now days first) :
    (c.steps days first).Pairwise fun v w =>
      c.zone.at v < c.zone.at w ∧ c.zone.at (v + hour) ≤ c.zone.at w := by
  have hpos := hour_pos
  have hdays : ∀ k < days, (c.stepsOn (first + k)).Pairwise fun v w =>
      c.zone.at v < c.zone.at w ∧ c.zone.at (v + hour) ≤ c.zone.at w := by
    intro k hk
    refine List.Pairwise.imp_of_mem ?_ (stepsOn_sorted _)
    intro v w hv hw hlt
    have hspaced := stepsOn_spaced hv hw hlt fun u hu _ => h.hours k hk u hu
    rw [at_add_hour (h.hours k hk v hv)]
    omega
  unfold Configuration.steps
  rw [List.pairwise_flatMap]
  refine ⟨fun k hk => hdays k (List.mem_range.mp hk), ?_⟩
  refine List.Pairwise.imp_of_mem ?_ List.pairwise_lt_range
  intro j k hj hk hjk v hv w hw
  have horder := h.order j k hjk (List.mem_range.mp hk) v hv w hw
  rw [at_add_hour (h.hours j (List.mem_range.mp hj) v hv)] at horder ⊢
  omega

/-! ## Slots of a window in range -/

theorem reading_of_lt (z : Zone) {w : ℕ} (h : w < limit) :
    (reading z w).micros = w ∧ (reading z w).instant = z.at w := by
  have hmod : w % limit = w := Nat.mod_eq_of_lt h
  refine ⟨hmod, ?_⟩
  simp only [reading, DateTime.instant, Option.getD_some, hmod, Zone.at]

theorem stepsOn_inRange (hwindow : day * (first + days) < limit) {k w : ℕ} (hk : k < days)
    (hw : w ∈ c.stepsOn (first + k)) : w + hour < limit := by
  have hend := (stepsOn_bounds hw).2.2.1
  have hlast : day * (first + k + 1) ≤ day * (first + days) := Nat.mul_le_mul_left day (by omega)
  omega

theorem slotAt_start (hwindow : day * (first + days) < limit) {k w : ℕ} (hk : k < days)
    (hw : w ∈ c.stepsOn (first + k)) :
    (slotAt c.zone w).start.micros = w ∧ (slotAt c.zone w).start.instant = c.zone.at w := by
  have hrange := stepsOn_inRange hwindow hk hw
  exact reading_of_lt c.zone (by omega)

theorem slotAt_finish (hwindow : day * (first + days) < limit) {k w : ℕ} (hk : k < days)
    (hw : w ∈ c.stepsOn (first + k)) :
    (slotAt c.zone w).finish.micros = w + hour ∧
      (slotAt c.zone w).finish.instant = c.zone.at (w + hour) :=
  reading_of_lt c.zone (stepsOn_inRange hwindow hk hw)

theorem slotAt_onDay (hwindow : day * (first + days) < limit) {k w n : ℕ} (hk : k < days)
    (hw : w ∈ c.stepsOn (first + k)) : (slotAt c.zone w).onDay n = true ↔ first + k = n := by
  rw [Slot.onDay, (slotAt_start hwindow hk hw).1, (stepsOn_bounds hw).2.2.2, decide_eq_true_eq]

theorem free_iff {s : Slot} : s.free busy = true ↔
    ∀ b ∈ busy, s.finish.instant ≤ b.start.instant ∨ b.finish.instant ≤ s.start.instant := by
  simp only [Slot.free, Bool.not_eq_true', List.any_eq_false, Busy.blocks, Bool.and_eq_true,
    decide_eq_true_eq, not_and_or, not_lt]
  exact forall₂_congr fun b _ => Or.comm

theorem mem_offeredOn {n : ℕ} {s : Slot} (h : s ∈ offeredOn c busy n) :
    ∃ w ∈ c.stepsOn n, s = slotAt c.zone w ∧ s.free busy = true := by
  obtain ⟨hstep, hfree⟩ := List.mem_filter.mp (List.mem_of_mem_take h)
  obtain ⟨w, hw, rfl⟩ := List.mem_map.mp hstep
  exact ⟨w, hw, rfl, hfree⟩

theorem mem_offered {s : Slot} (h : s ∈ offered c busy days first) :
    ∃ k < days, ∃ w ∈ c.stepsOn (first + k), s = slotAt c.zone w ∧ s.free busy = true := by
  obtain ⟨k, hk, hs⟩ := List.mem_flatMap.mp (List.mem_of_mem_take h)
  obtain ⟨w, hw, hrest⟩ := mem_offeredOn hs
  exact ⟨k, List.mem_range.mp hk, w, hw, hrest⟩

theorem offeredIn_sublist :
    (offeredIn c busy days first).Sublist ((c.steps days first).map (slotAt c.zone)) := by
  unfold offeredIn Configuration.steps
  rw [List.map_flatMap]
  refine flatMap_sublist (fun k => ?_) _
  exact (List.take_sublist _ _).trans List.filter_sublist

theorem offeredIn_pairwise {r : Slot → Slot → Prop}
    (h : (c.steps days first).Pairwise fun v w => r (slotAt c.zone v) (slotAt c.zone w)) :
    (offeredIn c busy days first).Pairwise r :=
  (List.pairwise_map.mpr h).sublist offeredIn_sublist

theorem offeredIn_sorted (hwindow : day * (first + days) < limit) :
    (offeredIn c busy days first).Pairwise fun s t => s.start.micros < t.start.micros := by
  refine offeredIn_pairwise ((steps_sorted c days first).imp_of_mem ?_)
  intro v w hv hw hlt
  obtain ⟨j, hj, hv⟩ := mem_steps.mp hv
  obtain ⟨k, hk, hw⟩ := mem_steps.mp hw
  rw [(slotAt_start hwindow hj hv).1, (slotAt_start hwindow hk hw).1]
  exact hlt

theorem offeredIn_nodup (hwindow : day * (first + days) < limit) :
    (offeredIn c busy days first).Nodup := by
  refine (offeredIn_sorted hwindow).imp fun {s t} hlt heq => ?_
  rw [heq] at hlt
  exact Nat.lt_irrefl _ hlt

theorem offeredIn_onDay (hwindow : day * (first + days) < limit) (n : ℕ) :
    (offeredIn c busy days first).countP (Slot.onDay n) ≤ maxSlotsPerDay := by
  have hsubset : ∀ s ∈ (offeredIn c busy days first).filter (Slot.onDay n),
      s ∈ offeredOn c busy n := by
    intro s hs
    obtain ⟨hs, hn⟩ := List.mem_filter.mp hs
    obtain ⟨k, hk, hs⟩ := List.mem_flatMap.mp hs
    obtain ⟨w, hw, rfl, -⟩ := mem_offeredOn hs
    rw [← (slotAt_onDay hwindow (List.mem_range.mp hk) hw).mp hn]
    exact hs
  have hnodup : ((offeredIn c busy days first).filter (Slot.onDay n)).Nodup :=
    (offeredIn_nodup hwindow).filter _
  rw [List.countP_eq_length_filter]
  calc ((offeredIn c busy days first).filter (Slot.onDay n)).length
      ≤ (offeredOn c busy n).length := (hnodup.subperm hsubset).length_le
    _ ≤ maxSlotsPerDay := List.length_take_le _ _

/-- **Nothing free is left out**, but for the two bounds. -/
theorem offered_complete (hwindow : day * (first + days) < limit) {k w : ℕ} (hk : k < days)
    (hw : w ∈ c.stepsOn (first + k)) (hfree : (slotAt c.zone w).free busy = true) :
    slotAt c.zone w ∈ offered c busy days first ∨
      maxSlotsPerDay ≤ (offered c busy days first).countP (Slot.earlierOn (first + k) w) ∨
      maxReturnedSlots ≤ (offered c busy days first).countP (Slot.earlier w) := by
  have hsorted : (offeredIn c busy days first).Pairwise
      fun s t => s.start.micros < t.start.micros := offeredIn_sorted hwindow
  have hstart := (slotAt_start hwindow hk hw).1
  -- What does not come into the first twenty has them all before it.
  have htotal : ∀ s ∈ offeredIn c busy days first, s.start.micros ≤ w →
      s ∈ offered c busy days first ∨
        maxReturnedSlots ≤ (offered c busy days first).countP (Slot.earlier w) := by
    intro s hs hle
    rcases mem_take_or hsorted hs maxReturnedSlots with hin | ⟨hlength, hbefore⟩
    · exact .inl hin
    · refine .inr (le_of_eq_of_le hlength.symm ?_)
      refine countP_le_of_subset ((offeredIn_nodup hwindow).sublist (List.take_sublist _ _)) ?_
      intro t ht
      have hlt := hbefore t ht
      exact ⟨ht, decide_eq_true (by omega)⟩
  have hday : ((c.daySteps (first + k)).filter (Slot.free busy)).Pairwise
      fun s t => s.start.micros < t.start.micros := by
    refine List.Pairwise.filter _ (List.pairwise_map.mpr ((stepsOn_sorted _).imp_of_mem ?_))
    intro u v hu hv hlt
    rw [(slotAt_start hwindow hk hu).1, (slotAt_start hwindow hk hv).1]
    exact hlt
  have hoffered : ∀ s ∈ offeredOn c busy (first + k), s ∈ offeredIn c busy days first :=
    fun s hs => List.mem_flatMap.mpr ⟨k, List.mem_range.mpr hk, hs⟩
  have hmem : slotAt c.zone w ∈ (c.daySteps (first + k)).filter (Slot.free busy) :=
    List.mem_filter.mpr ⟨List.mem_map_of_mem hw, hfree⟩
  rcases mem_take_or hday hmem maxSlotsPerDay with hin | ⟨hlength, hbefore⟩
  · rcases htotal _ (hoffered _ hin) hstart.le with hin | htwenty
    · exact .inl hin
    · exact .inr (.inr htwenty)
  -- Three of its day come before it; either all of them are offered or twenty before one.
  have hbefore : ∀ s ∈ offeredOn c busy (first + k), s.start.micros < w := fun s hs => by
    rw [← hstart]
    exact hbefore s hs
  by_cases hall : ∀ s ∈ offeredOn c busy (first + k), s ∈ offered c busy days first
  · refine .inr (.inl (le_of_eq_of_le hlength.symm ?_))
    refine countP_le_of_subset ?_ fun s hs => ⟨hall s hs, ?_⟩
    · refine (hday.sublist (List.take_sublist _ _)).imp fun {s t} hlt heq => ?_
      rw [heq] at hlt
      exact Nat.lt_irrefl _ hlt
    · obtain ⟨v, hv, hs', -⟩ := mem_offeredOn hs
      have hon : s.onDay (first + k) = true := by
        rw [hs']
        exact (slotAt_onDay hwindow hk hv).mpr rfl
      rw [Slot.earlierOn, hon, Bool.true_and]
      exact decide_eq_true (hbefore s hs)
  · obtain ⟨s, hs⟩ := not_forall.mp hall
    obtain ⟨hs, hout⟩ := Classical.not_imp.mp hs
    exact .inr (.inr ((htotal s (hoffered s hs) (hbefore s hs).le).resolve_left hout))

/-- **In a steady window everything on offer is as it should be.** -/
theorem offered_right (hwindow : day * (first + days) < limit) (h : Steady c now days first) :
    Right P c now days first busy (offered c busy days first) := by
  have hspaced := steps_spaced h
  have hrange : ∀ s ∈ offered c busy days first, ∃ k < days, ∃ w ∈ c.stepsOn (first + k),
      s = slotAt c.zone w ∧ s.free busy = true := fun s hs => mem_offered hs
  have hinstants : (offeredIn c busy days first).Pairwise fun s t =>
      s.start.instant < t.start.instant ∧ s.finish.instant ≤ t.start.instant := by
    refine offeredIn_pairwise (hspaced.imp_of_mem ?_)
    intro v w hv hw hvw
    obtain ⟨j, hj, hv⟩ := mem_steps.mp hv
    obtain ⟨k, hk, hw⟩ := mem_steps.mp hw
    rw [(slotAt_start hwindow hj hv).2, (slotAt_finish hwindow hj hv).2,
      (slotAt_start hwindow hk hw).2]
    exact hvw
  have hinstants := hinstants.sublist (List.take_sublist maxReturnedSlots _)
  refine {
    hourLong := fun s hs => ?_
    inHours := fun s hs => ?_
    free := fun s hs b hb hpositive hmeets => ?_
    future := fun s hs => ?_
    increasing := hinstants.imp And.left
    disjoint := hinstants.imp And.right
    perDay := fun n => ?_
    total := List.length_take_le _ _
    complete := fun k hk w hw hfree => offered_complete hwindow hk hw (free_iff.mpr hfree) }
  · obtain ⟨k, hk, w, hw, rfl, -⟩ := hrange s hs
    refine ⟨c.zone.at w, (names_isoformat (reads_reading c.zone _).offsetValid rfl).mpr
      (slotAt_start hwindow hk hw).2, (names_isoformat (reads_reading c.zone _).offsetValid
        rfl).mpr ((slotAt_finish hwindow hk hw).2.trans ?_)⟩
    exact at_add_hour (h.hours k hk w hw)
  · obtain ⟨k, hk, w, hw, rfl, -⟩ := hrange s hs
    obtain ⟨hopening, hclosing, -⟩ := stepsOn_bounds hw
    refine ⟨k, hk, (slotAt_onDay hwindow hk hw).mpr rfl, ?_, ?_⟩
    · rw [(slotAt_start hwindow hk hw).1]
      exact hopening
    · rw [(slotAt_finish hwindow hk hw).1]
      exact hclosing
  · obtain ⟨k, hk, w, hw, rfl, hfree⟩ := hrange s hs
    obtain ⟨hlower, hupper⟩ := max_lt_iff.mp hmeets
    rcases free_iff.mp hfree b hb with hends | hstarts
    · exact absurd (hupper.trans_le (min_le_left _ _)) (not_lt.mpr hends)
    · exact absurd (hlower.trans_le (min_le_right _ _)) (not_lt.mpr hstarts)
  · obtain ⟨k, hk, w, hw, rfl, -⟩ := hrange s hs
    rw [(slotAt_start hwindow hk hw).2]
    exact h.future k hk w hw
  · exact ((List.take_sublist _ _).countP_le).trans (offeredIn_onDay hwindow n)

/-! ## A calendar that is busy until some time -/

def past : DateTime := ⟨0, limit_pos, some 0⟩

/-- Busy from the first time there is until `x`. -/
def busyUntil (x : DateTime) : List Busy := [⟨past, x⟩]

theorem free_busyUntil (hwindow : day * (first + days) < limit) (hfirst : 0 < first) {k w : ℕ}
    (hk : k < days) (hw : w ∈ c.stepsOn (first + k)) (x : DateTime) :
    (slotAt c.zone w).free (busyUntil x) = true ↔ x.instant ≤ c.zone.at w := by
  rw [free_iff, busyUntil, List.forall_mem_singleton, (slotAt_start hwindow hk hw).2,
    (slotAt_finish hwindow hk hw).2]
  -- Every step ends after that first time, whatever its offset.
  have hpast : ¬ c.zone.at (w + hour) ≤ past.instant := by
    have hvalid := c.zone.utcoffset_valid (w + hour : ℕ) false
    have hlow := (stepsOn_bounds hw).1
    have hday : day * 1 ≤ day * (first + k) := Nat.mul_le_mul_left day (by omega)
    have hpos := hour_pos
    have hzero : past.instant = 0 := rfl
    rw [hzero]
    unfold Zone.at
    omega
  exact or_iff_right hpast

/-- **What is offered then**: a step that starts within the next hour, where no earlier one of its
day does. Steps of no more than two earlier days can start that late. -/
theorem offered_busyUntil (hwindow : day * (first + days) < limit) (hfirst : 0 < first) {k w : ℕ}
    (hk : k < days) (hw : w ∈ c.stepsOn (first + k)) {x : DateTime}
    (hfree : x.instant ≤ c.zone.at w) (hsoon : c.zone.at w < x.instant + hour)
    (hday : ∀ v ∈ c.stepsOn (first + k), v < w → c.zone.at v < x.instant) :
    slotAt c.zone w ∈ offered c (busyUntil x) days first := by
  have hslots : ∀ s ∈ offered c (busyUntil x) days first, s.earlier w = true →
      ∃ j < k, s.onDay (first + j) = true ∧ k ≤ j + 2 := by
    intro s hs hearlier
    obtain ⟨j, hj, v, hv, rfl, hvfree⟩ := mem_offered hs
    rw [free_busyUntil hwindow hfirst hj hv] at hvfree
    have hlt : v < w := by
      rw [Slot.earlier, (slotAt_start hwindow hj hv).1] at hearlier
      exact of_decide_eq_true hearlier
    have hjk : j < k := by
      rcases Nat.lt_trichotomy j k with hjk | rfl | hkj
      · exact hjk
      · exact absurd (hday v hv hlt) (not_lt.mpr hvfree)
      · have hlater := stepsOn_lt (Nat.add_lt_add_left hkj first) hw hv
        have hpos := hour_pos
        omega
    refine ⟨j, hjk, (slotAt_onDay hwindow hj hv).mpr rfl, ?_⟩
    by_contra hfar
    have hgap : day * (first + j + 1) + day * 2 ≤ day * (first + k) := by
      rw [← Nat.mul_add]
      exact Nat.mul_le_mul_left day (by omega)
    have hvend := (stepsOn_bounds hv).2.2.1
    have hwstart := (stepsOn_bounds hw).1
    have hvvalid := c.zone.utcoffset_valid v false
    have hwvalid := c.zone.utcoffset_valid w false
    unfold Zone.at at hvfree hsoon
    omega
  have hearlier : (offered c (busyUntil x) days first).countP (Slot.earlier w) ≤
      maxSlotsPerDay + maxSlotsPerDay := by
    have honDay : ∀ n, (offered c (busyUntil x) days first).countP (Slot.onDay n) ≤
        maxSlotsPerDay := fun n =>
      ((List.take_sublist _ _).countP_le).trans (offeredIn_onDay hwindow n)
    refine (countP_le_add (q := Slot.onDay (first + k - 1)) (r := Slot.onDay (first + k - 2))
      ?_).trans (Nat.add_le_add (honDay _) (honDay _))
    intro s hs hs'
    obtain ⟨j, hjk, hon, hnear⟩ := hslots s hs hs'
    rcases Nat.lt_or_ge (j + 1) k with htwo | hone
    · right
      rwa [show first + k - 2 = first + j by omega]
    · left
      rwa [show first + k - 1 = first + j by omega]
  rcases offered_complete hwindow hk hw ((free_busyUntil hwindow hfirst hk hw x).mpr hfree) with
    hin | hthree | htwenty
  · exact hin
  · -- Earlier ones of its day are not free.
    obtain ⟨s, hs, hs'⟩ := List.countP_pos_iff.mp (Nat.lt_of_lt_of_le (by decide) hthree)
    rw [Slot.earlierOn, Bool.and_eq_true] at hs'
    obtain ⟨j, hjk, hon, -⟩ := hslots s hs hs'.2
    have hsame := of_decide_eq_true hs'.1
    have hother := of_decide_eq_true hon
    omega
  · have htwenty := htwenty.trans hearlier
    norm_num [maxReturnedSlots, maxSlotsPerDay] at htwenty

/-! ## Only a steady window -/

/-- What is offered is right whenever the calendar is busy until some time. -/
def RightAfter (P : Python) (c : Configuration) (now : DateTime) (days first : ℕ) : Prop :=
  ∀ x : DateTime, x.OffsetValid → x.offset.isSome = true →
    Right P c now days first (busyUntil x) (offered c (busyUntil x) days first)

theorem step_steady (hwindow : day * (first + days) < limit) (hfirst : 0 < first)
    (h : RightAfter P c now days first) {k : ℕ} (hk : k < days) (w : ℕ)
    (hw : w ∈ c.stepsOn (first + k)) :
    c.zone.utcoffset w false = c.zone.utcoffset (w + hour : ℕ) false ∧
      now.instant < c.zone.at w := by
  induction w using Nat.strong_induction_on with
  | _ w ih =>
    have hpos := hour_pos
    obtain ⟨hstart, hstartAt⟩ := slotAt_start hwindow hk hw
    have hright := h (slotAt c.zone w).start (reads_reading c.zone w).offsetValid rfl
    have hin : slotAt c.zone w ∈
        offered c (busyUntil (slotAt c.zone w).start) days first := by
      refine offered_busyUntil hwindow hfirst hk hw hstartAt.le (by omega) ?_
      intro v hv hlt
      have hspaced := stepsOn_spaced hv hw hlt fun u hu hlt' => (ih u hlt' hu).1
      omega
    constructor
    · obtain ⟨i, hi, hfinish⟩ := hright.hourLong _ hin
      have hi := (names_isoformat (reads_reading c.zone w).offsetValid rfl).mp hi
      have hfinish := (names_isoformat (reads_reading c.zone (w + hour)).offsetValid rfl).mp hfinish
      have hfinishAt := (slotAt_finish hwindow hk hw).2
      rw [slotAt] at hfinishAt hstartAt
      rw [hi] at hstartAt
      rw [hfinish, hstartAt] at hfinishAt
      unfold Zone.at at hfinishAt
      push_cast at hfinishAt ⊢
      omega
    · rw [← hstartAt]
      exact hright.future _ hin

theorem disjoint_readings (hwindow : day * (first + days) < limit)
    {slots : List Slot} (hslots : slots = offered c busy days first)
    (h : Right P c now days first busy slots) {s t : Slot} (hs : s ∈ slots) (ht : t ∈ slots)
    (hlt : s.start.micros < t.start.micros) : s.finish.instant ≤ t.start.instant := by
  have hsorted : slots.Pairwise fun s t => s.start.micros < t.start.micros := by
    rw [hslots]
    exact (offeredIn_sorted hwindow).sublist (List.take_sublist _ _)
  exact rel_of_key_lt (hsorted.and h.disjoint) hs ht hlt

/-- Two steps that overlap, or come in the wrong order, are both offered at some time, or the later
one with a step before the earlier one. -/
theorem order_steady (hwindow : day * (first + days) < limit) (hfirst : 0 < first)
    (h : RightAfter P c now days first) {j k v w : ℕ} (hjk : j < k) (hk : k < days)
    (hv : v ∈ c.stepsOn (first + j)) (hw : w ∈ c.stepsOn (first + k)) :
    c.zone.at (v + hour) ≤ c.zone.at w := by
  have hpos := hour_pos
  have hj : j < days := hjk.trans hk
  have hvw : v < w := by
    have hlater := stepsOn_lt (Nat.add_lt_add_left hjk first) hv hw
    omega
  have hlong : ∀ i < days, ∀ u ∈ c.stepsOn (first + i), c.zone.at (u + hour) = c.zone.at u + hour :=
    fun i hi u hu => at_add_hour (step_steady hwindow hfirst h hi u hu).1
  have hspaced : ∀ i < days, ∀ u ∈ c.stepsOn (first + i), ∀ u' ∈ c.stepsOn (first + i), u < u' →
      c.zone.at u + hour ≤ c.zone.at u' := fun i hi u hu u' hu' hlt =>
    stepsOn_spaced hu hu' hlt fun t ht _ => (step_steady hwindow hfirst h hi t ht).1
  obtain ⟨hvstart, hvstartAt⟩ := slotAt_start hwindow hj hv
  obtain ⟨hwstart, hwstartAt⟩ := slotAt_start hwindow hk hw
  rw [hlong j hj v hv]
  by_contra hoverlap
  rw [not_le] at hoverlap
  rcases le_or_gt (c.zone.at w) (c.zone.at v) with hle | hlt
  · -- Busy until `w` starts: `w` is offered, and `v` or something before it.
    have hright := h (slotAt c.zone w).start (reads_reading c.zone w).offsetValid rfl
    have hwin : slotAt c.zone w ∈ offered c (busyUntil (slotAt c.zone w).start) days first := by
      refine offered_busyUntil hwindow hfirst hk hw hwstartAt.le (by omega) ?_
      intro u hu hlt
      have hbefore := hspaced k hk u hu w hw hlt
      omega
    have hearlier : ∃ s ∈ offered c (busyUntil (slotAt c.zone w).start) days first,
        s.start.micros ≤ v := by
      have hvfree : (slotAt c.zone v).free (busyUntil (slotAt c.zone w).start) = true := by
        rw [free_busyUntil hwindow hfirst hj hv]
        omega
      rcases offered_complete hwindow hj hv hvfree with hin | hthree | htwenty
      · exact ⟨_, hin, hvstart.le⟩
      · obtain ⟨s, hs, hs'⟩ := List.countP_pos_iff.mp (Nat.lt_of_lt_of_le (by decide) hthree)
        rw [Slot.earlierOn, Bool.and_eq_true] at hs'
        exact ⟨s, hs, (of_decide_eq_true hs'.2).le⟩
      · obtain ⟨s, hs, hs'⟩ := List.countP_pos_iff.mp (Nat.lt_of_lt_of_le (by decide) htwenty)
        exact ⟨s, hs, (of_decide_eq_true hs').le⟩
    obtain ⟨s, hs, hsv⟩ := hearlier
    obtain ⟨i, hi, u, hu, rfl, hufree⟩ := mem_offered hs
    rw [free_busyUntil hwindow hfirst hi hu] at hufree
    have hapart := disjoint_readings hwindow rfl hright hs hwin (by omega)
    rw [(slotAt_finish hwindow hi hu).2, hlong i hi u hu, hwstartAt] at hapart
    omega
  · -- Busy until `v` starts: both are offered.
    have hright := h (slotAt c.zone v).start (reads_reading c.zone v).offsetValid rfl
    have hvin : slotAt c.zone v ∈ offered c (busyUntil (slotAt c.zone v).start) days first := by
      refine offered_busyUntil hwindow hfirst hj hv hvstartAt.le (by omega) ?_
      intro u hu hlt
      have hbefore := hspaced j hj u hu v hv hlt
      omega
    have hwin : slotAt c.zone w ∈ offered c (busyUntil (slotAt c.zone v).start) days first := by
      refine offered_busyUntil hwindow hfirst hk hw (by omega) (by omega) ?_
      intro u hu hlt
      have hbefore := hspaced k hk u hu w hw hlt
      omega
    have hapart := disjoint_readings hwindow rfl hright hvin hwin (by omega)
    rw [(slotAt_finish hwindow hj hv).2, hlong j hj v hv, hwstartAt] at hapart
    omega

/-- **A window where everything offered is right is steady.** -/
theorem steady_of_offered (hwindow : day * (first + days) < limit) (hfirst : 0 < first)
    (h : RightAfter P c now days first) : Steady c now days first where
  hours _ hk w hw := (step_steady hwindow hfirst h hk w hw).1
  order _ _ hjk hk _ hv _ hw := order_steady hwindow hfirst h hjk hk hv hw
  future _ hk w hw := (step_steady hwindow hfirst h hk w hw).2

end

/-! ## The endpoint's replies -/

/-- Every reply that lists busy intervals with offsets is answered with slots that are as they
should be. -/
def OffersRight (E : Platform) (contractor : Dict) (daysAhead : ℤ) (now : DateTime) : Prop :=
  ∀ c first body busy, calendarConfiguration E contractor = some c →
    firstDay c.zone now (windowDays daysAhead) = some first →
    busyIntervals E.python body = some busy → (∀ b ∈ busy, b.Aware) →
      ∃ slots, getAvailableSlots E contractor daysAhead now (.ok (some body)) = .ok slots ∧
        Right E.python c now (windowDays daysAhead) first busy slots

def bodyUntil (x : DateTime) : Value :=
  .dict [("calendars", .dict [("primary", .dict [("busy", .list
    [.dict [("start", .str (isoformat past)), ("end", .str (isoformat x))]])])])]

theorem busyIntervals_bodyUntil (P : Python) {x : DateTime} (hx : x.OffsetValid) :
    busyIntervals P (bodyUntil x) = some (busyUntil x) := by
  have hpast : past.OffsetValid := by
    intro o ho
    obtain rfl := Option.some.inj ho
    decide
  have hread : ∀ t : DateTime, t.OffsetValid → ∀ period field,
      Dict.get period field = .str (isoformat t) → readBound P period field = some t := by
    intro t ht period field hget
    rw [readBound, hget]
    simp only
    rw [replaceZulu_of_noZulu (noZulu_isoformat t), fromisoformatText_isoformat ht]
  have hperiod :
      readBusy P (.dict [("start", .str (isoformat past)), ("end", .str (isoformat x))]) =
        some ⟨past, x⟩ := by
    rw [readBusy, hread past hpast _ _ rfl, hread x hx _ _ rfl]
    rfl
  change [Value.dict [("start", .str (isoformat past)), ("end", .str (isoformat x))]].mapM
    (readBusy P) = _
  rw [List.mapM_cons, hperiod]
  rfl

theorem getAvailableSlots_eq {E : Platform} {contractor : Dict} {daysAhead : ℤ} {now : DateTime}
    {c : Configuration} {first : ℕ} {body : Value} {busy : List Busy}
    (hc : calendarConfiguration E contractor = some c)
    (hfirst : firstDay c.zone now (windowDays daysAhead) = some first)
    (hbusy : busyIntervals E.python body = some busy) (haware : ∀ b ∈ busy, b.Aware) :
    getAvailableSlots E contractor daysAhead now (.ok (some body)) =
      .ok (offered c busy (windowDays daysAhead) first) := by
  unfold getAvailableSlots
  simp only [hc, require, ok_bind, hfirst, hbusy]
  rw [windowSlots_eq c haware]
  rfl

theorem firstDay_bounds {z : Zone} {now : DateTime} {days first : ℕ}
    (h : firstDay z now days = some first) : 0 < first ∧ day * (first + days) < limit := by
  unfold firstDay at h
  obtain ⟨localNow, -, h⟩ := Option.bind_eq_some_iff.mp h
  simp only at h
  split at h
  · rename_i hwindow
    obtain rfl := Option.some.inj h
    exact ⟨Nat.succ_pos _, hwindow⟩
  · cases h

/-- **The slots on offer are real, free and complete**, whatever the calendar is busy with, exactly
where the zone is steady over the hours of the window. -/
theorem offers_iff (E : Platform) (contractor : Dict) (daysAhead : ℤ) (now : DateTime) :
    OffersRight E contractor daysAhead now ↔
      ∀ c first, calendarConfiguration E contractor = some c →
        firstDay c.zone now (windowDays daysAhead) = some first →
          Steady c now (windowDays daysAhead) first := by
  constructor
  · intro h c first hc hfirst
    obtain ⟨hpos, hwindow⟩ := firstDay_bounds hfirst
    refine steady_of_offered (P := E.python) hwindow hpos fun x hx hsome => ?_
    have haware : ∀ b ∈ busyUntil x, b.Aware :=
      List.forall_mem_singleton.mpr ⟨rfl, hsome⟩
    have hbusy := busyIntervals_bodyUntil E.python hx
    obtain ⟨slots, hslots, hright⟩ := h c first (bodyUntil x) (busyUntil x) hc hfirst hbusy haware
    rw [getAvailableSlots_eq hc hfirst hbusy haware] at hslots
    obtain rfl := Except.ok.inj hslots
    exact hright
  · intro h c first body busy hc hfirst hbusy haware
    exact ⟨_, getAvailableSlots_eq hc hfirst hbusy haware,
      offered_right (firstDay_bounds hfirst).2 (h c first hc hfirst)⟩

/-! ## A night in London, when the clocks go back -/

def exampleNightClock (s : Str) : Option Clock :=
  if s = py "00:00" then some ⟨0, by decide, none⟩
  else if s = py "05:00" then some ⟨18000000000, by decide, none⟩
  else none

def exampleNightPlatform : Platform where
  python := asciiPython
  zoneInfo := fun _ => some exampleLondonZone
  clockOf := exampleNightClock

def exampleNightContractor : Dict :=
  [("timezone", .text "Europe/London"), ("business_hours_start", .text "00:00"),
    ("business_hours_end", .text "05:00")]

def exampleNightConfiguration : Configuration :=
  ⟨exampleLondonZone, ⟨0, by decide, none⟩, ⟨18000000000, by decide, none⟩⟩

def exampleEve : DateTime := .ofMinutes 1065474000

def exampleFreeBody : Value :=
  .dict [("calendars", .dict [("primary", .dict [("busy", .list [])])])]

/-- The slot from one to two o'clock takes two hours. -/
theorem exampleNight_not_right :
    ¬ OffersRight exampleNightPlatform exampleNightContractor 1 exampleEve := by
  intro h
  have hc : calendarConfiguration exampleNightPlatform exampleNightContractor =
      some exampleNightConfiguration := rfl
  have hfirst : firstDay exampleNightConfiguration.zone exampleEve (windowDays 1) =
      some 739913 := by decide
  have hbusy : busyIntervals exampleNightPlatform.python exampleFreeBody = some [] := rfl
  have haware : ∀ b ∈ ([] : List Busy), b.Aware := List.forall_mem_nil _
  obtain ⟨slots, hslots, hright⟩ := h _ _ exampleFreeBody [] hc hfirst hbusy haware
  rw [getAvailableSlots_eq hc hfirst hbusy haware] at hslots
  obtain rfl := Except.ok.inj hslots
  have hin : slotAt exampleLondonZone (day * 739913 + hour) ∈
      offered exampleNightConfiguration [] (windowDays 1) 739913 := by decide
  obtain ⟨i, hstart, hfinish⟩ := hright.hourLong _ hin
  have hstart := (names_isoformat (reads_reading exampleLondonZone _).offsetValid rfl).mp hstart
  have hfinish := (names_isoformat (reads_reading exampleLondonZone _).offsetValid rfl).mp hfinish
  have htwo : (reading exampleLondonZone (day * 739913 + hour + hour)).instant =
      (reading exampleLondonZone (day * 739913 + hour)).instant + 2 * hour := by
    decide
  rw [hstart, hfinish] at htwo
  have hpos := hour_pos
  omega

end HeyKevin.L14
