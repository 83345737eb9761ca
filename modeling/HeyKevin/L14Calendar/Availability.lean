import HeyKevin.Core.Fallible
import HeyKevin.L14Calendar.Zone
/-!
# Available slots

mirrors `get_available_slots` of app/services/calendar.py with what it reads:
the contractor's zone and business hours, the FreeBusy reply, and for each day
of the window the hours from opening to closing.

The zone database, `time.fromisoformat` and the reply of the endpoint come
from outside. Comparing a zone's reading with a naive value raises `TypeError`,
outside the blocks that turn exceptions into `GoogleCalendarUnavailableError`.

**Left out.** The request itself; the texts of a slot that are not ISO 8601.

Line numbers are those of app/services/calendar.py.
-/
namespace HeyKevin.L14

open HeyKevin.Core L1 L1.Text L1.Datetime

def hour : ℕ := 3600000000

theorem hour_pos : 0 < hour := by norm_num [hour]

def maxDaysAhead : ℤ := 14

def maxReturnedSlots : ℕ := 20

def maxSlotsPerDay : ℕ := 3

/-- A `datetime.time`. -/
structure Clock where
  micros : ℕ
  inDay : micros < day
  offset : Option ℤ

/-- `a >= b` of two times; `none` is its `TypeError`.
mirrors CPython `time_richcompare` -/
def Clock.ge? (a b : Clock) : Option Bool :=
  match a.offset, b.offset with
  | none, none => some (decide (b.micros ≤ a.micros))
  | some x, some y =>
    if x = y then some (decide (b.micros ≤ a.micros))
    else
      let seconds (t : Clock) (o : ℤ) : ℤ := t.micros / 1000000 - o / 1000000
      some (decide (seconds b y < seconds a x ∨
        seconds b y = seconds a x ∧ b.micros % 1000000 ≤ a.micros % 1000000))
  | _, _ => none

structure Platform where
  python : Python
  /-- `ZoneInfo(name)`; `none` where it raises. -/
  zoneInfo : Str → Option Zone
  /-- `time.fromisoformat(s)`; `none` where it raises. -/
  clockOf : Str → Option Clock

inductive Failure
  /-- `GoogleCalendarUnavailableError` -/
  | unavailable
  | typeError
  | overflowError
deriving DecidableEq

inductive Reply
  | noToken
  | refused
  /-- A reply with status 200, and its body where it is JSON. -/
  | ok (body : Option Value)

structure Busy where
  start : DateTime
  finish : DateTime
deriving DecidableEq

structure Slot where
  start : DateTime
  finish : DateTime
deriving DecidableEq

def Slot.startIso (s : Slot) : Str := isoformat s.start
def Slot.endIso (s : Slot) : Str := isoformat s.finish

/-! ## Configuration -/

/-- `contractor.get(field) or default`, where it is a string. -/
def textOr (contractor : Dict) (field : String) (fallback : String) : Option Str :=
  let v := contractor.get field
  if v.truthy then
    match v with
    | .str s => some s
    | _ => none
  else some (py fallback)

structure Configuration where
  zone : Zone
  opening : Clock
  closing : Clock

/-- mirrors 832-850; `none` where it raises -/
def calendarConfiguration (E : Platform) (contractor : Dict) : Option Configuration := do
  let timezoneName ← textOr contractor "timezone" "UTC"
  let startValue ← textOr contractor "business_hours_start" "09:00"
  let endValue ← textOr contractor "business_hours_end" "17:00"
  let zone ← E.zoneInfo timezoneName
  let opening ← E.clockOf startValue
  let closing ← E.clockOf endValue
  if opening.ge? closing = some false then some ⟨zone, opening, closing⟩ else none

/-! ## Busy intervals -/

/-- `s.replace("Z", "+00:00")` -/
def replaceZulu (s : Str) : Str := s.flatMap fun c => if c.val = 0x5a then py "+00:00" else [c]

/-- `datetime.fromisoformat(period[field].replace("Z", "+00:00"))` -/
def readBound (P : Python) (period : Dict) (field : String) : Option DateTime :=
  match period.get field with
  | .str s => fromisoformatText P (replaceZulu s)
  | _ => none

def readBusy (P : Python) : Value → Option Busy
  | .dict period => do
    let start ← readBound P period "start"
    let finish ← readBound P period "end"
    some ⟨start, finish⟩
  | _ => none

/-- mirrors 853-878; `none` where it raises, which
the caller turns into `GoogleCalendarUnavailableError`, as it is where the calendar has errors -/
def busyIntervals (P : Python) (body : Value) : Option (List Busy) :=
  match body with
  | .dict data =>
    match Dict.get data "calendars" with
    | .dict calendars =>
      match Dict.get calendars "primary" with
      | .dict primary =>
        if (Dict.get primary "errors").truthy then none
        else
          match Dict.get primary "busy" with
          | .list periods => periods.mapM (readBusy P)
          | _ => none
      | _ => none
    | _ => none
  | _ => none

/-! ## Slots -/

/-- `a < b` of an aware value and any other -/
def before (a : ℤ) (b : DateTime) : Except Failure Bool :=
  match b.offset with
  | some _ => .ok (decide (a < b.instant))
  | none => .error .typeError

/-- `a > b` of an aware value and any other -/
def behind (a : ℤ) (b : DateTime) : Except Failure Bool :=
  match b.offset with
  | some _ => .ok (decide (b.instant < a))
  | none => .error .typeError

/-- `any(slot_start < b_end and slot_end > b_start for b_start, b_end in busy)` -/
def isBusy (slot : Slot) : List Busy → Except Failure Bool
  | [] => .ok false
  | b :: busy => do
    let starts ← before slot.start.instant b.finish
    if starts then
      let ends ← behind slot.finish.instant b.start
      if ends then .ok true else isBusy slot busy
    else isBusy slot busy

def reading (z : Zone) (micros : ℕ) : DateTime :=
  ⟨micros % limit, Nat.mod_lt _ limit_pos, some (z.utcoffset (micros % limit : ℕ) false)⟩

def slotAt (z : Zone) (micros : ℕ) : Slot := ⟨reading z micros, reading z (micros + hour)⟩

/-- The loop over one day; `fuel` bounds its hours. -/
def daySlots (z : Zone) (busy : List Busy) (closing : ℕ) :
    ℕ → ℕ → ℕ → Except Failure (List Slot)
  | 0, _, _ => .ok []
  | fuel + 1, start, count =>
    if start + hour ≤ closing ∧ count < maxSlotsPerDay then do
      let taken ← isBusy (slotAt z start) busy
      let rest ← daySlots z busy closing fuel (start + hour) (if taken then count else count + 1)
      .ok (if taken then rest else slotAt z start :: rest)
    else .ok []

def dayFuel : ℕ := 25

def windowSlots (c : Configuration) (busy : List Busy) : ℕ → ℕ → Except Failure (List Slot)
  | 0, _ => .ok []
  | days + 1, localDay => do
    let slots ← daySlots c.zone busy (day * localDay + c.closing.micros) dayFuel
      (day * localDay + c.opening.micros) 0
    let rest ← windowSlots c busy days (localDay + 1)
    .ok (slots ++ rest)

/-- `max(1, min(days_ahead, MAX_DAYS_AHEAD))` -/
def windowDays (daysAhead : ℤ) : ℕ := (max 1 (min daysAhead maxDaysAhead)).toNat

/-- The day after the local date of `now`; `none` where the conversion, that date or the end of
the window leaves the range. -/
def firstDay (z : Zone) (now : DateTime) (days : ℕ) : Option ℕ := do
  let localNow ← z.astimezone now
  let first := localNow.micros / day + 1
  if day * (first + days) < limit then some first else none

/-- mirrors 881-972 -/
def getAvailableSlots (E : Platform) (contractor : Dict) (daysAhead : ℤ) (now : DateTime)
    (reply : Reply) : Except Failure (List Slot) := do
  let c ← require (calendarConfiguration E contractor) Failure.unavailable
  let first ← require (firstDay c.zone now (windowDays daysAhead)) Failure.overflowError
  match reply with
  | .ok (some body) =>
    let busy ← require (busyIntervals E.python body) Failure.unavailable
    let available ← windowSlots c busy (windowDays daysAhead) first
    .ok (available.take maxReturnedSlots)
  | _ => .error .unavailable

end HeyKevin.L14
