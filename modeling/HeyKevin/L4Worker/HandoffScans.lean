import HeyKevin.Core.ChangingScan
import HeyKevin.L1Encoding.Text
import Mathlib.Data.List.Lex
import Mathlib.Order.Fin.Basic
/-!
# The scans for pending handoffs

`run_bounded_post_calls_once` and `run_pending_post_calls_once` of
app/services/post_call_handoff.py. Both list a page of pending handoffs behind
a cursor and hand each to `run_post_call_handoff`, whatever comes of it. The
first goes around when nothing is left behind the cursor, the second fills a
short page from the start.

The set of pending handoffs is another one at each query.

* `boundedScan_passes`, `pendingScan_passes`: one scan either comes to a
  handoff or moves towards it.
* `no_handoff_starved`: **no pending handoff is starved**, and no run hands one
  over twice.

Line numbers without a file are those of app/services/post_call_handoff.py.
-/
namespace HeyKevin.L4.PostCallHandoff

open HeyKevin.Core ChangingScan L1.Text

/-! ## The listings -/

structure Ids where
  all : Finset Str
  named : [] ∉ all

/-- `max(1, min(int(limit), 100))` -/
def boundedLimit (limit : ℤ) : ℤ := max 1 (min limit 100)

/-- `if start_after`: an empty cursor is none. -/
def given (startAfter : Option Str) : Option Str := startAfter.filter fun c => !c.isEmpty

/-- mirrors app/db/post_call_handoffs.py:464-488, over the identifiers of the
status at the time of the query -/
def listHandoffIds (ids : Ids) (limit : ℤ) (startAfter : Option Str) : List Str :=
  listing ids.all (boundedLimit limit).toNat (given startAfter)

structure Moments where
  pending : Ids
  pendingAgain : Ids
  inProgress : Ids
  inProgressAgain : Ids

/-! ## The bounded run -/

/-- mirrors 458-462 -/
def boundedScan (limit : ℤ) (first second : Ids) (cursor : Option Str) : List Str × Option Str :=
  let ids := listHandoffIds first limit cursor
  let ids := if ids = [] ∧ given cursor ≠ none then listHandoffIds second limit none else ids
  (ids, ids.getLast?)

structure Continuation where
  pending : Option Str
  in_progress : Option Str

/-- A run: the handoffs handed to `run_post_call_handoff`, those given to `claim_handoff`, and what
the next run goes on from. -/
structure Run (σ : Type) where
  handed : List Str
  claimed : List Str
  next : σ

/-- mirrors 450-477 -/
def runBoundedPostCallsOnce (m : Moments) (continuation : Continuation) : Run Continuation :=
  let (pending, pendingCursor) := boundedScan 1 m.pending m.pendingAgain continuation.pending
  let (inProgress, inProgressCursor) :=
    boundedScan 25 m.inProgress m.inProgressAgain continuation.in_progress
  ⟨pending, inProgress, ⟨pendingCursor, inProgressCursor⟩⟩

/-! ## The polling run -/

/-- `if sid not in pending_ids: pending_ids.append(sid)`, for each of `wrapIds` -/
def appendMissing (pendingIds wrapIds : List Str) : List Str :=
  wrapIds.foldl (fun ids sid => if sid ∈ ids then ids else ids ++ [sid]) pendingIds

/-- mirrors 384-400 -/
def pendingScan (limit : ℤ) (first second : Ids) (cursor : Option Str) : List Str × Option Str :=
  let pendingIds := listHandoffIds first (boundedLimit limit) cursor
  let pendingIds :=
    if (pendingIds.length : ℤ) < boundedLimit limit ∧ cursor ≠ none then
      appendMissing pendingIds
        (listHandoffIds second (boundedLimit limit - pendingIds.length) none)
    else pendingIds
  (pendingIds, pendingIds.getLast?)

/-- mirrors 381-409, with the
cursor of the process -/
def runPendingPostCallsOnce (limit : ℤ) (m : Moments) (pendingCursor : Option Str) :
    Run (Option Str) :=
  let (pending, cursor) := pendingScan limit m.pending m.pendingAgain pendingCursor
  ⟨pending, listHandoffIds m.inProgress (min (max (limit * 5) 50) 100) none, cursor⟩

/-! ## One scan -/

section

variable {ids first second : Ids} {limit : ℤ} {cursor : Option Str} {x : Str}

theorem boundedLimit_pos (limit : ℤ) : 0 < (boundedLimit limit).toNat := by
  unfold boundedLimit
  omega

theorem boundedLimit_idem (limit : ℤ) : boundedLimit (boundedLimit limit) = boundedLimit limit := by
  unfold boundedLimit
  omega

theorem given_of_mem (h : x ∈ ids.all) : given (some x) = some x := by
  cases x with
  | nil => exact absurd h ids.named
  | cons _ _ => rfl

theorem listHandoffIds_ne_nil (hx : x ∈ ids.all) (hafter : ∀ c ∈ given cursor, c < x) :
    listHandoffIds ids limit cursor ≠ [] :=
  listing_ne_nil (boundedLimit_pos limit) hx hafter

theorem nodup_listHandoffIds : (listHandoffIds ids limit cursor).Nodup := nodup_listing

theorem last_of_listing (hx : x ∈ ids.all) (hout : x ∉ listHandoffIds ids limit cursor)
    {last : Str} (hlast : last ∈ listHandoffIds ids limit cursor) :
    last ∈ ids.all ∧ (∀ c ∈ given cursor, c < last) ∧ ((∀ c ∈ given cursor, c < x) → last < x) :=
  ⟨(mem_of_mem_listing hlast).1, (mem_of_mem_listing hlast).2,
    fun hafter => lt_of_mem_listing hx hafter hout hlast⟩

/-- A scan that does not come to `x` moves the cursor towards it. -/
def Moves (first second : Ids) (x : Str) (cursor next : Option Str) : Prop :=
  ∃ last, given next = some last ∧ Passes first.all second.all x (given cursor) last

theorem moves_forward (hfirst : x ∈ first.all) (hout : x ∉ listHandoffIds first limit cursor)
    (hne : listHandoffIds first limit cursor ≠ []) :
    Moves first second x cursor (listHandoffIds first limit cursor).getLast? := by
  obtain ⟨last, hlast⟩ := Option.ne_none_iff_exists'.mp (mt List.getLast?_eq_none_iff.mp hne)
  obtain ⟨hin, hafter, hbefore⟩ := last_of_listing hfirst hout (List.mem_of_getLast? hlast)
  exact ⟨last, by rw [hlast, given_of_mem hin], .forward hin hafter hbefore⟩

theorem passed_of_not_mem {c : Str} (hfirst : x ∈ first.all) (hcursor : given cursor = some c)
    (hshort : (listHandoffIds first limit cursor).length < (boundedLimit limit).toNat)
    (hout : x ∉ listHandoffIds first limit cursor) : x ≤ c := by
  refine le_of_not_gt fun hlt => hout (mem_listing_of_short hshort hfirst fun c' hc' => ?_)
  rw [hcursor] at hc'
  cases hc'
  exact hlt

theorem around_of_last {c last : Str} (hsecond : x ∈ second.all) (hcursor : given cursor = some c)
    (hpassed : x ≤ c) (hout : x ∉ listHandoffIds second limit none)
    (hlast : last ∈ listHandoffIds second limit none) :
    given (some last) = some last ∧ Passes first.all second.all x (given cursor) last := by
  obtain ⟨hin, -, hbefore⟩ := last_of_listing hsecond hout hlast
  refine ⟨given_of_mem hin, ?_⟩
  rw [hcursor]
  exact .around hpassed hin (hbefore fun _ hnone => by cases hnone)

theorem boundedScan_passes (limit : ℤ) (cursor : Option Str) (hfirst : x ∈ first.all)
    (hsecond : x ∈ second.all) :
    x ∈ (boundedScan limit first second cursor).1 ∨
      Moves first second x cursor (boundedScan limit first second cursor).2 := by
  unfold boundedScan
  simp only
  split
  · rename_i haround
    obtain ⟨c, hcursor⟩ := Option.ne_none_iff_exists'.mp haround.2
    have hpassed : x ≤ c := passed_of_not_mem hfirst hcursor
      (by rw [haround.1]; exact boundedLimit_pos limit) (by rw [haround.1]; exact List.not_mem_nil)
    by_cases hin : x ∈ listHandoffIds second limit none
    · exact .inl hin
    · have hne : listHandoffIds second limit none ≠ [] :=
        listHandoffIds_ne_nil hsecond fun _ hnone => by cases hnone
      obtain ⟨last, hlast⟩ := Option.ne_none_iff_exists'.mp (mt List.getLast?_eq_none_iff.mp hne)
      refine .inr ⟨last, ?_⟩
      rw [hlast]
      exact around_of_last hsecond hcursor hpassed hin (List.mem_of_getLast? hlast)
  · rename_i hforward
    by_cases hin : x ∈ listHandoffIds first limit cursor
    · exact .inl hin
    · refine .inr (moves_forward hfirst hin fun hnil => hforward ⟨hnil, fun hnone => ?_⟩)
      have hafter : ∀ c ∈ given cursor, c < x := by
        rw [hnone]
        exact fun _ hc => by cases hc
      exact absurd hnil (listHandoffIds_ne_nil hfirst hafter)

theorem mem_appendMissing {pendingIds wrapIds : List Str} {i : Str} :
    i ∈ appendMissing pendingIds wrapIds ↔ i ∈ pendingIds ∨ i ∈ wrapIds := by
  unfold appendMissing
  induction wrapIds generalizing pendingIds with
  | nil => simp
  | cons sid wrapIds ih =>
    rw [List.foldl_cons, ih, List.mem_cons]
    split
    · rename_i hin
      refine ⟨fun h => h.imp_right .inr, ?_⟩
      rintro (h | rfl | h)
      · exact .inl h
      · exact .inl hin
      · exact .inr h
    · rw [List.mem_append, List.mem_singleton, or_assoc]

theorem nodup_appendMissing {pendingIds wrapIds : List Str} (h : pendingIds.Nodup) :
    (appendMissing pendingIds wrapIds).Nodup := by
  unfold appendMissing
  induction wrapIds generalizing pendingIds with
  | nil => exact h
  | cons sid wrapIds ih =>
    rw [List.foldl_cons]
    split
    · exact ih h
    · rename_i hout
      exact ih (h.append (List.nodup_singleton sid) (List.disjoint_singleton.mpr hout))

theorem appendMissing_eq {pendingIds wrapIds : List Str} (hwrap : wrapIds.Nodup)
    (hnew : ∀ i ∈ wrapIds, i ∉ pendingIds) :
    appendMissing pendingIds wrapIds = pendingIds ++ wrapIds := by
  unfold appendMissing
  induction wrapIds generalizing pendingIds with
  | nil => exact (List.append_nil _).symm
  | cons sid wrapIds ih =>
    obtain ⟨hout, hwrap⟩ := List.nodup_cons.mp hwrap
    rw [List.foldl_cons, if_neg (hnew sid List.mem_cons_self), ih hwrap, List.append_assoc,
      List.singleton_append]
    intro i hi
    rw [List.mem_append, List.mem_singleton, not_or]
    exact ⟨hnew i (List.mem_cons_of_mem _ hi), fun heq => hout (heq ▸ hi)⟩

theorem pendingScan_passes (limit : ℤ) (cursor : Option Str) (hfirst : x ∈ first.all)
    (hsecond : x ∈ second.all) :
    x ∈ (pendingScan limit first second cursor).1 ∨
      Moves first second x cursor (pendingScan limit first second cursor).2 := by
  unfold pendingScan
  simp only
  by_cases hin : x ∈ listHandoffIds first (boundedLimit limit) cursor
  · left
    split
    · exact mem_appendMissing.mpr (.inl hin)
    · exact hin
  · have hshort : (listHandoffIds first (boundedLimit limit) cursor).length <
        (boundedLimit (boundedLimit limit)).toNat → ∃ c, given cursor = some c ∧ x ≤ c := by
      intro hlength
      cases hcursor : given cursor with
      | none =>
        refine absurd (mem_listing_of_short hlength hfirst fun c hc => ?_) hin
        rw [hcursor] at hc
        cases hc
      | some c => exact ⟨c, rfl, passed_of_not_mem hfirst hcursor hlength hin⟩
    rw [boundedLimit_idem] at hshort
    split
    · rename_i hfill
      obtain ⟨c, hcursor, hpassed⟩ := hshort (by omega)
      generalize hwrap : listHandoffIds second _ none = wrapIds
      by_cases hagain : x ∈ wrapIds
      · exact .inl (mem_appendMissing.mpr (.inr hagain))
      · right
        rw [← hwrap] at hagain
        -- the wrap stays before `x`, so none of it was listed behind the cursor
        have hbefore : ∀ i ∈ wrapIds, i < x := by
          intro i hi
          rw [← hwrap] at hi
          exact (last_of_listing hsecond hagain hi).2.2 fun _ hnone => by cases hnone
        have hnew : ∀ i ∈ wrapIds, i ∉ listHandoffIds first (boundedLimit limit) cursor := by
          intro i hi hlisted
          have hafter := (mem_of_mem_listing hlisted).2 c hcursor
          exact absurd ((hbefore i hi).trans_le hpassed) (not_lt.mpr hafter.le)
        have hne : wrapIds ≠ [] := by
          rw [← hwrap]
          exact listHandoffIds_ne_nil hsecond fun _ hnone => by cases hnone
        obtain ⟨last, hlast⟩ := Option.ne_none_iff_exists'.mp (mt List.getLast?_eq_none_iff.mp hne)
        refine ⟨last, ?_⟩
        rw [appendMissing_eq (by rw [← hwrap]; exact nodup_listHandoffIds) hnew,
          List.getLast?_append_of_ne_nil _ hne, hlast]
        refine around_of_last hsecond hcursor hpassed hagain ?_
        rw [hwrap]
        exact List.mem_of_getLast? hlast
    · rename_i hforward
      refine .inr (moves_forward hfirst hin fun hnil => hforward ⟨?_, fun hnone => ?_⟩)
      · rw [hnil]
        have hpos := boundedLimit_pos limit
        simp only [List.length_nil]
        omega
      · have hafter : ∀ c ∈ given cursor, c < x := by
          rw [hnone]
          exact fun _ hc => by cases hc
        exact absurd hnil (listHandoffIds_ne_nil hfirst hafter)

end

/-! ## Runs -/

def threaded {σ : Type} (run : Moments → σ → Run σ) (seen : ℕ → Moments) (start : σ) : ℕ → σ
  | 0 => start
  | k + 1 => (run (seen k) (threaded run seen start k)).next

/-- The `k`th run. -/
def runAt {σ : Type} (run : Moments → σ → Run σ) (seen : ℕ → Moments) (start : σ) (k : ℕ) : Run σ :=
  run (seen k) (threaded run seen start k)

/-- The additions to the pending handoffs over `n` runs. -/
def additions (seen : ℕ → Moments) (n : ℕ) : ℕ :=
  added (fun k => (seen k).pending.all) (fun k => (seen k).pendingAgain.all) n

theorem handed_within {σ : Type} {run : Moments → σ → Run σ} (cursorOf : σ → Option Str)
    (hrun : ∀ m s x, x ∈ m.pending.all → x ∈ m.pendingAgain.all → x ∈ (run m s).handed ∨
      Moves m.pending m.pendingAgain x (cursorOf s) (cursorOf (run m s).next))
    {seen : ℕ → Moments} {x : Str} {n : ℕ}
    (hstays : ∀ k < n, x ∈ (seen k).pending.all ∧ x ∈ (seen k).pendingAgain.all)
    (hn : ((seen 0).pending.all.erase x).card + additions seen n < n) (start : σ) :
    ∃ k < n, x ∈ (runAt run seen start k).handed := by
  have hfirst : x ∈ (seen 0).pending.all := (hstays 0 (by omega)).1
  have hpos : 0 < (seen 0).pending.all.card := Finset.card_pos.mpr ⟨x, hfirst⟩
  rw [Finset.card_erase_of_mem hfirst, additions] at hn
  exact examined_within (fun k => given (cursorOf (threaded run seen start k))) hfirst
    (fun k hk => hrun (seen k) _ x (hstays k hk).1 (hstays k hk).2) (by omega)

/-- **No pending handoff is starved**: while it stays pending, it is handed over within as many runs
as there are others and additions, and two more, from any cursor on; and no run hands a handoff
over twice. -/
theorem no_handoff_starved (seen : ℕ → Moments) (continuation : Continuation) (limit : ℤ)
    (pendingCursor : Option Str) :
    (∀ x m n, n = ((seen 0).pending.all.erase x).card + m + 2 → additions seen n ≤ m →
      (∀ k < n, x ∈ (seen k).pending.all ∧ x ∈ (seen k).pendingAgain.all) →
      (∃ k < n, x ∈ (runAt runBoundedPostCallsOnce seen continuation k).handed) ∧
      ∃ k < n, x ∈ (runAt (runPendingPostCallsOnce limit) seen pendingCursor k).handed) ∧
    ∀ k, (runAt runBoundedPostCallsOnce seen continuation k).handed.Nodup ∧
      (runAt (runPendingPostCallsOnce limit) seen pendingCursor k).handed.Nodup := by
  constructor
  · intro x m n hn hadded hstays
    constructor
    · exact handed_within Continuation.pending
        (fun m s x hfirst hsecond => boundedScan_passes 1 s.pending hfirst hsecond) hstays
        (by omega) continuation
    · exact handed_within id
        (fun m s x hfirst hsecond => pendingScan_passes limit s hfirst hsecond) hstays
        (by omega) pendingCursor
  · intro k
    constructor
    · change (boundedScan 1 _ _ _).1.Nodup
      unfold boundedScan
      simp only
      split
      · exact nodup_listHandoffIds
      · exact nodup_listHandoffIds
    · change (pendingScan limit _ _ _).1.Nodup
      unfold pendingScan
      simp only
      split
      · exact nodup_appendMissing nodup_listHandoffIds
      · exact nodup_listHandoffIds

def twoIds : Ids where
  all := {py "CAa", py "CAb"}
  named := by decide

/-- Nothing is added, and the cursor names a handoff that is gone. -/
theorem no_handoff_starved_two :
    ∃ k < 3, py "CAa" ∈ (runAt runBoundedPostCallsOnce
      (fun _ => ⟨twoIds, twoIds, twoIds, twoIds⟩) ⟨some (py "CAaa"), none⟩ k).handed :=
  (((no_handoff_starved (fun _ => ⟨twoIds, twoIds, twoIds, twoIds⟩) ⟨some (py "CAaa"), none⟩ 10
    none).1 (py "CAa") 0 3 (by decide) (by simp [additions, added]) fun _ _ => by decide)).1

end HeyKevin.L4.PostCallHandoff
