import Mathlib.Data.List.Basic
import Mathlib.Data.List.Induction
import Mathlib.Order.Lattice
import Mathlib.Order.Monotone.Defs
/-!
# Sliding windows

A limiter that keeps the times it admitted: a call at `t` drops what is not
after `start t`, and is admitted if fewer than `limit` are left. `start` is
whatever the program computes as the beginning of the window, a function that
grows with its argument.

* `filter_bucket`: what is kept is what was admitted, as far as it still counts.
* `length_admitted_le`: times any two of which are in one window are admitted
  at most `limit` times.
* `admitted_after_refusal`: a refused caller is admitted once the window has
  passed a time that was kept.
-/
namespace HeyKevin.Core.SlidingWindow

variable {α : Type*} [LinearOrder α] (start : α → α) (limit : ℕ)

/-- What still counts at `t`. -/
def keep (t : α) (bucket : List α) : List α := bucket.filter fun e => start t < e

structure State (α : Type*) where
  bucket : List α
  admitted : List α

def admits (s : State α) (t : α) : Prop := (keep start t s.bucket).length < limit

instance (s : State α) (t : α) : Decidable (admits start limit s t) :=
  inferInstanceAs (Decidable (_ < _))

def advance (s : State α) (t : α) : State α :=
  if admits start limit s t then ⟨keep start t s.bucket ++ [t], s.admitted ++ [t]⟩
  else ⟨keep start t s.bucket, s.admitted⟩

def run (ts : List α) : State α := ts.foldl (advance start limit) ⟨[], []⟩

theorem run_concat (ts : List α) (t : α) :
    run start limit (ts ++ [t]) = advance start limit (run start limit ts) t := by
  rw [run, List.foldl_append, List.foldl_cons, List.foldl_nil, run]

variable {start limit}

theorem advance_of_admits {s : State α} {t : α} (h : admits start limit s t) :
    advance start limit s t = ⟨keep start t s.bucket ++ [t], s.admitted ++ [t]⟩ := if_pos h

theorem advance_of_not_admits {s : State α} {t : α} (h : ¬ admits start limit s t) :
    advance start limit s t = ⟨keep start t s.bucket, s.admitted⟩ := if_neg h

theorem mem_of_mem_admitted {ts : List α} {e : α} (h : e ∈ (run start limit ts).admitted) :
    e ∈ ts := by
  induction ts using List.reverseRecOn with
  | nil => cases h
  | append_singleton ts t ih =>
    rw [run_concat] at h
    by_cases ht : admits start limit (run start limit ts) t
    · rw [advance_of_admits ht] at h
      rcases List.mem_append.mp h with h | h
      · exact List.mem_append_left _ (ih h)
      · exact List.mem_append_right _ h
    · rw [advance_of_not_admits ht] at h
      exact List.mem_append_left _ (ih h)

theorem length_bucket_le (ts : List α) : (run start limit ts).bucket.length ≤ limit := by
  induction ts using List.reverseRecOn with
  | nil => exact Nat.zero_le _
  | append_singleton ts t ih =>
    rw [run_concat]
    by_cases ht : admits start limit (run start limit ts) t
    · rw [advance_of_admits ht, List.length_append, List.length_singleton]
      exact ht
    · rw [advance_of_not_admits ht]
      exact Nat.le_trans (List.length_filter_le _ _) ih

/-- Dropping what came before an earlier window changes nothing in a later one. -/
theorem filter_keep {t x : α} (h : start t ≤ x) (bucket : List α) :
    (keep start t bucket).filter (fun e => x < e) = bucket.filter fun e => x < e := by
  rw [keep, List.filter_filter]
  refine List.filter_congr fun e _ => ?_
  rw [Bool.and_eq_left_iff_imp]
  intro hx
  exact decide_eq_true (h.trans_lt (of_decide_eq_true hx))

/-- **What is kept is what was admitted**, from the last window on. -/
theorem filter_bucket {ts : List α} {x : α} (hx : ∀ t ∈ ts, start t ≤ x) :
    (run start limit ts).bucket.filter (fun e => x < e) =
      (run start limit ts).admitted.filter fun e => x < e := by
  induction ts using List.reverseRecOn with
  | nil => rfl
  | append_singleton ts t ih =>
    have hprev := ih fun u hu => hx u (List.mem_append_left _ hu)
    have ht := hx t (List.mem_append_right _ (List.mem_singleton_self t))
    rw [run_concat]
    by_cases hadmits : admits start limit (run start limit ts) t
    · rw [advance_of_admits hadmits]
      simp only [List.filter_append, filter_keep ht, hprev]
    · rw [advance_of_not_admits hadmits]
      simp only [filter_keep ht, hprev]

theorem length_admitted_le (hstart : Monotone start) {ts : List α} (hts : ts.Pairwise (· ≤ ·))
    {p : α → Bool} (hp : ∀ e ∈ ts, ∀ t ∈ ts, p e = true → p t = true → start t < e) :
    ((run start limit ts).admitted.filter p).length ≤ limit := by
  induction ts using List.reverseRecOn with
  | nil => exact Nat.zero_le _
  | append_singleton ts t ih =>
    obtain ⟨hsorted, -, hlast⟩ := List.pairwise_append.mp hts
    have ht : t ∈ ts ++ [t] := List.mem_append_right _ (List.mem_singleton_self t)
    have hbefore : ∀ u ∈ ts, u ≤ t := fun u hu => hlast u hu t (List.mem_singleton_self t)
    have hprev := ih hsorted fun e he u hu =>
      hp e (List.mem_append_left _ he) u (List.mem_append_left _ hu)
    rw [run_concat]
    by_cases hadmits : admits start limit (run start limit ts) t
    · rw [advance_of_admits hadmits, List.filter_append]
      by_cases hpt : p t = true
      · -- the earlier ones of `p` are all in the window of `t`, whose entries were counted
        have hcount : ((run start limit ts).admitted.filter p).length < limit := by
          have hkept : ((run start limit ts).admitted.filter p).length ≤
              ((run start limit ts).admitted.filter fun e => start t < e).length := by
            refine List.Sublist.length_le ?_
            have hall : (run start limit ts).admitted.filter p =
                ((run start limit ts).admitted.filter fun e => start t < e).filter p := by
              rw [List.filter_filter]
              refine List.filter_congr fun e he => ?_
              cases hpe : p e with
              | false => rfl
              | true =>
                have hin := hp e (List.mem_append_left _ (mem_of_mem_admitted he)) t ht hpe hpt
                simp [hin]
            rw [hall]
            exact List.filter_sublist
          rw [← filter_bucket fun u hu => hstart (hbefore u hu)] at hkept
          exact Nat.lt_of_le_of_lt hkept hadmits
        rw [List.filter_cons_of_pos hpt, List.filter_nil, List.length_append,
          List.length_singleton]
        exact hcount
      · rw [List.filter_cons_of_neg hpt, List.filter_nil, List.append_nil]
        exact hprev
    · rw [advance_of_not_admits hadmits]
      exact hprev

/-! ## Refusals -/

variable (start limit) in
/-- Calls that are all refused. -/
def Refuses (s : State α) : List α → Prop
  | [] => True
  | t :: ts => ¬ admits start limit s t ∧ Refuses (advance start limit s t) ts

theorem bucket_sublist_of_refuses {s : State α} {ts : List α} (h : Refuses start limit s ts) :
    (ts.foldl (advance start limit) s).bucket.Sublist s.bucket := by
  induction ts generalizing s with
  | nil => exact List.Sublist.refl _
  | cons t ts ih =>
    obtain ⟨ht, hts⟩ := h
    have hkeep : (advance start limit s t).bucket.Sublist s.bucket := by
      rw [advance_of_not_admits ht]
      exact List.filter_sublist
    exact (ih hts).trans hkeep

/-- **A refused caller is admitted** once the window has passed a time that was kept. -/
theorem admitted_after_refusal {s : State α} {t u oldest : α} {ts : List α}
    (hlimit : s.bucket.length ≤ limit) (hrefused : ¬ admits start limit s t)
    (hts : Refuses start limit (advance start limit s t) ts) (hkept : oldest ∈ keep start t s.bucket)
    (hpassed : oldest ≤ start u) :
    admits start limit (ts.foldl (advance start limit) (advance start limit s t)) u := by
  have hsub := bucket_sublist_of_refuses hts
  rw [advance_of_not_admits hrefused] at hsub ⊢
  have hdropped : (keep start u (keep start t s.bucket)).length < (keep start t s.bucket).length :=
    List.length_filter_lt_length_iff_exists.mpr
      ⟨oldest, hkept, by simpa using hpassed⟩
  calc (keep start u _).length ≤ (keep start u (keep start t s.bucket)).length :=
        (hsub.filter _).length_le
    _ < (keep start t s.bucket).length := hdropped
    _ ≤ s.bucket.length := List.length_filter_le _ _
    _ ≤ limit := hlimit

end HeyKevin.Core.SlidingWindow
