import Mathlib.Data.List.Destutter
/-!
# Bounded histories

A history that drops an entry equal to its last one and keeps the last `n`.

* `lastN_push`: cutting before an entry is pushed changes nothing.
* `foldl_push`: a run of pushes collapses adjacent repetitions, the last entry
  on record counted in.
-/
namespace HeyKevin.Core.BoundedHistory

variable {α : Type*} {n : ℕ} {h l l' : List α} {a : α}

/-- `l[-n:]` for a positive `n` -/
def lastN (n : ℕ) (l : List α) : List α := l.drop (l.length - n)

theorem length_lastN_le (n : ℕ) (l : List α) : (lastN n l).length ≤ n := by
  simp only [lastN, List.length_drop]
  omega

theorem lastN_of_le (hl : l.length ≤ n) : lastN n l = l := by
  rw [lastN, Nat.sub_eq_zero_of_le hl, List.drop_zero]

theorem lastN_append_right (l : List α) {l' : List α} (hl : n ≤ l'.length) :
    lastN n (l ++ l') = lastN n l' := by
  have hlen : (l ++ l').length - n = l.length + (l'.length - n) := by
    rw [List.length_append]
    omega
  rw [lastN, lastN, hlen, List.drop_append, List.drop_eq_nil_of_le (Nat.le_add_right ..),
    Nat.add_sub_cancel_left, List.nil_append]

theorem lastN_append_lastN (n : ℕ) (l l' : List α) :
    lastN n (lastN n l ++ l') = lastN n (l ++ l') := by
  rcases Nat.le_total l.length n with hl | hl
  · rw [lastN_of_le hl]
  · have hlen : n ≤ (lastN n l ++ l').length := by
      simp only [lastN, List.length_append, List.length_drop]
      omega
    have hsplit : l ++ l' = l.take (l.length - n) ++ (lastN n l ++ l') := by
      rw [← List.append_assoc, lastN, List.take_append_drop]
    rw [hsplit, lastN_append_right _ hlen]

theorem getLast?_lastN (hn : 0 < n) (l : List α) : (lastN n l).getLast? = l.getLast? := by
  cases l using List.reverseRecOn with
  | nil => simp [lastN]
  | append_singleton l a =>
    have hdrop : lastN n (l ++ [a]) = l.drop (l.length + 1 - n) ++ [a] := by
      rw [lastN, List.length_append, List.length_singleton,
        List.drop_append_of_le_length (by omega)]
    rw [hdrop, List.getLast?_append_of_ne_nil _ (by simp), List.getLast?_append_of_ne_nil _ (by simp)]

section

variable (same : α → α → Bool)

/-- Append `a`, unless it is the last entry again. -/
def push (h : List α) (a : α) : List α := if h.getLast?.any (same · a) then h else h ++ [a]

def pushBounded (n : ℕ) (h : List α) (a : α) : List α := lastN n (push same h a)

theorem lastN_push (hn : 0 < n) (h : List α) (a : α) :
    pushBounded same n (lastN n h) a = lastN n (push same h a) := by
  unfold pushBounded push
  rw [getLast?_lastN hn]
  split
  · exact lastN_of_le (length_lastN_le n h)
  · exact lastN_append_lastN n h [a]

theorem foldl_push (h l : List α) :
    l.foldl (push same) h =
      h.dropLast ++ (h.getLast?.toList ++ l).destutter (fun a b => same a b = false) := by
  induction l generalizing h with
  | nil => cases h using List.reverseRecOn <;> simp
  | cons a l ih =>
    rw [List.foldl_cons, ih]
    cases h using List.reverseRecOn with
    | nil => simp [push]
    | append_singleton h b =>
      by_cases hsame : same b a = true
      · simp [push, hsame, List.destutter_cons']
      · simp [push, hsame, List.destutter_cons']

end

end HeyKevin.Core.BoundedHistory
