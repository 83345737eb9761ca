import Mathlib.Data.List.Perm.Subperm
import Mathlib.Data.List.TakeDrop
/-!
# The first few of a list in order

* `mem_take_or`: an element is among the first `n`, or all of those come before it.
* `rel_of_key_lt`: in a list ordered by a key, what holds of the earlier and
  the later of two elements holds of those with the smaller and the larger key.
* `countP_le_add`, `countP_le_of_subset`: bounds of counts.
-/
namespace HeyKevin.Core

variable {α : Type*}

theorem mem_take_or {r : α → α → Prop} {l : List α} (h : l.Pairwise r) {x : α} (hx : x ∈ l)
    (n : ℕ) : x ∈ l.take n ∨ (l.take n).length = n ∧ ∀ y ∈ l.take n, r y x := by
  rw [← List.take_append_drop n l] at h hx
  rcases List.mem_append.mp hx with hx | hx
  · exact .inl hx
  · refine .inr ⟨?_, fun y hy => (List.pairwise_append.mp h).2.2 y hy x hx⟩
    have hdrop := List.length_pos_of_mem hx
    rw [List.length_drop] at hdrop
    exact List.length_take_of_le (by omega)

theorem rel_of_key_lt {key : α → ℕ} {r : α → α → Prop} {l : List α}
    (h : l.Pairwise fun a b => key a < key b ∧ r a b) {a b : α} (ha : a ∈ l) (hb : b ∈ l)
    (hlt : key a < key b) : r a b := by
  induction l with
  | nil => cases ha
  | cons c l ih =>
    obtain ⟨hc, hrest⟩ := List.pairwise_cons.mp h
    rcases List.mem_cons.mp ha with rfl | ha'
    · rcases List.mem_cons.mp hb with rfl | hb'
      · exact absurd hlt (Nat.lt_irrefl _)
      · exact (hc b hb').2
    · rcases List.mem_cons.mp hb with rfl | hb'
      · exact absurd hlt (Nat.lt_asymm (hc a ha').1)
      · exact ih hrest ha' hb'

/-- What satisfies one of two predicates is counted by their counts. -/
theorem countP_le_add {p q r : α → Bool} {l : List α}
    (h : ∀ x ∈ l, p x = true → q x = true ∨ r x = true) :
    l.countP p ≤ l.countP q + l.countP r := by
  induction l with
  | nil => exact Nat.zero_le _
  | cons x l ih =>
    have ih := ih fun y hy => h y (List.mem_cons_of_mem _ hy)
    have hx := h x List.mem_cons_self
    rw [List.countP_cons, List.countP_cons, List.countP_cons]
    by_cases hp : p x = true
    · rcases hx hp with hq | hr
      · rw [if_pos hp, if_pos hq]
        omega
      · rw [if_pos hp, if_pos hr]
        omega
    · rw [if_neg hp]
      omega

/-- Different elements that are all in a list and satisfy a predicate. -/
theorem countP_le_of_subset {p : α → Bool} {few l : List α} (hnodup : few.Nodup)
    (h : ∀ x ∈ few, x ∈ l ∧ p x = true) : few.length ≤ l.countP p := by
  rw [List.countP_eq_length_filter]
  exact (hnodup.subperm fun x hx => List.mem_filter.mpr (h x hx)).length_le

theorem flatMap_sublist {β : Type*} {f g : β → List α} (h : ∀ b, (f b).Sublist (g b))
    (l : List β) : (l.flatMap f).Sublist (l.flatMap g) := by
  induction l with
  | nil => exact List.Sublist.refl _
  | cons b l ih =>
    rw [List.flatMap_cons, List.flatMap_cons]
    exact (h b).append ih

end HeyKevin.Core
