import Mathlib.Algebra.BigOperators.Fin
import Mathlib.Algebra.Order.BigOperators.Group.Finset
import Mathlib.Data.Finset.Sort
import Mathlib.Order.Lattice
/-!
# Scans over a changing set

A cursor walks over a set of identifiers in their order, while identifiers are
added and removed. A pass may look at the set twice, the second time from the
start on.

What is due before a given identifier is what a pass could still examine
instead of it. A pass that does not examine it leaves the cursor at one of
those, and only additions make them more.

* `card_dueBefore_pass`: one pass.
* `examined_within`: within as many passes as there are identifiers and
  additions, the identifier is examined.
-/
namespace HeyKevin.Core.ChangingScan

variable {ι : Type*} [LinearOrder ι]

/-- The first identifiers after the cursor, in order. -/
def listing (ids : Finset ι) (limit : ℕ) (cursor : Option ι) : List ι :=
  ((ids.sort (· ≤ ·)).filter fun i => cursor.all fun c => decide (c < i)).take limit

/-! ## Listings -/

section

variable {ids : Finset ι} {limit : ℕ} {cursor : Option ι} {i x : ι}

theorem pairwise_listing : (listing ids limit cursor).Pairwise (· < ·) :=
  ((Finset.sortedLT_sort ids).pairwise.filter _).take

theorem nodup_listing : (listing ids limit cursor).Nodup :=
  pairwise_listing.imp ne_of_lt

theorem mem_unlimited :
    i ∈ (ids.sort (· ≤ ·)).filter (fun i => cursor.all fun c => decide (c < i)) ↔
      i ∈ ids ∧ ∀ c ∈ cursor, c < i := by
  cases cursor <;> simp

theorem mem_of_mem_listing (h : i ∈ listing ids limit cursor) : i ∈ ids ∧ ∀ c ∈ cursor, c < i :=
  mem_unlimited.mp (List.mem_of_mem_take h)

theorem mem_listing_of_short (hshort : (listing ids limit cursor).length < limit) (hi : i ∈ ids)
    (hafter : ∀ c ∈ cursor, c < i) : i ∈ listing ids limit cursor := by
  have hall := mem_unlimited.mpr ⟨hi, hafter⟩
  rw [listing, List.length_take] at hshort
  rw [listing, List.take_of_length_le (by omega)]
  exact hall

theorem lt_of_mem_listing (hx : x ∈ ids) (hafter : ∀ c ∈ cursor, c < x)
    (hout : x ∉ listing ids limit cursor) (hi : i ∈ listing ids limit cursor) : i < x := by
  have hall := mem_unlimited.mpr ⟨hx, hafter⟩
  have hsorted : ((ids.sort (· ≤ ·)).filter fun i => cursor.all fun c => decide (c < i)).Pairwise
      (· < ·) := (Finset.sortedLT_sort ids).pairwise.filter _
  rw [← List.take_append_drop limit (List.filter _ _)] at hall hsorted
  have hrest := (List.mem_append.mp hall).resolve_left hout
  exact (List.pairwise_append.mp hsorted).2.2 i hi x hrest

theorem listing_ne_nil (hlimit : 0 < limit) (hx : x ∈ ids) (hafter : ∀ c ∈ cursor, c < x) :
    listing ids limit cursor ≠ [] := by
  have hall := mem_unlimited.mpr ⟨hx, hafter⟩
  rw [listing, Ne, List.take_eq_nil_iff, not_or]
  exact ⟨hlimit.ne', List.ne_nil_of_mem hall⟩

end

/-! ## Passes -/

/-- What a scan comes to before `x`. -/
def dueBefore (ids : Finset ι) : Option ι → ι → Finset ι
  | none, x => ids.filter fun i => i < x
  | some c, x =>
    if c < x then ids.filter fun i => c < i ∧ i < x else ids.filter fun i => c < i ∨ i < x

/-- Where a pass that does not examine `x` takes the cursor: forward, or around to the start. The
identifiers are those of its first look and of its second one. -/
inductive Passes (first second : Finset ι) (x : ι) : Option ι → ι → Prop
  | forward {cursor : Option ι} {last : ι} (hlast : last ∈ first) (hafter : ∀ c ∈ cursor, c < last)
      (hbefore : (∀ c ∈ cursor, c < x) → last < x) : Passes first second x cursor last
  | around {c last : ι} (hpassed : x ≤ c) (hlast : last ∈ second) (hbefore : last < x) :
      Passes first second x (some c) last

theorem mem_dueBefore_none {ids : Finset ι} {x i : ι} :
    i ∈ dueBefore ids none x ↔ i ∈ ids ∧ i < x := by
  simp [dueBefore]

theorem mem_dueBefore_of_lt {ids : Finset ι} {c x i : ι} (h : c < x) :
    i ∈ dueBefore ids (some c) x ↔ i ∈ ids ∧ c < i ∧ i < x := by
  simp [dueBefore, h]

theorem mem_dueBefore_of_le {ids : Finset ι} {c x i : ι} (h : x ≤ c) :
    i ∈ dueBefore ids (some c) x ↔ i ∈ ids ∧ (c < i ∨ i < x) := by
  simp [dueBefore, not_lt.mpr h]

theorem dueBefore_subset_erase (ids : Finset ι) (cursor : Option ι) (x : ι) :
    dueBefore ids cursor x ⊆ ids.erase x := by
  intro i hi
  cases cursor with
  | none =>
    obtain ⟨hin, hlt⟩ := mem_dueBefore_none.mp hi
    exact Finset.mem_erase.mpr ⟨hlt.ne, hin⟩
  | some c =>
    rcases lt_or_ge c x with hc | hc
    · obtain ⟨hin, -, hlt⟩ := (mem_dueBefore_of_lt hc).mp hi
      exact Finset.mem_erase.mpr ⟨hlt.ne, hin⟩
    · obtain ⟨hin, hafter | hlt⟩ := (mem_dueBefore_of_le hc).mp hi
      · exact Finset.mem_erase.mpr ⟨(hc.trans_lt hafter).ne', hin⟩
      · exact Finset.mem_erase.mpr ⟨hlt.ne, hin⟩

theorem card_dueBefore_le (ids later : Finset ι) (cursor : Option ι) (x : ι) :
    (dueBefore later cursor x).card ≤ (dueBefore ids cursor x).card + (later \ ids).card := by
  have hsub : dueBefore later cursor x ⊆ dueBefore ids cursor x ∪ (later \ ids) := by
    intro i hi
    have hlater : i ∈ later := Finset.mem_of_mem_erase (dueBefore_subset_erase later cursor x hi)
    by_cases hin : i ∈ ids
    · refine Finset.mem_union_left _ ?_
      cases cursor with
      | none => exact mem_dueBefore_none.mpr ⟨hin, (mem_dueBefore_none.mp hi).2⟩
      | some c =>
        rcases lt_or_ge c x with hc | hc
        · exact (mem_dueBefore_of_lt hc).mpr ⟨hin, ((mem_dueBefore_of_lt hc).mp hi).2⟩
        · exact (mem_dueBefore_of_le hc).mpr ⟨hin, ((mem_dueBefore_of_le hc).mp hi).2⟩
    · exact Finset.mem_union_right _ (Finset.mem_sdiff.mpr ⟨hlater, hin⟩)
  exact (Finset.card_le_card hsub).trans (Finset.card_union_le _ _)

/-- **A pass that does not examine `x`** leaves one less due before it. -/
theorem card_dueBefore_pass {first second : Finset ι} {x : ι} {cursor : Option ι} {last : ι}
    (h : Passes first second x cursor last) :
    (dueBefore second (some last) x).card + 1 ≤
      (dueBefore first cursor x).card + (second \ first).card := by
  -- the last one examined was due itself, and is not due any more
  have hlast : last ∉ dueBefore second (some last) x := by
    rcases lt_or_ge last x with hlt | hle
    · exact fun hin => lt_irrefl _ ((mem_dueBefore_of_lt hlt).mp hin).2.1
    · intro hin
      rcases ((mem_dueBefore_of_le hle).mp hin).2 with hlt | hlt
      · exact lt_irrefl _ hlt
      · exact absurd hlt (not_lt.mpr hle)
  have hsub : insert last (dueBefore second (some last) x) ⊆
      dueBefore first cursor x ∪ (second \ first) := by
    have hall : ∀ i, (i ∈ first → i ∈ dueBefore first cursor x) → i ∈ first ∨ i ∈ second →
        i ∈ dueBefore first cursor x ∪ (second \ first) := by
      intro i hdue hin
      by_cases hfirst : i ∈ first
      · exact Finset.mem_union_left _ (hdue hfirst)
      · exact Finset.mem_union_right _ (Finset.mem_sdiff.mpr ⟨hin.resolve_left hfirst, hfirst⟩)
    intro i hi
    cases h with
    | around hpassed hin hbefore =>
      rcases Finset.mem_insert.mp hi with rfl | hi
      · exact hall _ (fun hfirst => (mem_dueBefore_of_le hpassed).mpr ⟨hfirst, .inr hbefore⟩)
          (.inr hin)
      · obtain ⟨hsecond, -, hlt⟩ := (mem_dueBefore_of_lt hbefore).mp hi
        exact hall i (fun hfirst => (mem_dueBefore_of_le hpassed).mpr ⟨hfirst, .inr hlt⟩)
          (.inr hsecond)
    | forward hin hafter hbefore =>
      cases cursor with
      | none =>
        have hlt : last < x := hbefore fun _ hnone => by cases hnone
        rcases Finset.mem_insert.mp hi with rfl | hi
        · exact hall _ (fun hfirst => mem_dueBefore_none.mpr ⟨hfirst, hlt⟩) (.inl hin)
        · obtain ⟨hsecond, -, hi⟩ := (mem_dueBefore_of_lt hlt).mp hi
          exact hall i (fun hfirst => mem_dueBefore_none.mpr ⟨hfirst, hi⟩) (.inr hsecond)
      | some c =>
        have hc : c < last := hafter c rfl
        rcases lt_or_ge c x with hcx | hxc
        · have hlt : last < x := hbefore fun c' hc' => by
            cases hc'
            exact hcx
          rcases Finset.mem_insert.mp hi with rfl | hi
          · exact hall _ (fun hfirst => (mem_dueBefore_of_lt hcx).mpr ⟨hfirst, hc, hlt⟩) (.inl hin)
          · obtain ⟨hsecond, hli, hix⟩ := (mem_dueBefore_of_lt hlt).mp hi
            exact hall i (fun hfirst => (mem_dueBefore_of_lt hcx).mpr
              ⟨hfirst, hc.trans hli, hix⟩) (.inr hsecond)
        · rcases Finset.mem_insert.mp hi with rfl | hi
          · exact hall _ (fun hfirst => (mem_dueBefore_of_le hxc).mpr ⟨hfirst, .inl hc⟩) (.inl hin)
          · obtain ⟨hsecond, hi⟩ := (mem_dueBefore_of_le (hxc.trans hc.le)).mp hi
            exact hall i (fun hfirst => (mem_dueBefore_of_le hxc).mpr
              ⟨hfirst, hi.imp_left hc.trans⟩) (.inr hsecond)
  rw [← Finset.card_insert_of_notMem hlast]
  exact (Finset.card_le_card hsub).trans (Finset.card_union_le _ _)

/-! ## Many passes -/

/-- The additions during `n` passes and before the next one: between the two looks of a pass, and
between two passes. -/
def added (first second : ℕ → Finset ι) (n : ℕ) : ℕ :=
  ∑ k ∈ Finset.range n, ((second k \ first k).card + (first (k + 1) \ second k).card)

section

variable {first second : ℕ → Finset ι} {examined : ℕ → List ι} {x : ι} (cursor : ℕ → Option ι)

theorem card_dueBefore_passes {n : ℕ} (hpass : ∀ k < n, ∃ last, cursor (k + 1) = some last ∧
      Passes (first k) (second k) x (cursor k) last) :
    (dueBefore (first n) (cursor n) x).card + n ≤
      (dueBefore (first 0) (cursor 0) x).card + added first second n := by
  induction n with
  | zero => simp [added]
  | succ n ih =>
    have ih := ih fun k hk => hpass k (hk.trans n.lt_succ_self)
    obtain ⟨last, hnext, hpass⟩ := hpass n n.lt_succ_self
    have hstep := card_dueBefore_pass hpass
    have hbetween := card_dueBefore_le (second n) (first (n + 1)) (some last) x
    rw [added, Finset.sum_range_succ, ← added, hnext]
    omega

/-- **Within as many passes as there are identifiers and additions**, each of those that stay is
examined. -/
theorem examined_within {n : ℕ} (hx : x ∈ first 0)
    (hpass : ∀ k < n, x ∈ examined k ∨ ∃ last, cursor (k + 1) = some last ∧
      Passes (first k) (second k) x (cursor k) last)
    (hn : (first 0).card + added first second n ≤ n) : ∃ k < n, x ∈ examined k := by
  by_contra hnone
  have hall : ∀ k < n, ∃ last, cursor (k + 1) = some last ∧
      Passes (first k) (second k) x (cursor k) last :=
    fun k hk => (hpass k hk).resolve_left fun hin => hnone ⟨k, hk, hin⟩
  have hdue := card_dueBefore_passes cursor hall
  have hothers := (Finset.card_le_card (dueBefore_subset_erase (first 0) (cursor 0) x)).trans_lt
    (Finset.card_erase_lt_of_mem hx)
  omega

end

end HeyKevin.Core.ChangingScan
