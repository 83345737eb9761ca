import Mathlib.Data.List.Basic
import Mathlib.Order.Lattice
/-!
# Rotating scans

A durable cursor walks over sorted identifiers: a pass takes a page of those
after the cursor, or of all of them where none is left, examines a part of it
from the front on, and leaves the cursor at the last one examined.

The identifiers in the order in which they are due are a rotation of the list,
and an identifier moves forward in it with every pass that does not examine it.

* `rotation_next`: a pass rotates the list by what it examines.
* `examined_of_scans`: as many passes as identifiers examine every one.
-/
namespace HeyKevin.Core.RotatingScan

variable {ι : Type*} [LinearOrder ι]

def following (ids : List ι) : Option ι → List ι
  | none => ids
  | some c => ids.filter fun i => c < i

/-- The candidates of a pass. -/
def page (size : ℕ) (ids : List ι) (cursor : Option ι) : List ι :=
  if (following ids cursor).take size = [] ∧ cursor ≠ none then ids.take size
  else (following ids cursor).take size

def preceding (ids : List ι) : Option ι → List ι
  | none => []
  | some c => ids.filter fun i => !decide (c < i)

/-- The identifiers in the order in which they are due. -/
def rotation (ids : List ι) (cursor : Option ι) : List ι :=
  following ids cursor ++ preceding ids cursor

theorem rotation_perm (ids : List ι) (cursor : Option ι) : (rotation ids cursor).Perm ids := by
  cases cursor with
  | none => rw [rotation, following, preceding, List.append_nil]
  | some c => exact List.filter_append_perm _ ids

theorem preceding_append_following {ids : List ι} (h : ids.Pairwise (· < ·)) (cursor : Option ι) :
    preceding ids cursor ++ following ids cursor = ids := by
  cases cursor with
  | none => rfl
  | some c =>
    induction ids with
    | nil => rfl
    | cons i ids ih =>
      obtain ⟨hi, hids⟩ := List.pairwise_cons.mp h
      have ih := ih hids
      rw [preceding, following] at ih ⊢
      by_cases hc : c < i
      · have hall : ∀ j ∈ ids, c < j := fun j hj => hc.trans (hi j hj)
        have hnone : ids.filter (fun j => !decide (c < j)) = [] :=
          List.filter_eq_nil_iff.mpr fun j hj => by simpa using hall j hj
        rw [hnone, List.nil_append] at ih
        rw [List.filter_cons_of_neg (by simpa using hc), hnone, List.nil_append,
          List.filter_cons_of_pos (by simpa using hc), ih]
      · rw [List.filter_cons_of_pos (by simpa using hc),
          List.filter_cons_of_neg (by simpa using hc), List.cons_append, ih]

theorem rotation_of_cut {before after : List ι} {c : ι}
    (h : (before ++ c :: after).Pairwise (· < ·)) :
    rotation (before ++ c :: after) (some c) = after ++ (before ++ [c]) := by
  obtain ⟨-, hafter, hbefore⟩ := List.pairwise_append.mp h
  have hafter := (List.pairwise_cons.mp hafter).1
  have hbefore := fun i hi => hbefore i hi c List.mem_cons_self
  have hfollowing : following (before ++ c :: after) (some c) = after := by
    rw [following, List.filter_append, List.filter_cons_of_neg (by simp),
      List.filter_eq_nil_iff.mpr fun i hi => by simpa using (hbefore i hi).le, List.nil_append,
      List.filter_eq_self.mpr fun i hi => by simpa using hafter i hi]
  have hpreceding : preceding (before ++ c :: after) (some c) = before ++ [c] := by
    have hkept : before.filter (fun i => !decide (c < i)) = before :=
      List.filter_eq_self.mpr fun i hi => by simpa using (hbefore i hi).le
    have hdropped : after.filter (fun i => !decide (c < i)) = [] :=
      List.filter_eq_nil_iff.mpr fun i hi => by simpa using hafter i hi
    rw [preceding, List.filter_append, List.filter_cons_of_pos (by simp), hkept, hdropped]
  rw [rotation, hfollowing, hpreceding]

/-- **A pass rotates the list** by what it examines. -/
theorem rotation_next {ids : List ι} (hids : ids.Pairwise (· < ·)) {cursor : Option ι}
    {examined due : List ι} {last : ι} (h : rotation ids cursor = examined ++ last :: due) :
    rotation ids (some last) = due ++ (examined ++ [last]) := by
  have hcut := preceding_append_following hids cursor
  rw [rotation] at h
  generalize preceding ids cursor = front at h hcut
  generalize following ids cursor = back at h hcut
  subst hcut
  -- the cut of the rotation at `last` falls into one of the two halves
  rcases List.append_eq_append_iff.mp h with ⟨rest, rfl, rfl⟩ | ⟨rest, rfl, hrest⟩
  · rw [List.append_assoc, List.cons_append] at hids
    rw [List.append_assoc, List.cons_append, rotation_of_cut hids]
    simp only [List.append_assoc]
  · cases rest with
    | nil =>
      rw [List.nil_append] at hrest
      subst hrest
      rw [List.append_nil, List.cons_append] at hids
      rw [List.append_nil, List.cons_append]
      rw [← List.nil_append (_ :: _)] at hids
      have hrotation := rotation_of_cut hids
      simpa using hrotation
    | cons i rest =>
      obtain ⟨rfl, hdue⟩ := List.cons.inj hrest
      rw [List.append_eq] at hdue
      rw [← List.append_assoc] at hids
      rw [← List.append_assoc, rotation_of_cut hids, hdue]
      simp only [List.append_assoc]

/-! ## Pages -/

theorem page_prefix (size : ℕ) (ids : List ι) (cursor : Option ι) :
    page size ids cursor <+: rotation ids cursor := by
  unfold page
  split
  · rename_i h
    obtain ⟨hnil, hcursor⟩ := h
    obtain ⟨c, rfl⟩ := Option.ne_none_iff_exists'.mp hcursor
    rcases List.take_eq_nil_iff.mp hnil with rfl | hnone
    · exact List.nil_prefix
    · have hall : preceding ids (some c) = ids :=
        List.filter_eq_self.mpr fun i hi => by
          simpa using List.filter_eq_nil_iff.mp hnone i hi
      rw [rotation, hnone, hall, List.nil_append]
      exact List.take_prefix _ _
  · exact (List.take_prefix _ _).trans (List.prefix_append _ _)

theorem page_ne_nil {size : ℕ} (hsize : 0 < size) {ids : List ι} (hids : ids ≠ [])
    (cursor : Option ι) : page size ids cursor ≠ [] := by
  have htake : ids.take size ≠ [] := by
    rw [Ne, List.take_eq_nil_iff, not_or]
    exact ⟨Nat.pos_iff_ne_zero.mp hsize, hids⟩
  unfold page
  split
  · exact htake
  · rename_i h
    rintro hnil
    cases cursor with
    | none => exact htake hnil
    | some c => exact h ⟨hnil, Option.some_ne_none c⟩

/-! ## Passes -/

/-- Passes from a cursor on, each with what it examines. -/
def Scans (ids : List ι) : Option ι → List (List ι) → Prop
  | _, [] => True
  | cursor, examined :: passes =>
    examined ≠ [] ∧ examined <+: rotation ids cursor ∧ Scans ids examined.getLast? passes

theorem examined_of_position {ids : List ι} (hids : ids.Pairwise (· < ·)) {i : ι} :
    ∀ {passes cursor before after}, Scans ids cursor passes →
      rotation ids cursor = before ++ i :: after → before.length < passes.length →
        ∃ examined ∈ passes, i ∈ examined := by
  intro passes
  induction passes with
  | nil =>
    intro cursor before after _ _ hlength
    exact absurd hlength (Nat.not_lt_zero _)
  | cons examined passes ih =>
    intro cursor before after hscans hrotation hlength
    obtain ⟨hne, ⟨due, hdue⟩, hrest⟩ := hscans
    by_cases hi : i ∈ examined
    · exact ⟨examined, List.mem_cons_self, hi⟩
    · -- all that was examined came before `i`
      obtain ⟨waiting, rfl, rfl⟩ : ∃ waiting, before = examined ++ waiting ∧
          due = waiting ++ i :: after := by
        rw [hrotation] at hdue
        rcases List.append_eq_append_iff.mp hdue with ⟨waiting, rfl, rfl⟩ | ⟨rest, rfl, hcut⟩
        · exact ⟨waiting, rfl, rfl⟩
        · cases rest with
          | nil => exact ⟨[], by simp, by simpa using hcut.symm⟩
          | cons j rest =>
            obtain ⟨rfl, -⟩ := List.cons.inj hcut
            exact absurd (List.mem_append_right _ List.mem_cons_self) hi
      obtain ⟨front, last, rfl⟩ := (List.eq_nil_or_concat' examined).resolve_left hne
      rw [List.getLast?_append_of_ne_nil _ (List.cons_ne_nil _ _)] at hrest
      rw [List.append_assoc, List.singleton_append] at hdue
      have hnext := rotation_next hids hdue.symm
      rw [List.append_assoc, List.cons_append] at hnext
      simp only [List.length_append, List.length_cons, List.length_nil] at hlength
      obtain ⟨later, hlater, hmem⟩ := ih hrest hnext (by omega)
      exact ⟨later, List.mem_cons_of_mem _ hlater, hmem⟩

/-- **As many passes as identifiers** examine every one. -/
theorem examined_of_scans {ids : List ι} (hids : ids.Pairwise (· < ·)) {cursor : Option ι}
    {passes : List (List ι)} (h : Scans ids cursor passes) (hlength : ids.length ≤ passes.length)
    {i : ι} (hi : i ∈ ids) : ∃ examined ∈ passes, i ∈ examined := by
  have hperm := rotation_perm ids cursor
  obtain ⟨before, after, hrotation⟩ := List.append_of_mem (hperm.mem_iff.mpr hi)
  refine examined_of_position hids h hrotation ?_
  have htotal := hperm.length_eq
  rw [hrotation, List.length_append, List.length_cons] at htotal
  omega

end HeyKevin.Core.RotatingScan
