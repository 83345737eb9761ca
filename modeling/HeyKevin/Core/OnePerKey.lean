import Mathlib.Data.List.Basic
import Mathlib.Data.List.Nodup
/-!
# One entry per key

A flat list where an entry carries its key inside it, as in `slot:value`. An
update drops the entries of a key and appends its new one, or none.

* `updateEach_eq`: what updates of different keys do, at once.
* `updateEach_idem`: doing them again changes nothing.
* `ofKey_updateEach`: an updated key has its new entry alone, every other key
  what it had.
-/
namespace HeyKevin.Core.OnePerKey

universe u v w

variable {α : Type u} {κ : Type v} {ν : Type w}

structure Keyed (α : Type u) (κ : Type v) (ν : Type w) where
  isOf : κ → α → Bool
  entry : κ → ν → Option α

namespace Keyed

variable (K : Keyed α κ ν)

/-- An entry is of the key it is made for, and of no two keys. -/
structure Lawful : Prop where
  own : ∀ k v, ∀ a ∈ K.entry k v, K.isOf k a = true
  one : ∀ k k' a, K.isOf k a = true → K.isOf k' a = true → k = k'

/-- Drop what is there of the key, append its new entry. -/
def update (k : κ) (v : ν) (l : List α) : List α :=
  l.filter (fun a => !K.isOf k a) ++ (K.entry k v).toList

def updateSome (k : κ) (v : Option ν) (l : List α) : List α := v.elim l fun v => K.update k v l

def updateEach (value : κ → Option ν) (keys : List κ) (l : List α) : List α :=
  keys.foldl (fun l k => K.updateSome k (value k) l) l

def ofKey (k : κ) (l : List α) : List α := l.filter (K.isOf k)

/-- What remains of a list under updates: entries of keys without a new value. -/
def untouched (value : κ → Option ν) (keys : List κ) (l : List α) : List α :=
  l.filter fun a => keys.all fun k => (value k).isNone || !K.isOf k a

def appended (value : κ → Option ν) (keys : List κ) : List α :=
  keys.flatMap fun k => ((value k).bind (K.entry k)).toList

variable {K} {l : List α} {k k' : κ} {v v' : ν} {value : κ → Option ν} {keys : List κ}

theorem mem_update {a : α} (h : a ∈ K.update k v l) : a ∈ l ∨ K.entry k v = some a := by
  rcases List.mem_append.mp h with ha | ha
  · exact .inl (List.mem_of_mem_filter ha)
  · exact .inr (Option.mem_toList.mp ha)

theorem mem_updateEach {a : α} (h : a ∈ K.updateEach value keys l) :
    a ∈ l ∨ ∃ k v, value k = some v ∧ K.entry k v = some a := by
  induction keys generalizing l with
  | nil => exact .inl h
  | cons k keys ih =>
    rcases ih h with ha | ha
    · change a ∈ K.updateSome k (value k) l at ha
      cases hv : value k with
      | none =>
        rw [hv] at ha
        exact .inl ha
      | some v =>
        rw [hv] at ha
        rcases mem_update ha with ha | hentry
        · exact .inl ha
        · exact .inr ⟨k, v, hv, hentry⟩
    · exact .inr ha

theorem update_update (hK : K.Lawful) : K.update k v (K.update k v' l) = K.update k v l := by
  have hgone : (K.entry k v').toList.filter (fun a => !K.isOf k a) = [] := by
    rw [List.filter_eq_nil_iff]
    intro a ha
    rw [hK.own k v' a (Option.mem_toList.mp ha)]
    exact Bool.false_ne_true
  unfold update
  rw [List.filter_append, List.filter_filter, hgone, List.append_nil]
  simp only [Bool.and_self]

theorem ofKey_update_self (hK : K.Lawful) : K.ofKey k (K.update k v l) = (K.entry k v).toList := by
  unfold ofKey update
  rw [List.filter_append, List.filter_filter]
  have hgone : l.filter (fun a => K.isOf k a && !K.isOf k a) = [] := by
    rw [List.filter_eq_nil_iff]
    intro a _
    rw [Bool.and_not_self]
    exact Bool.false_ne_true
  rw [hgone, List.nil_append, List.filter_eq_self]
  exact fun a ha => hK.own k v a (Option.mem_toList.mp ha)

theorem ofKey_update_of_ne (hK : K.Lawful) (hne : k' ≠ k) :
    K.ofKey k' (K.update k v l) = K.ofKey k' l := by
  unfold ofKey update
  rw [List.filter_append, List.filter_filter]
  have hgone : (K.entry k v).toList.filter (K.isOf k') = [] := by
    rw [List.filter_eq_nil_iff]
    exact fun a ha hof => hne (hK.one k' k a hof (hK.own k v a (Option.mem_toList.mp ha)))
  rw [hgone, List.append_nil]
  refine List.filter_congr fun a _ => ?_
  cases hof : K.isOf k' a with
  | false => rfl
  | true =>
    have hother : K.isOf k a = false := Bool.eq_false_iff.mpr fun h => hne (hK.one k' k a hof h)
    rw [hother]
    rfl

theorem updateSome_updateSome (hK : K.Lawful) (v v' : Option ν) :
    K.updateSome k v (K.updateSome k v' l) = K.updateSome k (v.or v') l := by
  cases v with
  | none => rfl
  | some v =>
    cases v' with
    | none => rfl
    | some v' => exact update_update hK

/-! ## Updates of different keys -/

theorem updateSome_eq (k : κ) (v : Option ν) (l : List α) :
    K.updateSome k v l =
      l.filter (fun a => v.isNone || !K.isOf k a) ++ (v.bind (K.entry k)).toList := by
  cases v with
  | none => simp [updateSome]
  | some v => rfl

/-- **Updates of different keys, at once.** -/
theorem updateEach_eq (hK : K.Lawful) (hkeys : keys.Nodup) (l : List α) :
    K.updateEach value keys l = K.untouched value keys l ++ K.appended value keys := by
  induction keys generalizing l with
  | nil => simp [updateEach, untouched, appended]
  | cons k keys ih =>
    obtain ⟨hk, hrest⟩ := List.nodup_cons.mp hkeys
    -- The entry just appended is of none of the later keys.
    have hkept : K.untouched value keys ((value k).bind (K.entry k)).toList =
        ((value k).bind (K.entry k)).toList := by
      unfold untouched
      rw [List.filter_eq_self]
      intro a ha
      obtain ⟨v, -, hentry⟩ := Option.bind_eq_some_iff.mp (Option.mem_toList.mp ha)
      rw [List.all_eq_true]
      intro k' hk'
      have hother : K.isOf k' a = false := by
        rw [Bool.eq_false_iff]
        intro hof
        have hsame := hK.one k k' a (hK.own k v a hentry) hof
        rw [hsame] at hk
        exact hk hk'
      rw [hother, Bool.not_false, Bool.or_true]
    have hsplit : ∀ l, K.untouched value keys (l.filter fun a => (value k).isNone || !K.isOf k a) =
        K.untouched value (k :: keys) l := by
      intro l
      unfold untouched
      rw [List.filter_filter]
      refine List.filter_congr fun a _ => ?_
      rw [List.all_cons, Bool.and_comm]
    calc K.updateEach value (k :: keys) l
        = K.updateEach value keys (K.updateSome k (value k) l) := rfl
      _ = K.untouched value keys (K.updateSome k (value k) l) ++ K.appended value keys :=
          ih hrest _
      _ = K.untouched value (k :: keys) l ++ K.appended value (k :: keys) := by
          rw [updateSome_eq, untouched, List.filter_append]
          change K.untouched value keys _ ++ K.untouched value keys _ ++ _ = _
          rw [hsplit, hkept, appended, appended, List.flatMap_cons, List.append_assoc]

/-- **Doing the updates again changes nothing.** -/
theorem updateEach_idem (hK : K.Lawful) (hkeys : keys.Nodup) (l : List α) :
    K.updateEach value keys (K.updateEach value keys l) = K.updateEach value keys l := by
  -- What the updates append is of the keys they update.
  have hgone : K.untouched value keys (K.appended value keys) = [] := by
    unfold untouched appended
    rw [List.filter_eq_nil_iff]
    intro a ha hall
    obtain ⟨k, hk, hentry⟩ := List.mem_flatMap.mp ha
    obtain ⟨v, hv, hentry⟩ := Option.bind_eq_some_iff.mp (Option.mem_toList.mp hentry)
    have hno := List.all_eq_true.mp hall k hk
    rw [hv, hK.own k v a hentry] at hno
    cases hno
  have htwice : K.untouched value keys (K.untouched value keys l) = K.untouched value keys l := by
    unfold untouched
    rw [List.filter_filter]
    simp only [Bool.and_self]
  have happend : ∀ l l', K.untouched value keys (l ++ l') =
      K.untouched value keys l ++ K.untouched value keys l' := fun l l' => List.filter_append ..
  rw [updateEach_eq hK hkeys, updateEach_eq hK hkeys, happend, htwice, hgone, List.append_nil]

/-- **What each key has afterwards.** -/
theorem ofKey_updateEach (hK : K.Lawful) (hkeys : keys.Nodup) (hk : k ∈ keys) (l : List α) :
    K.ofKey k (K.updateEach value keys l) =
      (value k).elim (K.ofKey k l) fun v => (K.entry k v).toList := by
  induction keys generalizing l with
  | nil => cases hk
  | cons k' keys ih =>
    obtain ⟨hk', hrest⟩ := List.nodup_cons.mp hkeys
    change K.ofKey k (K.updateEach value keys (K.updateSome k' (value k') l)) = _
    rcases List.mem_cons.mp hk with rfl | hk
    · -- Later updates are of other keys.
      have hlater : ∀ l, K.ofKey k (K.updateEach value keys l) = K.ofKey k l := by
        clear ih hkeys hrest hk
        induction keys with
        | nil => exact fun l => rfl
        | cons k' keys ih =>
          intro l
          obtain ⟨hne, hk'⟩ := not_or.mp (fun h => hk' (List.mem_cons.mpr h))
          change K.ofKey k (K.updateEach value keys (K.updateSome k' (value k') l)) = _
          rw [ih hk']
          cases hv : value k' with
          | none => rfl
          | some v => exact ofKey_update_of_ne hK hne
      rw [hlater]
      cases value k with
      | none => rfl
      | some v => exact ofKey_update_self hK
    · have hne : k ≠ k' := fun h => hk' (h ▸ hk)
      rw [ih hrest hk]
      cases value k with
      | some v => rfl
      | none =>
        cases value k' with
        | none => rfl
        | some v => exact ofKey_update_of_ne hK hne

end Keyed

end HeyKevin.Core.OnePerKey
