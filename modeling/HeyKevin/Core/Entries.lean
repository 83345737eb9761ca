import Mathlib.Data.List.Basic
/-!
# Dictionaries in insertion order

A dictionary is a list of entries. `set` replaces an entry in place or adds it
at the end, as Python and Firestore maps do. Everything above reads a
dictionary through `find?`, so each operation has one lemma, what it does to a
lookup.
-/
namespace HeyKevin.Core

universe u v

abbrev Entries (κ : Type u) (α : Type v) := List (κ × α)

namespace Entries

variable {κ : Type u} {α : Type v} [DecidableEq κ]

def find? : Entries κ α → κ → Option α
  | [], _ => none
  | (a, v) :: d, k => if a = k then some v else find? d k

def set : Entries κ α → κ → α → Entries κ α
  | [], k, v => [(k, v)]
  | (a, w) :: d, k, v => if a = k then (k, v) :: d else (a, w) :: set d k v

def pop (d : Entries κ α) (k : κ) : Entries κ α := d.filter fun e => e.1 ≠ k

def update (d e : Entries κ α) : Entries κ α := e.foldl (fun d kv => set d kv.1 kv.2) d

def keys (d : Entries κ α) : List κ := d.map Prod.fst

@[simp] theorem find?_nil (k : κ) : find? ([] : Entries κ α) k = none := rfl

theorem find?_cons (a : κ) (v : α) (d : Entries κ α) (k : κ) :
    find? ((a, v) :: d) k = if a = k then some v else find? d k := rfl

theorem find?_set (d : Entries κ α) (k j : κ) (v : α) :
    find? (set d k v) j = if k = j then some v else find? d j := by
  induction d with
  | nil => rfl
  | cons e d ih =>
    obtain ⟨a, w⟩ := e
    by_cases ha : a = k
    · subst ha
      by_cases h : a = j <;> simp [set, find?, h]
    · simp only [set, ha, if_false, find?, ih]
      by_cases h : a = j
      · subst h; simp [Ne.symm ha]
      · simp [h]

theorem find?_pop (d : Entries κ α) (k j : κ) :
    find? (pop d k) j = if k = j then none else find? d j := by
  induction d with
  | nil => simp [pop, find?]
  | cons e d ih =>
    obtain ⟨a, w⟩ := e
    simp only [pop] at ih
    by_cases ha : a = k
    · subst ha
      by_cases h : a = j <;> simp_all [pop, find?]
    · by_cases h : a = j
      · subst h; simp [pop, find?, ha, Ne.symm ha]
      · simpa [pop, find?, ha, h] using ih

theorem pop_of_find?_none {d : Entries κ α} {k : κ} (h : find? d k = none) : pop d k = d := by
  refine List.filter_eq_self.mpr fun e he => ?_
  induction d with
  | nil => cases he
  | cons a d ih =>
    obtain ⟨a, w⟩ := a
    rw [find?_cons] at h
    split at h
    · cases h
    · rename_i hne
      rcases List.mem_cons.mp he with rfl | he
      · simpa using hne
      · exact ih h he

@[simp] theorem update_nil (d : Entries κ α) : update d [] = d := rfl
@[simp] theorem update_cons (d : Entries κ α) (k : κ) (v : α) (e : Entries κ α) :
    update d ((k, v) :: e) = update (set d k v) e := rfl

theorem find?_update_of_not_mem (d e : Entries κ α) {k : κ} (h : k ∉ keys e) :
    find? (update d e) k = find? d k := by
  induction e generalizing d with
  | nil => rfl
  | cons kv e ih =>
    obtain ⟨j, v⟩ := kv
    simp only [keys, List.map_cons, List.mem_cons, not_or] at h
    rw [update_cons, ih _ h.2, find?_set, if_neg (Ne.symm h.1)]

theorem find?_map {β : Type*} (f : α → β) (d : Entries κ α) (k : κ) :
    find? (d.map fun e => (e.1, f e.2)) k = (find? d k).map f := by
  induction d with
  | nil => rfl
  | cons e d ih =>
    obtain ⟨a, v⟩ := e
    rw [List.map_cons, find?_cons, find?_cons, ih]
    split <;> rfl

theorem mem_keys (d : Entries κ α) (k : κ) : k ∈ keys d ↔ (find? d k).isSome := by
  induction d with
  | nil => simp [keys]
  | cons e d ih =>
    obtain ⟨a, w⟩ := e
    by_cases h : a = k
    · simp [keys, find?, h]
    · simpa [keys, find?, h, Ne.symm h] using ih

theorem mem_of_find? {d : Entries κ α} {k : κ} {v : α} (h : find? d k = some v) : (k, v) ∈ d := by
  induction d with
  | nil => cases h
  | cons e d ih =>
    obtain ⟨a, w⟩ := e
    rw [find?_cons] at h
    split at h
    · rename_i ha
      cases h
      exact ha ▸ List.mem_cons_self
    · exact List.mem_cons_of_mem _ (ih h)

/-- A new key goes to the end. -/
theorem set_of_find?_none {d : Entries κ α} {k : κ} (h : find? d k = none) (v : α) :
    set d k v = d ++ [(k, v)] := by
  induction d with
  | nil => rfl
  | cons e d ih =>
    obtain ⟨a, w⟩ := e
    rw [find?_cons] at h
    split at h
    · cases h
    · rename_i hne
      rw [set, if_neg hne, ih h, List.cons_append]

/-- A known key keeps its place. -/
theorem exists_set_of_find? {d : Entries κ α} {k : κ} {v : α} (h : find? d k = some v) :
    ∃ d₁ d₂, d = d₁ ++ (k, v) :: d₂ ∧ ∀ w, set d k w = d₁ ++ (k, w) :: d₂ := by
  induction d with
  | nil => cases h
  | cons e d ih =>
    obtain ⟨a, u⟩ := e
    rw [find?_cons] at h
    split at h
    · rename_i ha
      cases h
      exact ⟨[], d, by rw [ha]; rfl, fun w => by rw [set, if_pos ha]; rfl⟩
    · rename_i hne
      obtain ⟨d₁, d₂, rfl, hset⟩ := ih h
      exact ⟨(a, u) :: d₁, d₂, rfl, fun w => by rw [set, if_neg hne, hset]; rfl⟩

theorem find?_of_mem {d : Entries κ α} (hd : (keys d).Nodup) {k : κ} {v : α} (h : (k, v) ∈ d) :
    find? d k = some v := by
  induction d with
  | nil => cases h
  | cons e d ih =>
    obtain ⟨a, w⟩ := e
    simp only [keys, List.map_cons, List.nodup_cons] at hd
    rcases List.mem_cons.mp h with heq | hmem
    · cases heq
      exact if_pos rfl
    · have hne : a ≠ k := fun heq => hd.1 (heq ▸ List.mem_map_of_mem hmem)
      rw [find?_cons, if_neg hne]
      exact ih hd.2 hmem

theorem nodup_keys_set {d : Entries κ α} (hd : (keys d).Nodup) (k : κ) (v : α) :
    (keys (set d k v)).Nodup := by
  induction d with
  | nil => simp [set, keys]
  | cons e d ih =>
    obtain ⟨a, w⟩ := e
    simp only [keys, List.map_cons, List.nodup_cons] at hd
    by_cases ha : a = k
    · subst ha
      simpa [set, keys] using hd
    · have hnot : a ∉ keys (set d k v) := by
        rw [mem_keys, find?_set, if_neg (Ne.symm ha), ← mem_keys]
        exact hd.1
      rw [set, if_neg ha]
      exact List.nodup_cons.mpr ⟨hnot, ih hd.2⟩

theorem nodup_keys_pop {d : Entries κ α} (hd : (keys d).Nodup) (k : κ) : (keys (pop d k)).Nodup :=
  hd.sublist (List.Sublist.map _ List.filter_sublist)

end Entries

end HeyKevin.Core
