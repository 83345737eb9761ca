import Mathlib.Data.List.Forall2
/-!
# Fallible code

Code that raises is `Except ε`. A guard clause is `ensure`, sequencing is
`bind`; the simp lemmas here turn "the whole block succeeded" into the facts
each of its steps established, in order.
-/
namespace HeyKevin.Core

variable {ε α β : Type}

/-- Raise `e` unless `c` holds. -/
def ensure (c : Prop) [Decidable c] (e : ε) : Except ε Unit := if c then .ok () else .error e

/-- Raise `e` in place of a missing value. -/
def require (x : Option α) (e : ε) : Except ε α :=
  match x with
  | some a => .ok a
  | none => .error e

@[simp] theorem ensure_eq_ok {c : Prop} [Decidable c] {e : ε} {u : Unit} :
    ensure c e = .ok u ↔ c := by
  unfold ensure
  split <;> simp_all

theorem ensure_of {c : Prop} [Decidable c] (e : ε) (h : c) : ensure c e = .ok () := if_pos h

@[simp] theorem require_eq_ok {x : Option α} {e : ε} {a : α} : require x e = .ok a ↔ x = some a := by
  unfold require
  split <;> simp_all

@[simp] theorem bind_eq_ok {x : Except ε α} {f : α → Except ε β} {b : β} :
    (x >>= f) = .ok b ↔ ∃ a, x = .ok a ∧ f a = .ok b := by
  cases x with
  | error e => simp [bind, Except.bind]
  | ok a => simp [bind, Except.bind]

theorem ensure_eq_error {c : Prop} [Decidable c] {e e' : ε} :
    ensure c e = .error e' ↔ ¬ c ∧ e = e' := by
  unfold ensure
  split <;> simp_all

theorem bind_eq_error {x : Except ε α} {f : α → Except ε β} {e : ε} :
    (x >>= f) = .error e ↔ x = .error e ∨ ∃ a, x = .ok a ∧ f a = .error e := by
  cases x with
  | error e => simp [bind, Except.bind]
  | ok a => simp [bind, Except.bind]

/-- A guard returns nothing of interest. -/
@[simp] theorem exists_unit {p : Unit → Prop} : (∃ u, p u) ↔ p () :=
  ⟨fun ⟨_, h⟩ => h, fun h => ⟨(), h⟩⟩

theorem bind_of_ok {x : Except ε α} {a : α} (f : α → Except ε β) (h : x = .ok a) :
    (x >>= f) = f a := by rw [h]; rfl

@[simp] theorem ok_bind (a : α) (f : α → Except ε β) : (Except.ok a >>= f) = f a := rfl

@[simp] theorem error_bind (e : ε) (f : α → Except ε β) :
    (Except.error e >>= f) = .error e := rfl

theorem exists_ok_of_toBool {x : Except ε α} (h : x.toBool = true) : ∃ a, x = .ok a := by
  cases x with
  | error e => cases h
  | ok a => exact ⟨a, rfl⟩

theorem ok_of_toOption {x : Except ε α} {a : α} (h : x.toOption = some a) : x = .ok a := by
  cases x with
  | error e => cases h
  | ok b => exact congrArg Except.ok (Option.some.inj h)

@[simp] theorem pure_eq_ok (a : α) : (pure a : Except ε α) = .ok a := rfl

@[simp] theorem mapError_eq_ok {ε' : Type} {f : ε → ε'} {x : Except ε α} {a : α} :
    x.mapError f = .ok a ↔ x = .ok a := by
  cases x <;> simp [Except.mapError]

theorem map_eq_ok {f : α → β} {x : Except ε α} {b : β} :
    x.map f = .ok b ↔ ∃ a, x = .ok a ∧ f a = b := by
  cases x <;> simp [Except.map]

/-- A mapped block succeeds when every element does. -/
theorem mapM_eq_ok {f : α → Except ε β} {as : List α} {bs : List β} :
    as.mapM f = .ok bs ↔ List.Forall₂ (fun a b => f a = .ok b) as bs := by
  induction as generalizing bs with
  | nil => simp [eq_comm]
  | cons a as ih =>
    rw [List.mapM_cons]
    simp only [bind_eq_ok, pure_eq_ok, Except.ok.injEq, List.forall₂_cons_left_iff, ih]
    constructor
    · rintro ⟨b, hb, bs', hbs, rfl⟩
      exact ⟨b, bs', hb, hbs, rfl⟩
    · rintro ⟨b, bs', hb, hbs, rfl⟩
      exact ⟨b, hb, bs', hbs, rfl⟩

theorem mapM_eq_self {f : α → Except ε α} {as : List α} :
    as.mapM f = .ok as ↔ ∀ a ∈ as, f a = .ok a := by
  rw [mapM_eq_ok, List.forall₂_same]

theorem mapM_length {f : α → Except ε β} {as : List α} {bs : List β} (h : as.mapM f = .ok bs) :
    bs.length = as.length := (mapM_eq_ok.mp h).length_eq.symm

theorem exists_of_mem_mapM {f : α → Except ε β} {as : List α} {bs : List β}
    (h : as.mapM f = .ok bs) {b : β} (hb : b ∈ bs) : ∃ a ∈ as, f a = .ok b := by
  have hall := mapM_eq_ok.mp h
  clear h
  induction hall with
  | nil => cases hb
  | cons hab _ ih =>
    rcases List.mem_cons.mp hb with rfl | hb
    · exact ⟨_, List.mem_cons_self, hab⟩
    · obtain ⟨a, ha, hf⟩ := ih hb
      exact ⟨a, List.mem_cons_of_mem _ ha, hf⟩

theorem mapM_of_mem {f : α → Except ε β} {as : List α} {bs : List β}
    (h : as.mapM f = .ok bs) {a : α} (ha : a ∈ as) : ∃ b ∈ bs, f a = .ok b := by
  have hall := mapM_eq_ok.mp h
  clear h
  induction hall with
  | nil => cases ha
  | cons hab _ ih =>
    rcases List.mem_cons.mp ha with rfl | ha
    · exact ⟨_, List.mem_cons_self, hab⟩
    · obtain ⟨b, hb, hf⟩ := ih ha
      exact ⟨b, List.mem_cons_of_mem _ hb, hf⟩

/-! ## Loops -/

/-- A loop raises at the first item that raises. -/
theorem foldlM_eq_error {f : β → α → Except ε β} {as : List α} {b : β} {e : ε} :
    as.foldlM f b = .error e ↔ ∃ before a after c, as = before ++ a :: after ∧
      before.foldlM f b = .ok c ∧ f c a = .error e := by
  induction as generalizing b with
  | nil =>
    refine iff_of_false (fun h => by cases h) ?_
    rintro ⟨before, a, after, c, heq, -⟩
    simp at heq
  | cons x as ih =>
    rw [List.foldlM_cons, bind_eq_error]
    constructor
    · rintro (h | ⟨d, hd, h⟩)
      · exact ⟨[], x, as, b, rfl, rfl, h⟩
      · obtain ⟨before, a, after, c, rfl, hc, herror⟩ := ih.mp h
        refine ⟨x :: before, a, after, c, rfl, ?_, herror⟩
        rw [List.foldlM_cons, hd, ok_bind, hc]
    · rintro ⟨before, a, after, c, heq, hc, herror⟩
      cases before with
      | nil =>
        cases heq
        cases hc
        exact .inl herror
      | cons y before =>
        cases heq
        rw [List.foldlM_cons, bind_eq_ok] at hc
        obtain ⟨d, hd, hc⟩ := hc
        exact .inr ⟨d, hd, ih.mpr ⟨before, a, after, c, rfl, hc, herror⟩⟩

theorem foldlM_invariant {f : β → α → Except ε β} {R : List α → β → Prop}
    (hstep : ∀ before a c d, R before c → f c a = .ok d → R (before ++ [a]) d)
    {as : List α} {b c : β} (hb : R [] b) (h : as.foldlM f b = .ok c) : R as c := by
  have hrun : ∀ (rest before : List α) (d : β), R before d → rest.foldlM f d = .ok c →
      R (before ++ rest) c := by
    intro rest
    induction rest with
    | nil =>
      intro before d hd hrest
      cases hrest
      rw [List.append_nil]
      exact hd
    | cons x rest ih =>
      intro before d hd hrest
      rw [List.foldlM_cons, bind_eq_ok] at hrest
      obtain ⟨d', hx, hrest⟩ := hrest
      have htail := ih (before ++ [x]) d' (hstep before x d d' hd hx) hrest
      rwa [List.append_assoc, List.singleton_append] at htail
  exact hrun as [] b hb h

end HeyKevin.Core
