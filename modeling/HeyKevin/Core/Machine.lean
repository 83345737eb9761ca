import Mathlib.Data.List.Induction
/-!
# Deterministic machines and their event logs

A machine is a total step function from a state and a call to the next state
and a response. Whatever the environment chooses (clock readings, fresh
identifiers, which caller runs next) is part of the call, so a run is a list
of calls and an interleaving of several callers is just a list.

* `run`, `log`: the final state and the list of events of a run.
* `log_eq_append`, `mem_log`: every cut of a log is a cut of the run.
* `log_inv`, `run_inv`: a relation between log and state (or a property of
  the state) that every step preserves holds after every run. Both take a
  guard `G` on events, for results about the runs whose steps all meet it.
* `unless_log`: if a step leaves `P` only through an event in `Q`, and no
  event in `R` starts in `P`, then an `R` event is preceded by a `Q` event.
* `countP_log_le_one`: events that end a property which never comes back
  happen at most once.
-/
namespace HeyKevin.Core

universe u v w

structure Event (σ : Type u) (κ : Type v) (ρ : Type w) where
  pre : σ
  call : κ
  resp : ρ
  post : σ

abbrev Machine (σ : Type u) (κ : Type v) (ρ : Type w) := σ → κ → σ × ρ

namespace Machine

variable {σ : Type u} {κ : Type v} {ρ : Type w} (m : Machine σ κ ρ)

def event (s : σ) (c : κ) : Event σ κ ρ := ⟨s, c, (m s c).2, (m s c).1⟩

@[simp] theorem event_pre (s : σ) (c : κ) : (m.event s c).pre = s := rfl
@[simp] theorem event_call (s : σ) (c : κ) : (m.event s c).call = c := rfl
@[simp] theorem event_resp (s : σ) (c : κ) : (m.event s c).resp = (m s c).2 := rfl
@[simp] theorem event_post (s : σ) (c : κ) : (m.event s c).post = (m s c).1 := rfl

def run (s : σ) : List κ → σ
  | [] => s
  | c :: cs => run (m s c).1 cs

def log (s : σ) : List κ → List (Event σ κ ρ)
  | [] => []
  | c :: cs => m.event s c :: log (m s c).1 cs

def Reachable (s₀ s : σ) : Prop := ∃ cs, m.run s₀ cs = s

@[simp] theorem run_nil (s : σ) : m.run s [] = s := rfl
@[simp] theorem run_cons (s : σ) (c : κ) (cs : List κ) :
    m.run s (c :: cs) = m.run (m s c).1 cs := rfl
@[simp] theorem log_nil (s : σ) : m.log s [] = [] := rfl
@[simp] theorem log_cons (s : σ) (c : κ) (cs : List κ) :
    m.log s (c :: cs) = m.event s c :: m.log (m s c).1 cs := rfl

theorem run_append (s : σ) (cs ds : List κ) :
    m.run s (cs ++ ds) = m.run (m.run s cs) ds := by
  induction cs generalizing s with
  | nil => rfl
  | cons c cs ih => simp only [List.cons_append, run_cons, ih]

theorem log_append (s : σ) (cs ds : List κ) :
    m.log s (cs ++ ds) = m.log s cs ++ m.log (m.run s cs) ds := by
  induction cs generalizing s with
  | nil => rfl
  | cons c cs ih => simp only [List.cons_append, log_cons, run_cons, ih]

theorem log_append_cons (s : σ) (cs : List κ) (c : κ) (ds : List κ) :
    m.log s (cs ++ c :: ds) =
      m.log s cs ++ m.event (m.run s cs) c :: m.log (m (m.run s cs) c).1 ds := by
  rw [log_append, log_cons]

theorem log_eq_append {s : σ} {cs : List κ} {l₁ l₂ : List (Event σ κ ρ)}
    (h : m.log s cs = l₁ ++ l₂) :
    ∃ cs₁ cs₂, cs = cs₁ ++ cs₂ ∧ l₁ = m.log s cs₁ ∧ l₂ = m.log (m.run s cs₁) cs₂ := by
  induction l₁ generalizing s cs with
  | nil => exact ⟨[], cs, rfl, rfl, h.symm⟩
  | cons e l₁ ih =>
    cases cs with
    | nil => cases h
    | cons c cs =>
      simp only [log_cons, List.cons_append, List.cons.injEq] at h
      obtain ⟨rfl, h⟩ := h
      obtain ⟨cs₁, cs₂, rfl, rfl, rfl⟩ := ih h
      exact ⟨c :: cs₁, cs₂, rfl, rfl, rfl⟩

theorem log_eq_append_cons {s : σ} {cs : List κ} {l₁ l₂ : List (Event σ κ ρ)}
    {e : Event σ κ ρ} (h : m.log s cs = l₁ ++ e :: l₂) :
    ∃ cs₁ c cs₂, cs = cs₁ ++ c :: cs₂ ∧ l₁ = m.log s cs₁ ∧ e = m.event (m.run s cs₁) c ∧
      l₂ = m.log (m (m.run s cs₁) c).1 cs₂ := by
  obtain ⟨cs₁, cs₂, rfl, rfl, h₂⟩ := m.log_eq_append h
  cases cs₂ with
  | nil => cases h₂
  | cons c cs₂ =>
    simp only [log_cons, List.cons.injEq] at h₂
    exact ⟨cs₁, c, cs₂, rfl, rfl, h₂.1, h₂.2⟩

theorem mem_log {s : σ} {cs : List κ} {e : Event σ κ ρ} (h : e ∈ m.log s cs) :
    ∃ cs₁ c cs₂, cs = cs₁ ++ c :: cs₂ ∧ e = m.event (m.run s cs₁) c := by
  obtain ⟨l₁, l₂, h⟩ := List.append_of_mem h
  obtain ⟨cs₁, c, cs₂, rfl, -, he, -⟩ := m.log_eq_append_cons h
  exact ⟨cs₁, c, cs₂, rfl, he⟩

theorem eq_of_mem_log {s : σ} {cs : List κ} {e : Event σ κ ρ} (h : e ∈ m.log s cs) :
    e.resp = (m e.pre e.call).2 ∧ e.post = (m e.pre e.call).1 := by
  obtain ⟨cs₁, c, cs₂, -, rfl⟩ := m.mem_log h
  exact ⟨rfl, rfl⟩

theorem map_call_log (s : σ) (cs : List κ) : (m.log s cs).map Event.call = cs := by
  induction cs generalizing s with
  | nil => rfl
  | cons c cs ih => rw [log_cons, List.map_cons, ih, event_call]

theorem call_mem_of_mem_log {s : σ} {cs : List κ} {e : Event σ κ ρ} (h : e ∈ m.log s cs) :
    e.call ∈ cs := by
  obtain ⟨cs₁, c, cs₂, rfl, rfl⟩ := m.mem_log h
  exact List.mem_append_right _ List.mem_cons_self

theorem exists_mem_log_post (s : σ) {cs : List κ} (h : cs ≠ []) :
    ∃ e ∈ m.log s cs, e.post = m.run s cs := by
  cases cs using List.reverseRecOn with
  | nil => exact absurd rfl h
  | append_singleton cs c =>
    refine ⟨m.event (m.run s cs) c, ?_, ?_⟩
    · rw [log_append_cons]
      exact List.mem_append_right _ List.mem_cons_self
    · rw [run_append]
      rfl

/-! ## Invariants -/

/-- A relation between the log so far and the state, preserved by every step
whose event meets `G`, holds after every run whose events all meet `G`. -/
theorem log_inv {G : Event σ κ ρ → Prop} {I : List (Event σ κ ρ) → σ → Prop} {s₀ : σ}
    (h0 : I [] s₀)
    (hs : ∀ es s c, I es s → G (m.event s c) → I (es ++ [m.event s c]) (m s c).1)
    (cs : List κ) (hG : ∀ e ∈ m.log s₀ cs, G e) : I (m.log s₀ cs) (m.run s₀ cs) := by
  induction cs using List.reverseRecOn with
  | nil => exact h0
  | append_singleton cs c ih =>
    simp only [log_append, run_append, log_cons, log_nil, run_cons, run_nil] at hG ⊢
    exact hs _ _ _ (ih fun e he => hG e (List.mem_append_left _ he)) (hG _ (by simp))

/-- A property of the state, preserved by every step whose event meets `G`,
holds in the state after every run whose events all meet `G`. -/
theorem run_inv {G : Event σ κ ρ → Prop} {I : σ → Prop} {s₀ : σ} (h0 : I s₀)
    (hs : ∀ s c, I s → G (m.event s c) → I (m s c).1)
    (cs : List κ) (hG : ∀ e ∈ m.log s₀ cs, G e) : I (m.run s₀ cs) :=
  m.log_inv (I := fun _ s => I s) h0 (fun _ s c => hs s c) cs hG

theorem reachable_inv {I : σ → Prop} {s₀ s : σ} (h0 : I s₀) (hs : ∀ s c, I s → I (m s c).1)
    (h : m.Reachable s₀ s) : I s := by
  obtain ⟨cs, rfl⟩ := h
  exact m.run_inv (G := fun _ => True) h0 (fun s c hi _ => hs s c hi) cs fun _ _ => trivial

/-- What holds after the event `a` and survives every event between holds
before the event `f`. -/
theorem log_between {G : Event σ κ ρ → Prop} {I : σ → Prop}
    (hs : ∀ s c, I s → G (m.event s c) → I (m s c).1) {s : σ} {cs : List κ}
    {l₁ l₂ l₃ : List (Event σ κ ρ)} {a f : Event σ κ ρ}
    (h : m.log s cs = l₁ ++ a :: l₂ ++ f :: l₃) (h0 : I a.post) (hG : ∀ e ∈ l₂, G e) :
    I f.pre := by
  rw [List.append_assoc, List.cons_append] at h
  obtain ⟨cs₁, c, cs₂, -, -, rfl, hl⟩ := m.log_eq_append_cons h
  obtain ⟨cs₃, d, -, -, rfl, rfl, -⟩ := m.log_eq_append_cons hl.symm
  exact m.run_inv h0 hs cs₃ hG

theorem log_pre {I : σ → Prop} {s₀ : σ} (h0 : I s₀) (hs : ∀ s c, I s → I (m s c).1)
    {cs : List κ} {e : Event σ κ ρ} (he : e ∈ m.log s₀ cs) : I e.pre ∧ I e.post := by
  obtain ⟨cs₁, c, cs₂, -, rfl⟩ := m.mem_log he
  have h := m.reachable_inv h0 hs ⟨cs₁, rfl⟩
  exact ⟨h, hs _ c h⟩

/-- Every event of a run from a state in the invariant, whose events all meet
`G`, starts and ends in it. -/
theorem log_pre_of {G : Event σ κ ρ → Prop} {I : σ → Prop} {s₀ : σ} (h0 : I s₀)
    (hs : ∀ s c, I s → G (m.event s c) → I (m s c).1) {cs : List κ}
    (hG : ∀ e ∈ m.log s₀ cs, G e) {e : Event σ κ ρ} (he : e ∈ m.log s₀ cs) :
    I e.pre ∧ I e.post := by
  obtain ⟨cs₁, c, cs₂, rfl, rfl⟩ := m.mem_log he
  have h := m.run_inv h0 hs cs₁ fun e he => hG e (by
    rw [log_append]
    exact List.mem_append_left _ he)
  exact ⟨h, hs _ c h (hG _ (by rw [log_append_cons]; simp))⟩

/-- Where an event in the invariant meets `Q` exactly when it meets `G`, and `G`
keeps the invariant, all events of a run meet `Q` exactly when all meet `G`. -/
theorem log_iff {Q G : Event σ κ ρ → Prop} {I : σ → Prop} {s₀ : σ} (h0 : I s₀) (cs : List κ)
    (hQ : ∀ s, ∀ c ∈ cs, I s → (Q (m.event s c) ↔ G (m.event s c)))
    (hs : ∀ s, ∀ c ∈ cs, I s → G (m.event s c) → I (m s c).1) :
    (∀ e ∈ m.log s₀ cs, Q e) ↔ ∀ e ∈ m.log s₀ cs, G e := by
  induction cs generalizing s₀ with
  | nil => simp
  | cons c cs ih =>
    have hc : c ∈ c :: cs := List.mem_cons_self
    simp only [log_cons, List.forall_mem_cons]
    rw [hQ s₀ c hc h0]
    refine and_congr_right fun hg => ?_
    exact ih (hs s₀ c hc h0 hg) (fun s d hd => hQ s d (List.mem_cons_of_mem _ hd))
      fun s d hd => hs s d (List.mem_cons_of_mem _ hd)

/-- Where a step keeps the invariant exactly when its event meets `G`, a run
stays in it exactly when all its events do. -/
theorem log_post_iff {G : Event σ κ ρ → Prop} {I : σ → Prop} {s₀ : σ} (h0 : I s₀)
    (hs : ∀ s c, I s → (I (m s c).1 ↔ G (m.event s c))) (cs : List κ) :
    (∀ e ∈ m.log s₀ cs, I e.post) ↔ ∀ e ∈ m.log s₀ cs, G e :=
  m.log_iff h0 cs (fun s c _ h => hs s c h) fun s c _ h hg => (hs s c h).mpr hg

theorem log_pairwise {I : σ → Prop} {R : Event σ κ ρ → Event σ κ ρ → Prop}
    (hs : ∀ s c, I s → I (m s c).1)
    (hR : ∀ s c, I s → ∀ cs, ∀ f ∈ m.log (m s c).1 cs, R (m.event s c) f) {s₀ : σ} (h0 : I s₀)
    (cs : List κ) : (m.log s₀ cs).Pairwise R := by
  induction cs generalizing s₀ with
  | nil => exact .nil
  | cons c cs ih => exact List.pairwise_cons.mpr ⟨hR s₀ c h0 cs, ih (hs s₀ c h0)⟩

/-- While `P` holds no `R` event can happen, and only a `Q` event ends `P`:
so before the first `R` event there is a `Q` event. -/
theorem unless_log {P : σ → Prop} {Q R : Event σ κ ρ → Prop}
    (hstep : ∀ s c, P s → ¬ Q (m.event s c) → P (m s c).1)
    (hR : ∀ s c, P s → ¬ R (m.event s c)) {s : σ} (hP : P s) {cs : List κ}
    {l₁ l₂ : List (Event σ κ ρ)} {e : Event σ κ ρ} (h : m.log s cs = l₁ ++ e :: l₂) (he : R e) :
    ∃ q ∈ l₁, Q q := by
  induction l₁ generalizing s cs with
  | nil =>
    obtain ⟨cs₁, c, cs₂, rfl, h₁, rfl, -⟩ := m.log_eq_append_cons h
    cases cs₁ with
    | nil => exact absurd he (hR _ _ hP)
    | cons _ _ => cases h₁
  | cons a l₁ ih =>
    cases cs with
    | nil => cases h
    | cons c cs =>
      simp only [log_cons, List.cons_append, List.cons.injEq] at h
      obtain ⟨rfl, h⟩ := h
      by_cases hq : Q (m.event s c)
      · exact ⟨_, List.mem_cons_self .., hq⟩
      · obtain ⟨q, hq₁, hq₂⟩ := ih (hstep s c hP hq) h
        exact ⟨q, List.mem_cons_of_mem _ hq₁, hq₂⟩

theorem countP_log_le_one {P : σ → Prop} {Q : Event σ κ ρ → Bool}
    (hQ : ∀ s c, Q (m.event s c) = true → P s ∧ ¬ P (m s c).1)
    (hs : ∀ s c, ¬ P s → ¬ P (m s c).1) (s : σ) (cs : List κ) : (m.log s cs).countP Q ≤ 1 := by
  induction cs generalizing s with
  | nil => exact Nat.zero_le _
  | cons c cs ih =>
    rw [log_cons, List.countP_cons]
    by_cases hq : Q (m.event s c) = true
    · have hend := (hQ s c hq).2
      have hrest : (m.log (m s c).1 cs).countP Q = 0 := by
        rw [List.countP_eq_zero]
        intro e he hqe
        have hpre := (m.log_pre (I := fun s => ¬ P s) hend hs he).1
        obtain ⟨cs₁, d, cs₂, -, rfl⟩ := m.mem_log he
        exact hpre (hQ _ d hqe).1
      exact Nat.le_of_eq (by rw [hrest, if_pos hq])
    · rw [if_neg hq]
      exact ih _

end Machine

end HeyKevin.Core
