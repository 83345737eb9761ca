import HeyKevin.Core.Fallible
/-!
# Fallible code that makes requests

A block that asks other services is its outcome together with the requests it
made; a block that raises keeps the requests it made before. What a service
answers is an argument of the request.

* `outcome_bind`: outcomes compose as `Except` does.
* `forEach_ok_iff`: a loop ends normally when each of its rounds does.
* `mem_requests_forEach`: such a loop made the requests of every round.
-/
namespace HeyKevin.Core

variable {Q ε α β : Type}

/-- The outcome of a block, and what it asked for. -/
structure Recorded (Q ε α : Type) where
  outcome : Except ε α
  requests : List Q

namespace Recorded

def andThen (p : Recorded Q ε α) (f : α → Recorded Q ε β) : Recorded Q ε β :=
  match p.outcome with
  | .ok a => ⟨(f a).outcome, p.requests ++ (f a).requests⟩
  | .error e => ⟨.error e, p.requests⟩

instance : Monad (Recorded Q ε) where
  pure a := ⟨.ok a, []⟩
  bind := andThen

def ask (q : Q) (answer : Except ε α) : Recorded Q ε α := ⟨answer, [q]⟩

def lift (x : Except ε α) : Recorded Q ε α := ⟨x, []⟩

/-- `try: p` with the handler `h`; one that handles nothing raises again. -/
def handle (p : Recorded Q ε α) (h : ε → Recorded Q ε α) : Recorded Q ε α :=
  match p.outcome with
  | .ok _ => p
  | .error e => ⟨(h e).outcome, p.requests ++ (h e).requests⟩

/-- `for a in as: f(a)` -/
def forEach (f : α → Recorded Q ε Unit) : List α → Recorded Q ε Unit
  | [] => pure ()
  | a :: as => do
    f a
    forEach f as

@[simp] theorem outcome_pure (a : α) : (pure a : Recorded Q ε α).outcome = .ok a := rfl
@[simp] theorem outcome_ask (q : Q) (x : Except ε α) : (ask q x).outcome = x := rfl
@[simp] theorem outcome_lift (x : Except ε α) : (lift x : Recorded Q ε α).outcome = x := rfl
@[simp] theorem requests_ask (q : Q) (x : Except ε α) : (ask q x).requests = [q] := rfl

@[simp] theorem outcome_bind (p : Recorded Q ε α) (f : α → Recorded Q ε β) :
    (p >>= f).outcome = p.outcome >>= fun a => (f a).outcome := by
  change (andThen p f).outcome = _
  unfold andThen
  cases p.outcome <;> rfl

@[simp] theorem outcome_handle (p : Recorded Q ε α) (h : ε → Recorded Q ε α) :
    (p.handle h).outcome = match p.outcome with
      | .ok a => .ok a
      | .error e => (h e).outcome := by
  unfold handle
  cases hp : p.outcome <;> simp [hp]

theorem requests_bind (p : Recorded Q ε α) (f : α → Recorded Q ε β) :
    p.requests <+: (p >>= f).requests := by
  change p.requests <+: (andThen p f).requests
  unfold andThen
  cases p.outcome with
  | ok a => exact List.prefix_append _ _
  | error e => exact List.prefix_rfl

theorem requests_handle (p : Recorded Q ε α) (h : ε → Recorded Q ε α) :
    p.requests <+: (p.handle h).requests := by
  unfold handle
  cases p.outcome with
  | ok a => exact List.prefix_rfl
  | error e => exact List.prefix_append _ _

theorem mem_requests_bind {p : Recorded Q ε α} {f : α → Recorded Q ε β} {a : α} {q : Q}
    (hp : p.outcome = .ok a) (hq : q ∈ (f a).requests) : q ∈ (p >>= f).requests := by
  change q ∈ (andThen p f).requests
  unfold andThen
  rw [hp]
  exact List.mem_append_right _ hq

/-! ## Loops -/

variable {f : α → Recorded Q ε Unit} {as : List α}

theorem forEach_ok_iff : (forEach f as).outcome = .ok () ↔ ∀ a ∈ as, (f a).outcome = .ok () := by
  induction as with
  | nil => simp [forEach]
  | cons a as ih => simp [forEach, ih]

theorem mem_requests_forEach (h : (forEach f as).outcome = .ok ()) {a : α} (ha : a ∈ as) {q : Q}
    (hq : q ∈ (f a).requests) : q ∈ (forEach f as).requests := by
  induction as with
  | nil => cases ha
  | cons b as ih =>
    rw [forEach_ok_iff, List.forall_mem_cons] at h
    rcases List.mem_cons.mp ha with rfl | ha
    · exact (requests_bind (f a) fun _ => forEach f as).subset hq
    · exact mem_requests_bind h.1 (ih (forEach_ok_iff.mpr h.2) ha)

end Recorded

end HeyKevin.Core
