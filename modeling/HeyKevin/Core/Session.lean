import Mathlib.Data.List.Forall2
/-!
# Programs that ask an environment

A program asks its environment one question at a time, keeps local variables
and may raise. The environment answers as it likes, from everything that was
asked and answered so far; the trace lists the questions with their answers.

* `Triple`: what holds where a program returns and where it raises, with one
  rule for each way to build a program.
* `InOrder`: events of given kinds are in a trace, one behind the other.
-/
namespace HeyKevin.Core

universe u

variable {Q : Type} {A : Q → Type} {σ ε α β : Type}

/-- The questions that were asked, with their answers. -/
abbrev Trace (A : Q → Type) := List (Σ q, A q)

abbrev Environment (A : Q → Type) := Trace A → (q : Q) → A q

structure Session (A : Q → Type) (σ : Type) where
  locals : σ
  trace : Trace A

def Session.push (s : Session A σ) (e : Σ q, A q) : Session A σ :=
  { s with trace := s.trace ++ [e] }

@[simp] theorem Session.push_locals (s : Session A σ) (e : Σ q, A q) :
    (s.push e).locals = s.locals := rfl
@[simp] theorem Session.push_trace (s : Session A σ) (e : Σ q, A q) :
    (s.push e).trace = s.trace ++ [e] := rfl

def Prog (A : Q → Type) (σ ε α : Type) := Environment A → Session A σ → Except ε α × Session A σ

namespace Prog

def ret (a : α) : Prog A σ ε α := fun _ s => (.ok a, s)

def raise (e : ε) : Prog A σ ε α := fun _ s => (.error e, s)

def andThen (p : Prog A σ ε α) (f : α → Prog A σ ε β) : Prog A σ ε β := fun env s =>
  match p env s with
  | (.ok a, s) => f a env s
  | (.error e, s) => (.error e, s)

instance : Monad (Prog A σ ε) where
  pure := ret
  bind := andThen

def ask (q : Q) : Prog A σ ε (A q) := fun env s =>
  (.ok (env s.trace q), s.push ⟨q, env s.trace q⟩)

def look (f : σ → α) : Prog A σ ε α := fun _ s => (.ok (f s.locals), s)

def assign (f : σ → σ) : Prog A σ ε Unit := fun _ s => (.ok (), { s with locals := f s.locals })

/-- `try: p` with the handlers `h`; one that handles nothing raises again. -/
def handle (p : Prog A σ ε α) (h : ε → Prog A σ ε α) : Prog A σ ε α := fun env s =>
  match p env s with
  | (.ok a, s) => (.ok a, s)
  | (.error e, s) => h e env s

/-- Raise `e` unless `c` holds. -/
def check (c : Bool) (e : ε) : Prog A σ ε Unit := if c then ret () else raise e

/-- Raise `e` in place of a missing value. -/
def need (x : Option α) (e : ε) : Prog A σ ε α :=
  match x with
  | some a => ret a
  | none => raise e

end Prog

/-! ## What holds of a program -/

/-- From `P` the program returns in `R`, or raises in `E`. -/
def Triple (P : Session A σ → Prop) (p : Prog A σ ε α) (R : α → Session A σ → Prop)
    (E : ε → Session A σ → Prop) : Prop :=
  ∀ env s, P s →
    match p env s with
    | (.ok a, s) => R a s
    | (.error e, s) => E e s

namespace Triple

variable {P P' : Session A σ → Prop} {p : Prog A σ ε α} {R R' : α → Session A σ → Prop}
  {E E' : ε → Session A σ → Prop}

theorem weaken (h : Triple P p R E) (hP : ∀ s, P' s → P s) (hR : ∀ a s, R a s → R' a s)
    (hE : ∀ e s, E e s → E' e s) : Triple P' p R' E' := by
  intro env s hs
  have hrun := h env s (hP s hs)
  generalize p env s = out at hrun ⊢
  obtain ⟨result | result, s'⟩ := out
  · exact hE _ _ hrun
  · exact hR _ _ hrun

theorem pre (h : Triple P p R E) (hP : ∀ s, P' s → P s) : Triple P' p R E :=
  h.weaken hP (fun _ _ h => h) fun _ _ h => h

theorem ret {a : α} (h : ∀ s, P s → R a s) : Triple P (pure a : Prog A σ ε α) R E :=
  fun _ s hs => h s hs

theorem raise {e : ε} (h : ∀ s, P s → E e s) : Triple P (.raise e : Prog A σ ε α) R E :=
  fun _ s hs => h s hs

theorem bind {M : α → Session A σ → Prop} {f : α → Prog A σ ε β} {R : β → Session A σ → Prop}
    (hp : Triple P p M E) (hf : ∀ a, Triple (M a) (f a) R E) : Triple P (p >>= f) R E := by
  intro env s hs
  have hrun := hp env s hs
  change match Prog.andThen p f env s with
    | (.ok a, s) => R a s
    | (.error e, s) => E e s
  unfold Prog.andThen
  generalize p env s = out at hrun ⊢
  obtain ⟨result | result, s'⟩ := out
  · exact hrun
  · exact hf result env s' hrun

theorem ask {q : Q} {R : A q → Session A σ → Prop} {E : ε → Session A σ → Prop}
    (h : ∀ s a, P s → R a (s.push ⟨q, a⟩)) :
    Triple P (.ask q : Prog A σ ε (A q)) R E :=
  fun _ s hs => h s _ hs

theorem look {f : σ → α} (h : ∀ s, P s → R (f s.locals) s) :
    Triple P (.look f : Prog A σ ε α) R E :=
  fun _ s hs => h s hs

theorem assign {f : σ → σ} {R : Unit → Session A σ → Prop} {E : ε → Session A σ → Prop}
    (h : ∀ s, P s → R () { s with locals := f s.locals }) :
    Triple P (.assign f : Prog A σ ε Unit) R E :=
  fun _ s hs => h s hs

theorem handle {H : ε → Session A σ → Prop} {h : ε → Prog A σ ε α} (hp : Triple P p R H)
    (hh : ∀ e, Triple (H e) (h e) R E) : Triple P (p.handle h) R E := by
  intro env s hs
  have hrun := hp env s hs
  unfold Prog.handle
  generalize p env s = out at hrun ⊢
  obtain ⟨result | result, s'⟩ := out
  · exact hh result env s' hrun
  · exact hrun

theorem check {c : Bool} {e : ε} {E : ε → Session A σ → Prop}
    (h : ∀ s, P s → c = false → E e s) :
    Triple P (.check c e : Prog A σ ε Unit) (fun _ s => P s ∧ c = true) E := by
  cases c with
  | true => exact fun _ s hs => ⟨hs, rfl⟩
  | false => exact fun _ s hs => h s hs rfl

theorem need {x : Option α} {e : ε} {E : ε → Session A σ → Prop}
    (h : ∀ s, P s → x = none → E e s) :
    Triple P (.need x e : Prog A σ ε α) (fun a s => P s ∧ x = some a) E := by
  cases x with
  | some a => exact fun _ s hs => ⟨hs, rfl⟩
  | none => exact fun _ s hs => h s hs rfl

theorem given {c : Prop} (h : c → Triple P p R E) : Triple (fun s => P s ∧ c) p R E :=
  fun env s hs => h hs.2 env s hs.1

end Triple

/-! ## What a trace contains -/

section

variable {γ : Type u} {kinds : List (γ → Prop)} {l : List γ}

def InOrder (kinds : List (γ → Prop)) (l : List γ) : Prop :=
  ∃ es, es.Sublist l ∧ List.Forall₂ (fun kind e => kind e) kinds es

theorem InOrder.nil (l : List γ) : InOrder [] l := ⟨[], List.nil_sublist l, .nil⟩

theorem InOrder.append_right (h : InOrder kinds l) (l' : List γ) : InOrder kinds (l ++ l') := by
  obtain ⟨es, hsub, hes⟩ := h
  exact ⟨es, hsub.trans (List.sublist_append_left l l'), hes⟩

theorem InOrder.imp {kinds' : List (γ → Prop)} (h : InOrder kinds l)
    (himp : List.Forall₂ (fun kind kind' => ∀ e, kind e → kind' e) kinds kinds') :
    InOrder kinds' l := by
  obtain ⟨es, hsub, hes⟩ := h
  refine ⟨es, hsub, ?_⟩
  clear hsub
  induction himp generalizing es with
  | nil =>
    cases hes
    exact .nil
  | cons hkind _ ih =>
    cases hes with
    | cons he hes => exact .cons (hkind _ he) (ih _ hes)

theorem InOrder.snoc (h : InOrder kinds l) {kind : γ → Prop} {e : γ} (he : kind e) :
    InOrder (kinds ++ [kind]) (l ++ [e]) := by
  obtain ⟨es, hsub, hes⟩ := h
  exact ⟨es ++ [e], hsub.append (List.Sublist.refl _), List.rel_append hes (.cons he .nil)⟩

end

end HeyKevin.Core
