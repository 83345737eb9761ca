import HeyKevin.L1Encoding.Sha256
import HeyKevin.L14Calendar.Reschedule
/-!
# What moving an appointment leaves certain

At most two conditional writes are sent, both under the etag of the read that
found the event at the base schedule. `True` means that the event was seen at
the desired schedule, and that the claim of a write was closed. A claim whose
write was not settled by its answer stays open, and a claim that no write was
sent under is handed back, with one exception: an exception of the start of
the retry's claim leaves the function without it.

* `Kept`: what the questions asked so far amount to, kept by every question.
* `terminalizePreHttpClaim_spec`, `acquireBoundClaim_spec`,
  `transitionBoundClaimToStarted_spec`, `sendPatch_spec`, `settlePatch_spec`:
  what each step does to it.
* `reschedule_certain_iff`: the outcome is certain exactly when the start of the
  retry's claim raises no exception.
-/
namespace HeyKevin.L14.Reschedule

open HeyKevin.Core L1 L1.Text L1.Datetime

abbrev Event := Σ q, Ask.Answer q

/-! ## What is promised -/

/-- A conditional write and its answer. -/
abbrev Patch := PatchRequest × Awaited Response

def patchOf : Event → Option Patch
  | ⟨.patch _ request, answer⟩ => some (request, answer)
  | _ => none

def patches (t : List Event) : List Patch := t.filterMap patchOf

/-- The acquisition of a claim, by the call or by the task that a cancelled call awaits. -/
inductive Acquired (claim : Claim) : Event → Prop
  | direct (snapshot : Snapshot) : Acquired claim ⟨.acquire snapshot, .returned claim⟩
  | late (snapshot : Snapshot) : Acquired claim ⟨.acquireTask snapshot, .returned claim⟩

/-- A write was sent under the claim, or the claim was passed to terminalize. -/
def Discharged (claim : Claim) (t : List Event) : Prop :=
  (∃ request answer, ⟨.patch claim request, answer⟩ ∈ t) ∨
    ∃ answer, ⟨.terminalize claim, answer⟩ ∈ t

variable (P : Python) (input : Input)

/-- A 2xx with a valid event at the desired interval. -/
def Moved (response : Response) : Prop :=
  200 ≤ response.statusCode ∧ response.statusCode < 300 ∧
    ∃ base desired, readSchedule P input = .ok (base, desired) ∧
      showsInterval P input.eventId response desired = .ok true

/-- The answer decides what became of the write. -/
def Settled (answer : Awaited Response) : Prop :=
  ∃ response, answer = .returned response ∧
    (400 ≤ response.statusCode ∧ response.statusCode < 500 ∨ Moved P input response)

def Unauthorized (answer : Awaited Response) : Prop :=
  ∃ response, answer = .returned response ∧ response.statusCode = 401

/-- The event was read at this interval, under this etag. -/
def ReadAt (t : List Event) (interval : Interval) (etag : Str) : Prop :=
  ∃ response snapshot event, ⟨.getEvent, .returned (some (response, snapshot))⟩ ∈ t ∧
    200 ≤ response.statusCode ∧ response.statusCode < 300 ∧ response.json = some event ∧
    validateNonRecurringTimedEvent P input.eventId event = .ok (some (interval, etag))

/-- The last write moved the event, and its claim was closed. -/
def Confirmed (t : List Event) : Prop :=
  ∃ before claim request response after,
    t = before ++ ⟨.patch claim request, .returned response⟩ :: after ∧ patches after = [] ∧
      Moved P input response ∧ ⟨.terminalize claim, .returned true⟩ ∈ after

structure OutcomeCertain (result : Except Exit Bool) (t : List Event) : Prop where
  atMostTwo : (patches t).length ≤ 2
  second : ∀ p q, patches t = [p, q] → Unauthorized p.2
  fenced : ∀ p ∈ patches t, ∃ base desired, readSchedule P input = .ok (base, desired) ∧
    ReadAt P input t base p.1.ifMatch
  confirmed : result = .ok true →
    (∃ base desired etag, readSchedule P input = .ok (base, desired) ∧
      ReadAt P input t desired etag) ∨ Confirmed P input t
  uncertain : ∀ before claim request answer after,
    t = before ++ ⟨.patch claim request, answer⟩ :: after → ¬ Settled P input answer →
      ∀ e ∈ after, e.1 ≠ .terminalize claim
  accounted : ∀ before claim e after, t = before ++ e :: after → Acquired claim e →
    Discharged claim after

/-- An exception, and no cancellation. -/
def Raised (answer : Awaited Unit) : Prop := answer = .leaseError ∨ answer = .exception

/-- The start of a claim raised after a write was sent. -/
def RetryStartRaised (t : List Event) : Prop :=
  ∃ before claim snapshot answer after,
    t = before ++ ⟨.start claim snapshot, answer⟩ :: after ∧ Raised answer ∧ patches before ≠ []

/-! ## What is kept -/

/-- What the questions so far amount to: the answers that count, the claim that is held, and the
writes that were sent. -/
structure Kept (known : List Event) (held : Option Claim) (sent : List Patch) (t : List Event) :
    Prop where
  known : known ⊆ t
  sent : patches t = sent
  owed : ∀ before claim e after, t = before ++ e :: after → Acquired claim e →
    Discharged claim after ∨ held = some claim
  closed : ∀ before claim answer after, t = before ++ ⟨.terminalize claim, answer⟩ :: after →
    ∀ p ∈ patches before, Settled P input p.2
  started : ∀ before claim snapshot answer after,
    t = before ++ ⟨.start claim snapshot, answer⟩ :: after → Raised answer → patches before = []

variable {P input} {known : List Event} {held : Option Claim} {sent : List Patch}
  {t : List Event} {claim : Claim}

theorem snoc_eq_append_cons {α : Type} {l before after : List α} {x y : α}
    (h : l ++ [x] = before ++ y :: after) :
    (∃ rest, after = rest ++ [x] ∧ l = before ++ y :: rest) ∨
      after = [] ∧ y = x ∧ before = l := by
  rcases List.eq_nil_or_concat after with rfl | ⟨rest, z, rfl⟩
  · obtain ⟨hl, hx⟩ := List.append_inj' h rfl
    cases hx
    exact .inr ⟨rfl, rfl, hl.symm⟩
  · rw [List.concat_eq_append, ← List.cons_append, ← List.append_assoc] at h
    obtain ⟨hl, hx⟩ := List.append_inj' h rfl
    cases hx
    exact .inl ⟨rest, List.concat_eq_append, hl⟩

theorem patches_snoc (t : List Event) (e : Event) :
    patches (t ++ [e]) = patches t ++ (patchOf e).toList := by
  rw [patches, List.filterMap_append]
  cases h : patchOf e <;> simp [patches, h]

theorem Discharged.append_right (h : Discharged claim t) (t' : List Event) :
    Discharged claim (t ++ t') :=
  h.imp (fun ⟨request, answer, hin⟩ => ⟨request, answer, List.mem_append_left _ hin⟩)
    fun ⟨answer, hin⟩ => ⟨answer, List.mem_append_left _ hin⟩

theorem Kept.nil : Kept P input [] none [] [] := by
  refine ⟨List.Subset.refl _, rfl, fun before claim e after h => ?_,
    fun before claim answer after h => ?_, fun before claim snapshot answer after h => ?_⟩ <;>
  exact absurd h (List.append_ne_nil_of_right_ne_nil _ (List.cons_ne_nil _ _)).symm

/-- One more question. -/
theorem Kept.push {held' : Option Claim} {e : Event} (h : Kept P input known held sent t)
    (hacquired : ∀ claim, Acquired claim e → held' = some claim)
    (howed : ∀ claim, held = some claim → Discharged claim [e] ∨ held' = some claim)
    (hclosed : ∀ claim answer, e = ⟨.terminalize claim, answer⟩ → ∀ p ∈ sent, Settled P input p.2)
    (hstarted : ∀ claim snapshot answer, e = ⟨.start claim snapshot, answer⟩ → Raised answer →
      sent = []) :
    Kept P input known held' (sent ++ (patchOf e).toList) (t ++ [e]) where
  known := List.Subset.trans h.known (List.subset_append_left _ _)
  sent := by rw [patches_snoc, h.sent]
  owed := by
    intro before claim f after heq hf
    rcases snoc_eq_append_cons heq with ⟨rest, rfl, rfl⟩ | ⟨rfl, rfl, rfl⟩
    · rcases h.owed _ _ _ _ rfl hf with hdischarged | hheld
      · exact .inl (hdischarged.append_right _)
      · refine (howed claim hheld).imp_left fun hlast => ?_
        exact hlast.imp
          (fun ⟨request, answer, hin⟩ => ⟨request, answer, List.mem_append_right _ hin⟩)
          fun ⟨answer, hin⟩ => ⟨answer, List.mem_append_right _ hin⟩
    · exact .inr (hacquired claim hf)
  closed := by
    intro before claim answer after heq
    rcases snoc_eq_append_cons heq with ⟨rest, rfl, rfl⟩ | ⟨rfl, rfl, rfl⟩
    · exact h.closed _ _ _ _ rfl
    · rw [h.sent]
      exact hclosed claim answer rfl
  started := by
    intro before claim snapshot answer after heq hraised
    rcases snoc_eq_append_cons heq with ⟨rest, rfl, rfl⟩ | ⟨rfl, rfl, rfl⟩
    · exact h.started _ _ _ _ _ rfl hraised
    · rw [h.sent]
      exact hstarted claim snapshot answer rfl hraised

/-- A question that is none of those that count. -/
def Idle : Event → Prop
  | ⟨.acquire _, .returned _⟩ => False
  | ⟨.acquireTask _, .returned _⟩ => False
  | ⟨.terminalize _, _⟩ => False
  | ⟨.patch _ _, _⟩ => False
  | ⟨.start _ _, .leaseError⟩ => False
  | ⟨.start _ _, .exception⟩ => False
  | _ => True

theorem Kept.idle {e : Event} (h : Kept P input known held sent t) (he : Idle e) :
    Kept P input known held sent (t ++ [e]) := by
  have hpushed : Kept P input known held (sent ++ (patchOf e).toList) (t ++ [e]) := by
    refine h.push (fun claim hc => ?_) (fun claim hc => .inr hc) (fun claim answer heq => ?_)
      fun claim snapshot answer heq hraised => ?_
    · cases hc <;> cases he
    · subst heq
      cases he
    · subst heq
      rcases hraised with rfl | rfl <;> cases he
  have hsent : (patchOf e).toList = [] := by
    obtain ⟨q, answer⟩ := e
    cases q <;> first | rfl | cases he
  rwa [hsent, List.append_nil] at hpushed

theorem Kept.acquired {e : Event} (h : Kept P input known none sent t) (he : Acquired claim e) :
    Kept P input known (some claim) sent (t ++ [e]) := by
  have hpushed : Kept P input known (some claim) (sent ++ (patchOf e).toList) (t ++ [e]) := by
    refine h.push (fun claim hc => ?_) (fun claim hc => by cases hc)
      (fun claim answer heq => ?_) fun claim snapshot answer heq hraised => ?_
    · cases he <;> cases hc <;> rfl
    · subst heq
      cases he
    · subst heq
      cases he
  have hsent : (patchOf e).toList = [] := by cases he <;> rfl
  rwa [hsent, List.append_nil] at hpushed

theorem Kept.terminalized (h : Kept P input known held sent t)
    (hheld : ∀ other, held = some other → other = claim)
    (hsettled : ∀ p ∈ sent, Settled P input p.2) (answer : Awaited Bool) :
    Kept P input known none sent (t ++ [⟨.terminalize claim, answer⟩]) := by
  have hpushed : Kept P input known none (sent ++ []) (t ++ [⟨.terminalize claim, answer⟩]) := by
    refine h.push (e := ⟨.terminalize claim, answer⟩) (fun claim hc => by cases hc)
      (fun other hother => .inl (.inr ⟨answer, ?_⟩)) (fun _ _ _ => hsettled)
      fun claim snapshot answer heq => by cases heq
    rw [hheld other hother]
    exact List.mem_singleton_self _
  rwa [List.append_nil] at hpushed

theorem Kept.patched (h : Kept P input known (some claim) sent t) (request : PatchRequest)
    (answer : Awaited Response) :
    Kept P input known none (sent ++ [(request, answer)])
      (t ++ [⟨.patch claim request, answer⟩]) := by
  refine h.push (e := ⟨.patch claim request, answer⟩) (fun claim hc => by cases hc)
    (fun other hother => .inl (.inl ⟨request, answer, ?_⟩))
    (fun claim answer heq => by cases heq) fun claim snapshot answer heq => by cases heq
  cases hother
  exact List.mem_singleton_self _

theorem Kept.startRaised (h : Kept P input known held [] t) (snapshot : Snapshot)
    (answer : Awaited Unit) : Kept P input known held [] (t ++ [⟨.start claim snapshot, answer⟩]) :=
  h.push (e := ⟨.start claim snapshot, answer⟩) (fun claim hc => by cases hc)
    (fun claim hc => .inr hc) (fun claim answer heq => by cases heq) fun _ _ _ _ _ => rfl

/-! ## Awaiting -/

abbrev State := Session Ask.Answer Unit

/-- The exception that an `await` raises. -/
inductive Throws {α : Type} : Awaited α → Exit → Prop
  | leaseError : Throws .leaseError .leaseError
  | exception : Throws .exception .exception
  | cancelled : Throws .cancelled .cancelledError

/-- An exception, and no `return`. -/
def Thrown : Exit → Prop
  | .returned _ => False
  | _ => True

theorem Throws.thrown {α : Type} {answer : Awaited α} {e : Exit} (h : Throws answer e) :
    Thrown e := by
  cases h <;> trivial

/-- What is known before a question is asked. -/
def After (before : State → Prop) (q : Ask) (answer : q.Answer) (s : State) : Prop :=
  ∃ s₀, before s₀ ∧ s = s₀.push ⟨q, answer⟩

theorem ask_spec {before : State → Prop} (q : Ask) :
    Triple before (ask q) (fun answer => After before q answer) fun _ _ => False :=
  .ask fun s _ hs => ⟨s, hs, rfl⟩

variable {before : State → Prop} {kept : State → Prop}

theorem suppressException_spec {α : Type} {p : Call α}
    (h : Triple before p (fun _ => kept) fun e s => Thrown e ∧ kept s) :
    Triple before (suppressException p) (fun _ => kept) fun e s => Thrown e ∧ kept s := by
  refine .handle (h.bind fun _ => .ret fun s hs => hs) fun e => ?_
  cases e with
  | leaseError => exact .ret fun s hs => hs.2
  | exception => exact .ret fun s hs => hs.2
  | returned result => exact .raise fun s hs => hs
  | cancelledError => exact .raise fun s hs => hs

theorem suppressBaseException_spec {α : Type} {p : Call α} {E : Exit → State → Prop}
    (h : Triple before p (fun _ => kept) fun e s => Thrown e ∧ kept s) :
    Triple before (suppressBaseException p) (fun _ => kept) E := by
  refine .handle (h.bind fun _ => .ret fun s hs => hs) fun e => ?_
  cases e with
  | returned result => exact .raise fun s hs => hs.1.elim
  | _ => exact .ret fun s hs => hs.2

theorem orFalse_spec {α : Type} {p : Call α} {R : α → State → Prop} {E E' : Exit → State → Prop}
    (h : Triple before p R E) (hlease : ∀ s, E .leaseError s → E' (.returned false) s)
    (hexception : ∀ s, E .exception s → E' (.returned false) s)
    (hcancelled : ∀ s, E .cancelledError s → E' .cancelledError s)
    (hreturned : ∀ result s, E (.returned result) s → E' (.returned result) s) :
    Triple before (orFalse p) R E' := by
  refine .handle h fun e => ?_
  cases e with
  | leaseError => exact .raise hlease
  | exception => exact .raise hexception
  | returned result => exact .raise (hreturned result)
  | cancelledError => exact .raise hcancelled

/-! ## The steps -/

variable (P input known) in
/-- What is kept of a session. -/
def At (held : Option Claim) (sent : List Patch) (s : State) : Prop :=
  Kept P input known held sent s.trace

variable (P input) in
/-- The writes were settled by their answers. -/
def AllSettled (sent : List Patch) : Prop := ∀ p ∈ sent, Settled P input p.2

/-- A question that is awaited. -/
theorem await_spec {α : Type} (q : Ask) (f : q.Answer → Awaited α) :
    Triple before (ask q >>= fun answer => settle (f answer))
      (fun a s => ∃ answer, f answer = .returned a ∧ After before q answer s)
      fun e s => ∃ answer, Throws (f answer) e ∧ After before q answer s := by
  refine ((ask_spec q).weaken (fun _ hs => hs) (fun _ _ hs => hs) fun _ _ hs => hs.elim).bind
    fun answer => ?_
  cases hf : f answer with
  | returned a => exact .ret fun s hs => ⟨answer, hf, hs⟩
  | leaseError => exact .raise fun s hs => ⟨answer, hf ▸ .leaseError, hs⟩
  | exception => exact .raise fun s hs => ⟨answer, hf ▸ .exception, hs⟩
  | cancelled => exact .raise fun s hs => ⟨answer, hf ▸ .cancelled, hs⟩

theorem await_idle {α : Type} (q : Ask) (f : q.Answer → Awaited α)
    (hidle : ∀ answer, Idle ⟨q, answer⟩) :
    Triple (At P input known held sent) (ask q >>= fun answer => settle (f answer))
      (fun _ => At P input known held sent) fun e s => Thrown e ∧ At P input known held sent s := by
  refine (await_spec q f).weaken (fun _ hs => hs) ?_ ?_
  · rintro _ s ⟨answer, -, s₀, hs₀, rfl⟩
    exact Kept.idle hs₀ (hidle answer)
  · rintro e s ⟨answer, hthrows, s₀, hs₀, rfl⟩
    exact ⟨hthrows.thrown, Kept.idle hs₀ (hidle answer)⟩

theorem terminalize_spec : Triple before (terminalize claim)
    (fun confirmed => After before (.terminalize claim) (.returned confirmed))
    fun e s => Thrown e ∧ ∃ answer, After before (.terminalize claim) answer s := by
  refine (await_spec (.terminalize claim) fun answer => answer).weaken (fun _ hs => hs) ?_ ?_
  · rintro confirmed s ⟨answer, rfl, hs⟩
    exact hs
  · rintro e s ⟨answer, hthrows, hs⟩
    exact ⟨hthrows.thrown, answer, hs⟩

theorem at_terminalized {s : State} {answer : Awaited Bool}
    (h : After (At P input known held sent) (.terminalize claim) answer s)
    (hheld : ∀ other, held = some other → other = claim) (hsettled : AllSettled P input sent) :
    At P input known none sent s := by
  obtain ⟨s₀, hs₀, rfl⟩ := h
  exact Kept.terminalized hs₀ hheld hsettled answer

theorem terminalizePreHttpClaim_spec (hsettled : AllSettled P input sent) :
    Triple (At P input known (some claim) sent) (terminalizePreHttpClaim claim)
      (fun _ => At P input known none sent) fun e s => Thrown e ∧ At P input known none sent s := by
  have hclosed : ∀ answer s, After (At P input known (some claim) sent) (.terminalize claim)
      answer s → At P input known none sent s :=
    fun answer s hs => at_terminalized hs (fun other hother => by cases hother; rfl) hsettled
  refine .handle (H := fun e s => Thrown e ∧ At P input known none sent s) ?_ fun e => ?_
  · refine Triple.bind (terminalize_spec.weaken (fun _ hs => hs) (fun a s hs => hclosed _ s hs)
      fun e s hs => ?_) fun _ => .ret fun s hs => hs
    obtain ⟨hthrown, answer, hs⟩ := hs
    exact ⟨hthrown, hclosed answer s hs⟩
  · have hpass : Triple (fun s => Thrown e ∧ At P input known none sent s) (.raise e : Call Unit)
        (fun _ => At P input known none sent) fun e s => Thrown e ∧ At P input known none sent s :=
      .raise fun s hs => hs
    cases e with
    | cancelledError =>
      refine Triple.bind (M := fun _ => At P input known none sent) ?_ fun _ => .raise fun s hs =>
        ⟨trivial, hs⟩
      exact (suppressBaseException_spec (await_idle (.terminalizeTask claim) (fun answer => answer)
        fun _ => trivial)).pre fun s hs => hs.2
    | _ => exact hpass

theorem at_acquired {s : State} {q : Ask} {answer : q.Answer}
    (h : After (At P input known none sent) q answer s) (hacquired : Acquired claim ⟨q, answer⟩) :
    At P input known (some claim) sent s := by
  obtain ⟨s₀, hs₀, rfl⟩ := h
  exact Kept.acquired hs₀ hacquired

theorem acquiredClaim_spec (snapshot : Snapshot) {E : Exit → State → Prop} :
    Triple (At P input known none sent) (acquiredClaim snapshot)
      (fun acquired => At P input known acquired sent) E := by
  refine .handle (H := fun _ => At P input known none sent) ?_ fun e => .ret fun s hs => hs
  refine Triple.bind ((await_spec (.acquireTask snapshot) fun answer => answer).weaken
    (fun _ hs => hs) (fun claim s hs => ?_) fun e s hs => ?_) fun claim =>
      .ret (R := fun acquired => At P input known acquired sent) fun s hs => hs
  · obtain ⟨answer, rfl, hs⟩ := hs
    exact at_acquired hs (.late snapshot)
  · obtain ⟨answer, hthrows, s₀, hs₀, rfl⟩ := hs
    refine Kept.idle hs₀ ?_
    change Awaited Claim at answer
    cases answer with
    | returned claim => cases hthrows
    | _ => trivial

theorem acquireBoundClaim_spec (hsettled : AllSettled P input sent) (snapshot : Snapshot) :
    Triple (At P input known none sent) (acquireBoundClaim snapshot)
      (fun claim => After (At P input known none sent) (.acquire snapshot) (.returned claim))
      fun e s => Thrown e ∧ At P input known none sent s := by
  refine .handle (H := fun e s => Thrown e ∧ At P input known none sent s) ?_ fun e => ?_
  · refine (await_spec (.acquire snapshot) fun answer => answer).weaken (fun _ hs => hs) ?_ ?_
    · rintro claim s ⟨answer, rfl, hs⟩
      exact hs
    · rintro e s ⟨answer, hthrows, s₀, hs₀, rfl⟩
      refine ⟨hthrows.thrown, Kept.idle hs₀ ?_⟩
      change Awaited Claim at answer
      cases answer with
      | returned claim => cases hthrows
      | _ => trivial
  · cases e with
    | cancelledError =>
      refine Triple.bind ((acquiredClaim_spec snapshot).pre fun s hs => hs.2) fun acquired => ?_
      refine Triple.bind (M := fun _ => At P input known none sent) ?_ fun _ => .raise fun s hs =>
        ⟨trivial, hs⟩
      cases acquired with
      | none => exact .ret fun s hs => hs
      | some claim => exact suppressBaseException_spec (terminalizePreHttpClaim_spec hsettled)
    | _ => exact .raise fun s hs => hs

/-- The start of a claim that raised, as the last thing that was asked. -/
def StartRaised (before : State → Prop) (claim : Claim) (snapshot : Snapshot) (s : State) : Prop :=
  ∃ answer, Raised answer ∧ After before (.start claim snapshot) answer s

theorem transitionBoundClaimToStarted_spec (hsettled : AllSettled P input sent)
    (hbefore : ∀ s, before s → At P input known (some claim) sent s) (snapshot : Snapshot) :
    Triple before (transitionBoundClaimToStarted claim snapshot)
      (fun _ => At P input known (some claim) sent)
      fun e s => e = .cancelledError ∧ At P input known none sent s ∨
        (e = .leaseError ∨ e = .exception) ∧ StartRaised before claim snapshot s := by
  refine .handle (H := fun e s => e = .cancelledError ∧ At P input known (some claim) sent s ∨
    (e = .leaseError ∨ e = .exception) ∧ StartRaised before claim snapshot s) ?_ fun e => ?_
  · refine (await_spec (.start claim snapshot) fun answer => answer).weaken (fun _ hs => hs) ?_ ?_
    · rintro _ s ⟨answer, rfl, s₀, hs₀, rfl⟩
      exact Kept.idle (hbefore s₀ hs₀) trivial
    · rintro e s ⟨answer, hthrows, hs⟩
      change Awaited Unit at answer
      cases hthrows with
      | leaseError => exact .inr ⟨.inl rfl, _, .inl rfl, hs⟩
      | exception => exact .inr ⟨.inr rfl, _, .inr rfl, hs⟩
      | cancelled =>
        obtain ⟨s₀, hs₀, rfl⟩ := hs
        exact .inl ⟨rfl, Kept.idle (hbefore s₀ hs₀) trivial⟩
  · cases e with
    | cancelledError =>
      refine Triple.bind (M := fun _ => At P input known (some claim) sent) ?_ fun _ =>
        Triple.bind (suppressBaseException_spec (terminalizePreHttpClaim_spec hsettled)) fun _ =>
          .raise fun s hs => .inl ⟨rfl, hs⟩
      refine (suppressBaseException_spec (await_idle (.startTask claim snapshot)
        (fun answer => answer) fun _ => trivial)).pre fun s hs => ?_
      rcases hs with ⟨-, hs⟩ | ⟨he | he, -⟩
      · exact hs
      · cases he
      · cases he
    | _ => exact .raise fun s hs => hs.imp_left fun hs => by cases hs.1

theorem acquireWithRetries_spec (hsettled : AllSettled P input sent) (snapshot : Snapshot)
    (n : ℕ) :
    Triple (At P input known none sent) (acquireWithRetries snapshot n)
      (fun claim => After (At P input known none sent) (.acquire snapshot) (.returned claim))
      fun e s => Thrown e ∧ At P input known none sent s := by
  induction n with
  | zero => exact acquireBoundClaim_spec hsettled snapshot
  | succ n ih =>
    refine .handle (acquireBoundClaim_spec hsettled snapshot) fun e => ?_
    cases e with
    | leaseError =>
      exact Triple.bind ((await_idle .sleep (fun answer => answer) fun _ => trivial).pre
        fun s hs => hs.2) fun _ => ih
    | _ => exact .raise fun s hs => hs

theorem markUncertain_spec (snapshot : Snapshot) :
    Triple (At P input known held sent) (markUncertain claim snapshot)
      (fun _ => At P input known held sent) fun e s => Thrown e ∧ At P input known held sent s :=
  suppressException_spec (await_idle (.markUncertain claim snapshot) (fun answer => answer)
    fun _ => trivial)

variable {base desired : Interval} {etag : Str} {snapshot : Snapshot} {response : Response}

/-- The write that a call sends. -/
def patchRequest (snapshot : Snapshot) (etag : Str) (desired : Interval) : PatchRequest :=
  ⟨snapshot.accessToken, etag, patchBody desired⟩

theorem sendPatch_spec :
    Triple (At P input known (some claim) sent) (sendPatch claim snapshot etag desired)
      (fun response => After (At P input known (some claim) sent)
        (.patch claim (patchRequest snapshot etag desired)) (.returned response))
      fun e s => (Thrown e ∨ e = .returned false) ∧
        ∃ answer, At P input known none
          (sent ++ [(patchRequest snapshot etag desired, answer)]) s := by
  refine ((ask_spec _).weaken (fun _ hs => hs) (fun _ _ hs => hs) fun _ _ hs => hs.elim).bind
    fun (answer : Awaited Response) => ?_
  have hpatched : ∀ s, After (At P input known (some claim) sent)
      (.patch claim (patchRequest snapshot etag desired)) answer s →
        At P input known none (sent ++ [(patchRequest snapshot etag desired, answer)]) s := by
    rintro s ⟨s₀, hs₀, rfl⟩
    exact Kept.patched hs₀ _ answer
  have hmark : ∀ e : Exit, Thrown e ∨ e = .returned false →
      Triple (After (At P input known (some claim) sent)
        (.patch claim (patchRequest snapshot etag desired)) answer)
        (markUncertain claim snapshot >>= fun _ => (.raise e : Call Response))
        (fun response => After (At P input known (some claim) sent)
          (.patch claim (patchRequest snapshot etag desired)) (.returned response))
        fun e s => (Thrown e ∨ e = .returned false) ∧
          ∃ answer, At P input known none
            (sent ++ [(patchRequest snapshot etag desired, answer)]) s := by
    intro e he
    refine Triple.bind (((markUncertain_spec snapshot).pre hpatched).weaken (fun _ hs => hs)
      (fun _ _ hs => hs) fun e s hs => ⟨.inl hs.1, answer, hs.2⟩) fun _ =>
        .raise fun s hs => ⟨he, answer, hs⟩
  cases answer with
  | returned response => exact .ret fun s hs => hs
  | cancelled => exact hmark _ (.inl trivial)
  | leaseError => exact hmark _ (.inr rfl)
  | exception => exact hmark _ (.inr rfl)

theorem Interval.normalize_error {i : Interval} {e : Exit} (h : i.normalize = .error e) :
    e = .exception := by
  unfold Interval.normalize at h
  split at h <;> cases h
  rfl

theorem validate_error {eventId : Str} {event : Value} {e : Exit}
    (h : validateNonRecurringTimedEvent P eventId event = .error e) : e = .exception := by
  unfold validateNonRecurringTimedEvent at h
  split at h
  case h_2 => cases h
  split at h
  · cases h
  split at h
  · cases h
  split at h
  · cases h
  split at h
  case h_2 => cases h
  split at h
  · cases h
  split at h
  case h_2 => cases h
  split at h
  case h_2 => cases h
  rename_i parsed _
  cases hnormalize : parsed.normalize with
  | ok utc =>
    rw [hnormalize] at h
    cases h
  | error e' =>
    rw [hnormalize] at h
    cases h
    exact Interval.normalize_error hnormalize

theorem showsInterval_error {eventId : Str} {e : Exit}
    (h : showsInterval P eventId response desired = .error e) : Thrown e := by
  unfold showsInterval at h
  split at h
  · rename_i event _
    cases hvalidated : validateNonRecurringTimedEvent P eventId event with
    | ok validated =>
      rw [hvalidated] at h
      cases h
    | error e' =>
      rw [hvalidated] at h
      cases h
      rw [validate_error hvalidated]
      trivial
  · cases h

theorem settlePatch_spec (hread : readSchedule P input = .ok (base, desired))
    (hsettled : AllSettled P input sent) {r : PatchRequest} :
    Triple (After (At P input known (some claim) sent) (.patch claim r) (.returned response))
      (settlePatch P input.eventId desired claim snapshot response)
      (fun moved s => At P input known none (sent ++ [(r, .returned response)]) s ∧
        (moved = true → Confirmed P input s.trace))
      fun e s => Thrown e ∧ At P input known none (sent ++ [(r, .returned response)]) s := by
  have hpatched : ∀ s, After (At P input known (some claim) sent) (.patch claim r)
      (.returned response) s → At P input known none (sent ++ [(r, .returned response)]) s := by
    rintro s ⟨s₀, hs₀, rfl⟩
    exact Kept.patched hs₀ _ _
  have hall : Settled P input (.returned response) →
      AllSettled P input (sent ++ [(r, .returned response)]) := by
    intro h p hp
    rcases List.mem_append.mp hp with hp | hp
    · exact hsettled p hp
    · rw [List.mem_singleton.mp hp]
      exact h
  have hclosed : Settled P input (.returned response) → ∀ answer s,
      After (After (At P input known (some claim) sent) (.patch claim r) (.returned response))
        (.terminalize claim) answer s →
          At P input known none (sent ++ [(r, .returned response)]) s := by
    rintro h answer s ⟨s₀, hs₀, rfl⟩
    exact Kept.terminalized (hpatched s₀ hs₀) (fun other hother => by cases hother) (hall h) answer
  have hmark : Triple (After (At P input known (some claim) sent) (.patch claim r)
      (.returned response)) (markUncertain claim snapshot >>= fun _ => (pure false : Call Bool))
      (fun moved s => At P input known none (sent ++ [(r, .returned response)]) s ∧
        (moved = true → Confirmed P input s.trace))
      fun e s => Thrown e ∧ At P input known none (sent ++ [(r, .returned response)]) s :=
    Triple.bind ((markUncertain_spec snapshot).pre hpatched) fun _ =>
      .ret fun s hs => ⟨hs, fun h => by cases h⟩
  unfold settlePatch
  split
  · rename_i hclient
    have hsettle : Settled P input (.returned response) := ⟨response, rfl, .inl hclient⟩
    refine Triple.bind (suppressException_spec (terminalize_spec.weaken (fun _ hs => hs)
      (fun _ s hs => hclosed hsettle _ s hs) ?_)) fun _ =>
        .ret fun s hs => ⟨hs, fun h => by cases h⟩
    rintro e s ⟨hthrown, answer, hs⟩
    exact ⟨hthrown, hclosed hsettle answer s hs⟩
  split
  · exact hmark
  · rename_i hok
    split
    · rename_i e he
      exact .raise fun s hs => ⟨showsInterval_error he, hpatched s hs⟩
    · exact hmark
    · rename_i hshows
      have hmoved : Moved P input response :=
        ⟨(not_not.mp hok).1, (not_not.mp hok).2, base, desired, hread, hshows⟩
      have hsettle : Settled P input (.returned response) := ⟨response, rfl, .inr hmoved⟩
      refine terminalize_spec.weaken (fun _ hs => hs) ?_ ?_
      · intro confirmed s hs
        refine ⟨hclosed hsettle _ s hs, ?_⟩
        rintro rfl
        obtain ⟨s₀, ⟨s₁, -, rfl⟩, rfl⟩ := hs
        refine ⟨s₁.trace, claim, r, response, [⟨.terminalize claim, .returned true⟩], ?_, rfl,
          hmoved, List.mem_singleton_self _⟩
        rw [Session.push_trace, Session.push_trace, List.append_assoc]
        rfl
      · rintro e s ⟨hthrown, answer, hs⟩
        exact ⟨hthrown, hclosed hsettle answer s hs⟩

/-! ## The call -/

variable (P input known) in
/-- The writes that were sent are no more than two, and the second came after a 401. -/
def Sequel (etag : Str) (s : State) : Prop :=
  ∃ sent, At P input known none sent s ∧ (∀ p ∈ sent, p.1.ifMatch = etag) ∧ sent.length ≤ 2 ∧
    ∀ p q, sent = [p, q] → Unauthorized p.2

variable (P input known) in
/-- The claim of the retry was acquired, its start raised, and nothing was asked after that. -/
def Dropped (s : State) : Prop :=
  ∃ sent claim snapshot, sent ≠ [] ∧
    StartRaised (After (At P input known none sent) (.acquire snapshot) (.returned claim)) claim
      snapshot s

theorem sequel_one {p : Patch} {s : State} (h : At P input known none [p] s)
    (hetag : p.1.ifMatch = etag) : Sequel P input known etag s :=
  ⟨[p], h, List.forall_mem_singleton.mpr hetag, Nat.le_succ 1, fun p q heq => by cases heq⟩

theorem sequel_two {p q : Patch} {s : State} (h : At P input known none [p, q] s)
    (hp : p.1.ifMatch = etag) (hq : q.1.ifMatch = etag) (hfirst : Unauthorized p.2) :
    Sequel P input known etag s := by
  refine ⟨[p, q], h, ?_, le_refl 2, fun p' q' heq => ?_⟩
  · rw [List.forall_mem_cons, List.forall_mem_singleton]
    exact ⟨hp, hq⟩
  · cases heq
    exact hfirst

theorem acquireAndStart_spec (hsettled : AllSettled P input sent) (hsent : sent ≠ []) :
    Triple (At P input known none sent) (orFalse (acquireAndStart snapshot))
      (fun claim => At P input known (some claim) sent)
      fun e s => (Thrown e ∨ e = .returned false) ∧ At P input known none sent s ∨
        e = .returned false ∧ Dropped P input known s := by
  refine orFalse_spec (E := fun e s => Thrown e ∧ At P input known none sent s ∨
    (e = .leaseError ∨ e = .exception) ∧ Dropped P input known s) ?_ ?_ ?_ ?_ ?_
  · refine Triple.bind ((acquireBoundClaim_spec hsettled snapshot).weaken (fun _ hs => hs)
      (fun _ _ hs => hs) fun e s hs => .inl hs) fun claim => ?_
    refine Triple.bind ((transitionBoundClaimToStarted_spec hsettled
      (fun s hs => at_acquired hs (.direct snapshot)) snapshot).weaken (fun _ hs => hs)
      (fun _ _ hs => hs) fun e s hs => ?_) fun _ => .ret fun s hs => hs
    rcases hs with ⟨rfl, hs⟩ | ⟨he, hs⟩
    · exact .inl ⟨trivial, hs⟩
    · exact .inr ⟨he, sent, claim, snapshot, hsent, hs⟩
  · rintro s (hs | hs)
    · exact .inl ⟨.inr rfl, hs.2⟩
    · exact .inr ⟨rfl, hs.2⟩
  · rintro s (hs | hs)
    · exact .inl ⟨.inr rfl, hs.2⟩
    · exact .inr ⟨rfl, hs.2⟩
  · rintro s (hs | ⟨he | he, -⟩)
    · exact .inl ⟨.inl trivial, hs.2⟩
    · cases he
    · cases he
  · rintro result s (hs | ⟨he | he, -⟩)
    · exact hs.1.elim
    · cases he
    · cases he

variable (P input known) in
/-- How a block leaves the function. -/
def Leaves (etag : Str) (e : Exit) (s : State) : Prop :=
  (Thrown e ∨ e = .returned false) ∧ Sequel P input known etag s ∨
    e = .returned false ∧ Dropped P input known s

variable (P input known) in
/-- How a block ends. -/
def Ends (etag : Str) (moved : Bool) (s : State) : Prop :=
  Sequel P input known etag s ∧ (moved = true → Confirmed P input s.trace)

variable {r : PatchRequest}

theorem retryPatch_spec (hread : readSchedule P input = .ok (base, desired))
    (hetag : r.ifMatch = etag) (hunauthorized : response.statusCode = 401) :
    Triple (At P input known none [(r, .returned response)])
      (retryPatch P input.eventId etag desired claim snapshot)
      (Ends P input known etag) (Leaves P input known etag) := by
  have hfirst : Unauthorized (.returned response) := ⟨response, rfl, hunauthorized⟩
  have hsettled : AllSettled P input [(r, .returned response)] := by
    refine List.forall_mem_singleton.mpr ⟨response, rfl, .inl ?_⟩
    omega
  have hone : ∀ e s, Thrown e ∨ e = .returned false →
      At P input known none [(r, .returned response)] s → Leaves P input known etag e s :=
    fun e s he hs => .inl ⟨he, sequel_one hs hetag⟩
  have hclosed : ∀ answer s, After (At P input known none [(r, .returned response)])
      (.terminalize claim) answer s → At P input known none [(r, .returned response)] s :=
    fun answer s hs => at_terminalized hs (fun other hother => by cases hother) hsettled
  have hcheck : ∀ b : Bool, Triple (At P input known none [(r, .returned response)])
      (.check b (.returned false)) (fun _ => At P input known none [(r, .returned response)])
      (Leaves P input known etag) := fun b =>
    (Triple.check fun s hs _ => hone _ s (.inr rfl) hs).weaken (fun _ hs => hs)
      (fun _ _ hs => hs.1) fun _ _ hs => hs
  have hawait : ∀ {α : Type} (q : Ask) (f : q.Answer → Awaited α),
      (∀ answer, Idle ⟨q, answer⟩) → Triple (At P input known none [(r, .returned response)])
        (ask q >>= fun answer => settle (f answer))
        (fun _ => At P input known none [(r, .returned response)]) (Leaves P input known etag) :=
    fun q f hidle => (await_idle q f hidle).weaken (fun _ hs => hs) (fun _ _ hs => hs)
      fun e s hs => hone e s (.inl hs.1) hs.2
  refine Triple.bind (terminalize_spec.weaken (fun _ hs => hs) (fun _ s hs => hclosed _ s hs)
    fun e s hs => hone e s (.inl hs.1) (hs.2.elim fun answer hs => hclosed answer s hs))
    fun confirmed => ?_
  refine (hcheck confirmed).bind fun _ => ?_
  refine Triple.bind (hawait .loadSnapshot (fun answer => answer) fun _ => trivial)
    fun preRefresh => ?_
  refine (hcheck _).bind fun _ => ?_
  refine Triple.bind (hawait .refresh (fun answer => answer) fun _ => trivial) fun refreshed => ?_
  refine (hcheck refreshed).bind fun _ => ?_
  refine Triple.bind (hawait .loadSnapshot (fun answer => answer) fun _ => trivial)
    fun loaded => ?_
  refine Triple.bind ((Triple.need fun s hs _ => hone _ s (.inr rfl) hs).weaken (fun _ hs => hs)
    (fun _ _ hs => hs.1) fun _ _ hs => hs) fun retrySnapshot => ?_
  refine (hcheck _).bind fun _ => ?_
  refine Triple.bind ((acquireAndStart_spec hsettled (List.cons_ne_nil _ _)).weaken
    (fun _ hs => hs) (fun _ _ hs => hs) fun e s hs => hs.imp_left fun hs =>
      ⟨hs.1, sequel_one hs.2 hetag⟩) fun retryClaim => ?_
  refine Triple.bind (sendPatch_spec.weaken (fun _ hs => hs) (fun _ _ hs => hs) ?_)
    fun retried => ?_
  · rintro e s ⟨he, answer, hs⟩
    exact .inl ⟨he, sequel_two hs hetag rfl hfirst⟩
  · refine (settlePatch_spec hread hsettled).weaken (fun _ hs => hs) ?_ ?_
    · exact fun moved s hs => ⟨sequel_two hs.1 hetag rfl hfirst, hs.2⟩
    · exact fun e s hs => .inl ⟨.inl hs.1, sequel_two hs.2 hetag rfl hfirst⟩

theorem patchManaged_spec (hread : readSchedule P input = .ok (base, desired)) :
    Triple (At P input known none []) (patchManaged P input.eventId etag desired snapshot)
      (Ends P input known etag) (Leaves P input known etag) := by
  have hsettled : AllSettled P input [] := List.forall_mem_nil _
  have hnone : ∀ e s, Thrown e ∨ e = .returned false → At P input known none [] s →
      Leaves P input known etag e s := fun e s he hs =>
    .inl ⟨he, [], hs, List.forall_mem_nil _, Nat.zero_le 2, fun p q heq => by cases heq⟩
  have hdiscard : ∀ claim, Triple (At P input known (some claim) [])
      (suppressException (terminalizePreHttpClaim claim) >>= fun _ =>
        (.raise (.returned false) : Call Unit))
      (fun _ => At P input known (some claim) []) (Leaves P input known etag) := fun claim =>
    Triple.bind ((suppressException_spec (terminalizePreHttpClaim_spec hsettled)).weaken
      (fun _ hs => hs) (fun _ _ hs => hs) fun e s hs => hnone e s (.inl hs.1) hs.2)
      fun _ => .raise fun s hs => hnone _ s (.inr rfl) hs
  refine Triple.bind (orFalse_spec (acquireWithRetries_spec hsettled snapshot 5)
    (fun s hs => hnone _ s (.inr rfl) hs.2) (fun s hs => hnone _ s (.inr rfl) hs.2)
    (fun s hs => hnone _ s (.inl hs.1) hs.2) fun result s hs => hs.1.elim) fun claim => ?_
  refine Triple.bind (M := fun _ => At P input known (some claim) []) ?_ fun _ => ?_
  · refine .handle (transitionBoundClaimToStarted_spec hsettled
      (fun s hs => at_acquired hs (.direct snapshot)) snapshot) fun e => ?_
    have hraised : ∀ s, StartRaised (After (At P input known none []) (.acquire snapshot)
        (.returned claim)) claim snapshot s → At P input known (some claim) [] s := by
      rintro s ⟨answer, -, s₀, hs₀, rfl⟩
      exact Kept.startRaised (at_acquired hs₀ (.direct snapshot)) snapshot answer
    cases e with
    | leaseError =>
      refine (hdiscard claim).pre fun s hs => ?_
      rcases hs with ⟨he, -⟩ | ⟨-, hs⟩
      · cases he
      · exact hraised s hs
    | exception =>
      refine (hdiscard claim).pre fun s hs => ?_
      rcases hs with ⟨he, -⟩ | ⟨-, hs⟩
      · cases he
      · exact hraised s hs
    | cancelledError =>
      refine .raise fun s hs => ?_
      rcases hs with ⟨-, hs⟩ | ⟨he | he, -⟩
      · exact hnone _ s (.inl trivial) hs
      · cases he
      · cases he
    | returned result =>
      refine .raise fun s hs => ?_
      rcases hs with ⟨he, -⟩ | ⟨he | he, -⟩ <;> cases he
  refine Triple.bind (sendPatch_spec.weaken (fun _ hs => hs) (fun _ _ hs => hs) ?_)
    fun response => ?_
  · rintro e s ⟨he, answer, hs⟩
    exact .inl ⟨he, sequel_one hs rfl⟩
  split
  · rename_i hunauthorized
    refine (retryPatch_spec (r := patchRequest snapshot etag desired) hread rfl
      hunauthorized).pre ?_
    rintro s ⟨s₀, hs₀, rfl⟩
    exact Kept.patched hs₀ _ _
  · refine (settlePatch_spec hread hsettled).weaken (fun _ hs => hs) ?_ ?_
    · exact fun moved s hs => ⟨sequel_one hs.1 rfl, hs.2⟩
    · exact fun e s hs => .inl ⟨.inl hs.1, sequel_one hs.2 rfl⟩

/-! ## The promise -/

theorem certain_of_kept {result : Except Exit Bool} (h : Kept P input known none sent t)
    (hlength : sent.length ≤ 2) (hsecond : ∀ p q, sent = [p, q] → Unauthorized p.2)
    (hfenced : ∀ p ∈ sent, ∃ base desired, readSchedule P input = .ok (base, desired) ∧
      ReadAt P input known base p.1.ifMatch)
    (hconfirmed : result = .ok true →
      (∃ base desired etag, readSchedule P input = .ok (base, desired) ∧
        ReadAt P input known desired etag) ∨ Confirmed P input t) :
    OutcomeCertain P input result t ∧ ¬ RetryStartRaised t := by
  have hreadAt : ∀ {interval etag}, ReadAt P input known interval etag →
      ReadAt P input t interval etag := by
    rintro interval etag ⟨response, snapshot, event, hin, hread⟩
    exact ⟨response, snapshot, event, h.known hin, hread⟩
  refine ⟨⟨?_, ?_, ?_, ?_, ?_, ?_⟩, ?_⟩
  · rw [h.sent]
    exact hlength
  · rw [h.sent]
    exact hsecond
  · rw [h.sent]
    intro p hp
    obtain ⟨base, desired, hschedule, hread⟩ := hfenced p hp
    exact ⟨base, desired, hschedule, hreadAt hread⟩
  · refine fun hresult => (hconfirmed hresult).imp_left ?_
    rintro ⟨base, desired, etag, hschedule, hread⟩
    exact ⟨base, desired, etag, hschedule, hreadAt hread⟩
  · rintro before claim request answer after rfl hunsettled ⟨q, closing⟩ he rfl
    obtain ⟨earlier, later, rfl⟩ := List.append_of_mem he
    refine hunsettled (h.closed (before ++ ⟨.patch claim request, answer⟩ :: earlier) claim closing
      later (by rw [List.append_assoc, List.cons_append]) (request, answer) ?_)
    rw [patches, List.mem_filterMap]
    exact ⟨_, List.mem_append_right _ List.mem_cons_self, rfl⟩
  · intro before claim e after heq hacquired
    rcases h.owed before claim e after heq hacquired with hdischarged | hheld
    · exact hdischarged
    · cases hheld
  · rintro ⟨before, claim, snapshot, answer, after, heq, hraised, hpatches⟩
    exact hpatches (h.started before claim snapshot answer after heq hraised)

theorem uncertain_of_dropped {s : State} {result : Except Exit Bool}
    (h : Dropped P input known s) :
    ¬ OutcomeCertain P input result s.trace ∧ RetryStartRaised s.trace := by
  obtain ⟨sent, claim, snapshot, hsent, answer, hraised, s₁, ⟨s₀, hs₀, rfl⟩, rfl⟩ := h
  have htrace : ((s₀.push ⟨.acquire snapshot, .returned claim⟩).push
      ⟨.start claim snapshot, answer⟩).trace =
        s₀.trace ++ ⟨.acquire snapshot, .returned claim⟩ :: [⟨.start claim snapshot, answer⟩] := by
    rw [Session.push_trace, Session.push_trace, List.append_assoc]
    rfl
  constructor
  · intro hcertain
    rcases hcertain.accounted _ _ _ _ htrace (.direct snapshot) with
      ⟨request, answer', hin⟩ | ⟨answer', hin⟩
    · cases List.mem_singleton.mp hin
    · cases List.mem_singleton.mp hin
  · refine ⟨_, claim, snapshot, answer, [], by rw [Session.push_trace], hraised, ?_⟩
    rw [Session.push_trace, patches_snoc, hs₀.sent]
    exact List.append_ne_nil_of_left_ne_nil hsent _

/-- What the caller of a block that is left sees. -/
def outcome : Exit → Except Exit Bool
  | .returned result => .ok result
  | e => .error e

variable (P input) in
/-- The outcome is certain, unless the claim of the retry was dropped. -/
def Promised (result : Except Exit Bool) (s : State) : Prop :=
  (OutcomeCertain P input result s.trace ∧ ¬ RetryStartRaised s.trace) ∨
    ∃ known, Dropped P input known s

theorem outcome_ne_true {e : Exit} (h : Thrown e ∨ e = .returned false) :
    outcome e ≠ .ok true := by
  rcases h with h | rfl
  · cases e with
    | returned result => exact h.elim
    | _ => exact fun heq => by cases heq
  · exact fun heq => by cases heq

theorem promised_of_sequel {result : Except Exit Bool} {s : State}
    (hread : readSchedule P input = .ok (base, desired)) (hknown : ReadAt P input known base etag)
    (h : Sequel P input known etag s) (hconfirmed : result = .ok true → Confirmed P input s.trace) :
    Promised P input result s := by
  obtain ⟨sent, hs, hetag, hlength, hsecond⟩ := h
  refine .inl (certain_of_kept hs hlength hsecond (fun p hp => ⟨base, desired, hread, ?_⟩)
    fun hresult => .inr (hconfirmed hresult))
  rw [hetag p hp]
  exact hknown

theorem promised_of_idle {result : Except Exit Bool} {s : State}
    (h : At P input known none [] s) (hresult : result = .ok true →
      ∃ base desired etag, readSchedule P input = .ok (base, desired) ∧
        ReadAt P input known desired etag) : Promised P input result s :=
  .inl (certain_of_kept h (Nat.zero_le 2) (fun p q heq => by cases heq) (List.forall_mem_nil _)
    fun hresult' => .inl (hresult hresult'))

theorem readSchedule_error {e : Exit} (h : readSchedule P input = .error e) :
    Thrown e ∨ e = .returned false := by
  unfold readSchedule at h
  split at h
  case h_2 =>
    cases h
    exact .inr rfl
  rename_i base desired _ _
  rcases bind_eq_error.mp h with hbase | ⟨base, -, h⟩
  · rw [Interval.normalize_error hbase]
    exact .inl trivial
  rcases bind_eq_error.mp h with hdesired | ⟨desired, -, h⟩
  · rw [Interval.normalize_error hdesired]
    exact .inl trivial
  split at h <;> cases h
  exact .inr rfl

variable (P input) in
/-- The exits of the function, as its caller sees them. -/
def Exits (e : Exit) (s : State) : Prop := Promised P input (outcome e) s

theorem exits_of_idle {e : Exit} {s : State} (he : Thrown e ∨ e = .returned false)
    (h : At P input known none [] s) : Exits P input e s :=
  promised_of_idle h fun hresult => absurd hresult (outcome_ne_true he)

theorem check_idle (b : Bool) :
    Triple (At P input known none []) (.check b (.returned false))
      (fun _ s => At P input known none [] s ∧ b = true) (Exits P input) :=
  .check fun _ hs _ => exits_of_idle (.inr rfl) hs

theorem need_idle {α : Type} (x : Option α) :
    Triple (At P input known none []) (.need x (.returned false))
      (fun a s => At P input known none [] s ∧ x = some a) (Exits P input) :=
  .need fun _ hs _ => exits_of_idle (.inr rfl) hs

theorem lift_idle {α : Type} (x : Except Exit α)
    (hx : ∀ e, x = .error e → Thrown e ∨ e = .returned false) :
    Triple (At P input known none []) (lift x)
      (fun a s => At P input known none [] s ∧ x = .ok a) (Exits P input) := by
  cases x with
  | ok a => exact .ret fun s hs => ⟨hs, rfl⟩
  | error e => exact .raise fun s hs => exits_of_idle (hx e rfl) hs

theorem getEvent_spec : Triple (fun s : State => s.trace = []) (orFalse getEvent)
    (fun authorized s => At P input [⟨.getEvent, .returned authorized⟩] none [] s)
    (Exits P input) := by
  have hidle : ∀ answer : Awaited (Option (Response × Snapshot)),
      Kept P input [⟨.getEvent, answer⟩] none [] [⟨.getEvent, answer⟩] := by
    intro answer
    have hkept : Kept P input [] none [] ([] ++ [⟨.getEvent, answer⟩]) := Kept.nil.idle trivial
    exact { hkept with known := List.Subset.refl _ }
  have hafter : ∀ answer s, After (fun s : State => s.trace = []) .getEvent answer s →
      At P input [⟨.getEvent, answer⟩] none [] s := by
    rintro answer s ⟨s₀, hs₀, rfl⟩
    rw [At, Session.push_trace, hs₀]
    exact hidle answer
  have hleave : ∀ e e' s, Thrown e ∨ e = .returned false →
      (∃ answer, Throws answer e' ∧ After (fun s : State => s.trace = []) .getEvent answer s) →
        Exits P input e s := by
    rintro e e' s he ⟨answer, -, hs⟩
    exact exits_of_idle he (hafter answer s hs)
  refine orFalse_spec ((await_spec .getEvent fun answer => answer).weaken (fun _ hs => hs) ?_
    fun _ _ hs => hs) (fun s hs => hleave _ _ s (.inr rfl) hs)
    (fun s hs => hleave _ _ s (.inr rfl) hs) (fun s hs => hleave _ _ s (.inl trivial) hs) ?_
  · rintro authorized s ⟨answer, rfl, hs⟩
    exact hafter _ s hs
  · rintro result s ⟨answer, hthrows, -⟩
    cases hthrows

theorem moveEvent_spec (hread : readSchedule P input = .ok (base, desired)) :
    Triple (fun s : State => s.trace = []) (moveEvent P input base desired)
      (fun moved => Promised P input (.ok moved)) (Exits P input) := by
  refine getEvent_spec.bind fun authorized => ?_
  refine (need_idle authorized).bind fun ⟨response, snapshot⟩ => .given fun hauthorized => ?_
  refine (check_idle _).bind fun _ => .given fun hstatus => ?_
  refine (need_idle response.json).bind fun event => .given fun hjson => ?_
  refine (lift_idle _ fun e he => .inl (validate_error he ▸ trivial)).bind
    fun validated => .given fun hvalidated => ?_
  refine (need_idle validated).bind fun ⟨current, etag⟩ => .given fun hcurrent => ?_
  subst hauthorized hcurrent
  have hreadAt : ReadAt P input [⟨.getEvent, .returned (some (response, snapshot))⟩] current etag :=
    ⟨response, snapshot, event, List.mem_singleton_self _, (of_decide_eq_true hstatus).1,
      (of_decide_eq_true hstatus).2, hjson, hvalidated⟩
  have hcurrent : Triple (At P input [⟨.getEvent, .returned (some (response, snapshot))⟩] none [])
      (.check (decide (current ≠ desired)) (.returned true))
      (fun _ => At P input [⟨.getEvent, .returned (some (response, snapshot))⟩] none [])
      (Exits P input) := by
    refine (Triple.check fun s hs hsame => ?_).weaken (fun _ hs => hs) (fun _ _ hs => hs.1)
      fun _ _ hs => hs
    rw [not_not.mp (of_decide_eq_false hsame)] at hreadAt
    exact promised_of_idle hs fun _ => ⟨base, desired, etag, hread, hreadAt⟩
  refine hcurrent.bind fun _ => ?_
  refine (check_idle _).bind fun _ => .given fun hbase => ?_
  refine (check_idle _).bind fun _ => .given fun _ => ?_
  rw [of_decide_eq_true hbase] at hreadAt
  refine (patchManaged_spec hread).weaken (fun _ hs => hs) ?_ ?_
  · rintro moved s ⟨hsequel, hconfirmed⟩
    exact promised_of_sequel hread hreadAt hsequel fun hresult => hconfirmed (Except.ok.inj hresult)
  · rintro e s (⟨he, hsequel⟩ | ⟨rfl, hdropped⟩)
    · exact promised_of_sequel hread hreadAt hsequel fun hresult =>
        absurd hresult (outcome_ne_true he)
    · exact .inr ⟨_, hdropped⟩

theorem rescheduleBody_spec : Triple (fun s : State => s.trace = []) (rescheduleBody P input)
    (fun moved => Promised P input (.ok moved)) (Exits P input) := by
  have hleave : ∀ e s, Thrown e ∨ e = .returned false → s.trace = [] → Exits P input e s := by
    intro e s he hs
    have hidle : At P input [] none [] s := by
      rw [At, hs]
      exact Kept.nil
    exact exits_of_idle he hidle
  have hcheck : ∀ b : Bool, Triple (fun s : State => s.trace = []) (.check b (.returned false))
      (fun _ s => s.trace = []) (Exits P input) := fun b =>
    (Triple.check fun s hs _ => hleave _ s (.inr rfl) hs).weaken (fun _ hs => hs)
      (fun _ _ hs => hs.1) fun _ _ hs => hs
  refine (hcheck _).bind fun _ => (hcheck _).bind fun _ => ?_
  refine Triple.bind (M := fun schedule s => s.trace = [] ∧ readSchedule P input = .ok schedule)
    ?_ fun schedule => .given fun hread => moveEvent_spec hread
  cases hread : readSchedule P input with
  | ok schedule => exact .ret fun s hs => ⟨hs, rfl⟩
  | error e => exact .raise fun s hs => hleave e s (readSchedule_error hread) hs

theorem rescheduleAppointment_spec :
    Triple (fun s : State => s.trace = []) (rescheduleAppointment P input)
      (fun moved => Promised P input (.ok moved)) fun e => Promised P input (.error e) := by
  refine .handle rescheduleBody_spec fun e => ?_
  cases e with
  | returned result => exact .ret fun s hs => hs
  | _ => exact .raise fun s hs => hs

/-- The outcome of a call is certain exactly when the start of the retry's claim raises no
exception. -/
theorem reschedule_certain_iff (P : Python) (input : Input) (env : Environment Ask.Answer) :
    OutcomeCertain P input (rescheduleAppointment P input env ⟨(), []⟩).1
        (rescheduleAppointment P input env ⟨(), []⟩).2.trace ↔
      ¬ RetryStartRaised (rescheduleAppointment P input env ⟨(), []⟩).2.trace := by
  have hpromised : Promised P input (rescheduleAppointment P input env ⟨(), []⟩).1
      (rescheduleAppointment P input env ⟨(), []⟩).2 := by
    have hrun := @rescheduleAppointment_spec P input env ⟨(), []⟩ rfl
    generalize rescheduleAppointment P input env ⟨(), []⟩ = run at hrun ⊢
    obtain ⟨result | result, s⟩ := run
    · exact hrun
    · exact hrun
  rcases hpromised with ⟨hcertain, hnot⟩ | ⟨known, hdropped⟩
  · exact iff_of_true hcertain hnot
  · obtain ⟨huncertain, hraised⟩ := uncertain_of_dropped hdropped
    exact iff_of_false huncertain fun hnot => hnot hraised

/-! ## A claim that is dropped -/

def acquiredOf : Event → Option Claim
  | ⟨.acquire _, .returned claim⟩ => some claim
  | ⟨.acquireTask _, .returned claim⟩ => some claim
  | _ => none

def discharges (claim : Claim) : Event → Bool
  | ⟨.patch other _, _⟩ => decide (other = claim)
  | ⟨.terminalize other, _⟩ => decide (other = claim)
  | _ => false

/-- Some claim was acquired, and neither written under nor terminalized. -/
def unaccounted : List Event → Bool
  | [] => false
  | e :: after =>
    (acquiredOf e).any (fun claim => !after.any (discharges claim)) || unaccounted after

theorem exists_of_unaccounted {t : List Event} (h : unaccounted t = true) :
    ∃ before claim e after, t = before ++ e :: after ∧ Acquired claim e ∧
      ¬ Discharged claim after := by
  induction t with
  | nil => cases h
  | cons e after ih =>
    rw [unaccounted, Bool.or_eq_true] at h
    rcases h with h | h
    · cases hclaim : acquiredOf e with
      | none =>
        rw [hclaim] at h
        cases h
      | some claim =>
        rw [hclaim, Option.any_some, Bool.not_eq_true', List.any_eq_false] at h
        refine ⟨[], claim, e, after, rfl, ?_, ?_⟩
        · unfold acquiredOf at hclaim
          split at hclaim <;> cases hclaim
          · exact .direct _
          · exact .late _
        · rintro (⟨request, answer, hin⟩ | ⟨answer, hin⟩)
          · exact h _ hin (decide_eq_true rfl)
          · exact h _ hin (decide_eq_true rfl)
    · obtain ⟨before, claim, e', after', rfl, hacquired, hnot⟩ := ih h
      exact ⟨e :: before, claim, e', after', rfl, hacquired, hnot⟩

def exampleSnapshot : Snapshot := ⟨1, 1, .none, .none, []⟩

def exampleInput : Input :=
  { contractor := [("contractor_id", .text "c")], eventId := py "e",
    baseStart := .time (.ofMinutes 0), baseEnd := .time (.ofMinutes 30),
    desiredStart := .time (.ofMinutes 60), desiredEnd := .time (.ofMinutes 90),
    logicalOperationId := List.replicate 64 (chr 48) }

def exampleEvent : Value :=
  .dict [("id", .text "e"), ("etag", .text "\"1\""),
    ("start", .dict [("dateTime", .str (isoformat (.ofMinutes 0)))]),
    ("end", .dict [("dateTime", .str (isoformat (.ofMinutes 30)))])]

def exampleEnvironment : Environment Ask.Answer := fun t q =>
  match q with
  | .getEvent => .returned (some (⟨200, some exampleEvent⟩, exampleSnapshot))
  | .acquire _ => .returned [chr t.length]
  | .acquireTask _ => .exception
  | .start _ _ => if patches t = [] then .returned () else .exception
  | .startTask _ _ => .exception
  | .terminalize _ => .returned true
  | .terminalizeTask _ => .exception
  | .markUncertain _ _ => .returned ()
  | .patch _ _ => .returned ⟨401, none⟩
  | .sleep => .returned ()
  | .loadSnapshot => .returned (some exampleSnapshot)
  | .refresh => .returned true

/-- A retry whose claim is acquired and cannot be started leaves that claim behind. -/
theorem retry_drops_claim : ¬ ∀ (P : Python) (input : Input) (env : Environment Ask.Answer),
    OutcomeCertain P input (rescheduleAppointment P input env ⟨(), []⟩).1
      (rescheduleAppointment P input env ⟨(), []⟩).2.trace := by
  intro hall
  have hcertain := hall asciiPython exampleInput exampleEnvironment
  have hunaccounted : unaccounted
      (rescheduleAppointment asciiPython exampleInput exampleEnvironment ⟨(), []⟩).2.trace =
        true := by decide +kernel
  obtain ⟨before, claim, e, after, htrace, hacquired, hnot⟩ := exists_of_unaccounted hunaccounted
  exact hnot (hcertain.accounted before claim e after htrace hacquired)

end HeyKevin.L14.Reschedule
