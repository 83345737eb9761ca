import HeyKevin.L3Repository.FirestoreSaga
/-!
# Safety of the provider saga in Firestore

Runs of the repository's transactions, by any number of callers and recovery
workers in any order, from an empty collection.

* `Represents`, `step_represents`: every document stays the document of a
  saga, and every step is a move of the saga at its path.
* `provider_saga_safe`: what every document satisfies, and what no step
  changes.
* `proposals_applied_once`: no proposal becomes canonical twice.
-/
namespace HeyKevin.L3.Firestore

open HeyKevin.Core L1 L1.Text L1.Datetime L2

variable {P : Python}

abbrev StoreEvent (P : Python) := Event Store (Call P) (Except Err (Response P))

/-! ## Steps -/

/-- The sagas behind the documents. -/
structure Represents (S : Set (List Byte)) (G : Path → Saga P × Keeping) (s : Store) : Prop where
  document : ∀ path, s path = (G path).1.document (G path).2
  holds : ∀ path, (G path).1.Holds S path.1 path.2
  fits : ∀ path, (G path).2.Fits (G path).1

theorem Represents.empty (S : Set (List Byte)) :
    Represents (P := P) S (fun _ => (.absent, .marked)) fun _ => none :=
  ⟨fun _ => rfl, fun _ => trivial, fun _ => rfl⟩

theorem step_cases (s : Store) (c : Call P) :
    (∃ e, step s c = (s, .error e)) ∨
    ∃ response doc, c.run (s c.path) = .ok (response, doc) ∧
      step s c = (Function.update s c.path doc, .ok response) := by
  unfold step
  split
  · rename_i response doc h
    exact .inr ⟨response, doc, h, rfl⟩
  · rename_i e h
    exact .inl ⟨e, rfl⟩

/-- What a step does to the sagas behind the documents. -/
structure Steps (S : Set (List Byte)) (G : Path → Saga P × Keeping) (s : Store) (c : Call P)
    (G' : Path → Saga P × Keeping) : Prop where
  represents : Represents S G' (step s c).1
  other : ∀ path, path ≠ c.path → G' path = G path
  move : ∀ path, Move S path.1 path.2 (G path).1 (G path).2 (G' path).1 (G' path).2
  effect : ∀ response, (step s c).2 = .ok response →
    Effect S c response (G c.path).1 (G c.path).2 (G' c.path).1 (G' c.path).2
  error : ∀ e, (step s c).2 = .error e → G' = G

variable {S : Set (List Byte)} {s : Store} {G : Path → Saga P × Keeping}

theorem Represents.update (h : Represents S G s) {path : Path} {g : Saga P} {k : Keeping}
    (hm : Move S path.1 path.2 (G path).1 (G path).2 g k) :
    Represents S (Function.update G path (g, k)) (Function.update s path (g.document k)) ∧
      ∀ p, Move S p.1 p.2 (G p).1 (G p).2 (Function.update G path (g, k) p).1
        (Function.update G path (g, k) p).2 := by
  have hmove : ∀ p, Move S p.1 p.2 (G p).1 (G p).2 (Function.update G path (g, k) p).1
      (Function.update G path (g, k) p).2 := by
    intro p
    by_cases hp : p = path
    · subst hp
      rw [Function.update_self]
      exact hm
    · rw [Function.update_of_ne hp]
      exact .stay _ _
  refine ⟨⟨fun p => ?_, fun p => (hmove p).holds (h.holds p), fun p => (hmove p).fits (h.fits p)⟩,
    hmove⟩
  by_cases hp : p = path
  · subst hp
    rw [Function.update_self, Function.update_self]
  · rw [Function.update_of_ne hp, Function.update_of_ne hp]
    exact h.document p

/-- **A step moves the saga of its document and leaves the others.** -/
theorem step_represents (hinj : Set.InjOn P.sha256 S) (h : Represents S G s) {c : Call P}
    (hS : ∀ bs ∈ c.materials, bs ∈ S) : ∃ G', Steps S G s c G' := by
  rcases step_cases s c with ⟨e, hstep⟩ | ⟨response, doc, hrun, hstep⟩
  · refine ⟨G, by rw [hstep]; exact h, fun _ _ => rfl, fun _ => .stay _ _, fun response hr => ?_,
      fun _ _ => rfl⟩
    rw [hstep] at hr
    cases hr
  · rw [h.document] at hrun
    obtain ⟨g, k, rfl, heffect⟩ := run_effect hinj (h.holds _) (h.fits _) hS hrun
    obtain ⟨hG', hmove⟩ := h.update heffect.move
    refine ⟨Function.update G c.path (g, k), by rw [hstep]; exact hG', fun path hpath =>
      Function.update_of_ne hpath _ _, hmove, fun response' hr => ?_, fun e hr => ?_⟩ <;>
      rw [hstep] at hr <;> cases hr
    rw [Function.update_self]
    exact heffect

theorem step_error {c : Call P} {e : Err} (h : (step s c).2 = .error e) : (step s c).1 = s := by
  rcases step_cases s c with ⟨e', hstep⟩ | ⟨response, doc, -, hstep⟩
  · rw [hstep]
  · rw [hstep] at h
    cases h

theorem Steps.eq_of_same {c : Call P} {G' : Path → Saga P × Keeping} (h : Steps S G s c G')
    (hG : Represents S G s) (hsame : G' c.path = G c.path) : (step s c).1 = s := by
  have hall : G' = G := by
    funext path
    by_cases hpath : path = c.path
    · rw [hpath, hsame]
    · exact h.other path hpath
  funext path
  rw [h.represents.document, hG.document, hall]

/-! ## Safety -/

/-- `data.get("logical_operation_id")` of the pending proposal, if there is one. -/
def Document.proposalId (d : Document) : Value :=
  match d.get .pending_provider_operation, d.get .pending_provider_create with
  | .dict data, _ => Dict.get data "logical_operation_id"
  | _, .dict data => Dict.get data "logical_operation_id"
  | _, _ => .none

def Document.proposes (d : Document) (x : Str) : Bool := d.proposalId.isStr x

def Document.hasProposal (d : Document) : Bool :=
  d.has .pending_provider_create || d.has .pending_provider_operation

/-- The document waits for an operator, with its proposal. -/
def Document.inReview (d : Document) : Bool :=
  d.hasProposal && (d.get .provider_recovery_state).isStr (py PROVIDER_RECOVERY_NEEDS_REVIEW)

def Document.proposedRequest (d : Document) : Value :=
  let part (v : Value) (key : String) : Value :=
    match v with
    | .dict data => Dict.get data key
    | _ => .none
  part (part (part (d.get .pending_provider_operation) "proposal") "result") "request"

/-- What every stored document satisfies. -/
structure WellKept (d : Document) : Prop where
  exclusive : d.has .pending_provider_create = true → Value.isDict (d.get .aggregate) = false
  retained : d.hasProposal = true → d.has .expires_at = false
  expires : d.hasProposal = false → d.has .expires_at = false →
    d .provider_recovery_state = some (.text PROVIDER_RECOVERY_NEEDS_REVIEW)
  leased : ∀ v, d .provider_recovery_lease = some v → ∃ data, v = .dict data ∧
    d .next_attempt_at = some (Dict.get data "expires_at")

/-- What a step never changes once it is there. -/
def identityFields : List Field :=
  [.customer_key, .execution_kind, .provider_binding, .finalized_provider_create_receipt]

/-- What a transaction does to a document that was there. -/
structure KeepsIdentity (d d' : Document) : Prop where
  fixed : ∀ f ∈ identityFields, d.has f = true → d' f = d f
  canonical : d .execution_kind = some (.text ExecutionKind.PROVIDER.value) →
    d' .aggregate ≠ d .aggregate → d' .aggregate = some d.proposedRequest

theorem wellKept_data {g : Saga P} {k : Keeping} (hne : g ≠ .absent) (hk : k.Fits g) :
    WellKept (g.data k) := by
  constructor
  · intro h
    cases g with
    | creating => cases k <;> rfl
    | absent => exact absurd rfl hne
    | _ => cases k <;> cases h
  · intro h
    cases g with
    | creating => cases k <;> first | rfl | cases hk
    | absent => exact absurd rfl hne
    | localOnly => cases k <;> cases h
    | provider c r receipt proposed =>
      cases proposed <;> cases k <;> first | rfl | (cases hk; done) | cases h
  · intro h hexp
    cases g with
    | creating => cases k <;> cases h
    | absent => exact absurd rfl hne
    | localOnly =>
      cases k with
      | expires => cases hexp
      | marked => rfl
      | _ => exact absurd rfl hk.1
    | provider c r receipt proposed =>
      cases proposed with
      | some => cases k <;> cases h
      | none =>
        cases k with
        | expires => cases hexp
        | marked => rfl
        | _ => exact absurd rfl hk.1
  · intro v hv
    have hv : k.field .provider_recovery_lease = some v := by
      cases g <;> exact hv
    cases k with
    | pending a n lease =>
      cases lease with
      | none => cases hv
      | some l =>
        cases hv
        obtain ⟨-, -, -, hl⟩ := hk
        refine ⟨_, rfl, ?_⟩
        rw [← (hl l rfl).2]
        cases g <;> rfl
    | _ => cases hv

theorem isKeeping_identityFields : ∀ f ∈ identityFields, f.isKeeping = false := by decide

theorem keepsIdentity_of_field {g g' : Saga P} {k k' : Keeping}
    (hfixed : ∀ f ∈ identityFields, (g.field f).isSome → g'.field f = g.field f)
    (hcanonical : g.field .execution_kind = some (.text ExecutionKind.PROVIDER.value) →
      g'.field .aggregate ≠ g.field .aggregate →
      g'.field .aggregate = some (g.data k).proposedRequest) :
    KeepsIdentity (g.data k) (g'.data k') := by
  constructor
  · intro f hf hhas
    have hkeep := isKeeping_identityFields f hf
    rw [Document.has, data_of_saga hkeep] at hhas
    rw [data_of_saga hkeep, data_of_saga hkeep]
    exact hfixed f hf hhas
  · rw [data_of_saga (f := .execution_kind) rfl, data_of_saga (f := .aggregate) rfl,
      data_of_saga (f := .aggregate) rfl]
    exact hcanonical

theorem keepsIdentity_of_move {contractor request_id : Str} {g g' : Saga P} {k k' : Keeping}
    (h : Move S contractor request_id g k g' k') (hne : g ≠ .absent) :
    g' ≠ .absent ∧ KeepsIdentity (g.data k) (g'.data k') := by
  have hsame : ∀ {k₁ k₂ : Keeping}, KeepsIdentity (g.data k₁) (g.data k₂) :=
    keepsIdentity_of_field (fun _ _ _ => rfl) fun _ h => absurd rfl h
  have hcases : ∀ {f : Field}, f ∈ identityFields → f = .customer_key ∨ f = .execution_kind ∨
      f = .provider_binding ∨ f = .finalized_provider_create_receipt := by
    intro f hf
    simpa [identityFields] using hf
  cases h with
  | write t hlocal path sound =>
    obtain rfl | ⟨r', rfl⟩ := hlocal
    · exact absurd rfl hne
    · refine ⟨by simp, keepsIdentity_of_field (fun f hf _ => ?_) fun h => ?_⟩
      · rcases hcases hf with rfl | rfl | rfl | rfl <;> rfl
      · have hlocal : some (Value.text ExecutionKind.LOCAL.value) =
          some (.text ExecutionKind.PROVIDER.value) := h
        simp [Value.text, ExecutionKind.value] at hlocal
  | proposeCreate => exact absurd rfl hne
  | confirmCreate p t =>
    refine ⟨by simp, keepsIdentity_of_field (fun f hf h => ?_) fun h => by cases h⟩
    rcases hcases hf with rfl | rfl | rfl | rfl <;> first | rfl | cases h
  | propose =>
    refine ⟨by simp, keepsIdentity_of_field (fun f hf _ => ?_) fun _ h => absurd rfl h⟩
    rcases hcases hf with rfl | rfl | rfl | rfl <;> rfl
  | @confirm c r receipt p a n l t =>
    refine ⟨by simp, keepsIdentity_of_field (fun f hf _ => ?_) fun _ _ => ?_⟩
    · rcases hcases hf with rfl | rfl | rfl | rfl <;> rfl
    · rfl
  | _ => exact ⟨hne, hsame⟩

theorem mem_hashed {calls : List (Call P)} {c : Call P} (hc : c ∈ calls) :
    ∀ bs ∈ c.materials, bs ∈ hashed calls := fun _ hbs => List.mem_flatMap.mpr ⟨c, hc, hbs⟩

theorem represents_of_mem_log {calls : List (Call P)} (hinj : Set.InjOn P.sha256 (hashed calls))
    {e : StoreEvent P} (he : e ∈ Machine.log step (fun _ => none) calls) :
    (∃ G, Represents (P := P) (hashed calls) G e.pre) ∧ ∀ bs ∈ e.call.materials, bs ∈ hashed calls := by
  refine ⟨?_, mem_hashed (Machine.call_mem_of_mem_log _ he)⟩
  refine (Machine.log_pre_of step (G := fun e => ∀ bs ∈ e.call.materials, bs ∈ hashed calls)
    (I := fun s => ∃ G, Represents (P := P) (hashed calls) G s) ⟨_, .empty _⟩ ?_ ?_ he).1
  · rintro s c ⟨G, hG⟩ hS
    obtain ⟨G', hG'⟩ := step_represents hinj hG hS
    exact ⟨G', hG'.represents⟩
  · exact fun e he => mem_hashed (Machine.call_mem_of_mem_log _ he)

theorem kept_after {calls : List (Call P)} (hinj : Set.InjOn P.sha256 (hashed calls))
    {I : Saga P → Keeping → Prop} {p : Path} {es es' : List (StoreEvent P)} {e : StoreEvent P}
    (hlog : Machine.log step (fun _ => none) calls = es ++ e :: es')
    (hstart : ∀ G G', Represents (hashed calls) G e.pre →
      Steps (hashed calls) G e.pre e.call G' → e.resp = (step e.pre e.call).2 →
      Represents (hashed calls) G' e.post → I (G' p).1 (G' p).2)
    (hkeep : ∀ f ∈ es', ∀ G G', Represents (hashed calls) G f.pre →
      Steps (hashed calls) G f.pre f.call G' → I (G p).1 (G p).2 → I (G' p).1 (G' p).2) :
    (∃ G, Represents (hashed calls) G e.post ∧ I (G p).1 (G p).2) ∧
    ∀ f ∈ es', step f.pre f.call = (f.post, f.resp) ∧ ∃ G G',
      Represents (hashed calls) G f.pre ∧ I (G p).1 (G p).2 ∧
      Steps (hashed calls) G f.pre f.call G' ∧ Represents (hashed calls) G' f.post ∧
      I (G' p).1 (G' p).2 := by
  have he : e ∈ Machine.log step (fun _ => none) calls := by
    rw [hlog]
    exact List.mem_append_right _ List.mem_cons_self
  obtain ⟨cs, c, cs', rfl, rfl, rfl, rfl⟩ := Machine.log_eq_append_cons _ hlog
  obtain ⟨⟨G, hG⟩, hS⟩ := represents_of_mem_log hinj he
  obtain ⟨G', hG'⟩ := step_represents hinj hG hS
  have hI := hstart G G' hG hG' rfl hG'.represents
  refine ⟨⟨G', hG'.represents, hI⟩, fun f hf => ?_⟩
  have hSf : ∀ f ∈ Machine.log step (step (Machine.run step (fun _ => none) cs) c).1 cs',
      ∀ bs ∈ f.call.materials, bs ∈ hashed (cs ++ c :: cs') := fun f hf =>
    mem_hashed (List.mem_append_right _ (List.mem_cons_of_mem _ (Machine.call_mem_of_mem_log _ hf)))
  obtain ⟨G₁, hG₁, hI₁⟩ := (Machine.log_pre_of step
    (G := fun f => f ∈ Machine.log step (step (Machine.run step (fun _ => none) cs) c).1 cs')
    (I := fun s => ∃ G, Represents (P := P) (hashed (cs ++ c :: cs')) G s ∧
      I (G p).1 (G p).2) ⟨G', hG'.represents, hI⟩ (by
        rintro s d ⟨G₁, hG₁, hI₁⟩ hf
        obtain ⟨G₂, hG₂⟩ := step_represents hinj hG₁ (hSf _ hf)
        exact ⟨G₂, hG₂.represents, hkeep _ hf _ _ hG₁ hG₂ hI₁⟩) (fun _ hf => hf) hf).1
  obtain ⟨G₂, hG₂⟩ := step_represents hinj hG₁ (hSf f hf)
  obtain ⟨hresp, hpost⟩ := Machine.eq_of_mem_log _ hf
  refine ⟨by rw [hresp, hpost], G₁, G₂, hG₁, hI₁, hG₂, ?_, hkeep _ hf _ _ hG₁ hG₂ hI₁⟩
  rw [hpost]
  exact hG₂.represents

/-- **Safety of the provider saga.** In every run, every stored document is well kept, no document
disappears, and a step leaves what identifies a document as it was: the customer, the kind of
execution, the binding and the create receipt; the request of a provider changes only to what the
pending operation proposes. -/
theorem provider_saga_safe (calls : List (Call P)) (hinj : Set.InjOn P.sha256 (hashed calls)) :
    ∀ e ∈ Machine.log step (fun _ => none) calls, ∀ path,
      (∀ d, e.post path = some d → WellKept d) ∧
      ∀ d, e.pre path = some d → ∃ d', e.post path = some d' ∧ KeepsIdentity d d' := by
  intro e he path
  obtain ⟨⟨G, hG⟩, hS⟩ := represents_of_mem_log hinj he
  obtain ⟨G', hG', -, hmove, -⟩ := step_represents hinj hG hS
  rw [← (Machine.eq_of_mem_log _ he).2] at hG'
  constructor
  · intro d hd
    rw [hG'.document] at hd
    obtain ⟨hne, rfl⟩ := document_eq_some hd
    exact wellKept_data hne (hG'.fits path)
  · intro d hd
    rw [hG.document] at hd
    obtain ⟨hne, rfl⟩ := document_eq_some hd
    obtain ⟨hne', hkeeps⟩ := keepsIdentity_of_move (hmove path) hne
    exact ⟨_, by rw [hG'.document, document_of_ne hne'], hkeeps⟩

def exampleBinding : ProviderBinding := InMemory.exampleBinding "event" (by decide)

def exampleProposal : Except Err (PreparedProviderCreate asciiPython) :=
  proposeCreate (py "C1") (InMemory.exampleCustomer 1) (py "CA1") (py "call-1") exampleBinding
    (py "Heater") [] (.ok (exampleCreate exampleTime))

def examplePreparation : PreparedProviderCreate asciiPython :=
  exampleProposal.toOption.get (by decide +kernel)

def exampleRequest : Call asciiPython :=
  .prepareCreate (py "C1") (InMemory.exampleCustomer 1) (py "CA1") (py "call-1") exampleBinding
    (py "Heater") [] (.ok (exampleCreate exampleTime))

def exampleConfirmation : Call asciiPython :=
  .finalizeCreate examplePreparation exampleTime exampleTime

theorem injOn_exampleRequest {calls : List (Call asciiPython)} (h : ∀ c ∈ calls, c.materials = []) :
    Set.InjOn asciiPython.sha256 (hashed (exampleRequest :: calls)) := by
  have hone : Set.InjOn asciiPython.sha256 (hashed [exampleRequest]) :=
    injOn_of_forall (by decide +kernel)
  refine hone.mono fun bs hbs => ?_
  obtain ⟨c, hc, hbs⟩ := List.mem_flatMap.mp hbs
  rcases List.mem_cons.mp hc with rfl | hc
  · exact mem_hashed List.mem_cons_self bs hbs
  · rw [h c hc] at hbs
    cases hbs

/-- The confirmation of the example request. -/
def exampleConfirmed : StoreEvent asciiPython :=
  Machine.event step (Machine.run step (fun _ => none) [exampleRequest]) exampleConfirmation

theorem log_exampleConfirmed :
    Machine.log step (fun _ => none) [exampleRequest, exampleConfirmation] =
      Machine.log step (fun _ => none) [exampleRequest] ++ [exampleConfirmed] :=
  Machine.log_append_cons step _ [exampleRequest] _ []

theorem injOn_exampleConfirmed :
    Set.InjOn asciiPython.sha256 (hashed [exampleRequest, exampleConfirmation]) :=
  injOn_exampleRequest fun c hc => by rw [List.mem_singleton.mp hc]; rfl

theorem provider_saga_safe_exampleRequest :
    ∃ e ∈ Machine.log step (fun _ => none) [exampleRequest, exampleConfirmation],
      e.call = exampleConfirmation ∧ ∀ path, (∀ d, e.post path = some d → WellKept d) ∧
        ∀ d, e.pre path = some d → ∃ d', e.post path = some d' ∧ KeepsIdentity d d' := by
  have hmem : exampleConfirmed ∈
      Machine.log step (fun _ => none) [exampleRequest, exampleConfirmation] := by
    rw [log_exampleConfirmed]
    exact List.mem_append_right _ List.mem_cons_self
  exact ⟨_, hmem, rfl, provider_saga_safe _ injOn_exampleConfirmed _ hmem⟩

/-! ## Each proposal is applied once -/

/-- The event makes the proposal with this logical id canonical. -/
def Applies (path : Path) (x : Str) (e : StoreEvent P) : Prop :=
  (e.pre path).any (·.proposes x) = true ∧ (e.post path).any (!·.hasProposal) = true

/-- A proposal with this logical id is part of the canonical request. -/
def Done (S : Set (List Byte)) (path : Path) (x : Str) (g : Saga P) : Prop :=
  ∃ customer r receipt pending, g = .provider customer r receipt pending ∧ ∃ q : Proposal P,
    q.logical_operation_id = x ∧ q.Addressed S ∧ q.identity = ⟨path.1, customer, path.2⟩ ∧
    ∀ p, q = .operation p → p.command_fingerprint ∈ fingerprints r

section Sagas

variable {path : Path} {x : Str} {g g' : Saga P} {k k' : Keeping}

theorem proposes_data (h : (g.data k).proposes x = true) :
    ∃ q, g.proposal = some q ∧ q.logical_operation_id = x := by
  cases g with
  | creating p =>
    have h : (Value.str p.logical_operation_id).isStr x = true := by cases k <;> exact h
    rw [Value.isStr_str, decide_eq_true_eq] at h
    exact ⟨.create p, rfl, h⟩
  | provider c r receipt proposed =>
    cases proposed with
    | some p =>
      have h : (Value.str p.logical_operation_id).isStr x = true := by cases k <;> exact h
      rw [Value.isStr_str, decide_eq_true_eq] at h
      exact ⟨.operation p, rfl, h⟩
    | none => cases k <;> cases h
  | _ => cases k <;> cases h

theorem hasProposal_data : (g.data k).hasProposal = g.proposal.isSome := by
  cases g with
  | provider c r receipt proposed => cases proposed <;> cases k <;> rfl
  | _ => cases k <;> rfl

theorem Done.move (h : Done S path x g) (hg : g.Holds S path.1 path.2)
    (hm : Move S path.1 path.2 g k g' k') : Done S path x g' := by
  obtain ⟨customer, r, receipt, pending, rfl, q, hid, hq, hidentity, hfp⟩ := h
  cases hm with
  | write t hlocal =>
    obtain h | ⟨_, h⟩ := hlocal <;> cases h
  | propose => exact ⟨_, _, _, _, rfl, q, hid, hq, hidentity, hfp⟩
  | confirm p t =>
    -- What is confirmed is added to the history.
    obtain ⟨y, -, hrecords⟩ := (hg.2.2 p rfl).grows
    refine ⟨_, _, _, _, rfl, q, hid, hq, hidentity, fun p' hp' => ?_⟩
    rw [fingerprints, hrecords, List.map_append]
    exact List.mem_append_left _ (hfp p' hp')
  | _ => exact ⟨_, _, _, _, rfl, q, hid, hq, hidentity, hfp⟩

theorem done_of_move (hg : g.Holds S path.1 path.2) (hm : Move S path.1 path.2 g k g' k')
    {q : Proposal P} (hq : g.proposal = some q) (hgone : g'.proposal = none) :
    Done S path q.logical_operation_id g' := by
  obtain ⟨-, -, -, haddressed⟩ := proposal_of_holds hg hq
  cases hm with
  | write t hlocal =>
    obtain rfl | ⟨_, rfl⟩ := hlocal <;> cases hq
  | proposeCreate => cases hgone
  | propose => cases hgone
  | confirmCreate p t =>
    cases hq
    have hp : CreateProposal S path.1 path.2 p := hg
    have hid : p.identity = ⟨path.1, p.customer_key, path.2⟩ := by
      rw [PreparedProviderCreate.identity, hp.contractor_id, hp.request_id]
    exact ⟨_, _, _, _, rfl, .create p, rfl, haddressed, hid, fun _ h => by cases h⟩
  | confirm p t =>
    cases hq
    have hp := hg.2.2 p rfl
    obtain ⟨y, hy, hrecords⟩ := hp.grows
    refine ⟨_, _, _, _, rfl, .operation p, rfl, haddressed, hp.identity, fun p' hp' => ?_⟩
    cases hp'
    rw [fingerprints, hrecords, List.map_append]
    exact List.mem_append_right _ (by simp [hy])
  | _ => rw [hq] at hgone; cases hgone

theorem Done.not_proposed (hinj : Set.InjOn P.sha256 S) (h : Done S path x g)
    (hg : g.Holds S path.1 path.2) {q : Proposal P} (hq : g.proposal = some q) :
    q.logical_operation_id ≠ x := by
  obtain ⟨customer, r, receipt, pending, rfl, q₀, hid, haddressed₀, hidentity, hfp⟩ := h
  obtain ⟨-, -, -, haddressed⟩ := proposal_of_holds hg hq
  intro hx
  have htext := haddressed₀.text_inj hinj haddressed (hid.trans hx.symm)
  cases pending with
  | none => cases hq
  | some p =>
    cases hq
    have hp := hg.2.2 p rfl
    cases q₀ with
    | create p₀ => exact createMaterial_ne_operationMaterial htext
    | operation p₀ =>
      have hsame : p₀.identity = p.identity := hidentity.trans hp.identity.symm
      have hfingerprint : p₀.command_fingerprint = p.command_fingerprint :=
        (operationMaterial_inj (by rw [hsame]) (by rw [hsame]) (by rw [hsame]) htext).2.2
      exact hp.new (hfingerprint ▸ hfp p₀ rfl)

end Sagas

/-- **Each proposal is applied once.** Once a proposal has become canonical, no later document
proposes it, so it is neither pending nor applied again. -/
theorem proposals_applied_once (calls : List (Call P)) (hinj : Set.InjOn P.sha256 (hashed calls))
    {es es' : List (StoreEvent P)} {e : StoreEvent P}
    (h : Machine.log step (fun _ => none) calls = es ++ e :: es') {path : Path} {x : Str}
    (happlies : Applies path x e) :
    ∀ e' ∈ e :: es', (e'.post path).any (·.proposes x) = false := by
  have hdone := kept_after (I := fun g _ => Done (hashed calls) path x g) (p := path) hinj h
    (fun G G' hG hG' _ hrepresents => by
      obtain ⟨hproposes, hgone⟩ := happlies
      rw [hG.document, Option.any_eq_true] at hproposes
      rw [hrepresents.document, Option.any_eq_true] at hgone
      obtain ⟨d, hd, hid⟩ := hproposes
      obtain ⟨d', hd', hgone⟩ := hgone
      obtain ⟨-, rfl⟩ := document_eq_some hd
      obtain ⟨-, rfl⟩ := document_eq_some hd'
      obtain ⟨q, hq, rfl⟩ := proposes_data hid
      rw [hasProposal_data, Bool.not_eq_true', Option.isSome_eq_false_iff,
        Option.isNone_iff_eq_none] at hgone
      exact done_of_move (hG.holds path) (hG'.move path) hq hgone)
    fun _ _ G _ hG hG' hdone => hdone.move (hG.holds path) (hG'.move path)
  have hrepresents : ∀ e' ∈ e :: es', ∃ G, Represents (P := P) (hashed calls) G e'.post ∧
      Done (hashed calls) path x (G path).1 := by
    intro e' he'
    rcases List.mem_cons.mp he' with rfl | he'
    · exact hdone.1
    · obtain ⟨-, -, G', -, -, -, hG', hdone⟩ := hdone.2 e' he'
      exact ⟨G', hG', hdone⟩
  intro e' he'
  obtain ⟨G', hG', hdone⟩ := hrepresents e' he'
  rw [Bool.eq_false_iff, hG'.document, ne_eq, Option.any_eq_true]
  rintro ⟨d, hd, hid⟩
  obtain ⟨-, rfl⟩ := document_eq_some hd
  obtain ⟨q, hq, hx⟩ := proposes_data hid
  exact hdone.not_proposed hinj (hG'.holds path) hq hx

theorem proposals_applied_once_exampleRequest :
    Applies (py "C1", py "CA1") examplePreparation.logical_operation_id exampleConfirmed ∧
      (exampleConfirmed.post (py "C1", py "CA1")).any
        (·.proposes examplePreparation.logical_operation_id) = false := by
  have happlies : Applies (py "C1", py "CA1") examplePreparation.logical_operation_id
      exampleConfirmed := show _ ∧ _ by decide +kernel
  exact ⟨happlies, proposals_applied_once _ injOn_exampleConfirmed log_exampleConfirmed happlies _
    List.mem_cons_self⟩

end HeyKevin.L3.Firestore
