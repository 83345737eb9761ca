import HeyKevin.L1Encoding.Sha256
import HeyKevin.L3Repository.Slots
/-!
# Customer isolation of the in-memory repository

Runs of calls, each made for one customer. Every key of the five maps is a
(contractor, request) pair without the customer, so each method has to check
whose request it found.

* `Coherent.step`: every call is a move of the saga at its key.
* `Isolated`: a call returns, and makes canonical, only what belongs to its
  customer.
* `Borrows`: the one branch that does not check: `prepare_provider_create`
  compares a pending create by its semantic fingerprint, and the fingerprint
  does not cover the customer.
* `customers_isolated`: a run is isolated if and only if no call borrows.
-/
namespace HeyKevin.L3.InMemory

open HeyKevin.Core L1 L1.Text L1.Datetime L2

variable {P : Python}

abbrev RepositoryEvent (P : Python) :=
  Event (Repository P) (Call P) (Except Err (Response P))

/-- What a call hashes to address its command or its proposal. -/
def Call.materials : Call P → List (List Byte)
  | apply _ _ _ mutation => mutation.materials P
  | prepareOperation contractor customer request _ mutation =>
    mutation.materials P ++ mutation.operationMaterials P
      ⟨strip contractor, strip customer, strip request⟩
  | finalizeOperation p => p.material.toList
  | prepareCreate contractor customer request key binding title description mutation =>
    mutation.materials P ++ createMaterials (proposeCreate (P := P) contractor customer request key
      binding title description mutation)
  | finalizeCreate p => p.material.toList
  | _ => []

def hashed (calls : List (Call P)) : Set (List Byte) := {bs | bs ∈ calls.flatMap Call.materials}

/-! ## Steps -/

theorem step_cases (s : Repository P) (c : Call P) :
    (∃ e, step s c = (s, .error e)) ∨
    ∃ response s', c.run s = .ok (response, s') ∧ step s c = (s', .ok response) := by
  unfold step
  split
  · rename_i response s' h
    exact .inr ⟨response, s', h, rfl⟩
  · rename_i e h
    exact .inl ⟨e, rfl⟩

/-- One call moves one saga. -/
theorem Coherent.run {S : Set (List Byte)} {s s' : Repository P} (hs : Coherent S s) {c : Call P}
    {response : Response P} (h : c.run s = .ok (response, s')) (hS : ∀ bs ∈ c.materials, bs ∈ S) :
    ∃ k g, Saga.Turn S k.1 k.2 (s.saga k) g ∧ (s' = s ∧ g = s.saga k ∨ Moved s s' k g) := by
  have hstay : ∀ k, s' = s → ∃ k g, Saga.Turn S k.1 k.2 (s.saga k) g ∧
      (s' = s ∧ g = s.saga k ∨ Moved s s' k g) := fun k h =>
    ⟨k, _, .stay _, .inl ⟨h, rfl⟩⟩
  cases c <;>
    simp only [Call.run, bind_eq_ok, pure_eq_ok, Except.ok.injEq, Prod.mk.injEq] at h
  case get contractor customer request => exact hstay (contractor, request) (by
    obtain ⟨_, -, -, rfl⟩ := h; rfl)
  case apply contractor customer request mutation =>
    obtain ⟨⟨result, _⟩, h, rfl, rfl⟩ := h
    obtain ⟨hm, ht⟩ := hs.apply h hS
    exact ⟨_, _, ht, .inr hm⟩
  case listActionable contractor customer limit => exact hstay (contractor, customer) (by
    obtain ⟨_, -, -, rfl⟩ := h; rfl)
  case prepareOperation contractor customer request key mutation =>
    obtain ⟨⟨p, _⟩, h, rfl, rfl⟩ := h
    obtain ⟨r, receipt, pending, pending', hg, -, -, -, -, ht, ⟨rfl, rfl⟩ | hm⟩ :=
      hs.prepareOperation h hS
    · exact hstay (contractor, request) rfl
    · exact ⟨(strip contractor, strip request), _, hg ▸ ht, .inr hm⟩
  case finalizeOperation p =>
    obtain ⟨⟨result, _⟩, h, rfl, rfl⟩ := h
    obtain ⟨-, -, g', -, ht, hm⟩ := hs.finalizeOperation h
    exact ⟨_, g', ht, hm⟩
  case recoverOperation contractor customer request => exact hstay (contractor, request) (by
    obtain ⟨_, -, -, rfl⟩ := h; rfl)
  case prepareCreate contractor customer request key binding title description mutation =>
    obtain ⟨⟨p, _⟩, h, rfl, rfl⟩ := h
    obtain ⟨q, -, ⟨-, -, -, -, -, -, -, rfl⟩ | ⟨-, -, rfl⟩ | ⟨hg, -, hp, hm⟩⟩ :=
      hs.prepareCreate h hS
    · exact hstay (contractor, request) rfl
    · exact hstay (contractor, request) rfl
    · exact ⟨_, _, hg ▸ .proposeCreate hp, .inr hm⟩
  case finalizeCreate p =>
    obtain ⟨⟨result, _⟩, h, rfl, rfl⟩ := h
    obtain ⟨-, ⟨-, -, -, -, -, rfl⟩ | ⟨q, hg, -, -, hm⟩⟩ := hs.finalizeCreate h
    · exact hstay (p.contractor_id, p.request_id) rfl
    · exact ⟨_, _, hg ▸ .confirmCreate q, .inr hm⟩
  case recoverCreate contractor customer request => exact hstay (contractor, request) (by
    obtain ⟨_, -, -, rfl⟩ := h; rfl)

theorem Coherent.step {S : Set (List Byte)} {s : Repository P} (hs : Coherent S s) {c : Call P}
    (hS : ∀ bs ∈ c.materials, bs ∈ S) : Coherent S (step s c).1 ∧
      ∀ k, Saga.Turn S k.1 k.2 (s.saga k) ((InMemory.step s c).1.saga k) := by
  rcases step_cases s c with ⟨e, hstep⟩ | ⟨response, s', hrun, hstep⟩
  · rw [hstep]
    exact hs.stay
  · rw [hstep]
    obtain ⟨k, g, ht, ⟨rfl, -⟩ | hm⟩ := hs.run hrun hS
    · exact hs.stay
    · exact hs.moved hm ht

/-! ## Whose it is -/

/-- `r` is the customer's canonical request. -/
def Owned (s : Repository P) (contractor customer : Str) (r : ServiceRequest P) : Prop :=
  ∃ x, s.records.find? (contractor, r.data.request_id) = some x ∧ x.customer_key = customer ∧
    x.request = r

/-- `result` is what created the customer's request. -/
def Created (s : Repository P) (contractor customer : Str) (result : CommandResult P) : Prop :=
  ∃ x, s.finalized_provider_creates.find? (contractor, result.request.data.request_id) = some x ∧
    x.customer_key = customer ∧ x.result = result

def Response.Owned (s : Repository P) (contractor customer : Str) : Response P → Prop
  | request r => ∀ x ∈ r, InMemory.Owned s contractor customer x
  | requests rs => ∀ x ∈ rs, InMemory.Owned s contractor customer x
  | result r => InMemory.Owned s contractor customer r.request ∨ Created s contractor customer r
  | operation p => ∀ x ∈ p, x.customer_key = customer ∧
      InMemory.Owned s contractor customer x.base_request
  | create p => ∀ x ∈ p, x.customer_key = customer ∧
      (x.already_applied = true → Created s contractor customer x.result)

/-- The contractor and the customer that a call is made for. -/
def Call.parties : Call P → Str × Str
  | get contractor customer _ => (strip contractor, strip customer)
  | apply contractor customer _ _ => (strip contractor, strip customer)
  | listActionable contractor customer _ => (strip contractor, strip customer)
  | prepareOperation contractor customer _ _ _ => (strip contractor, strip customer)
  | finalizeOperation p => (strip p.contractor_id, strip p.customer_key)
  | recoverOperation contractor customer _ => (strip contractor, strip customer)
  | prepareCreate contractor customer _ _ _ _ _ _ => (strip contractor, strip customer)
  | finalizeCreate p => (strip p.contractor_id, strip p.customer_key)
  | recoverCreate contractor customer _ => (strip contractor, strip customer)

/-- The call made only its customer's data canonical, and returned only that. -/
structure Isolated (e : RepositoryEvent P) : Prop where
  canonical : ∀ k x, e.post.records.find? k = some x →
    e.pre.records.find? k = some x ∨ x.customer_key = e.call.parties.2
  returned : ∀ response, e.resp = .ok response →
    response.Owned e.post e.call.parties.1 e.call.parties.2

/-- The pending create that `prepare_provider_create` would hand out although it
is another customer's. -/
def borrowed (s : Repository P) : Call P → Option (PreparedProviderCreate P)
  | .prepareCreate contractor customer request key binding title description mutation => do
    let p ← (proposeCreate (P := P) contractor customer request key binding title description
      mutation).toOption
    let storage_key := (p.contractor_id, p.request_id)
    if (s.records.find? storage_key).isSome then none
    else (s.pending_provider_creates.find? storage_key).filter fun existing =>
      existing.customer_key ≠ p.customer_key ∧
        existing.semantic_fingerprint = p.semantic_fingerprint
  | _ => none

def Borrows (s : Repository P) (c : Call P) : Prop := (borrowed s c).isSome

instance (s : Repository P) (c : Call P) : Decidable (Borrows s c) :=
  inferInstanceAs (Decidable (_ = true))

section Ownership

variable {S : Set (List Byte)} {s : Repository P} (hs : Coherent S s)
include hs

theorem Coherent.owned {contractor request_id customer : Str} {r : ServiceRequest P} {g : Saga P}
    (hg : s.saga (contractor, request_id) = g) (hcustomer : g.customer = some customer)
    (hr : g.request = some r) : Owned s contractor customer r := by
  have hok := hs.ok (contractor, request_id)
  rw [hg] at hok
  cases g with
  | localOnly c r' =>
    cases hr
    cases hcustomer
    have hid : r.data.request_id = request_id := hok.request_id
    exact ⟨_, by rw [hid, hs.records, hg]; rfl, rfl, rfl⟩
  | provider c r' receipt pending =>
    cases hr
    cases hcustomer
    have hid : r.data.request_id = request_id := hok.1.request_id
    exact ⟨_, by rw [hid, hs.records, hg]; rfl, rfl, rfl⟩
  | _ => cases hr

theorem Coherent.created {contractor request_id customer : Str} {r : ServiceRequest P}
    {receipt : FinalizedProviderCreateReceipt P} {pending : Option (PreparedProviderOperation P)}
    (hg : s.saga (contractor, request_id) = .provider customer r receipt pending) :
    Created s contractor customer receipt.result := by
  have hok := hs.ok (contractor, request_id)
  rw [hg] at hok
  obtain ⟨p, hp, hcustomer, rfl, -⟩ := hok.2.1
  have hid : p.receipt.result.request.data.request_id = request_id :=
    hp.valid.result.trans (by rw [hp.normal.trim]; exact hp.request_id)
  exact ⟨_, by rw [hid, hs.receipts, hg]; rfl, hcustomer, rfl⟩

end Ownership

theorem Moved.canonical {s s' : Repository P} {k : StorageKey} {g : Saga P} {customer : Str}
    (h : Moved s s' k g) (hg : ∀ r, g.request = some r → g.customer = some customer)
    (j : StorageKey) (x : StoredServiceRequest P) (hx : s'.records.find? j = some x) :
    s.records.find? j = some x ∨ x.customer_key = customer := by
  by_cases hj : j = k
  · subst hj
    have hrecord : (g.slot j).record = some x := by rw [← h.here]; exact hx
    right
    cases g with
    | localOnly c r => cases hrecord; simpa [Saga.customer, Saga.request] using hg
    | provider c r receipt pending => cases hrecord; simpa [Saga.customer, Saga.request] using hg
    | _ => cases hrecord
  · left
    have := congrArg Slot.record (h.other j hj)
    exact this.symm.trans hx

/-! ## Exclusion -/

theorem createMaterial_customer {i j : Identity} {f f' : Str} (hcontractor : i.contractor = j.contractor)
    (hlen : i.customer.length = j.customer.length) (h : createMaterial i f = createMaterial j f') :
    i.customer = j.customer := by
  simp only [createMaterial, nulSeparated, List.foldl_cons, List.foldl_nil, List.append_assoc,
    List.cons_append, hcontractor, List.append_cancel_left_eq, List.cons.injEq, true_and] at h
  exact List.append_inj_left h hlen

theorem Identity.Normal.customer_length {i : Identity} (h : i.Normal) : i.customer.length = 64 := by
  have := h.customer.1
  simp only [Python.isDigest, Bool.and_eq_true, beq_iff_eq] at this
  exact this.1

/-- The logical id names the customer: a create is finalized by whoever
proposed it. -/
theorem customer_of_logical {S : Set (List Byte)} (hinj : Set.InjOn P.sha256 S)
    {p q : PreparedProviderCreate P} (hp : p.Valid) (hpS : ∀ bs, p.material = some bs → bs ∈ S)
    (hq : CreateProposal S p.contractor_id p.request_id q)
    (h : q.logical_operation_id = p.logical_operation_id) :
    q.customer_key = strip p.customer_key := by
  obtain ⟨bs, hbs, hsha⟩ := hp.material
  obtain ⟨bs', hbs', hsha'⟩ := hq.valid.material
  obtain rfl : bs' = bs := hinj (hq.material _ hbs') (hpS _ hbs) (by rw [hsha, hsha', h])
  have htext := encodeUtf8_inj hbs' hbs
  have hnormal := repositoryIdentity_normal hp.identity
  rw [hq.normal.trim] at htext
  refine createMaterial_customer (i := q.identity) (j := p.identity.trim) ?_ ?_ htext
  · have hstrip := hq.normal.contractor.1
    simp only [PreparedProviderCreate.identity, hq.contractor_id] at hstrip ⊢
    exact hstrip.symm
  · rw [Identity.Normal.customer_length hq.normal, Identity.Normal.customer_length hnormal]

section Steps

variable {S : Set (List Byte)} {s s' : Repository P} {c : Call P} {response : Response P}

theorem Isolated.of_stay (hstep : InMemory.step s c = (s, .ok response))
    (hr : response.Owned s c.parties.1 c.parties.2) : Isolated (Machine.event InMemory.step s c) := by
  constructor
  · intro k x hx
    rw [Machine.event_post, hstep] at hx
    exact .inl hx
  · intro response' h
    rw [Machine.event_resp, hstep] at h
    cases h
    rw [Machine.event_post, hstep]
    exact hr

theorem Isolated.of_moved {k : StorageKey} {g : Saga P}
    (hstep : InMemory.step s c = (s', .ok response)) (hm : Moved s s' k g)
    (hg : g.customer = some c.parties.2) (hr : response.Owned s' c.parties.1 c.parties.2) :
    Isolated (Machine.event InMemory.step s c) := by
  constructor
  · intro j x hx
    rw [Machine.event_post, hstep] at hx
    exact hm.canonical (fun _ _ => hg) j x hx
  · intro response' h
    rw [Machine.event_resp, hstep] at h
    cases h
    rw [Machine.event_post, hstep]
    exact hr

theorem Coherent.customer_of_not_borrows (hs : Coherent S s)
    {contractor customer request key title description : Str}
    {binding : ProviderBinding} {mutation : Mutation} {p q : PreparedProviderCreate P}
    (hb : ¬ Borrows s (.prepareCreate contractor customer request key binding title description
      mutation))
    (hq : proposeCreate contractor customer request key binding title description mutation = .ok q)
    (hg : s.saga (q.contractor_id, q.request_id) = .creating p)
    (hsemantic : p.semantic_fingerprint = q.semantic_fingerprint) :
    p.customer_key = q.customer_key := by
  by_contra hne
  refine hb ?_
  simp [Borrows, borrowed, hq, Except.toOption, hs.records, hs.creates, hg, Saga.slot, hne,
    hsemantic]

/-- **A call that borrows nothing is isolated.** -/
theorem Coherent.isolated (hs : Coherent S s) (hinj : Set.InjOn P.sha256 S)
    (hS : ∀ bs ∈ c.materials, bs ∈ S) (hb : ¬ Borrows s c) :
    Isolated (Machine.event InMemory.step s c) := by
  obtain ⟨hs', -⟩ := hs.step hS
  rcases step_cases s c with ⟨e, hstep⟩ | ⟨response, s', h, hstep⟩
  · constructor
    · intro k x hx
      rw [Machine.event_post, hstep] at hx
      exact .inl hx
    · intro response hr
      rw [Machine.event_resp, hstep] at hr
      cases hr
  rw [hstep] at hs'
  cases c <;>
    simp only [Call.run, bind_eq_ok, pure_eq_ok, Except.ok.injEq, Prod.mk.injEq] at h
  case get contractor customer request =>
    obtain ⟨r, h, rfl, rfl⟩ := h
    refine .of_stay hstep fun x hx => ?_
    cases hx
    obtain ⟨hcustomer, hr⟩ := hs.get h
    exact hs.owned rfl hcustomer hr
  case apply contractor customer request mutation =>
    obtain ⟨⟨result, _⟩, h, rfl, rfl⟩ := h
    obtain ⟨hm, -⟩ := hs.apply h hS
    exact .of_moved hstep hm rfl (.inl (hs'.owned hm.saga rfl rfl))
  case listActionable contractor customer limit =>
    obtain ⟨rs, h, rfl, rfl⟩ := h
    refine .of_stay hstep fun r hr => ?_
    obtain ⟨⟨contractor', request⟩, hk, hcustomer, hrequest⟩ := hs.listActionable h hr
    cases hk
    exact hs.owned rfl hcustomer hrequest
  case prepareOperation contractor customer request key mutation =>
    obtain ⟨⟨p, _⟩, h, rfl, rfl⟩ := h
    obtain ⟨r, receipt, pending, pending', hg, hid, hbase, -, -, -, hmove⟩ :=
      hs.prepareOperation h hS
    have hp : p.customer_key = strip customer := congrArg Identity.customer hid
    rcases hmove with ⟨rfl, rfl⟩ | hm
    · refine .of_stay hstep fun x hx => ?_
      cases hx
      exact ⟨hp, hs.owned hg rfl (congrArg some hbase.symm)⟩
    · refine .of_moved hstep hm rfl fun x hx => ?_
      cases hx
      exact ⟨hp, hs'.owned hm.saga rfl (congrArg some hbase.symm)⟩
  case finalizeOperation p =>
    obtain ⟨⟨result, _⟩, h, rfl, rfl⟩ := h
    obtain ⟨-, hcustomer, g, hrequest, ht, hmove⟩ := hs.finalizeOperation h
    have hnormal := (hs.ok (p.contractor_id, p.request_id)).normal hcustomer
    have hparties : Call.parties (.finalizeOperation p) = (p.contractor_id, p.customer_key) := by
      rw [Call.parties, hnormal.contractor.1, hnormal.customer.2]
    have hne : s.saga (p.contractor_id, p.request_id) ≠ .absent := by
      intro h
      rw [h] at hcustomer
      cases hcustomer
    have hg : g.customer = some p.customer_key := (ht.customer hne).trans hcustomer
    rcases hmove with ⟨rfl, rfl⟩ | hm
    · refine .of_stay hstep (.inl ?_)
      rw [hparties]
      exact hs.owned rfl hcustomer hrequest
    · refine .of_moved hstep hm (hparties ▸ hg) (.inl ?_)
      rw [hparties]
      exact hs'.owned hm.saga hg hrequest
  case recoverOperation contractor customer request =>
    obtain ⟨p, h, rfl, rfl⟩ := h
    refine .of_stay hstep fun x hx => ?_
    cases hx
    obtain ⟨r, receipt, hg⟩ := hs.recoverOperation h
    have hok := hs.ok (strip contractor, strip request)
    rw [hg] at hok
    have hp := hok.2.2 x rfl
    exact ⟨congrArg Identity.customer hp.identity,
      hs.owned hg rfl (congrArg some hp.base_request.symm)⟩
  case prepareCreate contractor customer request key binding title description mutation =>
    obtain ⟨⟨p, _⟩, h, rfl, rfl⟩ := h
    obtain ⟨q, hq, hcases⟩ := hs.prepareCreate h hS
    obtain ⟨hid, -⟩ := repositoryIdentity_eq_ok.mp (proposeCreate_eq_ok hq).1
    have hcontractor : q.contractor_id = strip contractor := congrArg Identity.contractor hid
    have hcustomer : q.customer_key = strip customer := congrArg Identity.customer hid
    rcases hcases with ⟨r, receipt, pending, hg, hp, hresult, -, rfl⟩ | ⟨hg, hsemantic, rfl⟩ |
      ⟨hg, rfl, hproposal, hm⟩
    · refine .of_stay hstep fun x hx => ?_
      cases hx
      refine ⟨hp.trans hcustomer, fun _ => ?_⟩
      have := hs.created hg
      rw [← hresult, hcustomer, hcontractor] at this
      exact this
    · refine .of_stay hstep fun x hx => ?_
      cases hx
      refine ⟨(hs.customer_of_not_borrows hb hq hg hsemantic).trans hcustomer, fun happlied => ?_⟩
      have hok := hs.ok (q.contractor_id, q.request_id)
      rw [hg] at hok
      have hp : CreateProposal S _ _ p := hok
      rw [hp.already_applied] at happlied
      cases happlied
    · refine .of_moved hstep hm (congrArg some hcustomer) fun x hx => ?_
      cases hx
      refine ⟨hcustomer, fun happlied => ?_⟩
      rw [hproposal.already_applied] at happlied
      cases happlied
  case finalizeCreate p =>
    obtain ⟨⟨result, _⟩, h, rfl, rfl⟩ := h
    obtain ⟨hvalid, ⟨r, receipt, pending, hg, rfl, rfl⟩ | ⟨q, hg, rfl, hlogical, hm⟩⟩ :=
      hs.finalizeCreate h
    · refine .of_stay hstep (.inr ?_)
      have hnormal := (hs.ok (p.contractor_id, p.request_id)).normal (by rw [hg]; rfl)
      rw [Call.parties, hnormal.contractor.1, hnormal.customer.2]
      exact hs.created hg
    · have hok := hs.ok (p.contractor_id, p.request_id)
      rw [hg] at hok
      have hq : CreateProposal S _ _ q := hok
      have hcustomer := customer_of_logical hinj hvalid (fun bs hbs => hS bs (by
        simp [Call.materials, hbs])) hq hlogical
      have hcontractor : strip p.contractor_id = p.contractor_id := by
        have := hq.normal.contractor.1
        rwa [PreparedProviderCreate.identity, hq.contractor_id] at this
      refine .of_moved hstep hm (congrArg some hcustomer) (.inl ?_)
      rw [Call.parties, hcontractor]
      exact hs'.owned hm.saga (congrArg some hcustomer) rfl
  case recoverCreate contractor customer request =>
    obtain ⟨p, h, rfl, rfl⟩ := h
    refine .of_stay hstep fun x hx => ?_
    cases hx
    obtain ⟨hg, hcustomer⟩ := hs.recoverCreate h
    refine ⟨hcustomer, fun happlied => ?_⟩
    have hok := hs.ok (strip contractor, strip request)
    rw [hg] at hok
    have hp : CreateProposal S _ _ x := hok
    rw [hp.already_applied] at happlied
    cases happlied

/-- A call that borrows is not: it returns another customer's preparation. -/
theorem Coherent.not_isolated (hs : Coherent S s) (hb : Borrows s c) :
    ¬ Isolated (Machine.event InMemory.step s c) := by
  cases c with
  | prepareCreate contractor customer request key binding title description mutation =>
    obtain ⟨p, hp⟩ := Option.isSome_iff_exists.mp hb
    simp only [borrowed, Option.bind_eq_bind, Option.bind_eq_some_iff, Except.toOption] at hp
    obtain ⟨q, hq, hp⟩ := hp
    split at hq <;> cases hq
    rename_i hq
    split at hp
    · cases hp
    · rename_i hrecord
      simp only [Option.filter_eq_some_iff, decide_eq_true_eq] at hp
      obtain ⟨hpending, hne, hsemantic⟩ := hp
      simp only [Option.isSome_iff_ne_none, not_not] at hrecord
      have hop : s.pending_provider_operations.find? (q.contractor_id, q.request_id) = none := by
        rw [hs.creates] at hpending
        rw [hs.operations]
        cases hg : s.saga (q.contractor_id, q.request_id) <;> rw [hg] at hpending <;>
          first | rfl | cases hpending
      have hrun : s.prepareProviderCreate contractor customer request key binding title description
          mutation = .ok (p, s) := by
        rw [Repository.prepareProviderCreate, bind_of_ok _ hq]
        simp only [hrecord, hop, hpending, ensure_of _ trivial, ensure_of _ hsemantic, ok_bind,
          pure_eq_ok]
      intro h
      have hreturned := (h.returned (.create (some p)) (by
        simp only [Machine.event_resp, InMemory.step, Call.run, hrun, ok_bind, pure_eq_ok]) p rfl).1
      obtain ⟨hid, -⟩ := repositoryIdentity_eq_ok.mp (proposeCreate_eq_ok hq).1
      have hcustomer : q.customer_key = strip customer := congrArg Identity.customer hid
      exact hne (hreturned.trans hcustomer.symm)
  | _ => cases hb

end Steps

/-! ## Runs -/

theorem coherent_run {calls : List (Call P)} (cs : List (Call P)) (hcs : ∀ c ∈ cs, c ∈ calls) :
    Coherent (hashed calls) (Machine.run InMemory.step {} cs) :=
  Machine.run_inv InMemory.step (G := fun e => e.call ∈ calls) (.empty _)
    (fun _ c hs hc => (hs.step fun _ hbs => List.mem_flatMap.mpr ⟨c, hc, hbs⟩).1) cs
    fun _ he => hcs _ (Machine.call_mem_of_mem_log _ he)

/-- **A run keeps customers apart if and only if no call borrows.** -/
theorem customers_isolated (calls : List (Call P)) (hinj : Set.InjOn P.sha256 (hashed calls)) :
    (∀ e ∈ Machine.log InMemory.step {} calls, Isolated e) ↔
      ∀ e ∈ Machine.log InMemory.step {} calls, ¬ Borrows e.pre e.call := by
  constructor
  all_goals
    intro h e he
    have hcall := h e he
    obtain ⟨cs, c, cs', rfl, rfl⟩ := Machine.mem_log _ he
    have hs : Coherent (hashed (cs ++ c :: cs')) (Machine.run InMemory.step {} cs) :=
      coherent_run cs fun _ => List.mem_append_left _
  · exact fun hb => hs.not_isolated hb hcall
  · exact hs.isolated hinj (fun bs hbs => List.mem_flatMap.mpr
      ⟨c, List.mem_append_right _ List.mem_cons_self, hbs⟩) hcall

def exampleCustomer (n : ℕ) : Str := List.replicate 64 (digit n)

/-- A caller who asks for the example request at a provider. -/
def exampleProposal (customer : Str) (binding : ProviderBinding) : Call asciiPython :=
  .prepareCreate (py "C1") customer (py "CA1") (py "call-1") binding (py "Heater") []
    (.ok (exampleCreate exampleTime))

def exampleBinding (resource_id : String)
    (h : strip (py resource_id) = py resource_id ∧ py resource_id ≠ [] ∧
      (py resource_id).length ≤ 512) : ProviderBinding :=
  ⟨py "calendar", py resource_id, by decide, h⟩

/-- The second customer wants the same request at another provider resource. -/
def exampleCalls : List (Call asciiPython) :=
  [exampleProposal (exampleCustomer 1) (exampleBinding "a" (by decide)),
    exampleProposal (exampleCustomer 2) (exampleBinding "b" (by decide))]

theorem customers_isolated_exampleCalls :
    Isolated (Machine.event InMemory.step (Machine.run InMemory.step {} (exampleCalls.take 1))
      (exampleProposal (exampleCustomer 2) (exampleBinding "b" (by decide)))) :=
  (customers_isolated exampleCalls (injOn_of_forall (by decide +kernel))).mpr (by decide +kernel) _
    (List.mem_cons_of_mem _ List.mem_cons_self)

/-- The second of two customers who want the same thing is handed the first
one's preparation. -/
theorem equal_semantics_not_isolated :
    ¬ ∀ calls : List (Call asciiPython), ∀ e ∈ Machine.log InMemory.step {} calls, Isolated e := by
  intro h
  let first := exampleProposal (exampleCustomer 1) (exampleBinding "a" (by decide))
  let second := exampleProposal (exampleCustomer 2) (exampleBinding "a" (by decide))
  have hs : Coherent (hashed [first]) (Machine.run InMemory.step {} [first]) :=
    coherent_run [first] fun _ => id
  have hborrows : Borrows (Machine.run InMemory.step {} [first]) second := by decide +kernel
  exact hs.not_isolated hborrows
    (h [first, second] _ (List.mem_cons_of_mem _ List.mem_cons_self))

end HeyKevin.L3.InMemory
