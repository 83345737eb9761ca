import HeyKevin.Core.Machine
import HeyKevin.L3Repository.InMemory
import HeyKevin.L3Repository.Saga
import Mathlib.Data.List.ReduceOption
/-!
# The in-memory repository refines the saga

Five maps under one key: what they say together about a key is its `Slot`, and
a slot that a run reaches is the slot of a saga (`Coherent`). One lemma for each
method says which saga it found, which move it made, and what it returned;
`Coherent.step` collects them.
-/
namespace HeyKevin.L3.InMemory

open HeyKevin.Core L1 L1.Text L2

variable (P : Python)

structure Slot where
  record : Option (StoredServiceRequest P) := none
  binding : Option ProviderBinding := none
  operation : Option (PreparedProviderOperation P) := none
  create : Option (PreparedProviderCreate P) := none
  receipt : Option (FinalizedProviderCreateReceipt P) := none

variable {P}

def Repository.slot (s : Repository P) (k : StorageKey) : Slot P where
  record := s.records.find? k
  binding := s.provider_bindings.find? k
  operation := s.pending_provider_operations.find? k
  create := s.pending_provider_creates.find? k
  receipt := s.finalized_provider_creates.find? k

end HeyKevin.L3.InMemory

namespace HeyKevin.L3

open L1 L2

variable {P : Python}

def Saga.slot (k : StorageKey) : Saga P → InMemory.Slot P
  | absent => {}
  | creating p => { create := some p }
  | localOnly customer r => { record := some ⟨k.1, customer, r, .LOCAL⟩ }
  | provider customer r receipt pending =>
    { record := some ⟨k.1, customer, r, .PROVIDER⟩, binding := some receipt.binding
      operation := pending, receipt := some receipt }

def Saga.target : Saga P → Option (ServiceRequestExecutionTarget P)
  | localOnly _ r => some ⟨r, .local⟩
  | provider _ r receipt _ => some ⟨r, .provider receipt.binding⟩
  | _ => none

end HeyKevin.L3

namespace HeyKevin.L3.InMemory

open HeyKevin.Core L1 L1.Text L2

variable {P : Python}

def Slot.saga (slot : Slot P) : Saga P :=
  match slot.record, slot.create, slot.receipt with
  | none, none, _ => .absent
  | none, some p, _ => .creating p
  | some x, _, some receipt => .provider x.customer_key x.request receipt slot.operation
  | some x, _, none => .localOnly x.customer_key x.request

@[simp] theorem Slot.saga_slot (k : StorageKey) (g : Saga P) : (g.slot k).saga = g := by
  cases g <;> rfl

def Repository.saga (s : Repository P) (k : StorageKey) : Saga P := (s.slot k).saga

/-- Every slot is the slot of a saga that a history can reach. -/
structure Coherent (S : Set (List Byte)) (s : Repository P) : Prop where
  nodup : (Entries.keys s.records).Nodup
  slot : ∀ k, s.slot k = (s.saga k).slot k
  ok : ∀ k, (s.saga k).Ok S k.1 k.2

/-- `s'` is `s` with the saga `g` at `k`. -/
structure Moved (s s' : Repository P) (k : StorageKey) (g : Saga P) : Prop where
  nodup : (Entries.keys s.records).Nodup → (Entries.keys s'.records).Nodup
  here : s'.slot k = g.slot k
  other : ∀ j, j ≠ k → s'.slot j = s.slot j

theorem Moved.saga {s s' : Repository P} {k : StorageKey} {g : Saga P} (h : Moved s s' k g) :
    s'.saga k = g := by
  rw [Repository.saga, h.here, Slot.saga_slot]

theorem Coherent.empty (S : Set (List Byte)) : Coherent (P := P) S {} :=
  ⟨List.nodup_nil, fun _ => rfl, fun _ => trivial⟩

theorem Coherent.moved {S : Set (List Byte)} {s s' : Repository P} {k : StorageKey} {g : Saga P}
    (hs : Coherent S s) (hm : Moved s s' k g) (ht : Saga.Turn S k.1 k.2 (s.saga k) g) :
    Coherent S s' ∧ ∀ j, Saga.Turn S j.1 j.2 (s.saga j) (s'.saga j) := by
  have hsaga : ∀ j, j ≠ k → s'.saga j = s.saga j := fun j hj => by
    rw [Repository.saga, hm.other j hj, Repository.saga]
  have hturn : ∀ j, Saga.Turn S j.1 j.2 (s.saga j) (s'.saga j) := by
    intro j
    by_cases hj : j = k
    · subst hj
      rw [hm.saga]
      exact ht
    · rw [hsaga j hj]
      exact .stay _
  refine ⟨⟨hm.nodup hs.nodup, fun j => ?_, fun j => (hturn j).ok (hs.ok j)⟩, hturn⟩
  by_cases hj : j = k
  · subst hj
    rw [hm.saga, hm.here]
  · rw [hsaga j hj, hm.other j hj, hs.slot]

theorem Coherent.stay {S : Set (List Byte)} {s : Repository P} (hs : Coherent S s) :
    Coherent S s ∧ ∀ j, Saga.Turn S j.1 j.2 (s.saga j) (s.saga j) := ⟨hs, fun _ => .stay _⟩

/-! ## Reading a slot -/

section Lookup

variable {S : Set (List Byte)} {s : Repository P} (hs : Coherent S s) (k : StorageKey)
include hs

theorem Coherent.records : s.records.find? k = ((s.saga k).slot k).record :=
  congrArg Slot.record (hs.slot k)

theorem Coherent.bindings : s.provider_bindings.find? k = ((s.saga k).slot k).binding :=
  congrArg Slot.binding (hs.slot k)

theorem Coherent.operations : s.pending_provider_operations.find? k =
    ((s.saga k).slot k).operation := congrArg Slot.operation (hs.slot k)

theorem Coherent.creates : s.pending_provider_creates.find? k = ((s.saga k).slot k).create :=
  congrArg Slot.create (hs.slot k)

theorem Coherent.receipts : s.finalized_provider_creates.find? k =
    ((s.saga k).slot k).receipt := congrArg Slot.receipt (hs.slot k)

/-- What `_execution_target_locked` returns, when it returns. -/
theorem Coherent.executionTarget {customer : Str} {t : Option (ServiceRequestExecutionTarget P)}
    (h : s.executionTargetLocked k customer = .ok t) :
    t = if (s.saga k).customer = some customer then (s.saga k).target else none := by
  unfold Repository.executionTargetLocked at h
  rw [hs.records, hs.bindings, hs.receipts] at h
  cases hg : s.saga k with
  | absent => rw [hg] at h; cases h; rfl
  | creating p =>
    rw [hg] at h
    cases h
    simp [Saga.target]
  | localOnly c r =>
    simp only [hg, Saga.slot, ne_eq, ite_not] at h
    split at h
    · rename_i hc
      subst hc
      simp only [bind_eq_ok, ensure_eq_ok, exists_unit, pure_eq_ok, Except.ok.injEq] at h
      simp [Saga.customer, Saga.target, ← h.2]
    · rename_i hc
      cases h
      simp [Saga.customer, hc]
  | provider c r receipt pending =>
    simp only [hg, Saga.slot, ne_eq, ite_not] at h
    split at h
    · rename_i hc
      subst hc
      simp only [bind_eq_ok, ensure_eq_ok, exists_unit, pure_eq_ok, Except.ok.injEq] at h
      obtain ⟨-, _, -, -, h⟩ := h
      simp [Saga.customer, Saga.target, ← h]
    · rename_i hc
      cases h
      simp [Saga.customer, hc]

theorem Coherent.executionTarget_some {customer : Str} {t : ServiceRequestExecutionTarget P}
    (h : s.executionTargetLocked k customer = .ok (some t)) :
    (s.saga k).customer = some customer ∧ (s.saga k).target = some t := by
  have ht := hs.executionTarget k h
  split at ht
  · rename_i hc
    exact ⟨hc, ht.symm⟩
  · cases ht

end Lookup

theorem target_request {g : Saga P} {t : ServiceRequestExecutionTarget P} (h : g.target = some t) :
    g.request = some t.request := by
  cases g <;> cases h <;> rfl

theorem target_provider {g : Saga P} {r : ServiceRequest P} {binding : ProviderBinding}
    (h : g.target = some ⟨r, .provider binding⟩) : ∃ customer receipt pending,
      g = .provider customer r receipt pending ∧ receipt.binding = binding := by
  cases g with
  | provider customer r' receipt pending =>
    cases h
    exact ⟨customer, receipt, pending, rfl, rfl⟩
  | _ => cases h

/-- An entry of each map at one key. -/
theorem Moved.of_set {s : Repository P} {k : StorageKey} {g : Saga P} {x : StoredServiceRequest P}
    {s' : Repository P} (hr : s'.records = s.records.set k x) (here : s'.slot k = g.slot k)
    (other : ∀ j, j ≠ k → s'.slot j = s.slot j) : Moved s s' k g :=
  ⟨fun h => by rw [hr]; exact Entries.nodup_keys_set h k x, here, other⟩

/-! ## What each method does -/

section Methods

variable {S : Set (List Byte)} {s s' : Repository P} (hs : Coherent S s)
include hs

theorem Coherent.get {contractor customer request : Str} {r : ServiceRequest P}
    (h : s.get contractor customer request = .ok (some r)) :
    (s.saga (strip contractor, strip request)).customer = some (strip customer) ∧
      (s.saga (strip contractor, strip request)).request = some r := by
  simp only [Repository.get, bind_eq_ok, pure_eq_ok, Except.ok.injEq, Option.map_eq_some_iff] at h
  obtain ⟨i, hi, t, ht, t', rfl, rfl⟩ := h
  obtain ⟨rfl, -⟩ := repositoryIdentity_eq_ok.mp hi
  obtain ⟨hc, hg⟩ := hs.executionTarget_some _ ht
  exact ⟨hc, target_request hg⟩

theorem Coherent.apply {contractor customer request : Str} {mutation : Mutation}
    {result : CommandResult P}
    (h : s.apply contractor customer request mutation = .ok (result, s'))
    (hS : Saga.HashesIn (P := P) S mutation) :
    Moved s s' (strip contractor, strip request) (.localOnly (strip customer) result.request) ∧
      Saga.Turn S (strip contractor) (strip request) (s.saga (strip contractor, strip request))
        (.localOnly (strip customer) result.request) := by
  simp only [Repository.apply, bind_eq_ok, ensure_eq_ok, exists_unit, pure_eq_ok,
    Except.ok.injEq, Prod.mk.injEq] at h
  obtain ⟨i, hi, hcustomer, hcreate, hop, hlocal, result', hcall, hpath, rfl, rfl⟩ := h
  have hnormal := repositoryIdentity_normal hi
  obtain ⟨rfl, -⟩ := repositoryIdentity_eq_ok.mp hi
  simp only at hcustomer hcreate hop hlocal hcall hpath hnormal ⊢
  set k : StorageKey := (strip contractor, strip request)
  rw [hs.records] at hcustomer hlocal hcall
  rw [hs.creates] at hcreate
  have hmoved : ((s.saga k).slot k).binding = none → ((s.saga k).slot k).receipt = none →
      Moved s { s with records := s.records.set k ⟨k.1, strip customer, result'.request, .LOCAL⟩ } k
        (.localOnly (strip customer) result'.request) := by
    intro hb hr
    refine .of_set rfl ?_ fun j hj => ?_
    · simp only [Repository.slot, Entries.find?_set, if_true, hs.bindings, hs.receipts, hb, hr,
        hop, hs.creates, hcreate]
      rfl
    · simp only [Repository.slot, Entries.find?_set, if_neg (Ne.symm hj)]
  cases hg : s.saga k with
  | absent =>
    rw [hg] at hcall hmoved
    exact ⟨hmoved rfl rfl, .create hnormal hcall hpath hS⟩
  | creating p =>
    rw [hg] at hcreate
    cases hcreate
  | localOnly customer' r =>
    rw [hg] at hcustomer hcall hmoved
    obtain rfl : customer' = strip customer := hcustomer _ rfl
    exact ⟨hmoved rfl rfl, .change hcall hS⟩
  | provider customer' r receipt pending =>
    rw [hg] at hlocal
    simp only [Saga.slot, Repository.requireLocal, bind_eq_ok,
      require_eq_ok, ensure_eq_ok] at hlocal
    obtain ⟨t, ht, target, rfl, htarget⟩ := hlocal
    obtain ⟨-, hsome⟩ := hs.executionTarget_some _ ht
    rw [hg, Saga.target, Option.some.injEq] at hsome
    rw [← hsome] at htarget
    cases htarget

theorem Coherent.prepareOperation {contractor customer request key : Str} {mutation : Mutation}
    {p : PreparedProviderOperation P}
    (h : s.prepareProviderOperation contractor customer request key mutation = .ok (p, s'))
    (hS : ∀ bs ∈ mutation.materials P ++ mutation.operationMaterials P
      ⟨strip contractor, strip customer, strip request⟩, bs ∈ S) :
    ∃ r receipt pending pending',
      s.saga (strip contractor, strip request) = .provider (strip customer) r receipt pending ∧
      p.identity = ⟨strip contractor, strip customer, strip request⟩ ∧ p.base_request = r ∧
      p.binding = receipt.binding ∧ p.Valid ∧
      Saga.Turn S (strip contractor) (strip request) (.provider (strip customer) r receipt pending)
        (.provider (strip customer) r receipt pending') ∧
      (s' = s ∧ pending' = pending ∨ Moved s s' (strip contractor, strip request)
        (.provider (strip customer) r receipt pending')) := by
  simp only [Repository.prepareProviderOperation, bind_eq_ok, require_eq_ok,
    Option.filter_eq_some_iff, decide_eq_true_eq] at h
  obtain ⟨i, hi, key', hkey, x, ⟨hx, hxc⟩, t, ht, h⟩ := h
  have hnormal := repositoryIdentity_normal hi
  obtain ⟨rfl, -⟩ := repositoryIdentity_eq_ok.mp hi
  obtain ⟨-, _, -, rfl⟩ := requiredIdentifier_eq_ok.mp hkey
  simp only at hx hxc ht h
  set k : StorageKey := (strip contractor, strip request)
  split at h
  case h_2 => cases h
  case h_1 r₀ binding =>
    obtain ⟨hcustomer, htarget⟩ := hs.executionTarget_some k ht
    obtain ⟨c, receipt, pending, hg, rfl⟩ := target_provider htarget
    rw [hg] at hcustomer
    cases hcustomer
    have hok := hs.ok k
    rw [hs.records, hg] at hx
    cases hx
    rw [hs.operations, hg] at h
    rw [hg] at hok
    simp only [bind_eq_ok, ensure_eq_ok, exists_unit] at h
    obtain ⟨result, hcall, -, q, hq, h⟩ := h
    obtain ⟨c, rfl, hc⟩ := mutation_call_eq_ok hcall
    obtain ⟨hqid, -, hqbinding, hqbase, -, hqvalid, -⟩ := prepareProviderOperation_eq_ok hq
    cases pending with
    | some existing =>
      simp only [Saga.slot, bind_eq_ok, ensure_eq_ok, exists_unit, pure_eq_ok, Except.ok.injEq,
        Prod.mk.injEq] at h
      obtain ⟨-, rfl, rfl⟩ := h
      have hp := hok.2.2 existing rfl
      exact ⟨_, receipt, some existing, some existing, hg, hp.identity, hp.base_request, hp.binding,
        hp.valid, .stay _, .inl ⟨rfl, rfl⟩⟩
    | none =>
      simp only [Saga.slot] at h
      split at h
      · cases h
        exact ⟨_, receipt, none, none, hg, hqid, hqbase, hqbinding, hqvalid, .stay _,
          .inl ⟨rfl, rfl⟩⟩
      · rename_i hfresh
        cases h
        have hp := operationProposal_of hnormal (strip_strip _) hc hq (by simpa using hfresh)
          hok.1.sound hS
        refine ⟨_, receipt, none, some p, hg, hqid, hqbase, hqbinding, hqvalid, .propose hp,
          .inr ⟨id, ?_, fun j hj => ?_⟩⟩
        · simp only [Repository.slot, Entries.find?_set, if_true, hs.records, hs.bindings,
            hs.receipts, hs.creates, hg]
          rfl
        · simp only [Repository.slot, Entries.find?_set, if_neg (Ne.symm hj)]

/-- A stored record is the canonical request of its saga. -/
theorem Coherent.of_record {k : StorageKey} {x : StoredServiceRequest P}
    (hx : s.records.find? k = some x) :
    (s.saga k).customer = some x.customer_key ∧ (s.saga k).request = some x.request := by
  rw [hs.records] at hx
  cases hg : s.saga k <;> rw [hg] at hx <;> cases hx <;> exact ⟨rfl, rfl⟩

theorem Coherent.finalizeOperation {p : PreparedProviderOperation P} {result : CommandResult P}
    (h : s.finalizeProviderOperation p = .ok (result, s')) :
    p.Valid ∧ (s.saga (p.contractor_id, p.request_id)).customer = some p.customer_key ∧
    ∃ g', g'.request = some result.request ∧
      Saga.Turn S p.contractor_id p.request_id (s.saga (p.contractor_id, p.request_id)) g' ∧
      (s' = s ∧ g' = s.saga (p.contractor_id, p.request_id) ∨
        Moved s s' (p.contractor_id, p.request_id) g') := by
  simp only [Repository.finalizeProviderOperation, bind_eq_ok, require_eq_ok,
    Option.filter_eq_some_iff, decide_eq_true_eq] at h
  obtain ⟨_, hvalid, x, ⟨hx, hxc⟩, h⟩ := h
  have hvalid := validatePreparedProviderOperation_iff.mp hvalid
  set k : StorageKey := (p.contractor_id, p.request_id)
  obtain ⟨hcustomer, hrequest⟩ := hs.of_record hx
  rw [hxc] at hcustomer
  -- A call that finds its command in the history returns the request as it is.
  have hreplay : ∀ {applied}, appliedResultByFingerprint x.request p.command_fingerprint =
      .ok (some applied) → ∃ g', g'.request = some applied.request ∧
        Saga.Turn S p.contractor_id p.request_id (s.saga k) g' ∧
        (s = s ∧ g' = s.saga k ∨ Moved s s k g') := by
    intro applied happlied
    obtain ⟨y, -, -, rfl⟩ := appliedResultByFingerprint_eq_some happlied
    exact ⟨_, hrequest, .stay _, .inl ⟨rfl, rfl⟩⟩
  refine ⟨hvalid, hcustomer, ?_⟩
  split at h
  · simp only [bind_eq_ok] at h
    obtain ⟨t, -, applied, happlied, h⟩ := h
    split at h
    case h_2 => cases h
    case h_1 =>
      simp only [bind_eq_ok, require_eq_ok, pure_eq_ok, Except.ok.injEq, Prod.mk.injEq] at h
      obtain ⟨_, rfl, rfl, rfl⟩ := h
      exact hreplay happlied
  · rw [hs.operations] at h
    cases hg : s.saga k with
    | provider c r receipt pending =>
      rw [hg] at h hcustomer
      cases hcustomer
      cases pending with
      | none =>
        simp only [Saga.slot, bind_eq_ok, require_eq_ok, pure_eq_ok, Except.ok.injEq,
          Prod.mk.injEq] at h
        obtain ⟨_, happlied, _, rfl, rfl, rfl⟩ := h
        rw [← hg]
        exact hreplay happlied
      | some pending =>
        simp only [Saga.slot, bind_eq_ok, ensure_eq_ok, exists_unit, pure_eq_ok, Except.ok.injEq,
          Prod.mk.injEq] at h
        obtain ⟨-, -, t, -, -, rfl, rfl⟩ := h
        have hok := hs.ok k
        rw [hg] at hok
        have hid := (hok.2.2 pending rfl).identity
        have hkey : pending.contractor_id = k.1 ∧ pending.customer_key = p.customer_key :=
          ⟨congrArg Identity.contractor hid, congrArg Identity.customer hid⟩
        refine ⟨_, rfl, .confirm _ _ _ _, .inr (.of_set rfl ?_ fun j hj => ?_)⟩
        · simp only [Repository.slot, Entries.find?_set, Entries.find?_pop, if_true, hs.bindings,
            hs.receipts, hs.creates, hg, hkey.1, hkey.2]
          rfl
        · simp only [Repository.slot, Entries.find?_set, Entries.find?_pop, if_neg (Ne.symm hj)]
    | _ =>
      rw [hg] at h
      simp only [Saga.slot, bind_eq_ok, require_eq_ok, pure_eq_ok, Except.ok.injEq,
        Prod.mk.injEq] at h
      obtain ⟨_, happlied, _, rfl, rfl, rfl⟩ := h
      rw [← hg]
      exact hreplay happlied

theorem Coherent.recoverOperation {contractor customer request : Str}
    {p : PreparedProviderOperation P}
    (h : s.recoverProviderOperation contractor customer request = .ok (some p)) :
    ∃ r receipt, s.saga (strip contractor, strip request) =
      .provider (strip customer) r receipt (some p) := by
  simp only [Repository.recoverProviderOperation, bind_eq_ok] at h
  obtain ⟨i, hi, h⟩ := h
  obtain ⟨rfl, -⟩ := repositoryIdentity_eq_ok.mp hi
  simp only at h
  set k : StorageKey := (strip contractor, strip request)
  split at h
  case h_2 => cases h
  case h_1 x pending hx hpending =>
    simp only [bind_eq_ok, ensure_eq_ok, exists_unit, pure_eq_ok, Except.ok.injEq,
      Option.some.injEq] at h
    obtain ⟨t, -, -, rfl⟩ := h
    simp only [Option.filter_eq_some_iff, decide_eq_true_eq] at hx
    obtain ⟨hcustomer, -⟩ := hs.of_record hx.1
    rw [hs.operations] at hpending
    rw [hx.2] at hcustomer
    cases hg : s.saga k <;> rw [hg] at hpending hcustomer <;> cases hpending
    cases hcustomer
    exact ⟨_, _, rfl⟩

theorem Coherent.prepareCreate {contractor customer request key title description : Str}
    {binding : ProviderBinding} {mutation : Mutation} {p : PreparedProviderCreate P}
    (h : s.prepareProviderCreate contractor customer request key binding title description
      mutation = .ok (p, s'))
    (hS : ∀ bs ∈ mutation.materials P ++ createMaterials (proposeCreate (P := P) contractor customer
      request key binding title description mutation), bs ∈ S) :
    ∃ q, proposeCreate contractor customer request key binding title description mutation = .ok q ∧
      ((∃ r receipt pending, s.saga (q.contractor_id, q.request_id) =
          .provider q.customer_key r receipt pending ∧ p.customer_key = q.customer_key ∧
          p.result = receipt.result ∧ p.already_applied = true ∧ s' = s) ∨
        (s.saga (q.contractor_id, q.request_id) = .creating p ∧
          p.semantic_fingerprint = q.semantic_fingerprint ∧ s' = s) ∨
        (s.saga (q.contractor_id, q.request_id) = .absent ∧ p = q ∧
          CreateProposal S q.contractor_id q.request_id q ∧
          Moved s s' (q.contractor_id, q.request_id) (.creating q))) := by
  simp only [Repository.prepareProviderCreate, bind_eq_ok] at h
  obtain ⟨q, hq, h⟩ := h
  refine ⟨q, hq, ?_⟩
  rw [hq] at hS
  have hproposal := createProposal_of hq hS
  set k : StorageKey := (q.contractor_id, q.request_id)
  rw [hs.records, hs.receipts, hs.bindings, hs.operations, hs.creates] at h
  cases hg : s.saga k with
  | absent =>
    simp only [hg, Saga.slot, bind_eq_ok, ensure_eq_ok, exists_unit, pure_eq_ok, Except.ok.injEq,
      Prod.mk.injEq] at h
    obtain ⟨-, rfl, rfl⟩ := h
    refine .inr (.inr ⟨rfl, rfl, hproposal, id, ?_, fun j hj => ?_⟩)
    · simp only [Repository.slot, Entries.find?_set, if_true, hs.records, hs.bindings,
        hs.receipts, hs.operations, hg]
      rfl
    · simp only [Repository.slot, Entries.find?_set, if_neg (Ne.symm hj)]
  | creating existing =>
    simp only [hg, Saga.slot, bind_eq_ok, ensure_eq_ok, exists_unit, pure_eq_ok, Except.ok.injEq,
      Prod.mk.injEq] at h
    obtain ⟨-, hsemantic, rfl, rfl⟩ := h
    exact .inr (.inl ⟨rfl, hsemantic, rfl⟩)
  | localOnly c r =>
    simp only [hg, Saga.slot, bind_eq_ok, ensure_eq_ok, require_eq_ok, reduceCtorEq, false_and,
      exists_false, and_false] at h
  | provider c r receipt pending =>
    simp only [hg, Saga.slot, bind_eq_ok, ensure_eq_ok, exists_unit, require_eq_ok,
      Option.some.injEq] at h
    obtain ⟨rfl, t, -, _, rfl, h⟩ := h
    split at h
    case h_2 => cases h
    case h_1 =>
      simp only [bind_eq_ok, ensure_eq_ok, exists_unit, pure_eq_ok, Except.ok.injEq,
        Prod.mk.injEq, Repository.replayedCreate, require_eq_ok] at h
      obtain ⟨-, _, -, -, _, ⟨_, -, rfl⟩, rfl, rfl⟩ := h
      exact .inl ⟨r, receipt, pending, rfl, rfl, rfl, rfl, rfl⟩

theorem Coherent.finalizeCreate {p : PreparedProviderCreate P} {result : CommandResult P}
    (h : s.finalizeProviderCreate p = .ok (result, s')) :
    p.Valid ∧
      ((∃ r receipt pending, s.saga (p.contractor_id, p.request_id) =
          .provider p.customer_key r receipt pending ∧ result = receipt.result ∧ s' = s) ∨
        (∃ q, s.saga (p.contractor_id, p.request_id) = .creating q ∧ result = q.result ∧
          q.logical_operation_id = p.logical_operation_id ∧
          Moved s s' (p.contractor_id, p.request_id)
            (.provider q.customer_key q.result.request q.receipt none))) := by
  simp only [Repository.finalizeProviderCreate, bind_eq_ok] at h
  obtain ⟨_, hvalid, h⟩ := h
  refine ⟨validatePreparedProviderCreate_iff.mp hvalid, ?_⟩
  set k : StorageKey := (p.contractor_id, p.request_id)
  split at h
  case h_1 x hx =>
    simp only [bind_eq_ok] at h
    obtain ⟨t, ht, h⟩ := h
    split at h
    case h_2 => cases h
    case h_1 r₀ binding receipt hreceipt =>
      simp only [bind_eq_ok, ensure_eq_ok, exists_unit, pure_eq_ok, Except.ok.injEq,
        Prod.mk.injEq] at h
      obtain ⟨-, _, -, -, rfl, rfl⟩ := h
      obtain ⟨hcustomer, htarget⟩ := hs.executionTarget_some k ht
      obtain ⟨c, receipt', pending, hg, -⟩ := target_provider htarget
      rw [hs.receipts, hg] at hreceipt
      cases hreceipt
      rw [hg] at hcustomer
      cases hcustomer
      exact .inl ⟨_, receipt, pending, hg, rfl, rfl⟩
  case h_2 hx =>
    simp only [bind_eq_ok, require_eq_ok, ensure_eq_ok, exists_unit, pure_eq_ok, Except.ok.injEq,
      Prod.mk.injEq] at h
    obtain ⟨q, hq, hlogical, -, rfl, rfl⟩ := h
    rw [hs.creates] at hq
    cases hg : s.saga k <;> rw [hg] at hq <;> cases hq
    have hok := hs.ok k
    rw [hg] at hok
    have hp : CreateProposal S k.1 k.2 q := hok
    refine .inr ⟨q, rfl, rfl, hlogical, .of_set rfl ?_ fun j hj => ?_⟩
    · simp only [Repository.slot, Entries.find?_set, Entries.find?_pop, if_true, hs.operations, hg,
        hp.contractor_id, Saga.slot, PreparedProviderCreate.receipt]
    · simp only [Repository.slot, Entries.find?_set, Entries.find?_pop, if_neg (Ne.symm hj)]

theorem Coherent.recoverCreate {contractor customer request : Str} {p : PreparedProviderCreate P}
    (h : s.recoverProviderCreate contractor customer request = .ok (some p)) :
    s.saga (strip contractor, strip request) = .creating p ∧
      p.customer_key = strip customer := by
  simp only [Repository.recoverProviderCreate, bind_eq_ok] at h
  obtain ⟨i, hi, h⟩ := h
  obtain ⟨rfl, -⟩ := repositoryIdentity_eq_ok.mp hi
  simp only at h
  set k : StorageKey := (strip contractor, strip request)
  split at h
  case h_2 => cases h
  case h_1 q hrecord hq =>
    split at h
    · cases h
    · rename_i hcustomer
      simp only [bind_eq_ok, ensure_eq_ok, exists_unit, pure_eq_ok, Except.ok.injEq,
        Option.some.injEq] at h
      obtain ⟨-, _, -, rfl⟩ := h
      rw [hs.creates] at hq
      cases hg : s.saga k <;> rw [hg] at hq <;> cases hq
      exact ⟨rfl, not_not.mp hcustomer⟩

theorem Coherent.listActionable {contractor customer : Str} {limit : ℤ}
    {rs : List (ServiceRequest P)} (h : s.listActionable contractor customer limit = .ok rs)
    {r : ServiceRequest P} (hr : r ∈ rs) : ∃ k, k.1 = strip contractor ∧
      (s.saga k).customer = some (strip customer) ∧ (s.saga k).request = some r := by
  simp only [Repository.listActionable, requiredCustomerKey, bind_eq_ok, requiredIdentifier_eq_ok,
    ensure_eq_ok, exists_unit, pure_eq_ok, Except.ok.injEq, Value.str.injEq] at h
  obtain ⟨_, ⟨-, _, rfl, rfl⟩, _, ⟨_, ⟨-, _, rfl, rfl⟩, -, rfl⟩, -, found, hfound, rfl⟩ := h
  have hmem : some r ∈ found := by
    have := List.mem_of_mem_take hr
    simpa [List.mem_insertionSort, List.reduceOption_mem_iff] using this
  obtain ⟨⟨k, x⟩, hx, hentry⟩ := exists_of_mem_mapM hfound hmem
  have hfind := Entries.find?_of_mem hs.nodup hx
  unfold Repository.actionable at hentry
  split at hentry
  · cases hentry
  · rename_i hsame
    have hcontractor : x.contractor_id = strip contractor := by
      by_contra hne
      exact hsame (.inl hne)
    rw [hs.records] at hfind
    split at hentry
    · cases hentry
    · cases hentry
    · cases hentry
    · rename_i t ht
      split at hentry
      · cases hentry
        obtain ⟨hcustomer, htarget⟩ := hs.executionTarget_some k ht
        refine ⟨k, ?_, hcustomer, target_request htarget⟩
        cases hg : s.saga k <;> rw [hg] at hfind <;> cases hfind <;> exact hcontractor
      · cases hentry

end Methods

end HeyKevin.L3.InMemory
