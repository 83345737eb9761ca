import HeyKevin.L3Repository.Proposals
/-!
# The provider saga

What the repositories implement, for one (contractor, request) path: a request
is local and changes by commands, or it is created at a provider and changes
only by confirming the one proposal that is pending. Both repositories refine
this; what holds of whole histories is proved here.

* `Turn`: the moves.
* `Ok`, `Turn.ok`: what every reachable saga satisfies.
* `Turn.customer`: what no move changes.
-/
namespace HeyKevin.L3

open HeyKevin.Core L1 L1.Text L2

variable (P : Python)

inductive Saga
  | absent
  | creating (p : PreparedProviderCreate P)
  | localOnly (customer_key : Str) (request : ServiceRequest P)
  | provider (customer_key : Str) (request : ServiceRequest P)
      (receipt : FinalizedProviderCreateReceipt P) (pending : Option (PreparedProviderOperation P))

variable {P}

/-- The receipt that confirming a create leaves. -/
def PreparedProviderCreate.receipt (p : PreparedProviderCreate P) :
    FinalizedProviderCreateReceipt P :=
  ⟨p.logical_operation_id, p.contractor_id, p.customer_key, p.request_id, p.semantic_fingerprint,
    p.binding, p.result⟩

namespace Saga

def customer : Saga P → Option Str
  | absent => none
  | creating p => some p.customer_key
  | localOnly customer _ => some customer
  | provider customer _ _ _ => some customer

/-- The canonical aggregate. -/
def request : Saga P → Option (ServiceRequest P)
  | localOnly _ r => some r
  | provider _ r _ _ => some r
  | _ => none

/-! ## What a saga holds -/

structure Canonical (S : Set (List Byte)) (i : Identity) (r : ServiceRequest P) : Prop where
  normal : i.Normal
  request_id : r.data.request_id = i.request
  sound : Sound S r

/-- The create behind a provider request: its record is still in the history. -/
def Origin (S : Set (List Byte)) (i : Identity) (r : ServiceRequest P)
    (receipt : FinalizedProviderCreateReceipt P) : Prop :=
  ∃ p, CreateProposal S i.contractor i.request p ∧ p.customer_key = i.customer ∧
    receipt = p.receipt ∧
    p.result.request.data.idempotency_records ⊆ r.data.idempotency_records

variable (S : Set (List Byte)) (contractor request_id : Str)

def Ok : Saga P → Prop
  | absent => True
  | creating p => CreateProposal S contractor request_id p
  | localOnly customer r => Canonical S ⟨contractor, customer, request_id⟩ r
  | provider customer r receipt pending =>
    Canonical S ⟨contractor, customer, request_id⟩ r ∧
      Origin S ⟨contractor, customer, request_id⟩ r receipt ∧
      ∀ p ∈ pending, OperationProposal S ⟨contractor, customer, request_id⟩ receipt.binding r p

/-- A mutation that hashes inside `S`. -/
def HashesIn (mutation : Mutation) : Prop := ∀ bs ∈ mutation.materials P, bs ∈ S

inductive Turn : Saga P → Saga P → Prop
  | stay (g : Saga P) : Turn g g
  | create {customer : Str} {mutation : Mutation} {result : CommandResult P}
      (normal : (Identity.mk contractor customer request_id).Normal)
      (called : mutation.call P none = .ok result)
      (path : result.request.data.request_id = request_id)
      (hashed : HashesIn (P := P) S mutation) :
      Turn absent (localOnly customer result.request)
  | change {customer : Str} {r : ServiceRequest P} {mutation : Mutation} {result : CommandResult P}
      (called : mutation.call P (some r) = .ok result)
      (hashed : HashesIn (P := P) S mutation) :
      Turn (localOnly customer r) (localOnly customer result.request)
  | proposeCreate {p : PreparedProviderCreate P}
      (proposal : CreateProposal S contractor request_id p) : Turn absent (creating p)
  | confirmCreate (p : PreparedProviderCreate P) :
      Turn (creating p) (provider p.customer_key p.result.request p.receipt none)
  | propose {customer : Str} {r : ServiceRequest P} {receipt : FinalizedProviderCreateReceipt P}
      {p : PreparedProviderOperation P}
      (proposal : OperationProposal S ⟨contractor, customer, request_id⟩ receipt.binding r p) :
      Turn (provider customer r receipt none) (provider customer r receipt (some p))
  | confirm (customer : Str) (r : ServiceRequest P) (receipt : FinalizedProviderCreateReceipt P)
      (p : PreparedProviderOperation P) :
      Turn (provider customer r receipt (some p))
        (provider customer p.result.request receipt none)

variable {S contractor request_id} {g g' : Saga P}

theorem HashesIn.command {c : Command} (h : HashesIn (P := P) S (.ok c)) :
    ∀ bs, c.material P = .ok bs → bs ∈ S := fun bs hbs =>
  h bs (Mutation.mem_materials hbs)

theorem Ok.normal (h : g.Ok S contractor request_id) {customer : Str}
    (hc : g.customer = some customer) : (Identity.mk contractor customer request_id).Normal := by
  cases g with
  | absent => cases hc
  | creating p =>
    cases hc
    have hp : CreateProposal S contractor request_id p := h
    have := hp.normal
    rwa [PreparedProviderCreate.identity, hp.contractor_id, hp.request_id] at this
  | localOnly c r =>
    cases hc
    exact Canonical.normal h
  | provider c r receipt pending =>
    cases hc
    exact h.1.normal

/-! ## What every move keeps -/

theorem Turn.ok (h : Turn S contractor request_id g g') (hg : g.Ok S contractor request_id) :
    g'.Ok S contractor request_id := by
  cases h with
  | stay => exact hg
  | create normal called path hashed =>
    obtain ⟨c, rfl, hc⟩ := mutation_call_eq_ok called
    exact ⟨normal, path, Sound.mutation hc (fun r hr => by cases hr) hashed.command⟩
  | change called hashed =>
    obtain ⟨c, rfl, hc⟩ := mutation_call_eq_ok called
    obtain ⟨normal, path, hsound⟩ := hg
    refine ⟨normal, ?_, Sound.mutation hc (fun r hr => by cases hr; exact hsound) hashed.command⟩
    obtain ⟨n, -, ⟨r, hr, _, _, _, _, rfl⟩ | happlied⟩ := Command.apply_cases hc
    · cases hr
      exact path
    · rw [happlied.same_request _ rfl, path]
  | proposeCreate proposal => exact proposal
  | confirmCreate p =>
    have hp : CreateProposal S contractor request_id p := hg
    have hid : p.identity = ⟨contractor, p.customer_key, request_id⟩ := by
      rw [PreparedProviderCreate.identity, hp.contractor_id, hp.request_id]
    refine ⟨⟨hid ▸ hp.normal, ?_, hp.sound⟩, ⟨p, hp, rfl, rfl, List.Subset.refl _⟩,
      fun p h => by cases h⟩
    rw [hp.valid.result, hp.normal.trim, hid]
  | propose proposal =>
    obtain ⟨hcanonical, horigin, -⟩ := hg
    exact ⟨hcanonical, horigin, fun p h => by cases h; exact proposal⟩
  | confirm customer r receipt p =>
    obtain ⟨hcanonical, ⟨q, hq, hcustomer, hreceipt, hsub⟩, hpending⟩ := hg
    have hp := hpending p rfl
    obtain ⟨x, -, hrecords⟩ := hp.grows
    refine ⟨⟨hcanonical.normal, ?_, hp.sound⟩, ⟨q, hq, hcustomer, hreceipt, ?_⟩,
      fun p h => by cases h⟩
    · rw [hp.valid.result, hp.identity, hcanonical.normal.trim]
    · rw [hrecords]
      exact fun y hy => List.mem_append_left _ (hsub hy)

theorem Turn.customer (h : Turn S contractor request_id g g') (hg : g ≠ absent) :
    g'.customer = g.customer := by
  cases h <;> first | rfl | exact absurd rfl hg

end Saga

end HeyKevin.L3
