import HeyKevin.L3Repository.Isolation
import HeyKevin.L3Repository.StoredSaga
/-!
# The Firestore repository refines the saga

One lemma for each transaction says which document it found and which it left.
-/
namespace HeyKevin.L3.Firestore

open HeyKevin.Core L1 L1.Text L1.Datetime L2

variable {P : Python}

/-! ## What the writers leave -/

section Writers

variable {contractor request_id customer : Str} {g : Saga P} {k : Keeping} {data : Document}
  {now : DateTime}

theorem requestFields_eq_ok {r : ServiceRequest P} {kind : ExecutionKind}
    (h : requestFields r customer kind now = .ok data) : ∃ t, data = fun f =>
      (requestField customer r kind f).or ((Keeping.expires t).field f) := by
  simp only [requestFields, bind_eq_ok, pure_eq_ok, Except.ok.injEq] at h
  obtain ⟨t, -, rfl⟩ := h
  refine ⟨t, ?_⟩
  funext f
  cases f <;> rfl

theorem finalizedCreate_eq_ok {p : PreparedProviderCreate P}
    (h : finalizedCreate p customer now = .ok data) : ∃ t, some data =
      (Saga.provider customer p.result.request p.receipt none).document (.expires t) := by
  simp only [finalizedCreate, bind_eq_ok, pure_eq_ok, Except.ok.injEq] at h
  obtain ⟨d, hd, rfl⟩ := h
  obtain ⟨t, rfl⟩ := requestFields_eq_ok hd
  refine ⟨t, congrArg some ?_⟩
  funext f
  cases f <;> rfl

theorem finalizedOperation_eq_ok {r : ServiceRequest P} {receipt : FinalizedProviderCreateReceipt P}
    {proposed : Option (PreparedProviderOperation P)} {p : PreparedProviderOperation P}
    (h : finalizedOperation ((Saga.provider customer r receipt proposed).data k) p customer now =
      .ok data) : ∃ t, some data =
      (Saga.provider customer p.result.request receipt none).document (.expires t) := by
  simp only [finalizedOperation, bind_eq_ok, pure_eq_ok, Except.ok.injEq] at h
  obtain ⟨d, hd, rfl⟩ := h
  obtain ⟨t, rfl⟩ := requestFields_eq_ok hd
  refine ⟨t, congrArg some ?_⟩
  funext f
  cases f <;> cases k <;> rfl

/-- Marking for review takes a document out of recovery. -/
def Keeping.reviewed : Keeping → Keeping
  | pending attempts next_attempt_at _ => review attempts next_attempt_at
  | review attempts next_attempt_at => review attempts next_attempt_at
  | _ => marked

theorem needsReview_data : needsReview (g.data k) = g.data k.reviewed := by
  funext f
  cases f <;> cases g <;> cases k <;> rfl

end Writers

/-! ## Moves -/

/-- What a transaction does to a document: the saga and its keeping, before and after. -/
inductive Move (S : Set (List Byte)) (contractor request_id : Str) :
    Saga P → Keeping → Saga P → Keeping → Prop
  | stay (g : Saga P) (k : Keeping) : Move S contractor request_id g k g k
  | write {g : Saga P} {k : Keeping} {customer : Str} {r : ServiceRequest P} (t : DateTime)
      (hlocal : g = .absent ∨ ∃ r', g = .localOnly customer r')
      (path : r.data.request_id = request_id) (sound : Sound S r) :
      Move S contractor request_id g k (.localOnly customer r) (.expires t)
  | proposeCreate {k : Keeping} {p : PreparedProviderCreate P}
      (proposal : CreateProposal S contractor request_id p) :
      Move S contractor request_id .absent k (.creating p)
        (.pending 0 p.result.request.data.updated_at none)
  | confirmCreate (p : PreparedProviderCreate P) {attempts : ℤ} {next : DateTime}
      {lease : Option Lease} (t : DateTime) :
      Move S contractor request_id (.creating p) (.pending attempts next lease)
        (.provider p.customer_key p.result.request p.receipt none) (.expires t)
  | propose {k : Keeping} {customer : Str} {r : ServiceRequest P}
      {receipt : FinalizedProviderCreateReceipt P} {p : PreparedProviderOperation P}
      (proposal : OperationProposal S ⟨contractor, customer, request_id⟩ receipt.binding r p) :
      Move S contractor request_id (.provider customer r receipt none) k
        (.provider customer r receipt (some p)) (.pending 0 p.result.request.data.updated_at none)
  | confirm {customer : Str} {r : ServiceRequest P} {receipt : FinalizedProviderCreateReceipt P}
      (p : PreparedProviderOperation P) {attempts : ℤ} {next : DateTime} {lease : Option Lease}
      (t : DateTime) :
      Move S contractor request_id (.provider customer r receipt (some p))
        (.pending attempts next lease) (.provider customer p.result.request receipt none)
        (.expires t)
  | lease {g : Saga P} {attempts : ℤ} {next : DateTime} {lease : Option Lease} {l : Lease}
      (normal : l.Normal) :
      Move S contractor request_id g (.pending attempts next lease) g
        (.pending (attempts + 1) l.expires_at (some l))
  | release {g : Saga P} {attempts : ℤ} {next next' : DateTime} {lease : Option Lease}
      (utc : next'.IsUtc) :
      Move S contractor request_id g (.pending attempts next lease) g (.pending attempts next' none)
  | giveUp {g : Saga P} {attempts : ℤ} {next next' : DateTime} {lease : Option Lease}
      (utc : next'.IsUtc) :
      Move S contractor request_id g (.pending attempts next lease) g (.review attempts next')
  | mark {g : Saga P} (k : Keeping) (hne : g ≠ .absent) (hnone : g.proposal = none) :
      Move S contractor request_id g k g .marked

section Moves

variable {S : Set (List Byte)} {contractor request_id : Str} {g g' : Saga P} {k k' : Keeping}

theorem Move.holds (h : Move S contractor request_id g k g' k')
    (hg : g.Holds S contractor request_id) : g'.Holds S contractor request_id := by
  cases h with
  | write t hlocal path sound => exact ⟨path, sound⟩
  | proposeCreate proposal => exact proposal
  | confirmCreate p => exact (Saga.Turn.confirmCreate p).ok hg
  | propose proposal => exact (Saga.Turn.propose proposal).ok hg
  | confirm p => exact (Saga.Turn.confirm _ _ _ p).ok hg
  | _ => exact hg

theorem utc_updated_at (r : ServiceRequest P) : r.data.updated_at.IsUtc := r.isValid.updated_at

theorem Move.fits (h : Move S contractor request_id g k g' k') (hk : k.Fits g) : k'.Fits g' := by
  cases h with
  | stay => exact hk
  | write => exact rfl
  | proposeCreate => exact ⟨nofun, le_refl 0, utc_updated_at _, nofun⟩
  | confirmCreate => exact rfl
  | propose => exact ⟨nofun, le_refl 0, utc_updated_at _, nofun⟩
  | confirm => exact rfl
  | lease normal =>
    obtain ⟨hne, hpos, -⟩ := hk
    exact ⟨hne, by omega, normal.expires_at, fun l hl => by cases hl; exact ⟨normal, rfl⟩⟩
  | release utc => exact ⟨hk.1, hk.2.1, utc, nofun⟩
  | giveUp utc => exact ⟨hk.1, hk.2.1, utc⟩
  | mark k hne hnone => exact hnone

end Moves

/-! ## Logical ids -/

def Proposal.material : Proposal P → Option (List Byte)
  | .create p => p.material
  | .operation p => p.material

def Proposal.Valid : Proposal P → Prop
  | .create p => p.Valid
  | .operation p => p.Valid

/-- A proposal whose logical id hashes inside `S`. -/
structure Proposal.Addressed (S : Set (List Byte)) (q : Proposal P) : Prop where
  normal : q.identity.Normal
  valid : q.Valid
  material : ∀ bs, q.material = some bs → bs ∈ S

/-- The text of a logical id. -/
def Proposal.text : Proposal P → Str
  | .create p => createMaterial p.identity p.semantic_fingerprint
  | .operation p => operationMaterial p.identity p.base_revision p.command_fingerprint

theorem Proposal.Addressed.encode {S : Set (List Byte)} {q : Proposal P} (h : q.Addressed S) :
    ∃ bs ∈ S, encodeUtf8 q.text = some bs ∧ P.sha256 bs = q.logical_operation_id := by
  cases q with
  | create p =>
    have htrim : p.identity.trim = p.identity := h.normal.trim
    obtain ⟨bs, hbs, hsha⟩ := PreparedProviderCreate.Valid.material h.valid
    refine ⟨bs, h.material bs hbs, ?_, hsha⟩
    rwa [PreparedProviderCreate.material, htrim] at hbs
  | operation p =>
    have htrim : p.identity.trim = p.identity := h.normal.trim
    obtain ⟨bs, hbs, hsha⟩ := PreparedProviderOperation.Valid.material h.valid
    refine ⟨bs, h.material bs hbs, ?_, hsha⟩
    rwa [PreparedProviderOperation.material, htrim] at hbs

/-- A logical id has one text. -/
theorem Proposal.Addressed.text_inj {S : Set (List Byte)} (hinj : Set.InjOn P.sha256 S)
    {q q' : Proposal P} (hq : q.Addressed S) (hq' : q'.Addressed S)
    (h : q.logical_operation_id = q'.logical_operation_id) : q.text = q'.text := by
  obtain ⟨bs, hS, hbs, hsha⟩ := hq.encode
  obtain ⟨bs', hS', hbs', hsha'⟩ := hq'.encode
  obtain rfl := hinj hS hS' (by rw [hsha, hsha', h])
  exact encodeUtf8_inj hbs hbs'

theorem operationMaterial_inj {i j : Identity} {b b' : ℤ} {f f' : Str}
    (hcontractor : i.contractor = j.contractor) (hrequest : i.request = j.request)
    (hlen : i.customer.length = j.customer.length)
    (h : operationMaterial i b f = operationMaterial j b' f') :
    i.customer = j.customer ∧ b = b' ∧ f = f' := by
  simp only [operationMaterial, nulSeparated, List.foldl_cons, List.foldl_nil, List.append_assoc,
    List.cons_append, hcontractor, hrequest, List.append_cancel_left_eq, List.cons.injEq,
    true_and] at h
  have hcustomer := List.append_inj_left h hlen
  rw [hcustomer, List.append_cancel_left_eq, List.cons.injEq, List.append_cancel_left_eq,
    List.cons.injEq] at h
  obtain ⟨hb, hf⟩ := decimal_append_inj (by decide) (by decide) h.2.2
  exact ⟨hcustomer, hb, (List.cons.inj hf).2⟩

/-- The labels differ where one says "create" and the other "operation". -/
theorem createMaterial_ne_operationMaterial {i j : Identity} {f f' : Str} {b : ℤ} :
    createMaterial i f ≠ operationMaterial j b f' := by
  intro h
  have hlabel := congrArg (·[25]?) h
  simp only [createMaterial, operationMaterial, nulSeparated, List.foldl_cons, List.foldl_nil,
    List.append_assoc] at hlabel
  rw [List.getElem?_append_left (by decide), List.getElem?_append_left (by decide)] at hlabel
  revert hlabel
  decide

/-- What a stored proposal satisfies, of either kind. -/
theorem proposal_of_holds {S : Set (List Byte)} {contractor request_id : Str} {g : Saga P}
    (hg : g.Holds S contractor request_id) {q : Proposal P} (h : g.proposal = some q) :
    q.identity.contractor = contractor ∧ q.identity.request = request_id ∧
      g.customer = some q.identity.customer ∧ q.Addressed S := by
  cases g with
  | creating p =>
    cases h
    have hp : CreateProposal S contractor request_id p := hg
    exact ⟨hp.contractor_id, hp.request_id, rfl, hp.normal, hp.valid, hp.material⟩
  | provider c r receipt proposed =>
    cases proposed with
    | none => cases h
    | some p =>
      cases h
      have hp := hg.2.2 p rfl
      have hid : p.identity = ⟨contractor, c, request_id⟩ := hp.identity
      have hnormal := hg.1.normal
      rw [← hid] at hnormal
      exact ⟨congrArg Identity.contractor hid, congrArg Identity.request hid,
        congrArg some (congrArg Identity.customer hid).symm, hnormal, hp.valid, hp.material⟩
  | _ => cases h

/-- A logical id names the customer. -/
theorem Proposal.Addressed.customer_of_logical {S : Set (List Byte)} (hinj : Set.InjOn P.sha256 S)
    {q q' : Proposal P} (hq : q.Addressed S) (hq' : q'.Addressed S) (hkind : q.kind = q'.kind)
    (hcontractor : q.identity.contractor = q'.identity.contractor)
    (hrequest : q.identity.request = q'.identity.request)
    (h : q.logical_operation_id = q'.logical_operation_id) :
    q.identity.customer = q'.identity.customer := by
  have hlen : q.identity.customer.length = q'.identity.customer.length := by
    rw [InMemory.Identity.Normal.customer_length hq.normal,
      InMemory.Identity.Normal.customer_length hq'.normal]
  have htext := hq.text_inj hinj hq' h
  cases q with
  | create p =>
    cases q' with
    | create p' => exact InMemory.createMaterial_customer hcontractor hlen htext
    | operation p' => cases hkind
  | operation p =>
    cases q' with
    | create p' => cases hkind
    | operation p' => exact (operationMaterial_inj hcontractor hrequest hlen htext).1

/-! ## What each transaction does -/

section Transactions

variable {S : Set (List Byte)} {contractor request_id customer : Str} {g : Saga P} {k : Keeping}
  {doc' : Stored}

/-- What a caller's transaction does: it moves the saga only where no lease runs by its clock, and
what it prepares is its answer. -/
def Calls (S : Set (List Byte)) (contractor request_id : Str) (clock : Option DateTime)
    (prepared : Option (Proposal P)) (g : Saga P) (k : Keeping) (doc' : Stored) : Prop :=
  doc' = g.document k ∨ Free clock k ∧ ∃ g' k', doc' = g'.document k' ∧
    Move S contractor request_id g k g' k' ∧ (g'.proposal = none ∨ g'.proposal = prepared)

theorem Free.of_none (hk : k.Fits g) (h : g.proposal = none) {clock : Option DateTime} :
    Free clock k := by
  intro l hl
  rw [hk.lease_eq_none h] at hl
  cases hl

theorem apply_document (hg : g.Holds S contractor request_id) (hk : k.Fits g) {mutation : Mutation}
    {now : DateTime} {result : CommandResult P} (hS : Saga.HashesIn (P := P) S mutation)
    (h : apply customer request_id mutation now (g.document k) = .ok (result, doc')) :
    Calls S contractor request_id none none g k doc' := by
  simp only [apply, bind_eq_ok, ensure_eq_ok, exists_unit] at h
  obtain ⟨current, hcurrent, result', hcall, hpath, h⟩ := h
  split at h
  · cases h
    exact .inl rfl
  · simp only [bind_eq_ok, pure_eq_ok, Except.ok.injEq, Prod.mk.injEq] at h
    obtain ⟨d, hd, rfl, rfl⟩ := h
    obtain ⟨t, rfl⟩ := requestFields_eq_ok hd
    obtain ⟨c, rfl, hc⟩ := mutation_call_eq_ok hcall
    -- A request that is there is a local one of this customer.
    have hlocal : (g = .absent ∧ current = none) ∨
        ∃ r, g = .localOnly customer r ∧ current = some r ∧ Sound S r := by
      unfold requireLocal at hcurrent
      split at hcurrent
      · rename_i habsent
        cases hcurrent
        cases g with
        | absent => exact .inl ⟨rfl, rfl⟩
        | _ => cases habsent
      · simp only [bind_eq_ok, ensure_eq_ok, exists_unit, pure_eq_ok, Except.ok.injEq] at hcurrent
        obtain ⟨⟨d', r⟩, hd', target, htarget, -, hlocal, rfl⟩ := hcurrent
        obtain ⟨-, hr, rfl⟩ := loadBoundRequest_document hg hd'
        obtain ⟨hcustomer, htarget⟩ := executionTargetFromData_data hg htarget
        cases g with
        | localOnly c' r' =>
          cases hr
          cases hcustomer
          exact .inr ⟨_, rfl, rfl, hg.2⟩
        | provider c' r' receipt proposed =>
          cases htarget
          cases hlocal
        | _ => cases hr
    have hsound : Sound S result'.request := by
      refine Sound.mutation hc (fun r hr => ?_) hS.command
      rcases hlocal with ⟨-, rfl⟩ | ⟨_, -, rfl, hsound⟩
      · cases hr
      · cases hr
        exact hsound
    have hnone : g.proposal = none := by
      rcases hlocal with ⟨rfl, -⟩ | ⟨_, rfl, -⟩ <;> rfl
    exact .inr ⟨.of_none hk hnone, .localOnly customer result'.request, .expires t, rfl, .write t
      (hlocal.imp And.left (Exists.imp fun _ => And.left)) hpath hsound, .inl rfl⟩

theorem prepareProviderCreate_document (hk : k.Fits g)
    {contractor_id customer_key request key title description : Str} {binding : ProviderBinding} {mutation : Mutation} {p : PreparedProviderCreate P}
    (hS : ∀ bs ∈ mutation.materials P ++ createMaterials (proposeCreate (P := P) contractor_id
      customer_key request key binding title description mutation), bs ∈ S)
    (h : prepareProviderCreate contractor_id customer_key request key binding title description
      mutation (g.document k) = .ok (p, doc')) :
    Calls S (strip contractor_id) (strip request) none (some (.create p)) g k doc' := by
  simp only [prepareProviderCreate, bind_eq_ok] at h
  obtain ⟨q, hq, h⟩ := h
  rw [hq] at hS
  have hproposal := createProposal_of hq hS
  have hid := (repositoryIdentity_eq_ok.mp (proposeCreate_eq_ok hq).1).1
  have hcontractor : q.contractor_id = strip contractor_id := congrArg Identity.contractor hid
  have hrequest : q.request_id = strip request := congrArg Identity.request hid
  rw [hcontractor, hrequest] at hproposal
  split at h
  · rename_i habsent
    simp only [pendingCreateFields, pendingCreateData, bind_eq_ok, exists_unit, pure_eq_ok,
      Except.ok.injEq, Prod.mk.injEq] at h
    obtain ⟨_, ⟨_, ⟨-, rfl⟩, rfl⟩, rfl, rfl⟩ := h
    cases g with
    | absent =>
      refine .inr ⟨.of_none hk rfl, .creating q, _, congrArg some ?_, .proposeCreate hproposal,
        .inr rfl⟩
      funext f
      cases f <;> rfl
    | _ => cases habsent
  · rename_i data hdata
    simp only [bind_eq_ok, ensure_eq_ok, exists_unit] at h
    obtain ⟨-, h⟩ := h
    split at h <;>
      simp only [bind_eq_ok, ensure_eq_ok, exists_unit, pure_eq_ok, Except.ok.injEq,
        Prod.mk.injEq] at h
    · obtain ⟨_, -, -, -, _, -, -, rfl⟩ := h
      exact .inl rfl
    · obtain ⟨_, -, -, -, rfl⟩ := h
      exact .inl rfl

theorem finalizeProviderCreate_document {p : PreparedProviderCreate P}
    (hg : g.Holds S (strip p.contractor_id) (strip p.request_id)) (hk : k.Fits g)
    {leaseNow now : DateTime} {result : CommandResult P}
    (h : finalizeProviderCreate p leaseNow now (g.document k) = .ok (result, doc')) :
    Calls S (strip p.contractor_id) (strip p.request_id) (some leaseNow) none g k doc' := by
  simp only [finalizeProviderCreate, bind_eq_ok, exists_unit, require_eq_ok, ensure_eq_ok] at h
  obtain ⟨-, i, hi, data, hdata, -, h⟩ := h
  obtain ⟨rfl, -⟩ := repositoryIdentity_eq_ok.mp hi
  split at h
  · simp only [bind_eq_ok, ensure_eq_ok, exists_unit, pure_eq_ok, Except.ok.injEq,
      Prod.mk.injEq] at h
    obtain ⟨_, -, _, -, -, -, rfl⟩ := h
    exact .inl rfl
  · simp only [bind_eq_ok, ensure_eq_ok, exists_unit, pure_eq_ok, Except.ok.injEq,
      Prod.mk.injEq] at h
    obtain ⟨q, hq, active, hactive, hinactive, -, d, hd, -, rfl⟩ := h
    obtain ⟨rfl, hcustomer, attempts, next, lease, rfl⟩ := loadPendingCreate_document hg hk hq
    obtain rfl : _ = data := Option.some.inj hdata
    subst hinactive
    rw [← hcustomer] at hd
    obtain ⟨t, hd⟩ := finalizedCreate_eq_ok hd
    exact .inr ⟨activeRecoveryLease_data hk hactive, _, _, hd, .confirmCreate q t, .inl rfl⟩

theorem prepareProviderOperation_document {contractor_id customer_key request key : Str}
    {mutation : Mutation} (hg : g.Holds S (strip contractor_id) (strip request))
    (hk : k.Fits g) {p : PreparedProviderOperation P}
    (hS : ∀ bs ∈ mutation.materials P ++ mutation.operationMaterials P
      ⟨strip contractor_id, strip customer_key, strip request⟩, bs ∈ S)
    (h : prepareProviderOperation contractor_id customer_key request key mutation (g.document k) =
      .ok (p, doc')) :
    Calls S (strip contractor_id) (strip request) none (some (.operation p)) g k doc' := by
  simp only [prepareProviderOperation, bind_eq_ok, ensure_eq_ok, exists_unit] at h
  obtain ⟨i, hi, key', hkey, ⟨data, current, binding⟩, hload, result, hcall, -, q, hq, h⟩ := h
  have hnormal := repositoryIdentity_normal hi
  obtain ⟨rfl, -⟩ := repositoryIdentity_eq_ok.mp hi
  obtain ⟨-, _, -, rfl⟩ := requiredIdentifier_eq_ok.mp hkey
  obtain ⟨receipt, proposed, rfl, rfl, rfl⟩ := loadProviderRequest_document hg hload
  obtain ⟨c, rfl, hc⟩ := mutation_call_eq_ok hcall
  split at h
  · rename_i hpending
    rw [isNone_operation] at hpending
    cases proposed with
    | some p' => cases hpending
    | none =>
      split at h
      · cases h
        exact .inl rfl
      · rename_i hfresh
        simp only [pendingOperationData, bind_eq_ok, exists_unit, pure_eq_ok, Except.ok.injEq,
          Prod.mk.injEq] at h
        obtain ⟨_, ⟨-, rfl⟩, rfl, rfl⟩ := h
        have hp := operationProposal_of hnormal (strip_strip _) hc hq (by simpa using hfresh)
          hg.1.sound hS
        refine .inr ⟨.of_none hk rfl, _, _, congrArg some ?_, .propose hp, .inr rfl⟩
        funext f
        cases k with
        | expires | marked => cases f <;> rfl
        | pending => exact absurd rfl hk.1
        | review => exact absurd rfl hk.1
  · simp only [bind_eq_ok, ensure_eq_ok, exists_unit, pure_eq_ok, Except.ok.injEq,
      Prod.mk.injEq] at h
    obtain ⟨_, -, _, -, -, -, rfl⟩ := h
    exact .inl rfl

theorem finalizeProviderOperation_document {p : PreparedProviderOperation P}
    (hg : g.Holds S (strip p.contractor_id) (strip p.request_id)) (hk : k.Fits g)
    {leaseNow now : DateTime} {result : CommandResult P}
    (h : finalizeProviderOperation p leaseNow now (g.document k) = .ok (result, doc')) :
    Calls S (strip p.contractor_id) (strip p.request_id) (some leaseNow) none g k doc' := by
  simp only [finalizeProviderOperation, bind_eq_ok, exists_unit] at h
  obtain ⟨i, hi, -, ⟨data, current, binding⟩, hload, h⟩ := h
  obtain ⟨rfl, -⟩ := repositoryIdentity_eq_ok.mp hi
  obtain ⟨receipt, proposed, rfl, rfl, rfl⟩ := loadProviderRequest_document hg hload
  split at h
  · simp only [bind_eq_ok, pure_eq_ok, Except.ok.injEq, Prod.mk.injEq] at h
    obtain ⟨_, -, -, rfl⟩ := h
    exact .inl rfl
  split at h
  · simp only [bind_eq_ok, pure_eq_ok, Except.ok.injEq, Prod.mk.injEq] at h
    obtain ⟨_, -, -, rfl⟩ := h
    exact .inl rfl
  · rename_i hpending
    rw [isNone_operation] at hpending
    simp only [bind_eq_ok, ensure_eq_ok, exists_unit, pure_eq_ok, Except.ok.injEq,
      Prod.mk.injEq] at h
    obtain ⟨m, hm, active, hactive, rfl, q, hq, -, -, d, hd, -, rfl⟩ := h
    have hk' := recoveryMetadata_data hk hm
    obtain ⟨attempts, next, lease⟩ := m
    simp only at hk'
    subst hk'
    cases proposed with
    | none => exact absurd rfl hpending
    | some p' =>
      have hread : pendingOperationFromData (.dict (operationData p')) (strip p.contractor_id)
        (strip p.customer_key) (strip p.request_id) receipt.binding current = .ok q := hq
      rw [OperationProposal.read (hg.2.2 p' rfl)] at hread
      cases hread
      obtain ⟨t, hd⟩ := finalizedOperation_eq_ok hd
      exact .inr ⟨activeRecoveryLease_data hk hactive, _, _, hd, .confirm q t, .inl rfl⟩

/-- What a claim hands out: the pending proposal, under the lease that the document now stores. -/
structure Leased (settings : ClaimSettings) (g : Saga P) (k k' : Keeping)
    (lease : LeasedProviderRecovery P) : Prop where
  due : ∃ attempts next old l, k = .pending attempts next old ∧
    next.instant ≤ settings.checked_at.instant ∧ attempts < settings.max_attempts ∧
    lease.attempt = attempts + 1 ∧ k' = .pending lease.attempt l.expires_at (some l) ∧ l.Normal
  held : Held lease k'
  expires : lease.lease_expires_at.instant =
    settings.checked_at.instant + settings.lease_seconds * second
  proposal : g.proposal = some lease.preparation

theorem claimOne_document (hg : g.Holds S contractor request_id) (hk : k.Fits g)
    {settings : ClaimSettings} {lease_id : LeaseId} {leased : Option (LeasedProviderRecovery P)}
    (howner : ∀ name, boundedWorkerIdentifier (.str settings.owner) name = .ok settings.owner)
    (hutc : settings.checked_at.IsUtc) (h : claimOne settings contractor request_id lease_id (g.document k) = .ok (leased, doc')) :
    leased = none ∧ doc' = g.document k ∨
    leased = none ∧ g ≠ .absent ∧ doc' = g.document k.reviewed ∨
    ∃ lease k', leased = some lease ∧ doc' = g.document k' ∧ Leased settings g k k' lease ∧
      lease.contractor_id = contractor ∧ lease.request_id = request_id := by
  unfold claimOne at h
  split at h
  · cases h
    exact .inl ⟨rfl, rfl⟩
  rename_i data hdata
  have hne : g ≠ .absent := by
    rintro rfl
    cases hdata
  have hdoc := document_of_ne hne
  obtain rfl : data = g.data k := by
    rw [hdoc] at hdata
    exact (Option.some.inj hdata).symm
  have hreview : some (needsReview (g.data k)) = g.document k.reviewed := by
    rw [needsReview_data, hdoc]
  simp only at h
  split at h
  · split at h
    · cases h
    · cases h
      exact .inr (.inl ⟨rfl, hne, hreview⟩)
  rename_i attempts next old q hread
  simp only [bind_eq_ok, pure_eq_ok, Except.ok.injEq, Prod.mk.injEq] at hread
  obtain ⟨m, hm, q', hq, rfl, rfl⟩ := hread
  have hk' := recoveryMetadata_data hk hm
  subst hk'
  obtain ⟨hproposal, -⟩ := recoveryPreparation_document hg hk hq
  split at h
  · cases h
    exact .inl ⟨rfl, rfl⟩
  rename_i hdue
  split at h
  · cases h
    exact .inl ⟨rfl, rfl⟩
  split at h
  · cases h
    exact .inr (.inl ⟨rfl, hne, hreview⟩)
  rename_i hattempts
  simp only [bind_eq_ok, require_eq_ok, pure_eq_ok, Except.ok.injEq, Prod.mk.injEq] at h
  obtain ⟨expires, hexpires, value, hvalue, rfl, rfl⟩ := h
  obtain ⟨l, hl, rfl, hlowner, hlid, hlinstant⟩ := leaseToDict_eq_ok hvalue
  rw [← (boundedWorkerIdentifier_eq_ok (howner "recovery owner")).1] at hlowner
  rw [strip_of_hex lease_id.hex] at hlid
  obtain ⟨hoffset, hinstant⟩ := DateTime.add_eq_some hexpires
  have hexp : expires = l.expires_at :=
    DateTime.IsUtc.ext (hoffset.trans hutc) hl.expires_at hlinstant.symm
  subst hexp
  refine .inr (.inr ⟨_, .pending (attempts + 1) l.expires_at (some l), rfl, ?_, ⟨?_, ?_, ?_, ?_⟩,
    rfl, rfl⟩)
  · rw [hdoc]
    refine congrArg some ?_
    funext f
    cases f <;> cases g <;> rfl
  · exact ⟨attempts, next, old, l, rfl, by omega, by omega, rfl, rfl, hl⟩
  · exact ⟨⟨_, l, rfl, hlowner, hlid, rfl⟩⟩
  · exact hinstant
  · exact hproposal

/-- The holder of a lease finds the pending proposal under it. -/
theorem leasedPreparation_document {lease : LeasedProviderRecovery P}
    (hg : g.Holds S lease.contractor_id lease.request_id) (hk : k.Fits g) {data : Document}
    {q : Proposal P} (h : leasedPreparation lease (g.document k) = .ok (some (data, q))) :
    data = g.data k ∧ g.proposal = some q ∧ Held lease k := by
  unfold leasedPreparation at h
  split at h
  · cases h
  rename_i d hd
  have hdata : d = g.data k := by
    cases g <;> cases hd <;> rfl
  subst hdata
  simp only [bind_eq_ok] at h
  obtain ⟨matching, hmatches, h⟩ := h
  split at h
  · rename_i htrue
    subst htrue
    simp only [bind_eq_ok, pure_eq_ok, Except.ok.injEq, Option.some.injEq, Prod.mk.injEq] at h
    obtain ⟨q', hq, rfl, rfl⟩ := h
    exact ⟨rfl, (recoveryPreparation_document hg hk hq).1, leaseMatches_data hk hmatches⟩
  · cases h

theorem leasedProposal_eq_ok {lease : LeasedProviderRecovery P} {doc : Stored} {data : Document}
    {q : Proposal P} (h : leasedProposal lease doc = .ok (some (data, q))) :
    leasedPreparation lease doc = .ok (some (data, q)) ∧ q.kind = lease.kind ∧
      q.logical_operation_id = lease.preparation.logical_operation_id := by
  simp only [leasedProposal, bind_eq_ok] at h
  obtain ⟨found, hfound, h⟩ := h
  split at h
  · cases h
  · simp only [bind_eq_ok, ensure_eq_ok, exists_unit, pure_eq_ok, Except.ok.injEq,
      Option.some.injEq, Prod.mk.injEq] at h
    obtain ⟨⟨hkind, hlogical⟩, rfl, rfl⟩ := h
    exact ⟨hfound, hkind, hlogical⟩

/-- What `_validate_recovery_lease` accepts. -/
structure ValidLease (lease : LeasedProviderRecovery P) : Prop where
  identity : lease.preparation.identity = ⟨lease.contractor_id, lease.customer_key, lease.request_id⟩
  normal : lease.preparation.identity.Normal
  kind : lease.kind = lease.preparation.kind
  valid : lease.preparation.Valid
  attempt : 1 ≤ lease.attempt

theorem validateRecoveryLease_eq_ok {lease : LeasedProviderRecovery P}
    (h : validateRecoveryLease lease = .ok ()) : ValidLease lease := by
  simp only [validateRecoveryLease, bind_eq_ok, ensure_eq_ok, exists_unit] at h
  obtain ⟨i, hi, rfl, h⟩ := h
  have hnormal := repositoryIdentity_normal hi
  cases hq : lease.preparation with
  | create p =>
    simp only [hq, bind_eq_ok, ensure_eq_ok, exists_unit] at h
    obtain ⟨hvalid, ⟨hkind, hid⟩, _, -, _, -, _, -, hattempt⟩ := h
    rw [← hq] at hkind hid
    exact ⟨hid.symm, hid ▸ hnormal, hkind,
      by rw [hq]; exact validatePreparedProviderCreate_iff.mp hvalid, hattempt⟩
  | operation p =>
    simp only [hq, bind_eq_ok, ensure_eq_ok, exists_unit] at h
    obtain ⟨hvalid, ⟨hkind, hid⟩, _, -, _, -, _, -, hattempt⟩ := h
    rw [← hq] at hkind hid
    exact ⟨hid.symm, hid ▸ hnormal, hkind,
      by rw [hq]; exact validatePreparedProviderOperation_iff.mp hvalid, hattempt⟩

/-- A worker's call leaves the document, or it finds its lease and its proposal there: then the
proposal goes away or the lease does. -/
def Fenced (S : Set (List Byte)) (lease : LeasedProviderRecovery P) (g : Saga P) (k : Keeping)
    (doc' : Stored) (done : Bool) : Prop :=
  done = false ∧ doc' = g.document k ∨
  done = true ∧ Held lease k ∧ (∃ q, g.proposal = some q ∧
    q.logical_operation_id = lease.preparation.logical_operation_id) ∧
  ∃ g' k', doc' = g'.document k' ∧ Move S lease.contractor_id lease.request_id g k g' k' ∧
    (g'.proposal = none ∨ g' = g ∧ k'.lease = none ∧ k'.attempts = k.attempts)

/-- Where the canonical request has become the proposal. -/
def Confirmed (S : Set (List Byte)) (contractor request_id : Str) (g : Saga P) (k : Keeping)
    (doc' : Stored) : Prop :=
  ∃ g' k', doc' = g'.document k' ∧ Move S contractor request_id g k g' k' ∧ g'.proposal = none

/-- A pending create becomes the canonical request. -/
theorem confirm_create {q : PreparedProviderCreate P} (hproposal : g.proposal = some (.create q))
    {attempts : ℤ} {next now : DateTime} {lease : Option Lease} {d : Document}
    (hd : finalizedCreate q q.customer_key now = .ok d) :
    Confirmed S contractor request_id g (.pending attempts next lease) (some d) := by
  cases g with
  | creating p =>
    cases hproposal
    obtain ⟨t, hd⟩ := finalizedCreate_eq_ok hd
    exact ⟨_, _, hd, .confirmCreate q t, rfl⟩
  | provider c r receipt proposed => cases proposed <;> cases hproposal
  | _ => cases hproposal

/-- A pending operation is applied. -/
theorem confirm_operation (hg : g.Holds S contractor request_id) {q : PreparedProviderOperation P}
    (hproposal : g.proposal = some (.operation q)) {attempts : ℤ} {next now : DateTime}
    {lease : Option Lease} {d : Document}
    (hd : finalizedOperation (g.data (.pending attempts next lease)) q q.customer_key now = .ok d) :
    Confirmed S contractor request_id g (.pending attempts next lease) (some d) := by
  cases g with
  | creating p => cases hproposal
  | provider c r receipt proposed =>
    cases proposed with
    | none => cases hproposal
    | some p =>
      cases hproposal
      have hc : q.customer_key = c := congrArg Identity.customer (hg.2.2 q rfl).identity
      rw [hc] at hd
      obtain ⟨t, hd⟩ := finalizedOperation_eq_ok hd
      exact ⟨_, _, hd, .confirm q t, rfl⟩
  | _ => cases hproposal

theorem Fenced.of_eq {lease : LeasedProviderRecovery P} {d d' : Document} {done : Bool} (h : d = d')
    (hd : Fenced S lease g k (some d') done) : Fenced S lease g k (some d) done := h ▸ hd

theorem Fenced.confirmed {lease : LeasedProviderRecovery P} (hheld : Held lease k) {q : Proposal P}
    (hproposal : g.proposal = some q)
    (hlogical : q.logical_operation_id = lease.preparation.logical_operation_id)
    (h : Confirmed S lease.contractor_id lease.request_id g k doc') :
    Fenced S lease g k doc' true := by
  obtain ⟨g', k', hdoc, hm, hnone⟩ := h
  exact .inr ⟨rfl, hheld, ⟨q, hproposal, hlogical⟩, g', k', hdoc, hm, .inl hnone⟩

theorem finalizeProviderRecovery_document (hinj : Set.InjOn P.sha256 S)
    {lease : LeasedProviderRecovery P} (hg : g.Holds S lease.contractor_id lease.request_id)
    (hk : k.Fits g) (hS : ∀ bs, lease.preparation.material = some bs → bs ∈ S) {now : DateTime}
    {done : Bool} (h : finalizeProviderRecovery lease now (g.document k) = .ok (done, doc')) :
    Fenced S lease g k doc' done := by
  simp only [finalizeProviderRecovery, bind_eq_ok, exists_unit] at h
  obtain ⟨hvalid, found, hfound, h⟩ := h
  have hvalid := validateRecoveryLease_eq_ok hvalid
  have hfind : ∀ {data q}, leasedProposal lease (g.document k) = .ok (some (data, q)) →
      data = g.data k ∧ g.proposal = some q ∧ Held lease k ∧
        q.logical_operation_id = lease.preparation.logical_operation_id ∧
        lease.customer_key = q.identity.customer := by
    intro data q hq
    obtain ⟨hq, hkind, hlogical⟩ := leasedProposal_eq_ok hq
    obtain ⟨rfl, hproposal, hheld⟩ := leasedPreparation_document hg hk hq
    obtain ⟨hcontractor, hrequest, -, hq⟩ := proposal_of_holds hg hproposal
    refine ⟨rfl, hproposal, hheld, hlogical, ?_⟩
    rw [hq.customer_of_logical hinj ⟨hvalid.normal, hvalid.valid, hS⟩ (hkind.trans hvalid.kind)
      (by rw [hcontractor, hvalid.identity]) (by rw [hrequest, hvalid.identity]) hlogical,
      hvalid.identity]
  split at h
  case h_1 =>
    cases h
    exact .inl ⟨rfl, rfl⟩
  all_goals
    obtain ⟨rfl, hproposal, hheld, hlogical, hcustomer⟩ := hfind hfound
    simp only [bind_eq_ok, pure_eq_ok, Except.ok.injEq, Prod.mk.injEq] at h
    obtain ⟨d, hd, rfl, rfl⟩ := h
    rw [hcustomer] at hd
    refine .confirmed hheld hproposal hlogical ?_
    obtain ⟨next, l, rfl, -⟩ := hheld.stored
  case h_2 => exact confirm_create hproposal hd
  case h_3 => exact confirm_operation hg hproposal hd

theorem finalizeReconciledProviderRecovery_document {lease : LeasedProviderRecovery P}
    (hg : g.Holds S lease.contractor_id lease.request_id) (hk : k.Fits g)
    {bound_operation_id : Str} {authorized : Bool} {now : DateTime} {done : Bool}
    (h : finalizeReconciledProviderRecovery lease bound_operation_id authorized now
      (g.document k) = .ok (done, doc')) :
    Fenced S lease g k doc' done := by
  simp only [finalizeReconciledProviderRecovery, bind_eq_ok, exists_unit] at h
  obtain ⟨-, h⟩ := h
  split at h
  · cases h
    exact .inl ⟨rfl, rfl⟩
  rename_i hbound
  split at h
  · cases h
    exact .inl ⟨rfl, rfl⟩
  split at h
  · cases h
    exact .inl ⟨rfl, rfl⟩
  simp only [bind_eq_ok] at h
  obtain ⟨found, hfound, h⟩ := h
  split at h
  · cases h
    exact .inl ⟨rfl, rfl⟩
  · cases h
  rename_i recovered
  simp only [bind_eq_ok, ensure_eq_ok, exists_unit] at h
  obtain ⟨⟨-, -, hlogical, -⟩, h⟩ := h
  split at h
  · cases h
    exact .inl ⟨rfl, rfl⟩
  obtain ⟨rfl, hproposal, hheld⟩ := leasedPreparation_document hg hk hfound
  simp only [bind_eq_ok, pure_eq_ok, Except.ok.injEq, Prod.mk.injEq] at h
  obtain ⟨d, hd, rfl, rfl⟩ := h
  refine .confirmed hheld hproposal (hlogical.trans (not_not.mp hbound)) ?_
  obtain ⟨next, l, rfl, -⟩ := hheld.stored
  exact confirm_operation hg hproposal hd

theorem releaseProviderRecovery_document {lease : LeasedProviderRecovery P}
    (hg : g.Holds S lease.contractor_id lease.request_id) (hk : k.Fits g) {now : DateTime}
    {max_attempts : ℤ} {done : Bool}
    (h : releaseProviderRecovery lease now max_attempts (g.document k) = .ok (done, doc')) :
    Fenced S lease g k doc' done := by
  simp only [releaseProviderRecovery, bind_eq_ok, ensure_eq_ok, exists_unit] at h
  obtain ⟨-, checked_at, hchecked, -, found, hfound, h⟩ := h
  obtain ⟨hutc, -⟩ := requiredAwareDatetime_eq_ok hchecked
  split at h
  · cases h
    exact .inl ⟨rfl, rfl⟩
  obtain ⟨hfound, -, hlogical⟩ := leasedProposal_eq_ok hfound
  obtain ⟨rfl, hproposal, hheld⟩ := leasedPreparation_document hg hk hfound
  obtain ⟨next, l, rfl, -⟩ := hheld.stored
  have hdoc := document_of_ne (ne_absent_of_proposal hproposal)
  -- The document without its lease, due at `next'`.
  have hreleased : ∀ k' : Keeping, Move S lease.contractor_id lease.request_id g
      (.pending lease.attempt next (some l)) g k' → k'.lease = none → k'.attempts = lease.attempt →
      Fenced S lease g (.pending lease.attempt next (some l)) (some (g.data k')) true :=
    fun k' hm hlease hattempts => .inr ⟨rfl, hheld, ⟨_, hproposal, hlogical⟩, g, k',
      (hdoc k').symm, hm, .inr ⟨rfl, hlease, hattempts⟩⟩
  split at h
  · cases h
    refine .of_eq ?_ (hreleased (.review lease.attempt checked_at) (.giveUp hutc) rfl rfl)
    funext f
    cases f <;> cases g <;> rfl
  · simp only [bind_eq_ok, require_eq_ok, pure_eq_ok, Except.ok.injEq, Prod.mk.injEq] at h
    obtain ⟨next', hnext, rfl, rfl⟩ := h
    obtain ⟨hoffset, -⟩ := DateTime.add_eq_some hnext
    refine .of_eq ?_ (hreleased (.pending lease.attempt next' none)
      (.release (hoffset.trans hutc)) rfl rfl)
    funext f
    cases f <;> cases g <;> rfl

end Transactions

/-! ## Steps -/

/-- What a call hashes to address its command, its proposal or its lease. -/
def Call.materials : Call P → List (List Byte)
  | apply _ _ _ mutation _ => mutation.materials P
  | prepareCreate contractor customer request key binding title description mutation =>
    mutation.materials P ++ createMaterials (proposeCreate (P := P) contractor customer request key
      binding title description mutation)
  | prepareOperation contractor customer request _ mutation =>
    mutation.materials P ++ mutation.operationMaterials P
      ⟨strip contractor, strip customer, strip request⟩
  | finalizeOperation p _ _ => p.material.toList
  | finalizeRecovery lease _ => lease.preparation.material.toList
  | _ => []

def hashed (calls : List (Call P)) : Set (List Byte) := {bs | bs ∈ calls.flatMap Call.materials}

section Steps

variable {S : Set (List Byte)} {g : Saga P} {k : Keeping} {doc' : Stored}

theorem claimSettings_eq_ok {owner : Str} {now : DateTime} {limit lease_seconds max_attempts : ℤ}
    {settings : ClaimSettings}
    (h : claimSettings owner now limit lease_seconds max_attempts = .ok settings) :
    (∀ name, boundedWorkerIdentifier (.str settings.owner) name = .ok settings.owner) ∧
      settings.checked_at.IsUtc ∧ settings.checked_at.instant = now.instant ∧ settings.max_attempts = max_attempts ∧
      15 ≤ settings.lease_seconds := by
  simp only [claimSettings, bind_eq_ok, ensure_eq_ok, exists_unit, pure_eq_ok,
    Except.ok.injEq] at h
  obtain ⟨o, ho, t, ht, -, hlease, -, rfl⟩ := h
  obtain ⟨hutc, hinstant⟩ := requiredAwareDatetime_eq_ok ht
  exact ⟨(boundedWorkerIdentifier_eq_ok ho).2, hutc, hinstant, rfl, hlease.1⟩

theorem strictServiceRequestPath_eq_ok {candidate : List Str} {contractor request : Str}
    (h : strictServiceRequestPath candidate = .ok (contractor, request)) :
    (candidate.getD 1 [], candidate.getD 3 []) = (contractor, request) := by
  unfold strictServiceRequestPath at h
  split at h
  · simp only [bind_eq_ok, ensure_eq_ok, exists_unit, pure_eq_ok, Except.ok.injEq,
      Prod.mk.injEq] at h
    obtain ⟨-, c, -, r, -, ⟨rfl, rfl⟩, rfl, rfl⟩ := h
    rfl
  · cases h

/-- The lease that a worker's call is under. -/
def Call.lease : Call P → Option (LeasedProviderRecovery P)
  | finalizeRecovery lease _ => some lease
  | finalizeReconciled lease _ _ _ => some lease
  | releaseRecovery lease _ _ => some lease
  | _ => none

/-- The clock reading that a call compares with the expiry of a lease. -/
def Call.clock : Call P → Option DateTime
  | finalizeCreate _ leaseNow _ => some leaseNow
  | finalizeOperation _ leaseNow _ => some leaseNow
  | claim _ now _ _ _ _ _ => some now
  | _ => none

def Call.maxAttempts : Call P → Option ℤ
  | claim _ _ _ _ max_attempts _ _ => some max_attempts
  | _ => none

/-- The proposal that a response is. -/
def Response.proposal : Response P → Option (Proposal P)
  | create p => some (.create p)
  | operation p => some (.operation p)
  | _ => none

/-- What a call does to the saga of its document. -/
structure Effect (S : Set (List Byte)) (c : Call P) (response : Response P) (g : Saga P)
    (k : Keeping) (g' : Saga P) (k' : Keeping) : Prop where
  move : Move S c.path.1 c.path.2 g k g' k'
  leased : ∀ lease, response = .lease (some lease) → g' = g ∧
    (lease.contractor_id, lease.request_id) = c.path ∧ ∃ settings now,
      c.clock = some now ∧ settings.checked_at.instant = now.instant ∧
      c.maxAttempts = some settings.max_attempts ∧ Leased settings g k k' lease
  worker : ∀ lease, c.lease = some lease → response = .done false ∧ g' = g ∧ k' = k ∨
    response = .done true ∧ Held lease k ∧ (∃ q, g.proposal = some q ∧
      q.logical_operation_id = lease.preparation.logical_operation_id) ∧
    (g'.proposal = none ∨ g' = g ∧ k'.lease = none ∧ k'.attempts = k.attempts)
  prepared : g'.proposal = none ∨ g'.proposal = g.proposal ∨ g'.proposal = response.proposal
  guarded : g' = g ∧ (k' = k ∨ k' = k.reviewed) ∨ Free c.clock k ∨ ∃ lease ∈ c.lease, Held lease k

/-- A caller's transaction hands nothing out. -/
theorem Effect.of_calls {c : Call P} {response : Response P}
    (h : Calls S c.path.1 c.path.2 c.clock response.proposal g k doc') (hlease : c.lease = none)
    (hresponse : ∀ lease, response ≠ .lease (some lease)) :
    ∃ g' k', doc' = g'.document k' ∧ Effect S c response g k g' k' := by
  have hleased : ∀ {Q : LeasedProviderRecovery P → Prop} lease,
      response = .lease (some lease) → Q lease := fun l hl => absurd hl (hresponse l)
  have hworker : ∀ {Q : LeasedProviderRecovery P → Prop} lease, c.lease = some lease → Q lease := by
    intro Q l hl
    rw [hlease] at hl
    cases hl
  obtain rfl | ⟨hfree, g', k', hdoc, hm, hprepared⟩ := h
  · exact ⟨g, k, rfl, .stay g k, hleased, hworker, .inr (.inl rfl), .inl ⟨rfl, .inl rfl⟩⟩
  · exact ⟨g', k', hdoc, hm, hleased, hworker, hprepared.imp_right .inr, .inr (.inl hfree)⟩

theorem Effect.of_fenced {c : Call P} {lease : LeasedProviderRecovery P} (hlease : c.lease = some lease)
    (hpath : c.path = (lease.contractor_id, lease.request_id)) {done : Bool}
    (h : Fenced S lease g k doc' done) :
    ∃ g' k', doc' = g'.document k' ∧ Effect S c (.done done) g k g' k' := by
  obtain ⟨rfl, rfl⟩ | ⟨rfl, hheld, hq, g', k', hdoc, hm, hrest⟩ := h
  · exact ⟨g, k, rfl, .stay g k, fun _ h => (by cases h), fun _ _ => .inl ⟨rfl, rfl, rfl⟩,
      .inr (.inl rfl), .inl ⟨rfl, .inl rfl⟩⟩
  · refine ⟨g', k', hdoc, by rw [hpath]; exact hm, fun _ h => (by cases h), fun l hl => ?_,
      hrest.imp_right fun h => .inl (congrArg Saga.proposal h.1), .inr (.inr ⟨lease, hlease, hheld⟩)⟩
    obtain rfl : lease = l := Option.some.inj (hlease.symm.trans hl)
    exact .inr ⟨rfl, hheld, hq, hrest⟩

/-- **A call that returns moves the saga of its document.** -/
theorem run_effect (hinj : Set.InjOn P.sha256 S) {c : Call P}
    (hg : g.Holds S c.path.1 c.path.2) (hk : k.Fits g) (hS : ∀ bs ∈ c.materials, bs ∈ S)
    {response : Response P} (h : c.run (g.document k) = .ok (response, doc')) :
    ∃ g' k', doc' = g'.document k' ∧ Effect S c response g k g' k' := by
  cases c <;>
    simp only [Call.run, bind_eq_ok, ensure_eq_ok, exists_unit, pure_eq_ok, Except.ok.injEq,
      Prod.mk.injEq] at h
  case apply contractor customer request mutation now =>
    obtain ⟨-, ⟨r, _⟩, h, rfl, rfl⟩ := h
    exact Effect.of_calls (apply_document hg hk hS h) rfl fun _ h => by cases h
  case prepareCreate contractor customer request key binding title description mutation =>
    obtain ⟨⟨p, _⟩, h, rfl, rfl⟩ := h
    exact Effect.of_calls (prepareProviderCreate_document hk hS h) rfl fun _ h => by cases h
  case finalizeCreate p leaseNow now =>
    obtain ⟨⟨r, _⟩, h, rfl, rfl⟩ := h
    exact Effect.of_calls (finalizeProviderCreate_document hg hk h) rfl fun _ h => by cases h
  case prepareOperation contractor customer request key mutation =>
    obtain ⟨⟨p, _⟩, h, rfl, rfl⟩ := h
    exact Effect.of_calls (prepareProviderOperation_document hg hk hS h) rfl fun _ h => by cases h
  case finalizeOperation p leaseNow now =>
    obtain ⟨⟨r, _⟩, h, rfl, rfl⟩ := h
    exact Effect.of_calls (finalizeProviderOperation_document hg hk h) rfl fun _ h => by cases h
  case claim owner now limit lease_seconds max_attempts candidate lease_id =>
    obtain ⟨settings, hsettings, ⟨contractor, request⟩, hpath, ⟨l, _⟩, h, rfl, rfl⟩ := h
    obtain ⟨howner, hutc, hnow, rfl, -⟩ := claimSettings_eq_ok hsettings
    have hpath' : (Call.claim (P := P) owner now limit lease_seconds settings.max_attempts candidate
      lease_id).path = (contractor, request) := strictServiceRequestPath_eq_ok hpath
    rw [hpath'] at hg
    rcases claimOne_document hg hk howner hutc h with ⟨rfl, rfl⟩ | ⟨rfl, hne, rfl⟩ |
      ⟨lease, k', rfl, rfl, hleased, hcontractor, hrequest⟩
    · exact Effect.of_calls (.inl rfl) rfl fun _ h => by cases h
    · refine ⟨g, k.reviewed, rfl, ?_, fun _ h => (by cases h), fun _ h => (by cases h),
        .inr (.inl rfl), .inl ⟨rfl, .inr rfl⟩⟩
      cases k with
      | pending a n l => exact .giveUp hk.2.2.1
      | review a n => exact .stay _ _
      | _ => exact .mark _ hne hk
    · refine ⟨g, k', rfl, ?_, fun l hl => ?_, fun _ h => (by cases h), .inr (.inl rfl),
        .inr (.inl ?_)⟩
      · obtain ⟨a, n, old, l', rfl, -, -, hattempt, rfl, hl'⟩ := hleased.due
        exact hattempt ▸ .lease hl'
      · cases hl
        exact ⟨rfl, by rw [hpath', hcontractor, hrequest], settings, now, rfl, hnow, rfl, hleased⟩
      · obtain ⟨a, n, old, l', rfl, hdue, -⟩ := hleased.due
        intro l hl
        refine ⟨now, rfl, ?_⟩
        rw [(hk.2.2.2 l hl).2, ← hnow]
        exact hdue
  case finalizeRecovery lease now =>
    obtain ⟨⟨b, _⟩, h, rfl, rfl⟩ := h
    exact Effect.of_fenced rfl rfl (finalizeProviderRecovery_document hinj hg hk
      (fun bs hbs => hS bs (by simp [Call.materials, hbs])) h)
  case finalizeReconciled lease bound_operation_id authorized now =>
    obtain ⟨⟨b, _⟩, h, rfl, rfl⟩ := h
    exact Effect.of_fenced rfl rfl (finalizeReconciledProviderRecovery_document hg hk h)
  case releaseRecovery lease now max_attempts =>
    obtain ⟨⟨b, _⟩, h, rfl, rfl⟩ := h
    exact Effect.of_fenced rfl rfl (releaseProviderRecovery_document hg hk h)

end Steps

end HeyKevin.L3.Firestore
