import HeyKevin.L3Repository.Preparation
/-!
# What a proposal records

The validators of `Preparation` as properties (`Valid`), and what a proposal
says about the request it was made for.

* `OperationProposal`: the proposal is valid, was made on the stated request,
  and its result is that request with one more record.
* `CreateProposal`: the proposal is valid and its result has one record, the
  create.
* `operationProposal_of`, `createProposal_of`: the repositories' proposals are
  of this kind.
-/
namespace HeyKevin.L3

open HeyKevin.Core L1 L1.Text L1.Datetime L2

variable {P : Python}

/-! ## Fingerprints in a history -/

def fingerprints (r : ServiceRequest P) : List Str :=
  r.data.idempotency_records.map fun x => x.data.command_fingerprint

/-- In revision order, and every fingerprint hashed from a text in `S`. -/
structure Sound (S : Set (List Byte)) (r : ServiceRequest P) : Prop where
  inOrder : r.InOrder
  hashedIn : r.HashedIn S

theorem Sound.mutation {S : Set (List Byte)} {s : Option (ServiceRequest P)} {c : Command}
    {result : CommandResult P} (h : c.apply P s = .ok result) (hs : ∀ r, s = some r → Sound S r)
    (hc : ∀ bs, c.material P = .ok bs → bs ∈ S) : Sound S result.request := by
  constructor
  · obtain ⟨n, -, ⟨r, rfl, -, -, -, -, rfl⟩ | happlied⟩ := Command.apply_cases h
    · exact (hs r rfl).inOrder
    · exact happlied.inOrder fun r hr => (hs r hr).inOrder
  · exact Command.apply_hashedIn h (fun r hr => (hs r hr).hashedIn) hc

theorem appliedResultByFingerprint_eq_none {r : ServiceRequest P} {fingerprint : Str}
    (h : appliedResultByFingerprint r fingerprint = .ok none) : fingerprint ∉ fingerprints r := by
  unfold appliedResultByFingerprint at h
  split at h
  · rename_i hnil
    simpa [fingerprints] using hnil
  · cases h
  · cases h

theorem appliedResultByFingerprint_eq_some {r : ServiceRequest P} {fingerprint : Str}
    {result : CommandResult P} (h : appliedResultByFingerprint r fingerprint = .ok (some result)) :
    ∃ x ∈ r.data.idempotency_records, x.data.command_fingerprint = fingerprint ∧
      result = ⟨r, x.data.outcome⟩ := by
  unfold appliedResultByFingerprint at h
  split at h
  · cases h
  · rename_i x hone
    cases h
    have hx : x ∈ r.data.idempotency_records.filter fun x =>
        x.data.command_fingerprint = fingerprint := by
      rw [hone]; exact List.mem_singleton_self x
    simp only [List.mem_filter, decide_eq_true_eq] at hx
    exact ⟨x, hx.1, hx.2, rfl⟩
  · cases h

theorem resultFingerprint_eq_ok {result : CommandResult P} {key fingerprint : Str}
    (h : resultFingerprint result key = .ok fingerprint) :
    ∃ x ∈ result.request.data.idempotency_records, x.data.idempotency_key = key ∧
      x.data.command_fingerprint = fingerprint := by
  unfold resultFingerprint at h
  split at h
  · rename_i x hone
    cases h
    have hx : x ∈ result.request.data.idempotency_records.filter fun x =>
        x.data.idempotency_key = key := by
      rw [hone]; exact List.mem_singleton_self x
    simp only [List.mem_filter, decide_eq_true_eq] at hx
    exact ⟨x, hx.1, hx.2, rfl⟩
  · cases h

/-! ## Valid proposals -/

def PreparedProviderOperation.identity (p : PreparedProviderOperation P) : Identity :=
  ⟨p.contractor_id, p.customer_key, p.request_id⟩

def PreparedProviderCreate.identity (p : PreparedProviderCreate P) : Identity :=
  ⟨p.contractor_id, p.customer_key, p.request_id⟩

/-- The identity that a validator computes from the three fields. -/
def Identity.trim (i : Identity) : Identity := ⟨strip i.contractor, strip i.customer, strip i.request⟩

theorem Identity.Normal.trim {i : Identity} (h : i.Normal) : i.trim = i := by
  rw [Identity.trim, h.contractor.1, h.customer.2, h.request.1]

theorem repositoryIdentity_trim {i : Identity} {contractor_id customer_key request_id : Str}
    (h : repositoryIdentity contractor_id customer_key request_id = .ok i) :
    i = (Identity.mk contractor_id customer_key request_id).trim :=
  (repositoryIdentity_eq_ok.mp h).1

/-- What `_validate_prepared_provider_operation` accepts. -/
structure PreparedProviderOperation.Valid (p : PreparedProviderOperation P) : Prop where
  identity : repositoryIdentity p.contractor_id p.customer_key p.request_id = .ok p.identity.trim
  idempotency_key : strip p.idempotency_key ≠ []
  base_request : p.base_request.data.request_id = p.identity.trim.request
  result : p.result.request.data.request_id = p.identity.trim.request
  fingerprint : resultFingerprint p.result (strip p.idempotency_key) = .ok p.command_fingerprint
  base_revision : p.base_revision = p.result.outcome.data.revision - 1
  operation : p.operation = p.result.outcome.data.operation
  arguments : providerOperationArguments p.result = .ok p.arguments
  logical : logicalProviderOperationId P p.identity.trim p.base_revision p.command_fingerprint =
    .ok p.logical_operation_id
  revision : p.already_applied = true ∨ p.base_request.data.revision = p.base_revision

theorem validatePreparedProviderOperation_iff {p : PreparedProviderOperation P} :
    validatePreparedProviderOperation p = .ok () ↔ p.Valid := by
  simp only [validatePreparedProviderOperation, bind_eq_ok, ensure_eq_ok, exists_unit,
    requiredIdentifier_eq_ok, Value.str.injEq]
  constructor
  · rintro ⟨i, hi, _, ⟨hkey, _, rfl, rfl⟩, ⟨hbase, hresult⟩, fp, hfp, rfl, hrev, hop, args, hargs,
      rfl, logical, hlogical, rfl, hrevision⟩
    obtain rfl := repositoryIdentity_trim hi
    exact ⟨hi, hkey, hbase, hresult, hfp, hrev, hop, hargs, by rw [hrev]; exact hlogical,
      by rw [hrev]; exact hrevision⟩
  · intro h
    exact ⟨_, h.identity, _, ⟨h.idempotency_key, _, rfl, rfl⟩, ⟨h.base_request, h.result⟩, _,
      h.fingerprint, rfl, h.base_revision, h.operation, _, h.arguments, rfl, _,
      by rw [← h.base_revision]; exact h.logical, rfl, by rw [← h.base_revision]; exact h.revision⟩

/-- What `_validate_prepared_provider_create` accepts. -/
structure PreparedProviderCreate.Valid (p : PreparedProviderCreate P) : Prop where
  identity : repositoryIdentity p.contractor_id p.customer_key p.request_id = .ok p.identity.trim
  idempotency_key : strip p.idempotency_key ≠ []
  result : p.result.request.data.request_id = p.identity.trim.request
  operation : p.result.outcome.data.operation = .CREATE
  revision : p.base_revision = 0 ∧ p.result.outcome.data.revision = 1 ∧
    p.result.request.data.revision = 1
  fingerprint : resultFingerprint p.result (strip p.idempotency_key) = .ok p.command_fingerprint
  title : normalizeProviderTitle P (.str p.title) = .ok p.title
  description : normalizeProviderDescription P (.str p.description) = .ok p.description
  semantic : providerCreateSemanticFingerprint P p.command_fingerprint p.binding p.title
    p.description = .ok p.semantic_fingerprint
  logical : logicalProviderCreateId P p.identity.trim p.semantic_fingerprint =
    .ok p.logical_operation_id

theorem validatePreparedProviderCreate_iff {p : PreparedProviderCreate P} :
    validatePreparedProviderCreate p = .ok () ↔ p.Valid := by
  simp only [validatePreparedProviderCreate, bind_eq_ok, ensure_eq_ok, exists_unit,
    requiredIdentifier_eq_ok, Value.str.injEq]
  constructor
  · rintro ⟨i, hi, _, ⟨hkey, _, rfl, rfl⟩, hresult, hop, hrev, fp, hfp, rfl, title, htitle,
      description, hdescription, ⟨rfl, rfl⟩, semantic, hsemantic, rfl, logical, hlogical, rfl⟩
    obtain rfl := repositoryIdentity_trim hi
    exact ⟨hi, hkey, hresult, hop, hrev, hfp, htitle, hdescription, hsemantic, hlogical⟩
  · intro h
    exact ⟨_, h.identity, _, ⟨h.idempotency_key, _, rfl, rfl⟩, h.result, h.operation, h.revision, _,
      h.fingerprint, rfl, _, h.title, _, h.description, ⟨rfl, rfl⟩, _, h.semantic, rfl, _,
      h.logical, rfl⟩

/-! ## Proposals on a request -/

/-- The bytes that the logical id of `p` hashes. -/
def PreparedProviderOperation.material (p : PreparedProviderOperation P) : Option (List Byte) :=
  encodeUtf8 (operationMaterial p.identity.trim p.base_revision p.command_fingerprint)

def PreparedProviderCreate.material (p : PreparedProviderCreate P) : Option (List Byte) :=
  encodeUtf8 (createMaterial p.identity.trim p.semantic_fingerprint)

theorem PreparedProviderOperation.Valid.material {p : PreparedProviderOperation P} (h : p.Valid) :
    ∃ bs, p.material = some bs ∧ P.sha256 bs = p.logical_operation_id :=
  hashText_eq_ok.mp h.logical

theorem PreparedProviderCreate.Valid.material {p : PreparedProviderCreate P} (h : p.Valid) :
    ∃ bs, p.material = some bs ∧ P.sha256 bs = p.logical_operation_id :=
  hashText_eq_ok.mp h.logical

structure OperationProposal (S : Set (List Byte)) (i : Identity) (binding : ProviderBinding)
    (base : ServiceRequest P) (p : PreparedProviderOperation P) : Prop where
  identity : p.identity = i
  binding : p.binding = binding
  base_request : p.base_request = base
  valid : p.Valid
  key : strip p.idempotency_key = p.idempotency_key
  already_applied : p.already_applied = false
  grows : ∃ x : Record P, x.data = ⟨p.idempotency_key, p.command_fingerprint, p.result.outcome⟩ ∧
    p.result.request.data.idempotency_records = base.data.idempotency_records ++ [x]
  request_revision : p.result.request.data.revision = base.data.revision + 1
  scheduled_start : p.result.outcome.data.scheduled_start = p.result.request.data.scheduled_start
  scheduled_end : p.result.outcome.data.scheduled_end = p.result.request.data.scheduled_end
  services : p.result.outcome.data.services = p.result.request.data.services
  new : p.command_fingerprint ∉ fingerprints base
  sound : Sound S p.result.request
  material : ∀ bs, p.material = some bs → bs ∈ S

/-- A proposal that creates a request. -/
structure CreateProposal (S : Set (List Byte)) (contractor request : Str)
    (p : PreparedProviderCreate P) : Prop where
  contractor_id : p.contractor_id = contractor
  request_id : p.request_id = request
  normal : p.identity.Normal
  valid : p.Valid
  key : strip p.idempotency_key = p.idempotency_key
  already_applied : p.already_applied = false
  first : ∃ x : Record P, x.data = ⟨p.idempotency_key, p.command_fingerprint, p.result.outcome⟩ ∧
    p.result.request.data.idempotency_records = [x]
  sound : Sound S p.result.request
  material : ∀ bs, p.material = some bs → bs ∈ S

variable (P) in
def Mutation.materials (mutation : Mutation) : List (List Byte) :=
  (mutation >>= fun c => c.material P).toOption.toList

variable (P) in
/-- The bytes of the logical id of a proposal under a new key. -/
def Mutation.operationMaterials (mutation : Mutation) (i : Identity) : List (List Byte) :=
  (do
    let c ← mutation
    let n ← c.normalize P
    require (encodeUtf8 (operationMaterial i n.revision n.fingerprint)) .unicodeEncode)
    |>.toOption.toList

theorem Mutation.mem_materials {c : Command} {bs : List Byte} (h : c.material P = .ok bs) :
    bs ∈ Mutation.materials P (.ok c) := by
  simp [materials, h, Except.toOption]

theorem Mutation.mem_operationMaterials {c : Command} {n : Normalized} {i : Identity}
    {bs : List Byte} (hn : c.normalize P = .ok n)
    (h : encodeUtf8 (operationMaterial i n.revision n.fingerprint) = some bs) :
    bs ∈ Mutation.operationMaterials P (.ok c) i := by
  simp [operationMaterials, hn, h, require, Except.toOption]

theorem mutation_call_eq_ok {mutation : Mutation} {current : Option (ServiceRequest P)}
    {result : CommandResult P} (h : mutation.call P current = .ok result) :
    ∃ c, mutation = .ok c ∧ c.apply P current = .ok result := by
  simpa only [Mutation.call, bind_eq_ok] using h

theorem prepareProviderOperation_eq_ok {i : Identity} {key : Str} {binding : ProviderBinding}
    {base : ServiceRequest P} {result : CommandResult P} {p : PreparedProviderOperation P}
    (h : prepareProviderOperation i key binding base result = .ok p) :
    p.identity = i ∧ p.idempotency_key = key ∧ p.binding = binding ∧ p.base_request = base ∧
      p.result = result ∧ p.Valid ∧ ∃ applied,
        appliedResultByFingerprint base p.command_fingerprint = .ok applied ∧
        p.already_applied = applied.isSome := by
  simp only [prepareProviderOperation, bind_eq_ok, ensure_eq_ok, exists_unit, pure_eq_ok,
    Except.ok.injEq] at h
  obtain ⟨fp, -, -, applied, happlied, logical, -, args, -, hvalid, rfl⟩ := h
  exact ⟨rfl, rfl, rfl, rfl, rfl, validatePreparedProviderOperation_iff.mp hvalid, applied,
    happlied, rfl⟩

/-- A proposal whose fingerprint is not in its base request comes from a
command that was applied, under the proposal's own key. -/
theorem applied_of_new {base : ServiceRequest P} {c : Command} {result : CommandResult P}
    {p : PreparedProviderOperation P} (hc : c.apply P (some base) = .ok result)
    (hresult : p.result = result) (hkey : strip p.idempotency_key = p.idempotency_key)
    (hvalid : p.Valid) (hnew : p.command_fingerprint ∉ fingerprints base) :
    ∃ n, c.normalize P = .ok n ∧ Command.Applied (some base) n result ∧
      n.key = p.idempotency_key ∧ n.fingerprint = p.command_fingerprint := by
  obtain ⟨x, hx, hxkey, hxfp⟩ := resultFingerprint_eq_ok hvalid.fingerprint
  have hnot : ∀ y ∈ base.data.idempotency_records,
      y.data.command_fingerprint ≠ p.command_fingerprint := fun y hy h =>
    hnew (List.mem_map.mpr ⟨y, hy, h⟩)
  obtain ⟨n, hn, ⟨r, hr, _, _, _, _, rfl⟩ | happlied⟩ := Command.apply_cases hc
  · cases hr
    rw [hresult] at hx
    exact absurd hxfp (hnot x hx)
  · obtain ⟨record, hrecord, hrecords⟩ := happlied.records
    rw [hresult, hrecords] at hx
    rcases List.mem_append.mp hx with hx | hx
    · exact absurd hxfp (hnot x hx)
    · rw [List.mem_singleton.mp hx, hrecord] at hxkey hxfp
      exact ⟨n, hn, happlied, hxkey.trans hkey, hxfp⟩

/-- **A proposal with something to apply.** -/
theorem operationProposal_of {S : Set (List Byte)} {i : Identity} {key : Str}
    {binding : ProviderBinding} {base : ServiceRequest P} {c : Command} {result : CommandResult P}
    {p : PreparedProviderOperation P} (hi : i.Normal) (hkey : strip key = key)
    (hc : c.apply P (some base) = .ok result)
    (h : prepareProviderOperation i key binding base result = .ok p)
    (hfresh : p.already_applied = false) (hbase : Sound S base)
    (hS : ∀ bs, bs ∈ Mutation.materials P (.ok c) ++ Mutation.operationMaterials P (.ok c) i →
      bs ∈ S) :
    OperationProposal S i binding base p := by
  obtain ⟨hid, hpkey, hbinding, hbaseq, hresult, hvalid, applied, happlied, hflag⟩ :=
    prepareProviderOperation_eq_ok h
  have hnone : applied = none := by
    rw [hflag] at hfresh
    simpa using hfresh
  have hnew := appliedResultByFingerprint_eq_none (hnone ▸ happlied)
  have hstrip : strip p.idempotency_key = p.idempotency_key := by rw [hpkey, hkey]
  obtain ⟨n, hn, hspec, hnkey, hnfp⟩ := applied_of_new hc hresult hstrip hvalid hnew
  obtain ⟨record, hrecord, hrecords⟩ := hspec.records
  have hsound : Sound S p.result.request := by
    rw [hresult]
    exact Sound.mutation hc (fun r hr => by cases hr; exact hbase) fun bs hbs =>
      hS bs (List.mem_append_left _ (Mutation.mem_materials hbs))
  constructor
  case identity => exact hid
  case binding => exact hbinding
  case base_request => exact hbaseq
  case valid => exact hvalid
  case key => exact hstrip
  case already_applied => exact hfresh
  case grows => exact ⟨record, by rw [hrecord, hnkey, hnfp, hresult], by rw [hresult, hrecords]; rfl⟩
  case request_revision =>
    have hrev : n.revision = base.data.revision := hspec.revision
    rw [hresult, hspec.request_revision, hrev]
  case scheduled_start => rw [hresult, hspec.scheduled_start]
  case scheduled_end => rw [hresult, hspec.scheduled_end]
  case services => rw [hresult, hspec.services]
  case new => exact hnew
  case sound => exact hsound
  case material =>
    intro bs hbs
    refine hS bs (List.mem_append_right _ (Mutation.mem_operationMaterials hn ?_))
    rw [PreparedProviderOperation.material, hid, hi.trim, hvalid.base_revision, hresult,
      hspec.outcome_revision, add_sub_cancel_right, ← hnfp] at hbs
    exact hbs

def createMaterials (proposal : Except Err (PreparedProviderCreate P)) : List (List Byte) :=
  (proposal.toOption.bind PreparedProviderCreate.material).toList

theorem proposeCreate_eq_ok {contractor_id customer_key request_id idempotency_key : Str}
    {binding : ProviderBinding} {title description : Str} {mutation : Mutation}
    {p : PreparedProviderCreate P}
    (h : proposeCreate contractor_id customer_key request_id idempotency_key binding title
      description mutation = .ok p) :
    repositoryIdentity contractor_id customer_key request_id = .ok p.identity ∧
      strip p.idempotency_key = p.idempotency_key ∧ p.binding = binding ∧ p.Valid ∧
      p.already_applied = false ∧ ∃ c, mutation = .ok c ∧ c.apply P none = .ok p.result := by
  simp only [proposeCreate, bind_eq_ok, ensure_eq_ok, exists_unit] at h
  obtain ⟨i, hi, key, hkey, t, -, d, -, result, hresult, -, hp⟩ := h
  simp only [prepareProviderCreate, bind_eq_ok, ensure_eq_ok, exists_unit, pure_eq_ok,
    Except.ok.injEq] at hp
  obtain ⟨-, -, fp, -, semantic, -, logical, -, hvalid, rfl⟩ := hp
  obtain ⟨-, _, -, rfl⟩ := requiredIdentifier_eq_ok.mp hkey
  exact ⟨hi, strip_strip _, rfl, validatePreparedProviderCreate_iff.mp hvalid, rfl,
    mutation_call_eq_ok hresult⟩

/-- **A proposal that creates.** -/
theorem createProposal_of {S : Set (List Byte)}
    {contractor_id customer_key request_id idempotency_key : Str}
    {binding : ProviderBinding} {title description : Str} {mutation : Mutation}
    {p : PreparedProviderCreate P}
    (h : proposeCreate contractor_id customer_key request_id idempotency_key binding title
      description mutation = .ok p)
    (hS : ∀ bs, bs ∈ mutation.materials P ++ createMaterials (.ok p) → bs ∈ S) :
    CreateProposal S p.contractor_id p.request_id p := by
  obtain ⟨hi, hkey, -, hvalid, hfresh, c, rfl, hc⟩ := proposeCreate_eq_ok h
  have hmat : ∀ bs, c.material P = .ok bs → bs ∈ S := fun bs hbs =>
    hS bs (List.mem_append_left _ (Mutation.mem_materials hbs))
  have hsound := Sound.mutation hc (fun r hr => by cases hr) hmat
  obtain ⟨x, hx, hxkey, hxfp⟩ := resultFingerprint_eq_ok hvalid.fingerprint
  obtain ⟨n, -, ⟨r, hr, -⟩ | happlied⟩ := Command.apply_cases hc
  · cases hr
  · obtain ⟨record, hrecord, hrecords⟩ := happlied.records
    rw [hrecords] at hx
    obtain rfl : x = record := List.mem_singleton.mp hx
    refine ⟨rfl, rfl, repositoryIdentity_normal hi, hvalid, hkey, hfresh, ⟨x, ?_, hrecords⟩, hsound,
      fun bs hbs => hS bs (List.mem_append_right _ ?_)⟩
    · rw [hrecord] at hxkey hxfp ⊢
      simp only at hxkey hxfp
      rw [hxkey, hxfp, hkey]
    · simp [createMaterials, Except.toOption, hbs]

end HeyKevin.L3
