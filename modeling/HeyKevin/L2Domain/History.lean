import HeyKevin.L2Domain.ServiceRequest
import Mathlib.Data.List.Chain
/-!
# Legal histories

`_validate_history` reads a stored history backwards: it sorts the records,
counts them and checks each pair of neighbours. The commands write histories
forwards, one guarded step at a time. This module states what the validator
accepts (`Valid`, `History`) and proves that one more command keeps it
(`valid_next`): from a request the constructor accepts, a change that cleared
its guards is never rejected by the constructors.
-/
namespace HeyKevin.L2

open HeyKevin.Core L1 L1.Text L1.Datetime

variable {P : Python}

/-! ## The validator, as a property -/

/-- One outcome may follow another. -/
def Transition (previous current : OutcomeData) : Prop :=
  validateHistoryTransition (some previous) current = .ok ()

theorem transition_iff {p c : OutcomeData} : Transition p c ↔
    p.applied_at.instant ≤ c.applied_at.instant ∧ p.status = .OPEN ∧
    ((c.operation = .CANCEL ∧ c.status = .CANCELLED ∧ c.services = p.services ∧
        c.scheduled_start = p.scheduled_start ∧ c.scheduled_end = p.scheduled_end) ∨
      (c.operation = .RESCHEDULE ∧ c.status = .OPEN ∧ c.services = p.services ∧
        ¬ (c.scheduled_start = p.scheduled_start ∧ c.scheduled_end = p.scheduled_end)) ∨
      (c.operation = .ADD_SERVICE ∧ c.status = .OPEN ∧ c.scheduled_start = p.scheduled_start ∧
        c.scheduled_end = p.scheduled_end ∧ ∃ service, c.services = p.services ++ [service])) := by
  have happend : (c.services.length = p.services.length + 1 ∧ c.services.dropLast = p.services) ↔
      ∃ service, c.services = p.services ++ [service] := by
    constructor
    · rintro ⟨hlen, hdrop⟩
      have hne : c.services ≠ [] := by intro h; rw [h] at hlen; simp at hlen
      exact ⟨c.services.getLast hne, by rw [← hdrop, List.dropLast_append_getLast]⟩
    · rintro ⟨service, h⟩
      simp [h]
  simp only [Transition, validateHistoryTransition, bind_eq_ok, ensure_eq_ok, exists_unit]
  cases c.operation <;> simp [← happend]

/-- The chain of outcomes of an aggregate, in revision order. -/
structure History (d : RequestData P) (os : List OutcomeData) : Prop where
  starts : ∃ first, os.head? = some first ∧ first.operation = .CREATE ∧ first.status = .OPEN ∧
    d.created_at = first.applied_at
  within : ∀ o ∈ os, o.request_id = d.request_id ∧
    d.created_at.instant ≤ o.applied_at.instant ∧ o.applied_at.instant ≤ d.updated_at.instant
  chain : os.IsChain Transition
  ends : ∃ last, os.getLast? = some last ∧ d.updated_at = last.applied_at ∧
    d.status = last.status ∧ d.services = last.services ∧
    d.scheduled_start = last.scheduled_start ∧ d.scheduled_end = last.scheduled_end

namespace RequestData

def outcomes (d : RequestData P) : List OutcomeData :=
  (sortedRecords d.idempotency_records).map fun r => r.data.outcome.data

/-- What `ServiceRequest.__post_init__` accepts. -/
structure Valid (d : RequestData P) : Prop where
  schema_version : d.schema_version = SERVICE_REQUEST_SCHEMA_VERSION
  request_id : validateIdentifier d.request_id "request_id" MAX_REQUEST_ID_LENGTH = .ok ()
  revision : 1 ≤ d.revision
  services : CanonicalServices P d.services
  schedule : validateCanonicalSchedule d.scheduled_start d.scheduled_end = .ok ()
  created_at : d.created_at.IsUtc
  updated_at : d.updated_at.IsUtc
  times : d.created_at.instant ≤ d.updated_at.instant
  length : d.idempotency_records.length = d.revision
  keys : (d.idempotency_records.map fun r => r.data.idempotency_key).Nodup
  revisions : d.outcomes.map OutcomeData.revision = revisions d.idempotency_records.length
  history : History d d.outcomes

theorem validateSteps_some {d : RequestData P} {p : OutcomeData} {os : List OutcomeData}
    {last : Option OutcomeData} : d.validateSteps (some p) os = .ok last ↔
      (∀ o ∈ os, o.request_id = d.request_id ∧
        d.created_at.instant ≤ o.applied_at.instant ∧
        o.applied_at.instant ≤ d.updated_at.instant) ∧
      (p :: os).IsChain Transition ∧ last = (p :: os).getLast? := by
  induction os generalizing p with
  | nil => simp [validateSteps, eq_comm]
  | cons o os ih =>
    simp only [validateSteps, bind_eq_ok, ensure_eq_ok, exists_unit, ih, List.forall_mem_cons,
      List.isChain_cons_cons, List.getLast?_cons_cons, Transition]
    tauto

theorem validateHistory_iff {d : RequestData P} : d.validateHistory = .ok () ↔
    d.idempotency_records.length = d.revision ∧
    (d.idempotency_records.map fun r => r.data.idempotency_key).Nodup ∧
    d.outcomes.map OutcomeData.revision = revisions d.idempotency_records.length ∧
    History d d.outcomes := by
  simp only [validateHistory, bind_eq_ok, ensure_eq_ok, exists_unit, require_eq_ok]
  change (_ ∧ _ ∧ d.outcomes.map OutcomeData.revision = _ ∧ ∃ first, d.outcomes.head? = _ ∧ _ ∧
    ∃ previous, d.validateSteps none d.outcomes = _ ∧ _) ↔ _
  refine and_congr_right fun _ => and_congr_right fun _ => and_congr_right fun hrev => ?_
  generalize d.outcomes = os at hrev
  cases os with
  | nil =>
    simp only [List.head?_nil, reduceCtorEq, false_and, exists_false, false_iff]
    intro h
    obtain ⟨_, h, -⟩ := h.starts
    cases h
  | cons first os =>
    have hone : first.revision = 1 := by
      cases hn : d.idempotency_records.length with
      | zero => simp [hn, revisions] at hrev
      | succ n =>
        rw [hn] at hrev
        simp only [revisions, List.range'_succ, List.map_cons, List.cons.injEq] at hrev
        exact hrev.1
    simp only [validateSteps, bind_eq_ok, ensure_eq_ok, exists_unit, validateSteps_some,
      validateHistoryTransition, hone, true_and, List.head?_cons, Option.some.injEq,
      Prod.mk.injEq]
    constructor
    · rintro ⟨_, rfl, hop, _, ⟨hid, hin, hopen, hall, hchain, rfl⟩, last, hlast, hc, hu, hs⟩
      exact ⟨⟨first, rfl, hop, hopen, hc⟩, List.forall_mem_cons.mpr ⟨⟨hid, hin⟩, hall⟩, hchain,
        ⟨last, hlast, hu, hs⟩⟩
    · rintro ⟨⟨_, hhead, hop, hopen, hc⟩, hwithin, hchain, ⟨last, hlast, hu, hs⟩⟩
      cases hhead
      obtain ⟨⟨hid, hin⟩, hall⟩ := List.forall_mem_cons.mp hwithin
      exact ⟨first, rfl, hop, _, ⟨hid, hin, hopen, hall, hchain, rfl⟩, last, hlast, hc, hu, hs⟩

theorem postInit_iff {d : RequestData P} : d.postInit P = .ok () ↔ d.Valid := by
  simp only [postInit, bind_eq_ok, ensure_eq_ok, exists_unit, validateRevision_eq_ok,
    canonicalServices_iff, validateCanonicalUtc_eq_ok, validateHistory_iff]
  constructor
  · rintro ⟨h1, h2, _, ⟨h3, -⟩, h4, h5, h6, h7, h8, h9, h10, h11, h12⟩
    exact ⟨h1, h2, h3, h4, h5, h6, h7, h8, h9, h10, h11, h12⟩
  · rintro ⟨h1, h2, h3, h4, h5, h6, h7, h8, h9, h10, h11, h12⟩
    exact ⟨h1, h2, _, ⟨h3, rfl⟩, h4, h5, h6, h7, h8, h9, h10, h11, h12⟩

end RequestData

theorem ServiceRequest.isValid (r : ServiceRequest P) : r.data.Valid :=
  RequestData.postInit_iff.mp r.valid

/-- What `ServiceRequestCommandOutcome.__post_init__` accepts. -/
structure OutcomeData.Valid (P : Python) (d : OutcomeData) : Prop where
  request_id : validateIdentifier d.request_id "request_id" MAX_REQUEST_ID_LENGTH = .ok ()
  revision : 1 ≤ d.revision
  services : CanonicalServices P d.services
  schedule : validateCanonicalSchedule d.scheduled_start d.scheduled_end = .ok ()
  applied_at : d.applied_at.IsUtc

theorem OutcomeData.postInit_iff {d : OutcomeData} : d.postInit P = .ok () ↔ d.Valid P := by
  simp only [OutcomeData.postInit, bind_eq_ok, exists_unit, validateRevision_eq_ok,
    canonicalServices_iff, validateCanonicalUtc_eq_ok]
  constructor
  · rintro ⟨h1, _, ⟨h2, -⟩, h3, h4, h5⟩
    exact ⟨h1, h2, h3, h4, h5⟩
  · rintro ⟨h1, h2, h3, h4, h5⟩
    exact ⟨h1, _, ⟨h2, rfl⟩, h3, h4, h5⟩

theorem Outcome.isValid (o : Outcome P) : o.data.Valid P := OutcomeData.postInit_iff.mp o.valid

theorem RecordData.postInit_iff {d : RecordData P} : d.postInit = .ok () ↔
    validateIdentifier d.idempotency_key "idempotency_key" MAX_IDEMPOTENCY_KEY_LENGTH = .ok () ∧
      Python.isDigest d.command_fingerprint = true := by
  simp only [RecordData.postInit, bind_eq_ok, exists_unit, ensure_eq_ok]

/-! ## Revisions count the records -/

namespace RequestData

theorem sortedRecords_perm (records : List (Record P)) : (sortedRecords records).Perm records :=
  List.perm_insertionSort _ _

theorem mem_revisions {n : ℕ} {z : ℤ} (h : z ∈ revisions n) : 1 ≤ z ∧ z ≤ n := by
  simp only [revisions, List.mem_map, List.mem_range'_1] at h
  obtain ⟨k, hk, rfl⟩ := h
  constructor <;> simp only [Int.ofNat_eq_natCast] <;> omega

theorem nodup_revisions (n : ℕ) : (revisions n).Nodup :=
  (List.nodup_map_iff Int.ofNat_injective).mpr List.nodup_range'

theorem revisions_succ (n : ℕ) : revisions (n + 1) = revisions n ++ [(n : ℤ) + 1] := by
  simp only [revisions, List.range'_1_concat, List.map_append, List.map_cons, List.map_nil]
  simp [add_comm]

theorem revisions_isChain (n : ℕ) : (revisions n).IsChain fun a b => b = a + 1 := by
  induction n with
  | zero => exact List.isChain_nil
  | succ n ih =>
    rw [revisions_succ]
    refine List.isChain_append.mpr ⟨ih, List.isChain_singleton _, ?_⟩
    intro a ha b hb
    cases n with
    | zero => cases ha
    | succ n =>
      simp only [revisions_succ, List.getLast?_append, List.getLast?_singleton,
        Option.some_or, Option.mem_some_iff, List.head?_cons] at ha hb
      omega

theorem outcomes_map_revision (d : RequestData P) : d.outcomes.map OutcomeData.revision =
    (sortedRecords d.idempotency_records).map fun r => r.data.outcome.data.revision := by
  rw [outcomes, List.map_map]
  rfl

theorem Valid.record_revisions {d : RequestData P} (h : d.Valid) :
    (d.idempotency_records.map fun r => r.data.outcome.data.revision).Nodup ∧
      ∀ r ∈ d.idempotency_records,
        1 ≤ r.data.outcome.data.revision ∧ r.data.outcome.data.revision ≤ d.revision := by
  have hperm := (sortedRecords_perm d.idempotency_records).map
    fun r => r.data.outcome.data.revision
  have hrev := h.revisions
  rw [outcomes_map_revision] at hrev
  refine ⟨hperm.nodup_iff.mp (hrev ▸ nodup_revisions _), fun r hr => ?_⟩
  have hmem := hperm.mem_iff.mpr (List.mem_map_of_mem hr)
  rw [hrev] at hmem
  have := mem_revisions hmem
  rw [← h.length]
  exact this

/-- A record with the highest revision is sorted last. -/
theorem sortedRecords_append {records : List (Record P)} {record : Record P}
    (h : ∀ r ∈ records, r.data.outcome.data.revision ≤ record.data.outcome.data.revision) :
    sortedRecords (records ++ [record]) = sortedRecords records ++ [record] := by
  have insert : ∀ (r : Record P) (l : List (Record P)),
      r.data.outcome.data.revision ≤ record.data.outcome.data.revision →
      (l ++ [record]).orderedInsert
        (fun a b => a.data.outcome.data.revision ≤ b.data.outcome.data.revision) r =
      l.orderedInsert (fun a b => a.data.outcome.data.revision ≤ b.data.outcome.data.revision) r
        ++ [record] := by
    intro r l hr
    induction l with
    | nil => simp [hr]
    | cons a l ih =>
      simp only [List.cons_append, List.orderedInsert_cons]
      split
      · simp
      · rw [ih]; simp
  unfold sortedRecords
  induction records with
  | nil => rfl
  | cons r records ih =>
    rw [List.cons_append, List.insertionSort_cons, ih fun x hx => h x (List.mem_cons_of_mem _ hx),
      insert r _ (h r List.mem_cons_self), List.insertionSort_cons]

end RequestData

/-! ## One more command -/

section Next
variable {r : ServiceRequest P} {c : Change} {n : Normalized}

theorem ServiceRequest.nextRequest_outcomes {record : Record P}
    (ho : record.data.outcome.data = r.nextOutcome c) :
    (r.nextRequest c record).outcomes = r.data.outcomes ++ [r.nextOutcome c] := by
  have h : ∀ x ∈ r.data.idempotency_records,
      x.data.outcome.data.revision ≤ record.data.outcome.data.revision := by
    intro x hx
    have := (r.isValid.record_revisions.2 x hx).2
    rw [ho]
    simp only [nextOutcome]
    omega
  simp only [RequestData.outcomes, nextRequest, RequestData.sortedRecords_append h, List.map_append,
    List.map_cons, List.map_nil, ho]

/-- The outcome of a change that cleared its guards may follow the last one. -/
theorem ServiceRequest.ChangeSpec.transition (h : r.ChangeSpec n c)
    (htime : r.data.updated_at.instant ≤ c.applied_at.instant) {last : OutcomeData}
    (hlast : r.data.outcomes.getLast? = some last) : Transition last (r.nextOutcome c) := by
  obtain ⟨last', hlast', hu, hstatus, hservices, hstart, hend⟩ := r.isValid.history.ends
  rw [hlast] at hlast'
  cases hlast'
  rw [transition_iff, ← hu, ← hstatus, ← hservices, ← hstart, ← hend]
  refine ⟨htime, h.isOpen, ?_⟩
  simp only [nextOutcome, h.operation]
  rcases h.effect with ⟨hargs, hs⟩ | ⟨hargs, hs⟩ | ⟨service, hargs, hst, hsv, -, -, hs, he⟩
  · exact .inl ⟨by rw [hargs]; rfl, hs⟩
  · exact .inr (.inl ⟨by rw [hargs]; rfl, hs⟩)
  · exact .inr (.inr ⟨by rw [hargs]; rfl, hst, hs, he, service, hsv⟩)

/-- **The validator accepts one more command.** -/
theorem ServiceRequest.valid_next (h : r.ChangeSpec n c)
    (htime : r.data.updated_at.instant ≤ c.applied_at.instant) (hkey : c.key ∉ r.keys)
    {record : Record P} (hrecord : record.data.idempotency_key = c.key)
    (ho : record.data.outcome.data = r.nextOutcome c) : (r.nextRequest c record).Valid := by
  have hv := r.isValid
  have hov := record.data.outcome.isValid
  rw [ho] at hov
  have hrev := hv.revision
  refine
    { schema_version := rfl
      request_id := hv.request_id
      revision := by simp only [nextRequest]; omega
      services := hov.services
      schedule := hov.schedule
      created_at := hv.created_at
      updated_at := hov.applied_at
      times := hv.times.trans htime
      length := by simp [nextRequest, hv.length]
      keys := ?_
      revisions := ?_
      history := ?_ }
  · simp only [nextRequest, List.map_append, List.map_cons, List.map_nil, hrecord]
    exact List.nodup_append.mpr ⟨hv.keys, by simp, fun a ha b hb => by
      rw [List.mem_singleton.mp hb]
      rintro rfl
      exact hkey ha⟩
  · rw [nextRequest_outcomes ho, List.map_append, hv.revisions]
    simp only [nextRequest, List.length_append, List.length_cons, List.length_nil, zero_add,
      RequestData.revisions_succ, List.map_cons, List.map_nil, nextOutcome, hv.length]
  · obtain ⟨first, hfirst, hop, hopen, hcreated⟩ := hv.history.starts
    rw [nextRequest_outcomes ho]
    refine ⟨⟨first, by simp [List.head?_append, hfirst], hop, hopen, hcreated⟩, ?_, ?_,
      ⟨r.nextOutcome c, by simp, rfl, rfl, rfl, rfl, rfl⟩⟩
    · intro o hmem
      rcases List.mem_append.mp hmem with hmem | hmem
      · obtain ⟨hid, hge, hle⟩ := hv.history.within o hmem
        exact ⟨hid, hge, hle.trans htime⟩
      · rw [List.mem_singleton.mp hmem]
        exact ⟨rfl, hv.times.trans htime, le_refl _⟩
    · refine List.isChain_append.mpr ⟨hv.history.chain, List.isChain_singleton _, ?_⟩
      intro last hlast o hmem
      simp only [List.head?_cons, Option.mem_some_iff] at hmem
      subst hmem
      exact h.transition htime hlast

/-- The constructors of `_next` accept a legal change with a valid outcome. -/
theorem ServiceRequest.build_of (h : r.ChangeSpec n c)
    (htime : r.data.updated_at.instant ≤ c.applied_at.instant) (hfresh : c.key ∉ r.keys)
    (hkey : validateIdentifier c.key "idempotency_key" MAX_IDEMPOTENCY_KEY_LENGTH = .ok ())
    (hfp : Python.isDigest c.fingerprint = true) (ho : (r.nextOutcome c).Valid P) :
    ∃ result, r.build c = .ok result := by
  let outcome : Outcome P := ⟨r.nextOutcome c, OutcomeData.postInit_iff.mpr ho⟩
  let record : Record P := ⟨⟨c.key, c.fingerprint, outcome⟩, RecordData.postInit_iff.mpr ⟨hkey, hfp⟩⟩
  let request : ServiceRequest P := ⟨r.nextRequest c record,
    RequestData.postInit_iff.mpr (valid_next h htime hfresh rfl rfl)⟩
  have h1 : Outcome.make P (r.nextOutcome c) = .ok outcome := Outcome.make_eq_ok.mpr rfl
  have h2 : Record.make P ⟨c.key, c.fingerprint, outcome⟩ = .ok record :=
    Record.make_eq_ok.mpr rfl
  have h3 : make P (r.nextRequest c record) = .ok request := make_eq_ok.mpr rfl
  refine ⟨⟨request, outcome⟩, ?_⟩
  rw [build, bind_of_ok _ h1, bind_of_ok _ h2, bind_of_ok _ h3]
  rfl

end Next

section First
variable {a : CreateArguments} {n : Normalized}

theorem ServiceRequest.valid_first {record : Record P}
    (ho : record.data.outcome.data = firstOutcome a n) : (firstRequest a n record).Valid := by
  have hov := record.data.outcome.isValid
  rw [ho] at hov
  have houtcomes : (firstRequest a n record).outcomes = [firstOutcome a n] := by
    simp only [RequestData.outcomes, firstRequest, RequestData.sortedRecords,
      List.insertionSort_cons, List.insertionSort_nil, List.orderedInsert_nil, List.map_cons,
      List.map_nil, ho]
  refine
    { schema_version := rfl
      request_id := hov.request_id
      revision := le_refl _
      services := hov.services
      schedule := hov.schedule
      created_at := hov.applied_at
      updated_at := hov.applied_at
      times := le_refl _
      length := rfl
      keys := by simp [firstRequest]
      revisions := by rw [houtcomes]; rfl
      history := ?_ }
  rw [houtcomes]
  exact ⟨⟨_, rfl, rfl, rfl, rfl⟩, fun o ho => by
    rw [List.mem_singleton.mp ho]; exact ⟨rfl, le_refl _, le_refl _⟩,
    List.isChain_singleton _, ⟨_, rfl, rfl, rfl, rfl, rfl, rfl⟩⟩

/-- The constructors of `create` accept a valid first outcome. -/
theorem ServiceRequest.buildFirst_of
    (hkey : validateIdentifier n.key "idempotency_key" MAX_IDEMPOTENCY_KEY_LENGTH = .ok ())
    (hfp : Python.isDigest n.fingerprint = true) (ho : (firstOutcome a n).Valid P) :
    ∃ result, buildFirst P a n = .ok result := by
  let outcome : Outcome P := ⟨firstOutcome a n, OutcomeData.postInit_iff.mpr ho⟩
  let record : Record P := ⟨⟨n.key, n.fingerprint, outcome⟩, RecordData.postInit_iff.mpr ⟨hkey, hfp⟩⟩
  let request : ServiceRequest P := ⟨firstRequest a n record,
    RequestData.postInit_iff.mpr (valid_first rfl)⟩
  have h1 : Outcome.make P (firstOutcome a n) = .ok outcome := Outcome.make_eq_ok.mpr rfl
  have h2 : Record.make P ⟨n.key, n.fingerprint, outcome⟩ = .ok record :=
    Record.make_eq_ok.mpr rfl
  have h3 : make P (firstRequest a n record) = .ok request := make_eq_ok.mpr rfl
  refine ⟨⟨request, outcome⟩, ?_⟩
  rw [buildFirst, bind_of_ok _ h1, bind_of_ok _ h2, bind_of_ok _ h3]
  rfl

end First

/-! ## What a command normalizes, the constructors accept -/

/-- Normal arguments, as the constructors check them. -/
def Arguments.Canonical (P : Python) : Arguments → Prop
  | create a => validateIdentifier a.request_id "request_id" MAX_REQUEST_ID_LENGTH = .ok () ∧
      CanonicalServices P a.services ∧
      validateCanonicalSchedule a.scheduled_start a.scheduled_end = .ok ()
  | cancel => True
  | reschedule start stop => validateCanonicalSchedule start stop = .ok ()
  | addService service => normalizeServiceLabel P service = .ok service

theorem normalizeEnvelope_spec (hex : P.HexDigest) {arguments : Arguments} {e : Envelope}
    {n : Normalized} (h : normalizeEnvelope P arguments e = .ok n) :
    n.arguments = arguments ∧ 0 ≤ n.revision ∧ n.applied_at.IsUtc ∧
      Python.isDigest n.fingerprint = true ∧
      validateIdentifier n.key "idempotency_key" MAX_IDEMPOTENCY_KEY_LENGTH = .ok () := by
  simp only [normalizeEnvelope, bind_eq_ok, normalizeExpectedRevision_eq_ok, pure_eq_ok,
    Except.ok.injEq] at h
  obtain ⟨_, ⟨hrev, rfl⟩, key, hkey, t, ht, _, -, fp, hfp, rfl⟩ := h
  obtain ⟨bs, -, rfl⟩ := hashText_eq_ok.mp hfp
  exact ⟨rfl, hrev, (normalizeUtc_isUtc ht).1, hex bs, (normalizeIdentifier_eq_ok.mp hkey).2⟩

/-- The normal form of a command passes the checks of the constructors. -/
theorem Command.normalize_spec (laws : P.NfkcLaws) (hex : P.HexDigest) {c : Command}
    {n : Normalized} (h : c.normalize P = .ok n) :
    n.arguments.Canonical P ∧ 0 ≤ n.revision ∧ n.applied_at.IsUtc ∧
      Python.isDigest n.fingerprint = true ∧
      validateIdentifier n.key "idempotency_key" MAX_IDEMPOTENCY_KEY_LENGTH = .ok () := by
  cases c with
  | create request_id services start stop e =>
    simp only [normalize, normalizeCreate, bind_eq_ok, pure_eq_ok, Except.ok.injEq] at h
    obtain ⟨_, ⟨rid, hrid, svs, hsv, ⟨s, t⟩, hsched, rfl⟩, h⟩ := h
    obtain ⟨hargs, hrest⟩ := normalizeEnvelope_spec hex h
    rw [hargs]
    exact ⟨⟨(normalizeIdentifier_eq_ok.mp hrid).2, normalizeServices_canonical laws hsv,
      canonical_of_normalizeSchedule hsched⟩, hrest⟩
  | cancel e =>
    obtain ⟨hargs, hrest⟩ := normalizeEnvelope_spec hex h
    rw [hargs]
    exact ⟨trivial, hrest⟩
  | reschedule start stop e =>
    simp only [normalize, bind_eq_ok] at h
    obtain ⟨⟨s, t⟩, hsched, h⟩ := h
    obtain ⟨hargs, hrest⟩ := normalizeEnvelope_spec hex h
    rw [hargs]
    exact ⟨canonical_of_normalizeSchedule hsched, hrest⟩
  | addService service e =>
    simp only [normalize, bind_eq_ok] at h
    obtain ⟨label, hlabel, h⟩ := h
    obtain ⟨hargs, hrest⟩ := normalizeEnvelope_spec hex h
    rw [hargs]
    exact ⟨normalizeServiceLabel_idem laws hlabel, hrest⟩

/-- A legal change with normal arguments has a valid outcome. -/
theorem ServiceRequest.ChangeSpec.outcome_valid {r : ServiceRequest P} {c : Change}
    {n : Normalized} (h : r.ChangeSpec n c) (hargs : n.arguments.Canonical P)
    (htime : n.applied_at.IsUtc) : (r.nextOutcome c).Valid P := by
  have hv := r.isValid
  have hrev := hv.revision
  have base : ∀ {services start stop}, services = r.data.services → start = r.data.scheduled_start →
      stop = r.data.scheduled_end → CanonicalServices P services ∧
        validateCanonicalSchedule start stop = .ok () := by
    rintro _ _ _ rfl rfl rfl
    exact ⟨hv.services, hv.schedule⟩
  have key : CanonicalServices P c.services ∧
      validateCanonicalSchedule c.scheduled_start c.scheduled_end = .ok () := by
    rcases h.effect with ⟨-, -, hsv, hs, he⟩ | ⟨ha, -, hsv, -⟩ |
      ⟨service, ha, -, hsv, hlen, hnew, hs, he⟩
    · exact base hsv hs he
    · rw [ha] at hargs
      exact ⟨(base hsv rfl rfl).1, hargs⟩
    · rw [ha] at hargs
      refine ⟨?_, (base rfl hs he).2⟩
      rw [hsv]
      refine ⟨by simp, by rw [List.length_append]; exact hlen, ?_, ?_⟩
      · intro v hvm
        rcases List.mem_append.mp hvm with hvm | hvm
        · exact hv.services.canonical v hvm
        · rw [List.mem_singleton.mp hvm]; exact hargs
      · rw [List.map_append]
        exact List.nodup_append.mpr ⟨hv.services.unique, by simp, fun x hx y hy => by
          simp only [List.map_cons, List.map_nil, List.mem_singleton] at hy
          rintro rfl
          exact hnew (hy ▸ hx)⟩
  exact ⟨hv.request_id, by simp only [nextOutcome]; omega, key.1, key.2,
    by simpa only [nextOutcome, h.applied_at] using htime⟩

/-- **The constructors accept what the guards let through.** -/
theorem ServiceRequest.settle_ok (laws : P.NfkcLaws) (hex : P.HexDigest) {r : ServiceRequest P}
    {c : Command} {n : Normalized} {cl : Cleared P} (hn : c.normalize P = .ok n)
    (hcl : r.clear n = .ok cl) : ∃ result, r.settle cl = .ok result := by
  obtain ⟨hargs, -, htime, hfp, hkey⟩ := Command.normalize_spec laws hex hn
  rcases clear_cases hcl with ⟨record, -, -, -, rfl⟩ | ⟨hfresh, change, hchange, hle, rfl⟩
  · exact ⟨_, rfl⟩
  · have hspec := change_spec hchange
    exact build_of hspec hle (by rw [hspec.key]; exact hfresh) (by rw [hspec.key]; exact hkey)
      (by rw [hspec.fingerprint]; exact hfp) (hspec.outcome_valid hargs htime)

theorem ServiceRequest.buildFirst_ok (laws : P.NfkcLaws) (hex : P.HexDigest) {c : Command}
    {n : Normalized} {a : CreateArguments} (hn : c.normalize P = .ok n)
    (ha : n.arguments = .create a) : ∃ result, buildFirst P a n = .ok result := by
  obtain ⟨hargs, -, htime, hfp, hkey⟩ := Command.normalize_spec laws hex hn
  rw [ha] at hargs
  exact buildFirst_of hkey hfp ⟨hargs.1, le_refl _, hargs.2.1, hargs.2.2, htime⟩

end HeyKevin.L2
