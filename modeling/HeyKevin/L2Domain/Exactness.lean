import HeyKevin.L2Domain.History
import HeyKevin.L1Encoding.Sha256
/-!
# The history validator is exact

Two descriptions of the legal histories: the commands, forwards, and
`_validate_history`, backwards over a stored value. Here they are compared.

* `replay_records`: from an aggregate, the rest of an accepted history is the
  result of commands (`commandOf`), one for each outcome, none refused.
* `encodable_of_reached`: what commands reach has a `request_id` and labels
  that encode as UTF-8, because they were hashed. The constructors do not ask
  for that (`surrogate_request_unreachable`).
* `history_validator_exact`: for encodable values the two coincide, and no
  change that cleared its guards is refused by the constructors.
-/
namespace HeyKevin.L2

open HeyKevin.Core L1 L1.Text L1.Datetime

variable {P : Python}

/-! ## What encodes -/

def Arguments.Encodable : Arguments → Prop
  | create a => Text.Encodable a.request_id ∧ ∀ s ∈ a.services, Text.Encodable s
  | addService service => Text.Encodable service
  | _ => True

def ServiceRequest.Encodable (r : ServiceRequest P) : Prop :=
  Text.Encodable r.data.request_id ∧ ∀ s ∈ r.data.services, Text.Encodable s

theorem encodable_padded : ∀ k n, Text.Encodable (padded k n)
  | 0, _ => encodable_nil
  | k + 1, n => by
    refine (encodable_cons _ _).mpr ⟨isSurrogate_of_lt ?_, encodable_padded k n⟩
    have hlt : n / 10 ^ k % 10 < 10 := Nat.mod_lt _ (by decide)
    have := digit_val hlt
    omega

theorem encodable_zuluText (t : DateTime) : Text.Encodable (zuluText t) := by
  simp only [zuluText, dateText, timeText, encodable_append, encodable_padded, encodable_py,
    and_self]

theorem Arguments.encodable_iff {a : Arguments} (h : a.Canonical P) (revision : ℤ) :
    ∃ payload, a.payload = .ok payload ∧
      (Text.Encodable (commandText a.operation revision payload) ↔ a.Encodable) := by
  have sched : ∀ {start stop : DateTime}, validateCanonicalSchedule start stop = .ok () →
      serializeDatetime start = .ok (zuluText start) ∧
        serializeDatetime stop = .ok (zuluText stop) := by
    intro start stop hs
    obtain ⟨h1, h2, -⟩ := validateCanonicalSchedule_eq_ok.mp hs
    exact ⟨serializeDatetime_of_isUtc h1, serializeDatetime_of_isUtc h2⟩
  have hitems : ∀ ss : List Str, Json.stringsItems (ss.map .str) = ss := by
    intro ss
    induction ss with
    | nil => rfl
    | cons s ss ih => simp [Json.stringsItems, Json.strings, ih]
  cases a with
  | create a =>
    obtain ⟨h1, h2⟩ := sched h.2.2
    refine ⟨_, by simp only [payload, h1, h2, ok_bind]; rfl, ?_⟩
    simp only [commandText, Json.encodable_dumps, Json.strings, Json.stringsEntries, hitems,
      List.mem_cons, List.mem_append, List.not_mem_nil, or_false, or_imp, forall_and, forall_eq,
      encodable_py, encodable_zuluText, true_and, Arguments.Encodable, and_true]
  | cancel =>
    refine ⟨_, rfl, ?_⟩
    simp [commandText, Json.encodable_dumps, Json.strings, Json.stringsEntries, encodable_py,
      Arguments.Encodable]
  | reschedule start stop =>
    obtain ⟨h1, h2⟩ := sched h
    refine ⟨_, by simp only [payload, h1, h2, ok_bind]; rfl, ?_⟩
    simp [commandText, Json.encodable_dumps, Json.strings, Json.stringsEntries, encodable_py,
      encodable_zuluText, Arguments.Encodable]
  | addService service =>
    refine ⟨_, rfl, ?_⟩
    simp [commandText, Json.encodable_dumps, Json.strings, Json.stringsEntries, encodable_py,
      Arguments.Encodable]

theorem normalizeEnvelope_of (hex : P.HexDigest) {a : Arguments} (hargs : a.Canonical P)
    (henc : a.Encodable) {revision : ℤ} (hrev : 0 ≤ revision) {key : Str}
    (hkey : validateIdentifier key "idempotency_key" MAX_IDEMPOTENCY_KEY_LENGTH = .ok ())
    {t : DateTime} (ht : t.IsUtc) : ∃ fp, Python.isDigest fp = true ∧
      normalizeEnvelope P a ⟨revision, key, t⟩ = .ok ⟨a, revision, key, t, fp⟩ := by
  obtain ⟨payload, hpayload, hiff⟩ := a.encodable_iff hargs revision
  obtain ⟨fp, hfp⟩ := (exists_hashText (P := P)).mpr (hiff.mpr henc)
  obtain ⟨bs, -, hbs⟩ := hashText_eq_ok.mp hfp
  refine ⟨fp, hbs ▸ hex bs, ?_⟩
  rw [normalizeEnvelope, bind_of_ok _ (normalizeExpectedRevision_eq_ok.mpr ⟨hrev, rfl⟩),
    bind_of_ok _ (normalizeIdentifier_of_valid hkey), bind_of_ok _ (normalizeUtc_of_isUtc ht _),
    bind_of_ok _ hpayload]
  exact bind_of_ok (a := fp) _ hfp

theorem Command.normalize_encodable (laws : P.NfkcLaws) (hex : P.HexDigest) {c : Command}
    {n : Normalized} (h : c.normalize P = .ok n) : n.arguments.Encodable := by
  obtain ⟨payload, hpayload, hfp⟩ := normalize_fingerprint h
  obtain ⟨payload', hpayload', hiff⟩ :=
    n.arguments.encodable_iff (normalize_spec laws hex h).1 n.revision
  rw [hpayload] at hpayload'
  cases hpayload'
  exact hiff.mp (exists_hashText.mp ⟨_, hfp⟩)

/-! ## Runs of commands -/

def Command.isCreate : Command → Bool
  | create .. => true
  | _ => false

/-- The commands in order, each accepted. -/
def runCommands (P : Python) : ServiceRequest P → List Command → Except Err (ServiceRequest P)
  | r, [] => .ok r
  | r, c :: cs => do
    let result ← c.apply P (some r)
    runCommands P result.request cs

/-- `r` is the result of one create and then `cs`, none refused. -/
def Reached (first : Command) (cs : List Command) (r : ServiceRequest P) : Prop :=
  ∃ result, first.apply P none = .ok result ∧ runCommands P result.request cs = .ok r

theorem Command.arguments_of_isCreate {c : Command} {n : Normalized} (h : c.isCreate = true)
    (hn : c.normalize P = .ok n) : ∃ a, n.arguments = .create a := by
  cases c with
  | create request_id services start stop e =>
    simp only [normalize, bind_eq_ok] at hn
    obtain ⟨a, -, hn⟩ := hn
    exact ⟨a, normalizeEnvelope_arguments hn⟩
  | _ => cases h

theorem encodable_step (laws : P.NfkcLaws) (hex : P.HexDigest) {r : ServiceRequest P}
    (hr : r.Encodable) {c : Command} {result : CommandResult P}
    (h : c.apply P (some r) = .ok result) : result.request.Encodable := by
  obtain ⟨n, hn, h⟩ := Command.apply_some_cases h
  rcases h with ⟨record, -, -, -, rfl⟩ | ⟨-, change, hspec, -, hbuild⟩
  · exact hr
  · obtain ⟨-, record, -, hrequest⟩ := ServiceRequest.build_eq_ok hbuild
    refine ⟨by rw [hrequest]; exact hr.1, ?_⟩
    have hargs := Command.normalize_encodable laws hex hn
    simp only [hrequest, ServiceRequest.nextRequest]
    rcases hspec.effect with ⟨-, -, hsv, -⟩ | ⟨-, -, hsv, -⟩ | ⟨service, ha, -, hsv, -⟩
    · rw [hsv]; exact hr.2
    · rw [hsv]; exact hr.2
    · rw [ha] at hargs
      rw [hsv]
      exact List.forall_mem_append.mpr ⟨hr.2, fun s hs => by
        rw [List.mem_singleton.mp hs]; exact hargs⟩

/-- What commands reach encodes. -/
theorem encodable_of_reached (laws : P.NfkcLaws) (hex : P.HexDigest) {first : Command}
    {cs : List Command} {r : ServiceRequest P} (h : Reached first cs r) : r.Encodable := by
  obtain ⟨result, hfirst, hrun⟩ := h
  obtain ⟨a, n, hn, ha, -, hbuild⟩ := Command.apply_none hfirst
  obtain ⟨-, record, -, hrequest⟩ := ServiceRequest.buildFirst_eq_ok hbuild
  have henc : result.request.Encodable := by
    have := Command.normalize_encodable laws hex hn
    rw [ha] at this
    simp only [ServiceRequest.Encodable, hrequest]
    exact this
  clear hfirst hbuild hrequest
  induction cs generalizing result with
  | nil => cases hrun; exact henc
  | cons c cs ih =>
    obtain ⟨result', happly, hrun⟩ := bind_eq_ok.mp hrun
    exact ih result' hrun (encodable_step laws hex henc happly)

/-! ## Rebuilding a history -/

namespace ServiceRequest

/-- Keys and outcomes in revision order. -/
def history (r : ServiceRequest P) : List (Str × Outcome P) :=
  (RequestData.sortedRecords r.data.idempotency_records).map fun x =>
    (x.data.idempotency_key, x.data.outcome)

/-- Equal up to the command fingerprints and the order the records are kept in. -/
structure Same (r r' : ServiceRequest P) : Prop where
  request_id : r.data.request_id = r'.data.request_id
  status : r.data.status = r'.data.status
  revision : r.data.revision = r'.data.revision
  services : r.data.services = r'.data.services
  scheduled_start : r.data.scheduled_start = r'.data.scheduled_start
  scheduled_end : r.data.scheduled_end = r'.data.scheduled_end
  created_at : r.data.created_at = r'.data.created_at
  updated_at : r.data.updated_at = r'.data.updated_at
  history : r.history = r'.history

theorem history_map_outcome (r : ServiceRequest P) :
    r.history.map (fun x => x.2.data) = r.data.outcomes := by
  simp [history, RequestData.outcomes, Function.comp_def]

/-- A request is determined by its history. -/
theorem same_of_history {r r' : ServiceRequest P} (h : r.history = r'.history) : Same r r' := by
  have ho : r.data.outcomes = r'.data.outcomes := by
    rw [← history_map_outcome, ← history_map_outcome, h]
  have hv := r.isValid
  have hv' := r'.isValid
  have hlen : r.data.revision = r'.data.revision := by
    have := congrArg List.length h
    simp only [history, List.length_map, (RequestData.sortedRecords_perm _).length_eq] at this
    rw [← hv.length, ← hv'.length, this]
  obtain ⟨first, hfirst, -, -, hcreated⟩ := hv.history.starts
  obtain ⟨first', hfirst', -, -, hcreated'⟩ := hv'.history.starts
  obtain ⟨last, hlast, hu, hst, hsv, hss, hse⟩ := hv.history.ends
  obtain ⟨last', hlast', hu', hst', hsv', hss', hse'⟩ := hv'.history.ends
  rw [ho, hfirst'] at hfirst
  cases hfirst
  rw [ho, hlast'] at hlast
  cases hlast
  have hmem := List.mem_of_head? hfirst'
  have hid := (hv.history.within first (ho ▸ hmem)).1
  have hid' := (hv'.history.within first hmem).1
  exact ⟨hid.symm.trans hid', hst.trans hst'.symm, hlen, hsv.trans hsv'.symm, hss.trans hss'.symm,
    hse.trans hse'.symm, hcreated.trans hcreated'.symm, hu.trans hu'.symm, h⟩

end ServiceRequest

/-- The command that an outcome records. -/
def commandOf (o : OutcomeData) (key : Str) : Command :=
  let e : Envelope := ⟨o.revision - 1, key, o.applied_at⟩
  match o.operation with
  | .CREATE => .create o.request_id o.services o.scheduled_start o.scheduled_end e
  | .CANCEL => .cancel e
  | .RESCHEDULE => .reschedule o.scheduled_start o.scheduled_end e
  | .ADD_SERVICE => .addService (o.services.getLastD []) e

/-- The arguments of `commandOf`, in normal form. -/
def argumentsOf (o : OutcomeData) : Arguments :=
  match o.operation with
  | .CREATE => .create ⟨o.request_id, o.services, o.scheduled_start, o.scheduled_end⟩
  | .CANCEL => .cancel
  | .RESCHEDULE => .reschedule o.scheduled_start o.scheduled_end
  | .ADD_SERVICE => .addService (o.services.getLastD [])

def changeOf (o : OutcomeData) (key fingerprint : Str) : Change :=
  { operation := o.operation, key := key, fingerprint := fingerprint, applied_at := o.applied_at
    status := o.status, services := o.services, scheduled_start := o.scheduled_start
    scheduled_end := o.scheduled_end }

theorem argumentsOf_canonical {o : OutcomeData} (h : o.Valid P) :
    (argumentsOf o).Canonical P := by
  unfold argumentsOf
  cases o.operation with
  | CREATE => exact ⟨h.request_id, h.services, h.schedule⟩
  | CANCEL => trivial
  | RESCHEDULE => exact h.schedule
  | ADD_SERVICE =>
    refine h.services.canonical _ ?_
    rw [List.getLastD_eq_getLast?, List.getLast?_eq_some_getLast h.services.nonempty]
    exact List.getLast_mem _

theorem argumentsOf_encodable {o : OutcomeData} (h : o.Valid P)
    (hid : Text.Encodable o.request_id) (hsv : ∀ s ∈ o.services, Text.Encodable s) :
    (argumentsOf o).Encodable := by
  unfold argumentsOf
  cases o.operation with
  | CREATE => exact ⟨hid, hsv⟩
  | CANCEL | RESCHEDULE => trivial
  | ADD_SERVICE =>
    refine hsv _ ?_
    rw [List.getLastD_eq_getLast?, List.getLast?_eq_some_getLast h.services.nonempty]
    exact List.getLast_mem _

/-- The command of a valid outcome is in normal form already. -/
theorem commandOf_normalize (hex : P.HexDigest) {o : OutcomeData} (h : o.Valid P) {key : Str}
    (hkey : validateIdentifier key "idempotency_key" MAX_IDEMPOTENCY_KEY_LENGTH = .ok ())
    (hid : Text.Encodable o.request_id) (hsv : ∀ s ∈ o.services, Text.Encodable s) :
    ∃ fp, Python.isDigest fp = true ∧ (commandOf o key).normalize P =
      .ok ⟨argumentsOf o, o.revision - 1, key, o.applied_at, fp⟩ := by
  have hrev := h.revision
  have hargs := argumentsOf_canonical h
  obtain ⟨fp, hfp, hn⟩ := normalizeEnvelope_of hex hargs (argumentsOf_encodable h hid hsv)
    (show 0 ≤ o.revision - 1 by omega) hkey h.applied_at
  refine ⟨fp, hfp, ?_⟩
  rw [← hn]
  unfold argumentsOf at hargs
  unfold commandOf argumentsOf
  cases hop : o.operation with
  | CREATE =>
    have hservices : normalizeServices P o.services = .ok o.services := by
      obtain ⟨ns, hns, heq⟩ := bind_eq_ok.mp ((canonicalServices_iff P _).mpr h.services)
      rw [hns, ensure_eq_ok.mp heq]
    simp only [Command.normalize, normalizeCreate, normalizeIdentifier_of_valid h.request_id,
      hservices, normalizeSchedule_of_canonical h.schedule, ok_bind, pure_eq_ok]
  | CANCEL => rfl
  | RESCHEDULE =>
    simp only [Command.normalize, normalizeSchedule_of_canonical h.schedule, ok_bind]
  | ADD_SERVICE =>
    rw [hop] at hargs
    exact bind_of_ok _ hargs

/-- A transition is a change the guards let through. -/
theorem changeSpec_of_transition {a : ServiceRequest P} {p o : OutcomeData} (key fp : Str)
    (hlast : a.data.outcomes.getLast? = some p) (ht : Transition p o)
    (hrev : o.revision = a.data.revision + 1) (ho : o.Valid P) :
    a.ChangeSpec ⟨argumentsOf o, o.revision - 1, key, o.applied_at, fp⟩ (changeOf o key fp) ∧
      a.data.updated_at.instant ≤ o.applied_at.instant ∧ (commandOf o key).isCreate = false := by
  obtain ⟨last, hlast', hu, hst, hsv, hss, hse⟩ := a.isValid.history.ends
  obtain rfl : p = last := Option.some.inj (hlast.symm.trans hlast')
  obtain ⟨htime, hopen, heffect⟩ := transition_iff.mp ht
  rw [← hst] at hopen
  rw [← hu] at htime
  rw [← hsv, ← hss, ← hse] at heffect
  have hop : o.operation = (argumentsOf o).operation := by
    unfold argumentsOf
    cases o.operation <;> rfl
  have build : ∀ heffect, a.ChangeSpec ⟨argumentsOf o, o.revision - 1, key, o.applied_at, fp⟩
      (changeOf o key fp) := fun heffect =>
    ⟨by simp only; omega, hopen, hop, rfl, rfl, rfl, heffect⟩
  rcases heffect with ⟨h, hstat, hs⟩ | ⟨h, hstat, hs, hne⟩ | ⟨h, hstat, hs, he, service, hservice⟩
  · refine ⟨build (.inl ⟨by simp only [argumentsOf, h], hstat, hs⟩), htime, ?_⟩
    simp only [commandOf, h, Command.isCreate]
  · refine ⟨build (.inr (.inl ⟨by simp only [argumentsOf, h, changeOf], hstat, hs, hne⟩)),
      htime, ?_⟩
    simp only [commandOf, h, Command.isCreate]
  · have hlen := ho.services.bounded
    have hunique := ho.services.unique
    rw [hservice] at hlen hunique
    rw [List.map_append, List.nodup_append] at hunique
    refine ⟨build (.inr (.inr ⟨service, by simp only [argumentsOf, h, hservice,
      List.getLastD_concat], hstat, hservice, by rw [List.length_append] at hlen; exact hlen, ?_, hs, he⟩)), htime, ?_⟩
    · intro hmem
      exact hunique.2.2 _ hmem _ (by simp) rfl
    · simp only [commandOf, h, Command.isCreate]

/-- One outcome of an accepted history is one accepted command. -/
theorem commandOf_apply (hex : P.HexDigest) {a : ServiceRequest P} {x : Record P} {p : OutcomeData}
    (hlast : a.data.outcomes.getLast? = some p) (ht : Transition p x.data.outcome.data)
    (hrev : x.data.outcome.data.revision = a.data.revision + 1)
    (hid : x.data.outcome.data.request_id = a.data.request_id)
    (hkey : x.data.idempotency_key ∉ a.keys) (hreq : Text.Encodable a.data.request_id)
    (hsv : ∀ s ∈ x.data.outcome.data.services, Text.Encodable s) :
    ∃ result, (commandOf x.data.outcome.data x.data.idempotency_key).apply P (some a) =
        .ok result ∧
      (commandOf x.data.outcome.data x.data.idempotency_key).isCreate = false ∧
      result.request.data.request_id = a.data.request_id ∧
      result.request.data.revision = a.data.revision + 1 ∧
      result.request.keys = a.keys ++ [x.data.idempotency_key] ∧
      result.request.data.outcomes.getLast? = some x.data.outcome.data ∧
      result.request.history = a.history ++ [(x.data.idempotency_key, x.data.outcome)] := by
  have ho := x.data.outcome.isValid
  have hidkey := (RecordData.postInit_iff.mp x.valid).1
  obtain ⟨fp, hfp, hn⟩ := commandOf_normalize hex ho hidkey (hid ▸ hreq) hsv
  obtain ⟨hspec, htime, hmethod⟩ :=
    changeSpec_of_transition x.data.idempotency_key fp hlast ht hrev ho
  have hnext : a.nextOutcome (changeOf x.data.outcome.data x.data.idempotency_key fp) =
      x.data.outcome.data := by
    simp only [ServiceRequest.nextOutcome, changeOf, ← hrev, ← hid]
  obtain ⟨result, hbuild⟩ := ServiceRequest.build_of hspec htime hkey hidkey hfp (hnext ▸ ho)
  have happly : (commandOf x.data.outcome.data x.data.idempotency_key).apply P (some a) =
      .ok result := by
    rw [Command.apply_some, bind_of_ok _ hn, bind_of_ok _ (ServiceRequest.clear_of hkey hspec htime)]
    exact hbuild
  obtain ⟨hout, record, hrecord, hrequest⟩ := ServiceRequest.build_eq_ok hbuild
  have houtcome : result.outcome = x.data.outcome := Outcome.ext (hout.trans hnext)
  have hro : record.data.outcome.data =
      a.nextOutcome (changeOf x.data.outcome.data x.data.idempotency_key fp) := by
    rw [hrecord, hout]
  refine ⟨result, happly, hmethod, ?_, ?_, ?_, ?_, ?_⟩
  · rw [hrequest]; rfl
  · rw [hrequest]; rfl
  · simp only [ServiceRequest.keys, hrequest, ServiceRequest.nextRequest, List.map_append,
      List.map_cons, List.map_nil, hrecord]
    rfl
  · rw [hrequest, ServiceRequest.nextRequest_outcomes hro, hnext]
    simp
  · have hsorted : RequestData.sortedRecords (a.data.idempotency_records ++ [record]) =
        RequestData.sortedRecords a.data.idempotency_records ++ [record] :=
      RequestData.sortedRecords_append fun y hy => by
        have := (a.isValid.record_revisions.2 y hy).2
        rw [hro, hnext, hrev]
        omega
    simp only [ServiceRequest.history, hrequest, ServiceRequest.nextRequest, hsorted,
      List.map_append, List.map_cons, List.map_nil, hrecord, houtcome]
    rfl

theorem createOf_apply (hex : P.HexDigest) {x : Record P}
    (hop : x.data.outcome.data.operation = .CREATE) (hopen : x.data.outcome.data.status = .OPEN)
    (hone : x.data.outcome.data.revision = 1) (hid : Text.Encodable x.data.outcome.data.request_id)
    (hsv : ∀ s ∈ x.data.outcome.data.services, Text.Encodable s) :
    ∃ result, (commandOf x.data.outcome.data x.data.idempotency_key).apply P none = .ok result ∧
      (commandOf x.data.outcome.data x.data.idempotency_key).isCreate = true ∧
      result.request.data.request_id = x.data.outcome.data.request_id ∧
      result.request.data.revision = 1 ∧
      result.request.keys = [x.data.idempotency_key] ∧
      result.request.data.outcomes.getLast? = some x.data.outcome.data ∧
      result.request.history = [(x.data.idempotency_key, x.data.outcome)] := by
  have ho := x.data.outcome.isValid
  have hidkey := (RecordData.postInit_iff.mp x.valid).1
  obtain ⟨fp, hfp, hn⟩ := commandOf_normalize hex ho hidkey hid hsv
  have hargs : argumentsOf x.data.outcome.data =
      .create ⟨x.data.outcome.data.request_id, x.data.outcome.data.services,
        x.data.outcome.data.scheduled_start, x.data.outcome.data.scheduled_end⟩ := by
    simp only [argumentsOf, hop]
  generalize hnd : (⟨argumentsOf x.data.outcome.data, x.data.outcome.data.revision - 1,
    x.data.idempotency_key, x.data.outcome.data.applied_at, fp⟩ : Normalized) = n at hn
  subst hnd
  have hfirst : ServiceRequest.firstOutcome ⟨x.data.outcome.data.request_id,
      x.data.outcome.data.services, x.data.outcome.data.scheduled_start,
      x.data.outcome.data.scheduled_end⟩ ⟨argumentsOf x.data.outcome.data,
        x.data.outcome.data.revision - 1, x.data.idempotency_key,
        x.data.outcome.data.applied_at, fp⟩ = x.data.outcome.data := by
    simp only [ServiceRequest.firstOutcome, ← hop, ← hopen, ← hone]
  obtain ⟨result, hbuild⟩ := ServiceRequest.buildFirst_of hidkey hfp (hfirst ▸ ho)
  obtain ⟨hout, record, hrecord, hrequest⟩ := ServiceRequest.buildFirst_eq_ok hbuild
  have houtcome : result.outcome = x.data.outcome := Outcome.ext (hout.trans hfirst)
  have hsorted : RequestData.sortedRecords result.request.data.idempotency_records = [record] := by
    rw [hrequest]
    rfl
  refine ⟨result, Command.apply_none_of hn hargs (by simp only [hone]; rfl) hbuild, ?_, ?_, ?_,
    ?_, ?_, ?_⟩
  · simp only [commandOf, hop, Command.isCreate]
  · rw [hrequest]; rfl
  · rw [hrequest]; rfl
  · simp only [ServiceRequest.keys, hrequest, ServiceRequest.firstRequest, List.map_cons,
      List.map_nil, hrecord]
  · simp only [RequestData.outcomes, hsorted, List.map_cons, List.map_nil, hrecord, houtcome,
      List.getLast?_singleton]
  · simp only [ServiceRequest.history, hsorted, List.map_cons, List.map_nil, hrecord, houtcome]

/-- The rest of an accepted history is a run of accepted commands. -/
theorem replay_records (hex : P.HexDigest) (xs : List (Record P)) (a : ServiceRequest P)
    {p : OutcomeData} (hlast : a.data.outcomes.getLast? = some p)
    (hchain : (p :: xs.map fun x => x.data.outcome.data).IsChain Transition)
    (hrev : (a.data.revision :: xs.map fun x => x.data.outcome.data.revision).IsChain
      fun m n => n = m + 1)
    (hid : ∀ x ∈ xs, x.data.outcome.data.request_id = a.data.request_id)
    (hkeys : (a.keys ++ xs.map fun x => x.data.idempotency_key).Nodup)
    (hreq : Text.Encodable a.data.request_id)
    (hsv : ∀ x ∈ xs, ∀ s ∈ x.data.outcome.data.services, Text.Encodable s) :
    ∃ cs r', (∀ c ∈ cs, Command.isCreate c = false) ∧ runCommands P a cs = .ok r' ∧
      r'.history = a.history ++ xs.map fun x => (x.data.idempotency_key, x.data.outcome) := by
  induction xs generalizing a p with
  | nil => exact ⟨[], a, by simp, rfl, by simp⟩
  | cons x xs ih =>
    rw [List.map_cons, List.isChain_cons_cons] at hchain hrev
    obtain ⟨hidx, hids⟩ := List.forall_mem_cons.mp hid
    obtain ⟨hsvx, hsvs⟩ := List.forall_mem_cons.mp hsv
    have hfresh : x.data.idempotency_key ∉ a.keys := fun hmem =>
      (List.nodup_append.mp hkeys).2.2 _ hmem _ (by simp) rfl
    obtain ⟨result, happly, hmethod, hreqid, hresrev, hreskeys, hreslast, hhistory⟩ :=
      commandOf_apply hex hlast hchain.1 hrev.1 hidx hfresh hreq hsvx
    obtain ⟨cs, r', hcs, hrun, hh⟩ := ih result.request hreslast hchain.2
      (by rw [hresrev, ← hrev.1]; exact hrev.2) (by rw [hreqid]; exact hids)
      (by rw [hreskeys]; simpa using hkeys) (by rw [hreqid]; exact hreq) hsvs
    refine ⟨commandOf x.data.outcome.data x.data.idempotency_key :: cs, r',
      List.forall_mem_cons.mpr ⟨hmethod, hcs⟩, ?_, ?_⟩
    · rw [runCommands, bind_of_ok _ happly]
      exact hrun
    · rw [hh, hhistory]
      simp

theorem services_prefix (r : ServiceRequest P) :
    ∀ o ∈ r.data.outcomes, o.services <+: r.data.services := by
  obtain ⟨last, hlast, -, -, hsv, -⟩ := r.isValid.history.ends
  obtain ⟨init, hinit⟩ := List.getLast?_eq_some_iff.mp hlast
  have hchain : (init ++ [last]).IsChain fun x y => x.services <+: y.services := by
    rw [← hinit]
    refine r.isValid.history.chain.imp fun x y h => ?_
    obtain ⟨-, -, ⟨-, -, h, -⟩ | ⟨-, -, h, -⟩ | ⟨-, -, -, -, service, h⟩⟩ := transition_iff.mp h
    · rw [h]
    · rw [h]
    · rw [h]; exact List.prefix_append _ _
  have : Trans (fun x y : OutcomeData => x.services <+: y.services)
      (fun x y : OutcomeData => x.services <+: y.services)
      (fun x y : OutcomeData => x.services <+: y.services) := ⟨List.IsPrefix.trans⟩
  have hpair := List.isChain_iff_pairwise.mp hchain
  intro o ho
  rw [hsv]
  rw [hinit] at ho
  rcases List.mem_append.mp ho with ho | ho
  · exact (List.pairwise_append.mp hpair).2.2 o ho last (by simp)
  · rw [List.mem_singleton.mp ho]

/-- Every value the constructor accepts, if it encodes, is the result of
accepted commands. -/
theorem reached_of_encodable (hex : P.HexDigest) (r : ServiceRequest P) (h : r.Encodable) :
    ∃ first cs r', Command.isCreate first = true ∧ (∀ c ∈ cs, Command.isCreate c = false) ∧
      Reached first cs r' ∧ r.Same r' := by
  have hv := r.isValid
  have hperm := RequestData.sortedRecords_perm r.data.idempotency_records
  have hpre := services_prefix r
  have hrevs := hv.revisions
  have hhist := hv.history
  rw [RequestData.outcomes_map_revision] at hrevs
  have hkeys := (hperm.map fun x => x.data.idempotency_key).nodup_iff.mpr hv.keys
  have hsame : ∀ r' : ServiceRequest P, r'.history =
      (RequestData.sortedRecords r.data.idempotency_records).map
        (fun x => (x.data.idempotency_key, x.data.outcome)) → r.Same r' :=
    fun r' h => ServiceRequest.same_of_history h.symm
  unfold RequestData.outcomes at hpre hhist
  generalize RequestData.sortedRecords r.data.idempotency_records = sorted at *
  obtain ⟨o₁, hhead, hop, hopen, -⟩ := hhist.starts
  cases sorted with
  | nil => cases hhead
  | cons x xs =>
    obtain rfl : x.data.outcome.data = o₁ := Option.some.inj hhead
    have hsv : ∀ y ∈ x :: xs, ∀ s ∈ y.data.outcome.data.services, Text.Encodable s :=
      fun y hy s hs => h.2 s ((hpre _ (List.mem_map_of_mem hy)).subset hs)
    have hids : ∀ y ∈ x :: xs, y.data.outcome.data.request_id = r.data.request_id :=
      fun y hy => (hhist.within _ (List.mem_map_of_mem hy)).1
    have ho := x.data.outcome.isValid
    have hidkey := (RecordData.postInit_iff.mp x.valid).1
    have hchain := RequestData.revisions_isChain r.data.idempotency_records.length
    have hone : x.data.outcome.data.revision = 1 := by
      cases hn : r.data.idempotency_records.length with
      | zero => simp [hn, RequestData.revisions] at hrevs
      | succ n =>
        rw [hn] at hrevs
        simp only [RequestData.revisions, List.range'_succ, List.map_cons,
          List.cons.injEq] at hrevs
        exact hrevs.1
    rw [← hrevs, List.map_cons, hone] at hchain
    obtain ⟨result, happly, hmethod, hreq, hrev, hrkeys, hlast, hhistory⟩ :=
      createOf_apply hex (x := x) hop hopen hone (hids x List.mem_cons_self ▸ h.1)
        (hsv x List.mem_cons_self)
    obtain ⟨hid, hids⟩ := List.forall_mem_cons.mp hids
    obtain ⟨cs, r', hcs, hrun, hr'⟩ := replay_records hex xs result.request hlast hhist.chain
      (by rw [hrev]; exact hchain) (fun y hy => by rw [hids y hy, hreq, hid])
      (by rw [hrkeys]; exact hkeys) (by rw [hreq, hid]; exact h.1)
      fun y hy => hsv y (List.mem_cons_of_mem _ hy)
    refine ⟨commandOf x.data.outcome.data x.data.idempotency_key, cs, r', hmethod, hcs,
      ⟨result, happly, hrun⟩, hsame r' ?_⟩
    rw [hr', hhistory]
    rfl

/-! ## The two descriptions agree -/

/-- **The validator is exact.** A value the constructor accepts is the result of
one create and accepted commands after it, up to fingerprints, exactly if it
encodes; and a call whose arguments normalize and whose guards pass is never
refused by the constructors. -/
theorem history_validator_exact (laws : P.NfkcLaws) (hex : P.HexDigest) :
    (∀ r : ServiceRequest P, r.Encodable ↔ ∃ first cs r', Command.isCreate first = true ∧
      (∀ c ∈ cs, Command.isCreate c = false) ∧ Reached first cs r' ∧ r.Same r') ∧
    (∀ (r : ServiceRequest P) (c : Command) (n : Normalized) (cl : Cleared P),
      c.normalize P = .ok n → r.clear n = .ok cl → ∃ result, c.apply P (some r) = .ok result) ∧
    (∀ (c : Command) (n : Normalized), c.isCreate = true → c.normalize P = .ok n →
      n.revision = 0 → ∃ result, c.apply P none = .ok result) := by
  refine ⟨fun r => ⟨reached_of_encodable hex r, ?_⟩, ?_, ?_⟩
  · rintro ⟨first, cs, r', -, -, hreached, hsame⟩
    have h := encodable_of_reached laws hex hreached
    rw [ServiceRequest.Encodable, ← hsame.request_id, ← hsame.services] at h
    exact h
  · intro r c n cl hn hcl
    obtain ⟨result, hresult⟩ := ServiceRequest.settle_ok laws hex hn hcl
    refine ⟨result, ?_⟩
    rw [Command.apply_some, bind_of_ok _ hn, bind_of_ok _ hcl]
    exact hresult
  · intro c n hcreate hn hrev
    obtain ⟨a, ha⟩ := Command.arguments_of_isCreate hcreate hn
    obtain ⟨result, hresult⟩ := ServiceRequest.buildFirst_ok laws hex hn ha
    exact ⟨result, Command.apply_none_of hn ha hrev hresult⟩

theorem history_validator_exact_ascii :
    asciiPython.NfkcLaws ∧ asciiPython.HexDigest ∧
      ∀ r : ServiceRequest asciiPython, r.Encodable ↔ ∃ first cs r',
        Command.isCreate first = true ∧ (∀ c ∈ cs, Command.isCreate c = false) ∧
          Reached first cs r' ∧ r.Same r' :=
  ⟨asciiPython_nfkcLaws, asciiPython_hexDigest,
    (history_validator_exact asciiPython_nfkcLaws asciiPython_hexDigest).1⟩

def surrogateOutcome : Outcome asciiPython where
  data :=
    { request_id := [chr 0xD800], operation := .CREATE, revision := 1, status := .OPEN
      services := [py "leak"], scheduled_start := .ofMinutes 60
      scheduled_end := .ofMinutes 120, applied_at := .ofMinutes 0 }
  valid := by decide

def surrogateRecord : Record asciiPython where
  data := ⟨py "call", List.replicate 64 (digit 0), surrogateOutcome⟩
  valid := by decide

/-- The constructors accept a lone surrogate. -/
def surrogateRequest : ServiceRequest asciiPython where
  data :=
    { request_id := [chr 0xD800], status := .OPEN, revision := 1, services := [py "leak"]
      scheduled_start := .ofMinutes 60
      scheduled_end := .ofMinutes 120, created_at := .ofMinutes 0
      updated_at := .ofMinutes 0, idempotency_records := [surrogateRecord] }
  valid := by decide

/-- No command can hash it. -/
theorem surrogate_request_unreachable :
    ¬ ∃ first cs, ∃ r' : ServiceRequest asciiPython,
      Reached first cs r' ∧ surrogateRequest.Same r' := by
  rintro ⟨first, cs, r', hreached, hsame⟩
  have h := (encodable_of_reached asciiPython_nfkcLaws asciiPython_hexDigest hreached).1
  rw [← hsame.request_id] at h
  exact absurd h (by decide)

end HeyKevin.L2
