import HeyKevin.Core.Machine
import HeyKevin.L2Domain.History
import HeyKevin.L1Encoding.Sha256
import Mathlib.Data.Set.Function
/-!
# Commands apply once

Any sequence of commands on one aggregate, accepted or rejected, as runs of
the machine `aggregate`.

* `ServiceRequest.HashedIn`: where the fingerprints of an aggregate come from,
  and why they are distinct.
* `Answered`: every accepted call still has its record.
* `commands_exactly_once`: fingerprints stay distinct, retries replay, reused
  keys conflict, stale commands change nothing.
-/
namespace HeyKevin.L2

open HeyKevin.Core L1 L1.Text L1.Datetime

variable (P : Python)

/-- A command on the current aggregate; an exception leaves it as it is. -/
def aggregate : Machine (Option (ServiceRequest P)) Command (Except Err (CommandResult P)) :=
  fun s c =>
    match c.apply P s with
    | .ok result => (some result.request, .ok result)
    | .error e => (s, .error e)

namespace Command

def envelope : Command → Envelope
  | create _ _ _ _ e => e
  | cancel e => e
  | reschedule _ _ e => e
  | addService _ e => e

def arguments : Command → Except Err Arguments
  | create request_id services start stop _ => do
    let a ← normalizeCreate P request_id services start stop
    return .create a
  | cancel _ => return .cancel
  | reschedule start stop _ => do
    let (start, stop) ← normalizeSchedule start stop
    return .reschedule start stop
  | addService service _ => do
    let service ← normalizeServiceLabel P service
    return .addService service

/-- Normalized arguments, expected revision and key: everything but the time. -/
def identity (c : Command) : Except Err (Arguments × ℤ × Str) := do
  let arguments ← c.arguments P
  let revision ← normalizeExpectedRevision c.envelope.expected_revision
  let key ← normalizeIdentifier c.envelope.idempotency_key "idempotency_key"
    MAX_IDEMPOTENCY_KEY_LENGTH
  return (arguments, revision, key)

/-- The bytes that the fingerprint hashes. -/
def material (c : Command) : Except Err (List Byte) := do
  let n ← c.normalize P
  let payload ← n.arguments.payload
  require (encodeUtf8 (commandText n.arguments.operation n.revision payload)) .unicodeEncode

end Command

/-- What a run of commands hashes. -/
def materials (cs : List Command) : List (List Byte) :=
  cs.filterMap fun c => (c.material P).toOption

variable {P}

/-! ## One call -/

namespace Command

variable {c : Command} {n : Normalized}

theorem normalize_eq (c : Command) : c.normalize P = (do
    let arguments ← c.arguments P
    normalizeEnvelope P arguments c.envelope) := by
  cases c <;> simp only [normalize, arguments, envelope, bind_assoc, pure_bind]

theorem normalize_eq_ok : c.normalize P = .ok n ↔
    c.identity P = .ok (n.arguments, n.revision, n.key) ∧
      normalizeUtc c.envelope.occurred_at "occurred_at" = .ok n.applied_at ∧
      ∃ payload, n.arguments.payload = .ok payload ∧
        commandFingerprint P n.arguments.operation n.revision payload = .ok n.fingerprint := by
  simp only [normalize_eq, identity, normalizeEnvelope, bind_eq_ok, pure_eq_ok, Except.ok.injEq,
    Prod.mk.injEq]
  constructor
  · rintro ⟨a, ha, rev, hrev, key, hkey, t, ht, payload, hp, fp, hfp, rfl⟩
    exact ⟨⟨a, ha, rev, hrev, key, hkey, rfl, rfl, rfl⟩, ht, payload, hp, hfp⟩
  · rintro ⟨⟨a, ha, rev, hrev, key, hkey, rfl, rfl, rfl⟩, ht, payload, hp, hfp⟩
    exact ⟨_, ha, _, hrev, _, hkey, _, ht, payload, hp, _, hfp, rfl⟩

theorem identity_revision {a : Arguments} {revision : ℤ} {key : Str}
    (h : c.identity P = .ok (a, revision, key)) :
    revision = c.envelope.expected_revision ∧ key = strip c.envelope.idempotency_key := by
  simp only [identity, bind_eq_ok, normalizeExpectedRevision_eq_ok, normalizeIdentifier_eq_ok,
    pure_eq_ok, Except.ok.injEq, Prod.mk.injEq] at h
  obtain ⟨_, -, _, ⟨-, rfl⟩, _, ⟨rfl, -⟩, -, rfl, rfl⟩ := h
  exact ⟨rfl, rfl⟩

theorem normalize_of_identity {c' : Command} (hn : c.normalize P = .ok n)
    (hid : c'.identity P = c.identity P) {t : DateTime}
    (ht : normalizeUtc c'.envelope.occurred_at "occurred_at" = .ok t) :
    c'.normalize P = .ok { n with applied_at := t } := by
  obtain ⟨hcid, -, hfp⟩ := normalize_eq_ok.mp hn
  exact normalize_eq_ok.mpr ⟨hid.trans hcid, ht, hfp⟩

theorem material_of (hn : c.normalize P = .ok n) : ∃ payload bs,
    c.material P = .ok bs ∧
      encodeUtf8 (commandText n.arguments.operation n.revision payload) = some bs ∧
      P.sha256 bs = n.fingerprint := by
  obtain ⟨payload, hp, hfp⟩ := normalize_fingerprint hn
  obtain ⟨bs, hbs, hsha⟩ := hashText_eq_ok.mp hfp
  refine ⟨payload, bs, ?_, hbs, hsha⟩
  rw [material, bind_of_ok _ hn, bind_of_ok _ hp]
  exact require_eq_ok.mpr hbs

end Command

theorem injOn_of_forall {α β : Type*} {f : α → β} {l : List α}
    (h : ∀ a ∈ l, ∀ b ∈ l, f a = f b → a = b) : Set.InjOn f {a | a ∈ l} :=
  fun a ha b hb => h a ha b hb

theorem mem_materials {cs : List Command} {c : Command} {bs : List Byte} (hc : c ∈ cs)
    (h : c.material P = .ok bs) : bs ∈ materials P cs :=
  List.mem_filterMap.mpr ⟨c, hc, by rw [h]; rfl⟩

theorem aggregate_cases (s : Option (ServiceRequest P)) (c : Command) :
    (∃ e, aggregate P s c = (s, .error e)) ∨
    ∃ result, c.apply P s = .ok result ∧
      aggregate P s c = (some result.request, .ok result) := by
  cases h : c.apply P s with
  | error e => exact .inl ⟨e, by simp only [aggregate, h]⟩
  | ok result => exact .inr ⟨result, rfl, by simp only [aggregate, h]⟩

/-! ## What was hashed -/

/-- Every fingerprint is the digest of a text in `S` that states the revision
its command expected. -/
def ServiceRequest.HashedIn (S : Set (List Byte)) (r : ServiceRequest P) : Prop :=
  ∀ x ∈ r.data.idempotency_records, ∃ operation payload, ∃ bs ∈ S,
    encodeUtf8 (commandText operation (x.data.outcome.data.revision - 1) payload) = some bs ∧
      P.sha256 bs = x.data.command_fingerprint

theorem Command.Applied.hashedIn {S : Set (List Byte)} {s : Option (ServiceRequest P)}
    {c : Command} {n : Normalized} {result : CommandResult P} (h : Command.Applied s n result)
    (hn : c.normalize P = .ok n) (hs : ∀ r, s = some r → r.HashedIn S)
    (hc : ∀ bs, c.material P = .ok bs → bs ∈ S) : result.request.HashedIn S := by
  obtain ⟨record, hrecord, hrecords⟩ := h.records
  rw [ServiceRequest.HashedIn, hrecords]
  refine List.forall_mem_append.mpr ⟨?_, fun x hx => ?_⟩
  · cases s with
    | none => exact fun _ hx => absurd hx List.not_mem_nil
    | some r => exact hs r rfl
  · obtain ⟨payload, bs, hm, henc, hsha⟩ := Command.material_of hn
    rw [List.mem_singleton.mp hx, hrecord]
    refine ⟨n.arguments.operation, payload, bs, hc bs hm, ?_, hsha⟩
    simp only
    rw [h.outcome_revision, add_sub_cancel_right]
    exact henc

theorem Command.apply_hashedIn {S : Set (List Byte)} {s : Option (ServiceRequest P)} {c : Command}
    {result : CommandResult P} (h : c.apply P s = .ok result)
    (hs : ∀ r, s = some r → r.HashedIn S) (hc : ∀ bs, c.material P = .ok bs → bs ∈ S) :
    result.request.HashedIn S := by
  obtain ⟨n, hn, ⟨r, rfl, record, -, -, -, rfl⟩ | happlied⟩ := apply_cases h
  · exact hs r rfl
  · exact happlied.hashedIn hn hs hc

/-- Without a collision the fingerprints of an aggregate are distinct: equal
ones would come from one text, hence expect one revision. -/
theorem ServiceRequest.HashedIn.nodup {S : Set (List Byte)} (hinj : Set.InjOn P.sha256 S)
    {r : ServiceRequest P} (h : r.HashedIn S) :
    (r.data.idempotency_records.map fun x => x.data.command_fingerprint).Nodup := by
  refine List.pairwise_map.mpr ((List.pairwise_map.mp r.isValid.record_revisions.1).imp_of_mem ?_)
  intro a b ha hb hne heq
  obtain ⟨_, _, bs, hbs, henc, hsha⟩ := h a ha
  obtain ⟨_, _, bs', hbs', henc', hsha'⟩ := h b hb
  obtain rfl : bs = bs' := hinj hbs hbs' (by rw [hsha, hsha', heq])
  have := revision_of_commandText (encodeUtf8_inj henc henc')
  exact hne (by omega)

/-! ## Retries and conflicts -/

theorem ServiceRequest.replay_of_mem {r : ServiceRequest P} {record : Record P} (hmem : record ∈ r.data.idempotency_records) {key : Str}
    (hkey : record.data.idempotency_key = key) (fingerprint : Str) :
    r.replay key fingerprint = if record.data.command_fingerprint = fingerprint
      then .ok (some ⟨r, record.data.outcome⟩)
      else .error (.idempotencyConflict
        "idempotency key was already used for a different command") := by
  have hfind : (r.data.idempotency_records.find? fun item => item.data.idempotency_key = key) =
      some record := by
    have hsome : (r.data.idempotency_records.find? fun item =>
        item.data.idempotency_key = key).isSome :=
      List.find?_isSome.mpr ⟨record, hmem, by simpa using hkey⟩
    obtain ⟨other, hother⟩ := Option.isSome_iff_exists.mp hsome
    rw [hother]
    have hsame : other.data.idempotency_key = record.data.idempotency_key := by
      rw [hkey]
      simpa using List.find?_some hother
    exact congrArg some
      (List.inj_on_of_nodup_map r.isValid.keys (List.mem_of_find?_eq_some hother) hmem hsame)
  rw [replay, hfind]
  by_cases h : record.data.command_fingerprint = fingerprint <;> simp [h]

theorem aggregate_replay {r : ServiceRequest P} {record : Record P}
    (hmem : record ∈ r.data.idempotency_records) {c : Command} {n : Normalized}
    (hn : c.normalize P = .ok n) (hkey : record.data.idempotency_key = n.key)
    (hfp : record.data.command_fingerprint = n.fingerprint) :
    aggregate P (some r) c = (some r, .ok ⟨r, record.data.outcome⟩) := by
  have hreplay := ServiceRequest.replay_of_mem hmem hkey n.fingerprint
  rw [if_pos hfp] at hreplay
  have happly : c.apply P (some r) = .ok ⟨r, record.data.outcome⟩ := by
    rw [Command.apply_some, bind_of_ok _ hn]
    simp only [ServiceRequest.clear, hreplay, ok_bind, pure_eq_ok, ServiceRequest.settle]
  simp only [aggregate, happly]

theorem aggregate_conflict {r : ServiceRequest P} {record : Record P}
    (hmem : record ∈ r.data.idempotency_records) {c : Command} {n : Normalized}
    (hn : c.normalize P = .ok n) (hkey : record.data.idempotency_key = n.key)
    (hfp : record.data.command_fingerprint ≠ n.fingerprint) :
    aggregate P (some r) c = (some r, .error (.idempotencyConflict
      "idempotency key was already used for a different command")) := by
  have hreplay := ServiceRequest.replay_of_mem hmem hkey n.fingerprint
  rw [if_neg hfp] at hreplay
  have happly : c.apply P (some r) = .error (.idempotencyConflict
      "idempotency key was already used for a different command") := by
    rw [Command.apply_some, bind_of_ok _ hn]
    simp only [ServiceRequest.clear, hreplay, error_bind]
  simp only [aggregate, happly]

/-! ## Runs -/

/-- Every accepted call of the log still has its record in the aggregate it left. -/
def Answered (es : List (Event (Option (ServiceRequest P)) Command (Except Err (CommandResult P))))
    (s : Option (ServiceRequest P)) : Prop :=
  ∀ e ∈ es, ∀ result, e.resp = .ok result → ∃ n, e.call.normalize P = .ok n ∧
    ∃ record ∈ recordsOf s, record.data.idempotency_key = n.key ∧
      record.data.command_fingerprint = n.fingerprint ∧ record.data.outcome = result.outcome

theorem Answered.step {es : List (Event (Option (ServiceRequest P)) Command
    (Except Err (CommandResult P)))} {s : Option (ServiceRequest P)} (h : Answered es s)
    (c : Command) :
    Answered (es ++ [Machine.event (aggregate P) s c]) (aggregate P s c).1 := by
  rcases aggregate_cases s c with ⟨err, hstep⟩ | ⟨result, happly, hstep⟩
  · rw [hstep]
    refine List.forall_mem_append.mpr ⟨h, fun e he result hresp => ?_⟩
    rw [List.mem_singleton.mp he, Machine.event_resp, hstep] at hresp
    cases hresp
  · obtain ⟨n, hn, ⟨r, rfl, record, hmem, hkey, hfp, rfl⟩ | happlied⟩ := Command.apply_cases happly
    · rw [hstep]
      refine List.forall_mem_append.mpr ⟨h, fun e he result hresp => ?_⟩
      rw [List.mem_singleton.mp he] at hresp ⊢
      rw [Machine.event_resp, hstep] at hresp
      cases hresp
      exact ⟨n, hn, record, hmem, hkey, hfp, rfl⟩
    · obtain ⟨record, hrecord, hrecords⟩ := happlied.records
      have hpost : recordsOf (aggregate P s c).1 = recordsOf s ++ [record] := by
        rw [hstep]; exact hrecords
      rw [Answered, hpost]
      refine List.forall_mem_append.mpr ⟨fun e he result hresp => ?_, fun e he result hresp => ?_⟩
      · obtain ⟨n', hn', x, hx, hrest⟩ := h e he result hresp
        exact ⟨n', hn', x, List.mem_append_left _ hx, hrest⟩
      · rw [List.mem_singleton.mp he] at hresp ⊢
        rw [Machine.event_resp, hstep] at hresp
        cases hresp
        exact ⟨n, hn, record, List.mem_append_right _ List.mem_cons_self, by rw [hrecord],
          by rw [hrecord], by rw [hrecord]⟩

theorem answered_run (cs : List Command) :
    Answered (Machine.log (aggregate P) none cs) (Machine.run (aggregate P) none cs) :=
  (aggregate P).log_inv (G := fun _ => True) (I := Answered)
    (fun _ h => absurd h List.not_mem_nil) (fun _ _ c h _ => h.step c) cs fun _ _ => trivial

theorem hashedIn_run (cs : List Command) : ∀ r, Machine.run (aggregate P) none cs = some r →
    r.HashedIn {bs | bs ∈ materials P cs} := by
  refine (aggregate P).run_inv (G := fun e => e.call ∈ cs)
    (I := fun s => ∀ r, s = some r → r.HashedIn {bs | bs ∈ materials P cs})
    (fun _ h => by cases h) ?_ cs fun e he => Machine.call_mem_of_mem_log (aggregate P) he
  intro s c hs hc r hr
  rcases aggregate_cases s c with ⟨err, hstep⟩ | ⟨result, happly, hstep⟩
  · rw [hstep] at hr
    exact hs r hr
  · rw [hstep] at hr
    cases hr
    exact Command.apply_hashedIn happly hs fun bs hbs => mem_materials hc hbs

theorem nodup_fingerprints {cs : List Command}
    (hinj : Set.InjOn P.sha256 {bs | bs ∈ materials P cs}) :
    ((recordsOf (Machine.run (aggregate P) none cs)).map
      fun x => x.data.command_fingerprint).Nodup := by
  have h := hashedIn_run (P := P) cs
  generalize Machine.run (aggregate P) none cs = s at h
  cases s with
  | none => exact List.nodup_nil
  | some r => exact (h r rfl).nodup hinj

/-- **Commands apply once.** In every aggregate that a run of calls from nothing
reaches, the fingerprints of the records are distinct (if SHA-256 has no
collision among what the run hashed); a call with the identity of an accepted
one, at any aware time in range, replays its outcome; another fingerprint under
a recorded key is a conflict; and a call at another revision under a new key
changes nothing. -/
theorem commands_exactly_once (cs : List Command)
    (hinj : Set.InjOn P.sha256 {bs | bs ∈ materials P cs}) :
    let s := Machine.run (aggregate P) none cs
    ((recordsOf s).map fun x => x.data.command_fingerprint).Nodup ∧
    (∀ e ∈ Machine.log (aggregate P) none cs, ∀ result, e.resp = .ok result → ∀ c,
      c.identity P = e.call.identity P → c.envelope.occurred_at.offset.isSome →
      c.envelope.occurred_at.astimezoneUtc.isSome →
      ∃ r, s = some r ∧ aggregate P s c = (s, .ok ⟨r, result.outcome⟩)) ∧
    (∀ record ∈ recordsOf s, ∀ c n, c.normalize P = .ok n →
      record.data.idempotency_key = n.key → record.data.command_fingerprint ≠ n.fingerprint →
      aggregate P s c = (s, .error (.idempotencyConflict
        "idempotency key was already used for a different command"))) ∧
    (∀ c, c.envelope.expected_revision ≠ revisionOf s →
      strip c.envelope.idempotency_key ∉ keysOf s → (aggregate P s c).1 = s) := by
  intro s
  have hanswered : Answered _ s := answered_run cs
  refine ⟨nodup_fingerprints hinj, ?_, ?_, ?_⟩
  · intro e he result hresp c hid haware hrange
    obtain ⟨n, hn, record, hmem, hkey, hfp, hout⟩ := hanswered e he result hresp
    obtain ⟨t, ht⟩ := Option.isSome_iff_exists.mp hrange
    have hn' := Command.normalize_of_identity hn hid (normalizeUtc_eq_ok.mpr ⟨haware, ht⟩)
    generalize s = s at hmem
    cases s with
    | none => cases hmem
    | some r => exact ⟨r, rfl, by rw [aggregate_replay hmem hn' hkey hfp, hout]⟩
  · intro record hmem c n hn hkey hfp
    generalize s = s at hmem
    cases s with
    | none => cases hmem
    | some r => exact aggregate_conflict hmem hn hkey hfp
  · intro c hrev _
    rcases aggregate_cases s c with ⟨e, hstep⟩ | ⟨result, happly, hstep⟩
    · rw [hstep]
    · obtain ⟨n, hn, ⟨r, hs, record, -, -, -, rfl⟩ | happlied⟩ := Command.apply_cases happly
      · rw [hstep, hs]
      · have := (Command.identity_revision (Command.normalize_eq_ok.mp hn).1).1
        exact absurd (this.symm.trans happlied.revision) hrev

def exampleCreate (occurred_at : DateTime) : Command :=
  .create (py "CA1") [py " Water  heater"] (.ofMinutes 60) (.ofMinutes 120)
    ⟨0, py "call-1 ", occurred_at⟩

def exampleTime : DateTime := .ofMinutes 1

def naiveTime : DateTime := { DateTime.ofMinutes 3 with offset := none }

def exampleCalls : List Command :=
  [exampleCreate exampleTime, exampleCreate (.ofMinutes 3),
    .cancel ⟨1, py "call-2", .ofMinutes 4⟩]

theorem commands_exactly_once_exampleCalls :
    ((recordsOf (Machine.run (aggregate asciiPython) none exampleCalls)).map
      fun x => x.data.command_fingerprint).Nodup :=
  (commands_exactly_once exampleCalls (injOn_of_forall (by decide +kernel))).1

/-- The time is normalized before the key is looked up: a retry with a naive
`occurred_at` is rejected. -/
theorem naive_retry_rejected :
    ¬ ∀ c : Command, c.identity asciiPython = (exampleCreate exampleTime).identity asciiPython →
      ∃ r outcome, aggregate asciiPython
        (Machine.run (aggregate asciiPython) none [exampleCreate exampleTime]) c =
          (some r, .ok ⟨r, outcome⟩) := by
  intro h
  obtain ⟨r, outcome, hstep⟩ := h (exampleCreate naiveTime) (by decide)
  have hfail : (aggregate asciiPython
      (Machine.run (aggregate asciiPython) none [exampleCreate exampleTime])
      (exampleCreate naiveTime)).2 = .error (.validation "occurred_at must be timezone-aware") := by
    decide
  exact nomatch hfail.symm.trans (congrArg Prod.snd hstep)

end HeyKevin.L2
