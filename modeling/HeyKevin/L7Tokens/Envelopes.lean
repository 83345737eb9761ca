import HeyKevin.L7Tokens.Fencing
/-!
# Encrypted storage never downgrades

The write format is decided at every commit from what is stored: two envelopes
stay envelopes, and `token_envelope_required`, the floor, remembers that they
were envelopes once a disconnect has erased them. The settings of a call can
make it fail; they cannot bring plaintext back.

* `Record.Locked`: an envelope is stored, or the floor is set.
* `Record.Enveloped`: the floor is set, and whatever token is stored is an
  envelope.
* `storage_of_event`: what an event does to the three fields.
* `never_downgrades`: what that gives for a run.
-/
namespace HeyKevin.L7.Tokens

open HeyKevin.Core Binary64 L1 L1.Text L1.Datetime

namespace Record

def Locked (r : Record) : Prop :=
  (∃ d, r .accessToken = some (.dict d)) ∨ (∃ d, r .refreshToken = some (.dict d)) ∨
    r .tokenEnvelopeRequired = some (.bool true)

structure Enveloped (r : Record) : Prop where
  floor : r .tokenEnvelopeRequired = some (.bool true)
  accessToken : ∀ v ∈ r .accessToken, ∃ d, v = .dict d
  refreshToken : ∀ v ∈ r .refreshToken, ∃ d, v = .dict d

theorem Enveloped.locked {r : Record} (h : r.Enveloped) : r.Locked := .inr (.inr h.floor)

/-- The tokens and the floor of `s` are those of `r`. -/
structure SameStorage (r s : Record) : Prop where
  accessToken : s .accessToken = r .accessToken
  refreshToken : s .refreshToken = r .refreshToken
  floor : s .tokenEnvelopeRequired = r .tokenEnvelopeRequired

theorem SameStorage.refl (r : Record) : SameStorage r r := ⟨rfl, rfl, rfl⟩

theorem SameStorage.locked {r s : Record} (h : SameStorage r s) (hr : r.Locked) : s.Locked := by
  unfold Locked
  rw [h.accessToken, h.refreshToken, h.floor]
  exact hr

theorem SameStorage.enveloped {r s : Record} (h : SameStorage r s) (hr : r.Enveloped) :
    s.Enveloped :=
  ⟨h.floor.trans hr.floor, h.accessToken ▸ hr.accessToken, h.refreshToken ▸ hr.refreshToken⟩

theorem Locked.requiresFloor {r : Record} (h : r.Locked) : r.RequiresFloor := by
  have hdict : (∃ d, r .accessToken = some (.dict d)) ∨ (∃ d, r .refreshToken = some (.dict d)) →
      RequiresFloor.holdsDict r := by
    intro h
    rcases h with ⟨d, hd⟩ | ⟨d, hd⟩
    · exact .inl (by rw [get_of_some hd]; rfl)
    · exact .inr (by rw [get_of_some hd]; rfl)
  unfold RequiresFloor
  rcases h with h | h | h
  · split
    · exact .inr (hdict (.inl h))
    · exact hdict (.inl h)
  · split
    · exact .inr (hdict (.inr h))
    · exact hdict (.inr h)
  · rw [h]
    exact .inl (by decide)

end Record

/-! ## The policy -/

theorem determineWriteFormat_locked {vault : Vault} {r : Record} {format : WriteFormat}
    (hr : r.Locked) (h : determineWriteFormat vault (r.get .accessToken) (r.get .refreshToken)
      (r.get .tokenEnvelopeRequired) = .ok format) : format = .envelope := by
  have hr : (∃ d, r.get .accessToken = .dict d) ∨ (∃ d, r.get .refreshToken = .dict d) ∨
      r.get .tokenEnvelopeRequired = .bool true := by
    rcases hr with ⟨d, hd⟩ | ⟨d, hd⟩ | hf
    · exact .inl ⟨d, Record.get_of_some hd⟩
    · exact .inr (.inl ⟨d, Record.get_of_some hd⟩)
    · exact .inr (.inr (Record.get_of_some hf))
  generalize r.get .accessToken = a, r.get .refreshToken = b,
    r.get .tokenEnvelopeRequired = floor at hr h
  unfold determineWriteFormat at h
  cases floor with
  | none =>
    simp only [bind_eq_ok, pure_eq_ok] at h
    obtain ⟨active, -, h⟩ := h
    split at h
    · simp only [bind_eq_ok, Except.ok.injEq] at h
      obtain ⟨_, -, _, -, _, -, _, -, _, -, rfl⟩ := h
      rfl
    · cases h
    · cases h
    · simp at hr
    · simp at hr
    · cases h
  | bool required =>
    simp only [bind_eq_ok, pure_eq_ok] at h
    obtain ⟨active, -, h⟩ := h
    split at h
    · simp only [bind_eq_ok, Except.ok.injEq] at h
      obtain ⟨_, -, _, -, _, -, _, -, _, -, rfl⟩ := h
      rfl
    · cases h
    · cases h
    · obtain rfl : required = true := by simpa using hr
      simp only [bind_eq_ok, Except.ok.injEq] at h
      obtain ⟨_, -, _, -, rfl⟩ := h
      rfl
    · obtain rfl : required = true := by simpa using hr
      cases h
    · cases h
  | _ => cases h

theorem sealPair_locked {vault : Vault} {r : Record} {access refresh : Str} {format : WriteFormat}
    {x y : Value} (hr : r.Locked) (h : sealPair vault r access refresh = .ok (format, x, y)) :
    format = .envelope ∧ (∃ d, x = .dict d) ∧ ∃ d, y = .dict d := by
  simp only [sealPair, bind_eq_ok, mapError_eq_ok] at h
  obtain ⟨f, hf, h⟩ := h
  rw [determineWriteFormat_locked hr hf] at h
  simp only [bind_eq_ok, pure_eq_ok, Except.ok.injEq, Prod.mk.injEq] at h
  obtain ⟨d, -, e, -, rfl, rfl, rfl⟩ := h
  exact ⟨rfl, ⟨d, rfl⟩, ⟨e, rfl⟩⟩

/-! ## One step -/

/-- What the write format policy says to the call on `r`, where it is asked. -/
def Call.policy (r : Record) : Call → Option (Except Error WriteFormat)
  | .persist p => some (determineWriteFormat p.vault (r.get .accessToken) (r.get .refreshToken)
      (r.get .tokenEnvelopeRequired))
  | .connect c => some (determineWriteFormat c.vault (r.get .accessToken) (r.get .refreshToken)
      (r.get .tokenEnvelopeRequired))
  | _ => none

/-- The call stores tokens, or erases them. -/
def Call.WritesTokens : Call → Prop
  | .persist _ | .connect _ | .disconnect _ => True
  | _ => False

theorem sealPair_policy {vault : Vault} {r : Record} {a b : Str} {x : WriteFormat × Value × Value}
    (h : sealPair vault r a b = .ok x) {e : Error} :
    determineWriteFormat vault (r.get .accessToken) (r.get .refreshToken)
      (r.get .tokenEnvelopeRequired) ≠ .error e := by
  simp only [sealPair, bind_eq_ok, mapError_eq_ok] at h
  obtain ⟨f, hf, -⟩ := h
  rw [hf]
  exact fun h => by cases h

theorem persist_enveloped {p : Persist} {r s : Record} (h : persist p r = .ok s) (hr : r.Locked) :
    s.Enveloped := by
  obtain ⟨now, l, c, fp, format, access, refresh, expiry, -, -, -, -, -, -, -, -, ⟨a, b, hs⟩, rfl⟩ :=
    persist_spec h
  obtain ⟨rfl, ⟨d, rfl⟩, ⟨e, rfl⟩⟩ := sealPair_locked hr hs
  refine ⟨Record.update_set rfl, ?_, ?_⟩
  · intro v hv
    cases hv
    exact ⟨d, rfl⟩
  · intro v hv
    cases hv
    exact ⟨e, rfl⟩

theorem connect_enveloped {contractorId : Str} {c : Connect} {r : Record}
    {audits : Str → Option Dict} {s : Record} {auditId : Str} {audit : Dict}
    (h : connect contractorId c r audits = .ok (s, auditId, audit)) (hr : r.Locked) :
    s.Enveloped := by
  obtain ⟨now, l, st, format, access, refresh, expiry, -, -, -, -, -, -, -, ⟨a, b, hs⟩, rfl⟩ :=
    connect_spec h
  obtain ⟨rfl, ⟨d, rfl⟩, ⟨e, rfl⟩⟩ := sealPair_locked hr hs
  refine ⟨Record.update_set rfl, ?_, ?_⟩
  · intro v hv
    cases hv
    exact ⟨d, rfl⟩
  · intro v hv
    cases hv
    exact ⟨e, rfl⟩

theorem disconnect_enveloped {d : Disconnect} {r s : Record} (h : DisconnectSpec d r s)
    (hr : r.Locked) : s.Enveloped := by
  cases h with
  | tombstoned now l time lifecycle generation epoch fresh =>
    refine ⟨Record.update_set ?_, ?_, ?_⟩
    · simp only [tombstonePatch, deleteClaims, if_pos hr.requiresFloor]
    · intro v hv
      cases hv
    · intro v hv
      cases hv
  | already ht =>
    obtain ⟨-, -, -, -, -, hgone, -⟩ := ht
    have ha : r .accessToken = none := by simpa using hgone .accessToken (by decide)
    have hb : r .refreshToken = none := by simpa using hgone .refreshToken (by decide)
    refine ⟨?_, by simp [ha], by simp [hb]⟩
    rcases hr with ⟨d, hd⟩ | ⟨d, hd⟩ | hf
    · rw [ha] at hd
      cases hd
    · rw [hb] at hd
      cases hd
    · exact hf

/-- A commit leaves the tokens and the floor as they were, or writes them, and
then a locked record is enveloped. -/
theorem storage_of_body {contractorId : Str} {s s' : Store} {call : Call} {res : Result}
    (h : body contractorId s call = .ok (s', res)) :
    (call.WritesTokens ∧ (s.record.Locked → s'.record.Enveloped)) ∨
      (¬ call.WritesTokens ∧ Record.SameStorage s.record s'.record) := by
  cases call with
  | acquire a =>
    simp only [body, bind_eq_ok, pure_eq_ok, Except.ok.injEq] at h
    obtain ⟨⟨r, q⟩, hr, h⟩ := h
    cases h
    refine .inr ⟨id, ?_⟩
    cases acquire_spec hr with
    | quarantined now c time str => exact ⟨rfl, rfl, rfl⟩
    | reserved n now l fp lease time lifecycle fingerprint free kind bound =>
      exact ⟨rfl, rfl, rfl⟩
  | transition t =>
    simp only [body, bind_eq_ok, pure_eq_ok, Except.ok.injEq] at h
    obtain ⟨r, hr, h⟩ := h
    cases h
    obtain ⟨now, l, c, fp, -, -, -, -, -, rfl⟩ := transition_spec hr
    exact .inr ⟨id, rfl, rfl, rfl⟩
  | persist p =>
    simp only [body, bind_eq_ok, pure_eq_ok, Except.ok.injEq] at h
    obtain ⟨r, hr, h⟩ := h
    cases h
    exact .inl ⟨trivial, persist_enveloped hr⟩
  | connect c =>
    simp only [body, bind_eq_ok, pure_eq_ok, Except.ok.injEq] at h
    obtain ⟨⟨r, i, d⟩, hr, h⟩ := h
    cases h
    exact .inl ⟨trivial, connect_enveloped hr⟩
  | consume c =>
    simp only [body, Except.ok.injEq] at h
    cases h
    refine .inr ⟨id, ?_⟩
    unfold consume
    cases hd : consumeDecision contractorId c s.record with
    | error st => exact .refl _
    | ok x =>
      obtain ⟨e, l, fp, now⟩ := x
      cases e <;> exact ⟨rfl, rfl, rfl⟩
  | disconnect d =>
    simp only [body, bind_eq_ok, pure_eq_ok, Except.ok.injEq] at h
    obtain ⟨x, hx, h⟩ := h
    cases h
    exact .inl ⟨trivial, disconnect_enveloped (disconnect_spec hx).2⟩
  | recordOutcome c =>
    simp only [body, bind_eq_ok, pure_eq_ok, Except.ok.injEq] at h
    obtain ⟨t, ht, h⟩ := h
    cases h
    rw [recordOutcome_record ht]
    exact .inr ⟨id, .refl _⟩
  | finalize c =>
    simp only [body, bind_eq_ok, pure_eq_ok, Except.ok.injEq] at h
    obtain ⟨t, ht, h⟩ := h
    cases h
    rw [finalize_record ht]
    exact .inr ⟨id, .refl _⟩

/-- A call that the policy refuses raises. -/
theorem not_ok_of_policy {contractorId : Str} {s : Store} {call : Call} {e : Error}
    (h : call.policy s.record = some (.error e)) (x : Store × Result) :
    body contractorId s call ≠ .ok x := by
  intro hx
  cases call with
  | persist p =>
    simp only [body, bind_eq_ok, pure_eq_ok, Except.ok.injEq] at hx
    obtain ⟨r, hr, -⟩ := hx
    obtain ⟨now, l, c, fp, format, access, refresh, expiry, -, -, -, -, -, -, -, -, ⟨a, b, hs⟩, -⟩ :=
      persist_spec hr
    exact sealPair_policy hs (Option.some.inj h)
  | connect c =>
    simp only [body, bind_eq_ok, pure_eq_ok, Except.ok.injEq] at hx
    obtain ⟨⟨r, i, d⟩, hr, -⟩ := hx
    obtain ⟨now, l, st, format, access, refresh, expiry, -, -, -, -, -, -, -, ⟨a, b, hs⟩, -⟩ :=
      connect_spec hr
    exact sealPair_policy hs (Option.some.inj h)
  | _ => cases h

theorem aborts_of_policy {contractorId : Str} {s : Store} {call : Call} {e : Error}
    (h : call.policy s.record = some (.error e)) :
    ¬ Commits ((step contractorId).event s call) ∧ (step contractorId s call).1 = s := by
  unfold Commits
  rw [Machine.event_resp]
  unfold step
  cases hb : body contractorId s call with
  | error e =>
    refine ⟨?_, rfl⟩
    rintro ⟨res, hres⟩
    cases hres
  | ok x => exact absurd hb (not_ok_of_policy h x)

/-! ## Runs -/

theorem storage_of_event (contractorId : Str) (s : Store) (call : Call) :
    (Commits ((step contractorId).event s call) ∧ call.WritesTokens ∧
        (s.record.Locked → (step contractorId s call).1.record.Enveloped)) ∨
      (¬ (Commits ((step contractorId).event s call) ∧ call.WritesTokens) ∧
        Record.SameStorage s.record (step contractorId s call).1.record) := by
  unfold Commits
  rw [Machine.event_resp]
  unfold step
  cases h : body contractorId s call with
  | error e =>
    refine .inr ⟨?_, .refl _⟩
    intro hc
    obtain ⟨res, hres⟩ := hc.1
    cases hres
  | ok x =>
    rcases storage_of_body (show body contractorId s call = .ok (x.1, x.2) from h) with
      ⟨hw, hl⟩ | ⟨hw, hs⟩
    · exact .inl ⟨⟨_, rfl⟩, hw, hl⟩
    · exact .inr ⟨fun hc => hw hc.2, hs⟩

/-- The step leaves a locked record locked. -/
theorem locked_step {contractorId : Str} (s : Store) (call : Call) (h : s.record.Locked) :
    (step contractorId s call).1.record.Locked := by
  rcases storage_of_event contractorId s call with ⟨-, -, hl⟩ | ⟨-, hs⟩
  · exact (hl h).locked
  · exact hs.locked h

theorem enveloped_step {contractorId : Str} (s : Store) (call : Call) (h : s.record.Enveloped) :
    (step contractorId s call).1.record.Enveloped := by
  rcases storage_of_event contractorId s call with ⟨-, -, hl⟩ | ⟨-, hs⟩
  · exact hl h.locked
  · exact hs.enveloped h

/-- What holds of the calls made on a store, each with settings of its own. -/
structure NeverDowngrades (contractorId : Str) (s : Store) (calls : List Call) : Prop where
  /-- From the first commit that writes the tokens of a locked record on, the
  floor is set and no token is plaintext. -/
  enveloped : s.record.Locked → ∀ l₁ e l₂, (step contractorId).log s calls = l₁ ++ e :: l₂ →
    Commits e → e.call.WritesTokens → ∀ f ∈ e :: l₂, f.post.record.Enveloped
  /-- No other event touches the tokens or the floor. -/
  kept : ∀ e ∈ (step contractorId).log s calls, ¬ (Commits e ∧ e.call.WritesTokens) →
    Record.SameStorage e.pre.record e.post.record
  /-- A refusal of the policy aborts the transaction. -/
  aborted : ∀ e ∈ (step contractorId).log s calls, ∀ err,
    e.call.policy e.pre.record = some (.error err) → ¬ Commits e ∧ e.post = e.pre

theorem never_downgrades (contractorId : Str) (s : Store) (calls : List Call) :
    NeverDowngrades contractorId s calls where
  enveloped hs l₁ e l₂ hl hc hw f hf := by
    obtain ⟨cs₁, call, cs₂, -, -, rfl, rfl⟩ := (step contractorId).log_eq_append_cons hl
    set t := (step contractorId).run s cs₁ with ht
    have locked : t.record.Locked :=
      (step contractorId).reachable_inv (I := fun t => t.record.Locked) hs locked_step ⟨cs₁, rfl⟩
    have first : (step contractorId t call).1.record.Enveloped := by
      rcases storage_of_event contractorId t call with ⟨-, -, he⟩ | ⟨hn, -⟩
      · exact he locked
      · exact absurd ⟨hc, hw⟩ hn
    rcases List.mem_cons.mp hf with rfl | hf
    · exact first
    · exact ((step contractorId).log_pre (I := fun t => t.record.Enveloped) first
        enveloped_step hf).2
  kept e he hn := by
    obtain ⟨cs₁, call, -, -, rfl⟩ := (step contractorId).mem_log he
    rcases storage_of_event contractorId ((step contractorId).run s cs₁) call with
      ⟨hc, hw, -⟩ | ⟨-, hs⟩
    · exact absurd ⟨hc, hw⟩ hn
    · exact hs
  aborted e he err hp := by
    obtain ⟨cs₁, call, -, -, rfl⟩ := (step contractorId).mem_log he
    exact aborts_of_policy hp

end HeyKevin.L7.Tokens
