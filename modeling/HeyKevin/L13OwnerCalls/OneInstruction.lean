import HeyKevin.L13OwnerCalls.Messages
/-!
# One instruction, and never lost

* `Foreign`: what the other actions on the call leave alone.
* `step_record`: a step leaves the record, acts on no message claim,
  acknowledges one, or writes the projection.
* `Held`, `Kept`: a message claim stays as it is under every step, but for
  its status.
* `instructed`: what holds of every run on one call.
-/
namespace HeyKevin.L13.Messages

open HeyKevin.Core Binary64 L1 L1.Text

variable {callSid : Str} {nonce : ℕ → Str}

abbrev LogEvent := Event World Action Effect

/-! ## Message claims -/

/-- The record holds this decline or timeout, in one of these statuses. -/
structure Held (c : Claim) (statuses : List String) (d : Record) : Prop where
  action : d.get "owner_action" = .str c.action
  message : c.action = py "decline" ∨ c.action = py "timeout"
  operation : d.get "owner_operation_id" = .str c.operationId
  nonce : d.get "claim_nonce" = .str c.claimNonce
  status : isOneOf (d.get "owner_action_status") statuses = true

def World.Holds (w : World) (c : Claim) (statuses : List String) : Prop :=
  ∃ d, w.record = some d ∧ Held c statuses d

/-- The status is `taking_message`. -/
def World.Taking (w : World) : Prop :=
  ∃ d, w.record = some d ∧ d.get "owner_action_status" = .text "taking_message"

/-- But for the status and the projection, the record is the same. -/
def Kept (d d' : Record) : Prop :=
  ∀ k, k ≠ "owner_action_status" → k ≠ "action_acknowledged_at" →
    k ≠ "legacy_command_projection" → d'.get k = d.get k

def Action.publisher : Action → Option ℕ
  | .publish p .. | .reserve p .. | .check p .. | .write p .. | .finishProjection p .. => some p
  | _ => none

structure Instructed (log : List LogEvent) : Prop where
  /-- At most one projection is reserved. -/
  reservedOnce : ∀ l₁ a l₂ f l₃ p q, log = l₁ ++ a :: l₂ ++ f :: l₃ → a.resp = .reserved p →
    f.resp ≠ .reserved q
  /-- At most one command is written. -/
  writtenOnce : ∀ l₁ a l₂ f l₃ p q command command', log = l₁ ++ a :: l₂ ++ f :: l₃ →
    a.resp = .wrote p command → f.resp ≠ .wrote q command'
  /-- What is written is the stored decline or timeout. -/
  written : ∀ e ∈ log, ∀ p command, e.resp = .wrote p command →
    e.post.command = some (.dict command) ∧ isEnriched command = true ∧
      ∃ c, e.post.Holds c requestedOrTaking ∧ command.get "operation_id" = .str c.operationId ∧
        command.get "action" = .str c.action ∧ command.get "claim_nonce" = .str c.claimNonce
  /-- A bare command becomes a claim only where no owner acted. -/
  adopted : ∀ e ∈ log, ∀ i, e.resp = .adopted i →
    (∃ d, e.pre.record = some d ∧ (d.get "owner_action").truthy = false) ∧
      ∃ n, e.post.Holds ⟨py "legacy_decline", py "decline", n⟩ requested
  /-- Elsewhere an adoption leaves the record. -/
  notAdopted : ∀ e ∈ log, ∀ i n now later answer, e.call = .adopt i n now later answer →
    e.resp ≠ .adopted i → e.post.record = e.pre.record
  /-- What is delivered is the stored decline or timeout. -/
  delivered : ∀ e ∈ log, ∀ i key, e.resp = .delivered i key →
    e.post.Holds key.claim requestedOrTaking
  /-- A message is being taken once the pipeline that says so has delivered the same claim, and
  this stays. -/
  taking : ∀ l₁ e l₂, log = l₁ ++ e :: l₂ → e.post.Taking → ¬ e.pre.Taking →
    ∃ i key, e.resp = .acknowledged i key ∧ e.pre.Holds key.claim requested ∧
      (∃ a ∈ l₁, a.resp = .delivered i key) ∧
      ∀ f ∈ e :: l₂, f.post.Holds key.claim ["taking_message"]
  /-- A claim that waits for its message is not lost, whoever deletes or replaces the command. -/
  kept : ∀ l₁ a l₂ f l₃ c d, log = l₁ ++ a :: l₂ ++ f :: l₃ → a.post.record = some d →
    Held c requestedOrTaking d →
    ∃ d', f.post.record = some d' ∧ Held c requestedOrTaking d' ∧ Kept d d'

/-! ## What an intent shows -/

/-- A wanted text is the one that is there. -/
theorem eq_of_allows {s t : Str} (h : allows (.str s) (.str t) = true) : t = s := by
  simpa [allows, isNone] using Value.eq_str (v := .str t) (s := s) h

/-- An intent is the decline or the timeout that the record holds. -/
theorem messageIntentFromRecord_eq_some {record : Option Record} {contractorId : Value}
    {statuses : List String} {operationId action claimNonce : Value} {wsToken : Str}
    {conferenceName : Value} {now : Double} {i : Intent}
    (h : messageIntentFromRecord record contractorId statuses operationId action claimNonce wsToken
      conferenceName now = some i) :
    (∃ d, record = some d ∧ Held i.claim statuses d) ∧
      allows operationId (.str i.claim.operationId) = true ∧
      allows action (.str i.claim.action) = true ∧
      allows claimNonce (.str i.claim.claimNonce) = true := by
  unfold messageIntentFromRecord at h
  split at h
  · rename_i d contractor
    split at h
    · cases h
    · rename_i hlive
      split at h
      · split at h
        · rename_i a o n ha ho hn
          split at h
          · cases h
          · rename_i hmatch
            split at h
            · rename_i hallowed
              cases h
              simp only [not_or, Bool.not_eq_false, not_and, not_not] at hlive hmatch
              simp only [Bool.and_eq_true] at hallowed
              refine ⟨⟨d, rfl, (Value.isStr_iff _ _).mp hmatch.2.2.2.1, ?_,
                (Value.isStr_iff _ _).mp hmatch.2.2.2.2.2.1, hn, hlive.2.2.2.2⟩,
                hallowed.1.1.1.1, hallowed.1.1.1.2, hallowed.1.1.2⟩
              exact Decidable.or_iff_not_imp_left.mpr hmatch.2.2.1
            · cases h
        · cases h
      · cases h
  · cases h

/-- What is read of a wanted claim is that claim. -/
theorem messageIntentFromRecord_claim {record : Option Record} {contractorId : Value}
    {statuses : List String} {c : Claim} {wsToken : Str} {conferenceName : Value} {now : Double}
    {i : Intent}
    (h : messageIntentFromRecord record contractorId statuses (.str c.operationId) (.str c.action)
      (.str c.claimNonce) wsToken conferenceName now = some i) :
    i.claim = c ∧ ∃ d, record = some d ∧ Held c statuses d := by
  obtain ⟨hheld, hop, haction, hnonce⟩ := messageIntentFromRecord_eq_some h
  have hclaim : i.claim = c :=
    Claim.ext (eq_of_allows hop) (eq_of_allows haction) (eq_of_allows hnonce)
  exact ⟨hclaim, hclaim ▸ hheld⟩

/-! ## What a transaction does to the record -/

/-- The callback acts on no message claim, and leaves the projection. -/
structure Foreign (d d' : Record) : Prop where
  claim : (d.get "owner_action").truthy = false ∨
    isOneOf (d.get "owner_action_status") ["accepting", "uncertain"] = true
  projection : d'.get "legacy_command_projection" = d.get "legacy_command_projection"
  status : d'.get "owner_action_status" = .text "taking_message" →
    d.get "owner_action_status" = .text "taking_message"

theorem reduceActiveCallAction_foreign {d' : Record} {current : Option Record}
    {action : OwnerAction} {contractorId operationId claimNonce name : Str} {now : Double}
    (h : reduceActiveCallAction current action contractorId operationId claimNonce name now =
      some d') : ∃ d, current = some d ∧ Foreign d d' := by
  unfold reduceActiveCallAction at h
  split at h
  · cases h
  · rename_i d
    split at h
    · cases h
    · split at h
      · cases h
      · rename_i hfree
        split at h
        · cases h
        · refine ⟨d, rfl, .inl (by simpa using hfree), ?_, ?_⟩
          · split at h <;> cases h <;> simp
          · split at h <;> cases h <;> simp [*]

theorem markRedirectStarted_foreign {d' expected : Record} {current : Option Record} {now : Double}
    (h : markRedirectStarted expected now current = some d') :
    ∃ d, current = some d ∧ Foreign d d' := by
  unfold markRedirectStarted at h
  split at h
  · cases h
  · rename_i d
    split at h
    · cases h
    · rename_i hguard
      cases h
      simp only [not_or, Bool.not_eq_false] at hguard
      exact ⟨d, rfl, .inr (isOneOf_iff.mpr ⟨_, by simp, (Value.isStr_iff _ _).mp hguard.2⟩),
        by simp, by simp⟩

theorem releasePreparation_foreign {d' expected : Record} {current : Option Record} {now : Double}
    (h : releasePreparation expected now current = some d') :
    ∃ d, current = some d ∧ Foreign d d' := by
  unfold releasePreparation at h
  split at h
  · cases h
  · rename_i d
    split at h
    · cases h
    · rename_i hguard
      cases h
      simp only [not_or, Bool.not_eq_false] at hguard
      exact ⟨d, rfl, .inr (isOneOf_iff.mpr ⟨_, by simp, (Value.isStr_iff _ _).mp hguard.2.1⟩),
        by simp, by simp [Value.text]⟩

theorem finish_foreign {d' expected : Record} {current : Option Record} {sent : Bool} {now : Double}
    (h : L13.finish expected (if sent then "accepted" else "uncertain") now current = some d') :
    ∃ d, current = some d ∧ Foreign d d' := by
  unfold L13.finish at h
  split at h
  · cases h
  · rename_i d
    split at h
    · cases h
    · rename_i hguard
      cases h
      simp only [not_or, Bool.not_eq_false] at hguard
      obtain ⟨t, ht, hexpected⟩ := isOneOf_iff.mp hguard.2.1
      have hstatus := Value.eq_str (hexpected ▸ hguard.2.2)
      exact ⟨d, rfl, .inr (isOneOf_iff.mpr ⟨t, ht, hstatus⟩), by simp, by cases sent <;> simp⟩

theorem ensureOwnerDeadline_foreign {d' : Record} {current : Option Record} {contractorId : Str}
    {urgent : Bool} {deadline : Option Double} {now : Double}
    (h : L13.ensureOwnerDeadline contractorId urgent deadline now current = some d') :
    ∃ d, current = some d ∧ Foreign d d' := by
  unfold L13.ensureOwnerDeadline at h
  dsimp only at h
  split at h
  · cases h
  · rename_i d
    split at h
    · cases h
    · rename_i hguard
      cases h
      simp only [not_or, Bool.not_eq_true] at hguard
      exact ⟨d, rfl, .inl hguard.2.1, by simp, by simp⟩

/-- How a step may change the record. -/
inductive Change (nonce : ℕ → Str) : Effect → Record → Record → Prop
  | foreign {d d'} (h : Foreign d d') : Change nonce .nothing d d'
  | adopted {i n d d'} (h : Foreign d d') (hfree : (d.get "owner_action").truthy = false)
      (hheld : Held ⟨py "legacy_decline", py "decline", n⟩ requested d') :
      Change nonce (.adopted i) d d'
  | acknowledged {i key d now} (h : Held key.claim requestedOrTaking d) :
      Change nonce (.acknowledged i key) d (d.update
        [("owner_action_status", .text "taking_message"),
          ("action_acknowledged_at", .number (.float now))])
  | reserved {p d now} (h : d.has "legacy_command_projection" = false) :
      Change nonce (.reserved p) d
        (d.set "legacy_command_projection" (projection (nonce p) "attempting" now))
  | finished {p d status now} (h : projectionMatches (some d) (nonce p) = true) :
      Change nonce .nothing d
        (d.set "legacy_command_projection" (projection (nonce p) status now))

/-- The effects of a transaction on the record. -/
def Effect.onRecord : Effect → Bool
  | .reserved _ | .adopted _ | .acknowledged .. => true
  | _ => false

/-- The record is as before, or it was changed. -/
def Recorded (nonce : ℕ → Str) (w w' : World) (effect : Effect) : Prop :=
  w'.record = w.record ∧ effect.onRecord = false ∨
    ∃ d d', w.record = some d ∧ w'.record = some d' ∧ Change nonce effect d d'

theorem transact_record (w : World) (answer : Answer) (written : Option Record) :
    wrote answer written = false ∧ (w.transact answer written).record = w.record ∨
      wrote answer written = true ∧ ∃ d, written = some d ∧
        (w.transact answer written).record = some d := by
  unfold World.transact
  split
  · exact .inl ⟨rfl, rfl⟩
  · rename_i d hne
    exact .inr ⟨by cases answer <;> simp_all [wrote], d, rfl, rfl⟩
  · rename_i hne
    exact .inl ⟨by simp [wrote], rfl⟩

/-- A step that ends with a transaction changes the record as its callback does. -/
theorem recorded_of_transact {w w' : World} {effect effect' : Effect} (answer : Answer)
    (written : Option Record)
    (hw : ∀ d', written = some d' → ∃ d, w.record = some d ∧ Change nonce effect d d')
    (hrecord : w'.record = (w.transact answer written).record)
    (heffect : effect' = if wrote answer written then effect else .nothing) :
    Recorded nonce w w' effect' := by
  rw [Recorded, hrecord, heffect]
  rcases transact_record w answer written with ⟨hno, hsame⟩ | ⟨hyes, d', hd', hpost⟩
  · rw [hno]
    exact .inl ⟨hsame, rfl⟩
  · rw [hyes]
    obtain ⟨d, hd, hchange⟩ := hw d' hd'
    exact .inr ⟨d, d', hd, hpost, hchange⟩

theorem recorded_of_foreign {w w' : World} (answer : Answer) (written : Option Record)
    (hw : ∀ d', written = some d' → ∃ d, w.record = some d ∧ Foreign d d')
    (hrecord : w'.record = (w.transact answer written).record) : Recorded nonce w w' .nothing :=
  recorded_of_transact answer written
    (fun d' hd' => by
      obtain ⟨d, hd, h⟩ := hw d' hd'
      exact ⟨d, hd, .foreign h⟩)
    hrecord (by split <;> rfl)

theorem adopt_change {d' : Record} {current : Option Record} {contractorId wsToken n : Str}
    {now : Double} (i : ℕ) (h : adopt contractorId wsToken n now current = some d') :
    ∃ d, current = some d ∧ Change nonce (.adopted i) d d' := by
  unfold adopt at h
  split at h
  · obtain ⟨d, hd, hforeign⟩ := reduceActiveCallAction_foreign h
    obtain ⟨⟨d₁, hd₁, hfree⟩, haction, hop, hnonce, hstatus⟩ := reduceActiveCallAction_eq_some h
    cases hd.symm.trans hd₁
    exact ⟨d, hd, .adopted hforeign hfree
      ⟨haction, .inl rfl, hop, hnonce, isOneOf_iff.mpr ⟨_, by simp [requested], hstatus⟩⟩⟩
  · cases h

theorem acknowledgeOwnerAction_change {d' : Record} {current : Option Record} {who : Identity}
    {c : Claim} {now : Double} (i : ℕ)
    (h : acknowledgeOwnerAction who.contractorId c who.wsToken now current = some d') :
    ∃ d, current = some d ∧ Change nonce (.acknowledged i ⟨who, c⟩) d d' := by
  unfold acknowledgeOwnerAction at h
  split at h
  · rename_i hack
    obtain ⟨d, rfl, rfl⟩ := Option.map_eq_some_iff.mp h
    obtain ⟨intent, hintent⟩ := Option.isSome_iff_exists.mp hack
    obtain ⟨-, d₁, hd₁, hheld⟩ := messageIntentFromRecord_claim hintent
    cases hd₁
    exact ⟨d, rfl, .acknowledged hheld⟩
  · cases h

theorem reserve_change {d' expected : Record} {current : Option Record} {p : ℕ} {now : Double}
    (h : Messages.reserve expected (nonce p) now current = some d') :
    ∃ d, current = some d ∧ Change nonce (.reserved p) d d' := by
  unfold Messages.reserve at h
  split at h
  · rename_i d _ _
    split at h
    · cases h
    · rename_i hfree
      cases h
      exact ⟨d, rfl, .reserved (by simpa using hfree)⟩
  · cases h

theorem finishProjection_change {d' expected : Record} {current : Option Record} {p : ℕ}
    {status : String} {now : Double}
    (h : Messages.finishProjection expected (nonce p) status now current = some d') :
    ∃ d, current = some d ∧ Change nonce .nothing d d' := by
  unfold Messages.finishProjection at h
  split at h
  · rename_i d _ _
    split at h
    · rename_i hmatch
      cases h
      exact ⟨d, rfl, .finished hmatch⟩
    · cases h
  · cases h

/-! ## What a step does -/

@[simp] theorem goto_record (w : World) (i : ℕ) (next : Stage) :
    (w.goto i next).record = w.record := rfl

@[simp] theorem setPipeline_record (w : World) (i : ℕ) (next : Pipeline) :
    (w.setPipeline i next).record = w.record := rfl

@[simp] theorem publisher_record (w : World) (p : ℕ) (next : Publication) :
    (w.publisher p next).record = w.record := rfl

@[simp] theorem adopted_record (w : World) (i : ℕ) (who : Identity) (snapshot : Option Adopted) :
    (w.adopted i who snapshot).record = w.record := rfl

@[simp] theorem deleteCommand_record (w : World) (expected : Dict) :
    (w.deleteCommand expected).record = w.record := by
  unfold World.deleteCommand
  repeat' split
  all_goals rfl

theorem step_record (callSid : Str) (nonce : ℕ → Str) (w : World) (action : Action) :
    Recorded nonce w (step callSid nonce w action).1 (step callSid nonce w action).2 := by
  cases action with
  | claim action contractorId operationId claimNonce name now answer =>
    exact recorded_of_foreign answer _ (fun d' h => reduceActiveCallAction_foreign h) rfl
  | mark expected now answer =>
    exact recorded_of_foreign answer _ (fun d' h => markRedirectStarted_foreign h) rfl
  | release expected now answer =>
    exact recorded_of_foreign answer _ (fun d' h => releasePreparation_foreign h) rfl
  | finish expected sent now answer =>
    exact recorded_of_foreign answer _ (fun d' h => finish_foreign h) rfl
  | ensureDeadline contractorId urgent deadline now answer =>
    exact recorded_of_foreign answer _ (fun d' h => ensureOwnerDeadline_foreign h) rfl
  | reserve p now later answer =>
    simp only [step]
    split
    · rename_i expected _
      split
      all_goals exact recorded_of_transact answer _ (fun d' h => reserve_change h) rfl rfl
    · exact .inl ⟨rfl, rfl⟩
  | finishProjection p now answer =>
    simp only [step]
    split
    · exact recorded_of_transact answer _ (fun d' h => finishProjection_change h) rfl
        (by split <;> rfl)
    · exact .inl ⟨rfl, rfl⟩
  | adopt i claimNonce now later answer =>
    simp only [step]
    split
    · exact recorded_of_transact answer _ (fun d' h => adopt_change i h) rfl rfl
    · exact .inl ⟨rfl, rfl⟩
  | acknowledge i now answer =>
    simp only [step]
    split
    · split
      all_goals
        exact recorded_of_transact answer _ (fun d' h => acknowledgeOwnerAction_change i h) rfl rfl
    · exact .inl ⟨rfl, rfl⟩
  | commitStray k claimNonce now =>
    simp only [step]
    split
    · exact recorded_of_transact .lost _ (fun d' h => adopt_change _ h) rfl rfl
    · exact recorded_of_transact .lost _ (fun d' h => acknowledgeOwnerAction_change _ h) rfl rfl
    · exact .inl ⟨by simp, rfl⟩
    · exact .inl ⟨rfl, rfl⟩
  | clean i ok =>
    simp only [step]
    split
    · exact .inl ⟨by cases ok <;> simp, rfl⟩
    · exact .inl ⟨rfl, rfl⟩
  | _ =>
    simp only [step]
    repeat' split
    all_goals exact .inl ⟨rfl, rfl⟩

/-! ## A claim stays -/

theorem Kept.refl (d : Record) : Kept d d := fun _ _ _ _ => rfl

theorem Kept.trans {d d' d'' : Record} (h : Kept d d') (h' : Kept d' d'') : Kept d d'' :=
  fun k hstatus hat hprojection =>
    (h' k hstatus hat hprojection).trans (h k hstatus hat hprojection)

theorem Kept.project (d : Record) (v : Value) : Kept d (d.set "legacy_command_projection" v) := by
  intro k _ _ hprojection
  simp [Ne.symm hprojection]

theorem Kept.acknowledge (d : Record) (now : Double) :
    Kept d (d.update
      [("owner_action_status", .text "taking_message"),
        ("action_acknowledged_at", .number (.float now))]) := by
  intro k hstatus hat _
  simp [Ne.symm hstatus, Ne.symm hat]

theorem Held.of_kept {c : Claim} {statuses statuses' : List String} {d d' : Record}
    (h : Held c statuses d) (hkept : Kept d d')
    (hstatus : isOneOf (d'.get "owner_action_status") statuses' = true) : Held c statuses' d' where
  action := by rw [hkept _ (by decide) (by decide) (by decide), h.action]
  message := h.message
  operation := by rw [hkept _ (by decide) (by decide) (by decide), h.operation]
  nonce := by rw [hkept _ (by decide) (by decide) (by decide), h.nonce]
  status := hstatus

theorem Held.mono {c : Claim} {statuses statuses' : List String} {d : Record}
    (h : Held c statuses d) (hs : ∀ t ∈ statuses, t ∈ statuses') : Held c statuses' d := by
  obtain ⟨t, ht, hstatus⟩ := isOneOf_iff.mp h.status
  exact h.of_kept (.refl d) (isOneOf_iff.mpr ⟨t, hs t ht, hstatus⟩)

theorem Held.acknowledge {c : Claim} {statuses : List String} {d : Record} (h : Held c statuses d)
    (now : Double) :
    Held c ["taking_message"] (d.update
      [("owner_action_status", .text "taking_message"),
        ("action_acknowledged_at", .number (.float now))]) :=
  h.of_kept (.acknowledge d now) (by simp [isOneOf])

theorem Held.not_foreign {c : Claim} {d d' : Record} (h : Held c requestedOrTaking d) :
    ¬ Foreign d d' := by
  intro hforeign
  rcases hforeign.claim with hfree | hstatus
  · rw [h.action] at hfree
    rcases h.message with hm | hm <;> rw [hm] at hfree <;> revert hfree <;> decide
  · obtain ⟨t, ht, heq⟩ := isOneOf_iff.mp h.status
    obtain ⟨t', ht', heq'⟩ := isOneOf_iff.mp hstatus
    obtain rfl : t = t' := (text_inj _ _).mp (heq.symm.trans heq')
    have hdisjoint : ∀ t ∈ requestedOrTaking, t ∉ ["accepting", "uncertain"] := by decide
    exact hdisjoint t ht ht'

/-- A message claim is kept, and once the message is being taken this stays. -/
theorem Held.change {c : Claim} {d d' : Record} {effect : Effect} (h : Held c requestedOrTaking d)
    (hchange : Change nonce effect d d') :
    Held c requestedOrTaking d' ∧ Kept d d' ∧
      (Held c ["taking_message"] d → Held c ["taking_message"] d') := by
  cases hchange with
  | foreign hforeign => exact absurd hforeign h.not_foreign
  | adopted hforeign => exact absurd hforeign h.not_foreign
  | @acknowledged _ _ _ now _ =>
    have htaking := h.acknowledge now
    exact ⟨htaking.mono (by simp [requestedOrTaking]), .acknowledge d _, fun _ => htaking⟩
  | reserved =>
    exact ⟨h.of_kept (.project d _) (by simpa using h.status), .project d _,
      fun h => h.of_kept (.project d _) (by simpa using h.status)⟩
  | finished =>
    exact ⟨h.of_kept (.project d _) (by simpa using h.status), .project d _,
      fun h => h.of_kept (.project d _) (by simpa using h.status)⟩

theorem World.Holds.step_taking {w : World} {c : Claim} (h : w.Holds c ["taking_message"])
    (action : Action) : (step callSid nonce w action).1.Holds c ["taking_message"] := by
  obtain ⟨d, hd, hheld⟩ := h
  rcases step_record callSid nonce w action with ⟨hsame, -⟩ | ⟨d₁, d', hd₁, hpost, hchange⟩
  · exact ⟨d, hsame ▸ hd, hheld⟩
  · cases hd.symm.trans hd₁
    have hany : Held c requestedOrTaking d := hheld.mono (by simp [requestedOrTaking])
    exact ⟨d', hpost, (hany.change hchange).2.2 hheld⟩

theorem World.Holds.step {w : World} {c : Claim} (h : w.Holds c requestedOrTaking)
    (action : Action) : (step callSid nonce w action).1.Holds c requestedOrTaking := by
  obtain ⟨d, hd, hheld⟩ := h
  rcases step_record callSid nonce w action with ⟨hsame, -⟩ | ⟨d₁, d', hd₁, hpost, hchange⟩
  · exact ⟨d, hsame ▸ hd, hheld⟩
  · cases hd.symm.trans hd₁
    exact ⟨d', hpost, (hheld.change hchange).1⟩

theorem projectionMatches_iff {d : Record} {n : Str} :
    projectionMatches (some d) n = true ↔
      ∃ p, d.get "legacy_command_projection" = .dict p ∧ Dict.get p "nonce" = .str n := by
  unfold projectionMatches
  simp only [Option.any_some]
  constructor
  · intro h
    split at h
    · rename_i p hp
      exact ⟨p, hp, (Value.isStr_iff _ _).mp h⟩
    · cases h
  · rintro ⟨p, hp, hn⟩
    rw [hp]
    exact (Value.isStr_iff _ _).mpr hn

theorem projectionMatches_projection (d : Record) (n : Str) (status : String) (now : Double) :
    projectionMatches (some (d.set "legacy_command_projection" (projection n status now))) n =
      true :=
  projectionMatches_iff.mpr
    ⟨[("nonce", .str n), ("status", .text status), ("updated_at", .number (.float now))],
      by simp [projection], by simp⟩

theorem projectionMatches_unique {record : Option Record} {n n' : Str}
    (h : projectionMatches record n = true) (h' : projectionMatches record n' = true) : n = n' := by
  cases record with
  | none => cases h
  | some d =>
    obtain ⟨p, hp, hn⟩ := projectionMatches_iff.mp h
    obtain ⟨p', hp', hn'⟩ := projectionMatches_iff.mp h'
    cases hp.symm.trans hp'
    exact Value.str.inj (hn.symm.trans hn')

/-- The projection stays with who reserved it. -/
theorem projectionMatches_change {n : Str} {d d' : Record} {effect : Effect}
    (h : projectionMatches (some d) n = true) (hchange : Change nonce effect d d') :
    projectionMatches (some d') n = true := by
  obtain ⟨p, hp, hn⟩ := projectionMatches_iff.mp h
  refine projectionMatches_iff.mpr ?_
  cases hchange with
  | foreign hforeign => exact ⟨p, hforeign.projection.trans hp, hn⟩
  | adopted hforeign => exact ⟨p, hforeign.projection.trans hp, hn⟩
  | acknowledged => exact ⟨p, by simpa using hp, hn⟩
  | reserved hfree =>
    rw [Dict.get_of_not_has hfree] at hp
    cases hp
  | finished hmatch =>
    rw [projectionMatches_unique h hmatch]
    exact projectionMatches_iff.mp (projectionMatches_projection d _ _ _)

/-! ## How a pipeline moves -/

/-- Where nothing is delivered or acknowledged next. -/
def Stage.plain : Stage → Bool
  | .delivering .. | .confirming .. | .acknowledging .. => false
  | _ => true

/-- How a step may change a pipeline. -/
inductive Next (w : World) (i : ℕ) : Effect → Pipeline → Pipeline → Prop
  | same {effect before next} (hstage : next.stage = before.stage)
      (hkey : next.deliveryKey = before.deliveryKey) : Next w i effect before next
  | plain {effect before next} (hstage : next.stage.plain = true)
      (hkey : next.deliveryKey = before.deliveryKey) : Next w i effect before next
  | delivering {effect before} (who snapshot intent) (h : w.Holds intent.claim requested) :
      Next w i effect before { before with stage := .delivering who snapshot intent }
  | again {effect before} (who snapshot intent) (h : before.deliveryKey = some ⟨who, intent.claim⟩) :
      Next w i effect before { before with stage := .confirming who snapshot intent }
  | delivered {before who snapshot intent} (h : before.stage = .delivering who snapshot intent) :
      Next w i (.delivered i ⟨who, intent.claim⟩) before
        { before with
          deliveryKey := some ⟨who, intent.claim⟩, stage := .confirming who snapshot intent }
  | acknowledging {effect before who snapshot intent}
      (h : before.stage = .confirming who snapshot intent) :
      Next w i effect before { before with stage := .acknowledging who snapshot intent }

theorem guarded_holds {w : World} {i : ℕ} {who : Identity} {intent : Intent} {now : Double}
    (h : w.guarded i who intent now = true) : w.Holds intent.claim requested := by
  obtain ⟨i', hi'⟩ := Option.isSome_iff_exists.mp (Bool.and_eq_true_iff.mp h).2
  exact (messageIntentFromRecord_claim hi').2

theorem next_of_setPipeline {w base : World} {effect : Effect} {i : ℕ} {next : Pipeline}
    (hbase : base.pipeline = w.pipeline) (h : Next w i effect (w.pipeline i) next) (j : ℕ) :
    Next w j effect (w.pipeline j) ((base.setPipeline i next).pipeline j) := by
  simp only [World.setPipeline]
  split
  · rename_i hj
    exact hj ▸ h
  · rw [hbase]
    exact .same rfl rfl

theorem next_of_goto {w base : World} {effect : Effect} {i : ℕ} {stage : Stage}
    (hbase : base.pipeline = w.pipeline)
    (h : Next w i effect (w.pipeline i) { w.pipeline i with stage := stage }) (j : ℕ) :
    Next w j effect (w.pipeline j) ((base.goto i stage).pipeline j) := by
  unfold World.goto
  rw [hbase]
  exact next_of_setPipeline hbase h j

theorem next_of_plain {w base : World} {effect : Effect} {i : ℕ} {stage : Stage}
    (hbase : base.pipeline = w.pipeline) (h : stage.plain = true) (j : ℕ) :
    Next w j effect (w.pipeline j) ((base.goto i stage).pipeline j) :=
  next_of_goto hbase (.plain h rfl) j

theorem next_of_adopted {w base : World} {effect : Effect} {i : ℕ} {who : Identity}
    {snapshot : Option Adopted} (hbase : base.pipeline = w.pipeline) (j : ℕ) :
    Next w j effect (w.pipeline j) ((base.adopted i who snapshot).pipeline j) :=
  next_of_plain hbase (by split <;> rfl) j

@[simp] theorem transact_pipeline (w : World) (answer : Answer) (written : Option Record) :
    (w.transact answer written).pipeline = w.pipeline := by
  unfold World.transact
  split <;> rfl

@[simp] theorem deleteCommand_pipeline (w : World) (expected : Dict) :
    (w.deleteCommand expected).pipeline = w.pipeline := by
  unfold World.deleteCommand
  repeat' split
  all_goals rfl

@[simp] theorem publisher_pipeline (w : World) (p : ℕ) (next : Publication) :
    (w.publisher p next).pipeline = w.pipeline := rfl

/-- A step that moves no pipeline. -/
theorem next_of_same {w w' : World} {effect : Effect} (h : w'.pipeline = w.pipeline) (j : ℕ) :
    Next w j effect (w.pipeline j) (w'.pipeline j) := by
  rw [h]
  exact .same rfl rfl

theorem step_pipeline (callSid : Str) (nonce : ℕ → Str) (w : World) (action : Action) (j : ℕ) :
    Next w j (step callSid nonce w action).2 (w.pipeline j)
      ((step callSid nonce w action).1.pipeline j) := by
  cases action with
  | consume i =>
    simp only [step]
    split
    · split
      · exact next_of_same rfl j
      · split <;> exact next_of_plain rfl rfl j
    · exact next_of_same rfl j
  | readCommand i ok =>
    simp only [step]
    split
    · split
      · exact next_of_plain rfl rfl j
      · exact next_of_adopted rfl j
    · exact next_of_same rfl j
  | readRecord i now ok =>
    simp only [step]
    split
    · split
      · exact next_of_adopted rfl j
      · split
        · exact next_of_adopted rfl j
        · exact next_of_plain rfl rfl j
    · exact next_of_same rfl j
  | adopt i claimNonce now later answer =>
    simp only [step]
    split
    · exact next_of_adopted (transact_pipeline ..) j
    · exact next_of_same rfl j
  | readPending i now ok =>
    simp only [step]
    split
    · split
      · exact next_of_plain rfl rfl j
      · split <;> exact next_of_plain rfl rfl j
    · exact next_of_same rfl j
  | readCompleted i now ok =>
    simp only [step]
    split
    · split <;> exact next_of_plain rfl rfl j
    · exact next_of_same rfl j
  | readCurrent i now ok =>
    simp only [step]
    split
    · rename_i who snapshot intent _
      split
      · split
        · rename_i hkey
          exact next_of_goto rfl (.again who snapshot intent hkey) j
        · exact next_of_plain rfl rfl j
      · exact next_of_plain rfl rfl j
    · exact next_of_same rfl j
  | prepare i ok =>
    simp only [step]
    split
    · exact next_of_plain rfl (by split <;> rfl) j
    · exact next_of_same rfl j
  | guard i now ok =>
    simp only [step]
    split
    · rename_i who snapshot intent _
      split
      · rename_i hguard
        have hholds := guarded_holds (Bool.and_eq_true_iff.mp hguard).2
        exact next_of_goto rfl (.delivering who snapshot intent hholds) j
      · exact next_of_plain rfl rfl j
    · exact next_of_same rfl j
  | deliver i ok =>
    simp only [step]
    split
    · rename_i who snapshot intent hstage
      split
      · exact next_of_setPipeline rfl (.delivered hstage) j
      · exact next_of_plain rfl rfl j
    · exact next_of_same rfl j
  | confirm i now ok =>
    simp only [step]
    split
    · rename_i who snapshot intent hstage
      split
      · exact next_of_goto rfl (.acknowledging hstage) j
      · exact next_of_plain rfl rfl j
    · exact next_of_same rfl j
  | acknowledge i now answer =>
    simp only [step]
    split
    · split <;> exact next_of_plain (transact_pipeline ..) rfl j
    · exact next_of_same rfl j
  | clean i ok =>
    simp only [step]
    split
    · exact next_of_plain (by cases ok <;> simp) rfl j
    · exact next_of_same rfl j
  | cancel i => exact next_of_plain rfl rfl j
  | rebind i identity alive =>
    refine next_of_setPipeline (w := w) rfl ?_ j
    exact .same rfl rfl
  | _ =>
    simp only [step]
    repeat' split
    all_goals exact next_of_same (by simp) j

@[simp] theorem transact_stray (w : World) (answer : Answer) (written : Option Record) :
    (w.transact answer written).stray = w.stray := by
  unfold World.transact
  split <;> rfl

@[simp] theorem deleteCommand_stray (w : World) (expected : Dict) :
    (w.deleteCommand expected).stray = w.stray := by
  unfold World.deleteCommand
  repeat' split
  all_goals rfl

@[simp] theorem publisher_stray (w : World) (p : ℕ) (next : Publication) :
    (w.publisher p next).stray = w.stray := rfl

@[simp] theorem setPipeline_stray (w : World) (i : ℕ) (next : Pipeline) :
    (w.setPipeline i next).stray = w.stray := rfl

@[simp] theorem goto_stray (w : World) (i : ℕ) (next : Stage) :
    (w.goto i next).stray = w.stray := rfl

@[simp] theorem adopted_stray (w : World) (i : ℕ) (who : Identity) (snapshot : Option Adopted) :
    (w.adopted i who snapshot).stray = w.stray := rfl

theorem step_stray (callSid : Str) (nonce : ℕ → Str) (w : World) (action : Action) :
    (step callSid nonce w action).1.stray = w.stray ∨
      ∃ i, (step callSid nonce w action).1.stray = (i, (w.pipeline i).stage) :: w.stray := by
  cases action with
  | cancel i => exact .inr ⟨i, rfl⟩
  | clean i ok =>
    simp only [step]
    split
    · exact .inl (by cases ok <;> simp)
    · exact .inl rfl
  | _ =>
    simp only [step]
    repeat' split
    all_goals exact .inl (by simp)

/-! ## How a publication moves -/

/-- What a publisher writes is a decline or a timeout; from its reservation on, one that the record
holds. -/
def Published (nonce : ℕ → Str) (w : World) (p : ℕ) : Publication → Prop
  | .reserving expected => ∃ c, Held c requested expected
  | .reserved expected | .writing expected =>
    ∃ c, Held c requested expected ∧ w.Holds c requestedOrTaking ∧
      projectionMatches w.record (nonce p) = true
  | _ => True

/-- The publisher has had its one attempt. -/
def Past (p : ℕ) (w : World) : Prop :=
  (∃ expected status, w.publication p = .finishing expected status) ∨ w.publication p = .done

theorem expectedMessage_self {expected : Record} {acknowledged : Bool} {now : Double}
    (h : (expectedMessage (some expected) expected acknowledged now).isSome = true) :
    ∃ c, Held c (if acknowledged then requestedOrTaking else requested) expected := by
  obtain ⟨i, hi⟩ := Option.isSome_iff_exists.mp h
  obtain ⟨hintent, -⟩ := Option.filter_eq_some_iff.mp hi
  obtain ⟨⟨d, hd, hheld⟩, -⟩ := messageIntentFromRecord_eq_some hintent
  cases hd
  exact ⟨i.claim, hheld⟩

theorem expectedMessage_held {record : Option Record} {expected : Record} {c : Claim}
    {statuses : List String} {acknowledged : Bool} {now : Double} (hc : Held c statuses expected)
    (h : (expectedMessage record expected acknowledged now).isSome = true) :
    ∃ d, record = some d ∧ Held c (if acknowledged then requestedOrTaking else requested) d := by
  obtain ⟨i, hi⟩ := Option.isSome_iff_exists.mp h
  obtain ⟨hintent, -⟩ := Option.filter_eq_some_iff.mp hi
  rw [hc.operation, hc.action, hc.nonce] at hintent
  exact (messageIntentFromRecord_claim hintent).2

theorem World.Holds.mono {w : World} {c : Claim} {statuses statuses' : List String}
    (h : w.Holds c statuses) (hs : ∀ t ∈ statuses, t ∈ statuses') : w.Holds c statuses' := by
  obtain ⟨d, hd, hheld⟩ := h
  exact ⟨d, hd, hheld.mono hs⟩

theorem projectionMatches_step {w : World} {n : Str} (h : projectionMatches w.record n = true)
    (action : Action) :
    projectionMatches (step callSid nonce w action).1.record n = true := by
  rcases step_record callSid nonce w action with ⟨hsame, -⟩ | ⟨d, d', hd, hpost, hchange⟩
  · rwa [hsame]
  · rw [hd] at h
    rw [hpost]
    exact projectionMatches_change h hchange

theorem Published.step {w : World} {p : ℕ} {s : Publication} (h : Published nonce w p s)
    (action : Action) : Published nonce (step callSid nonce w action).1 p s := by
  cases s with
  | reserved expected =>
    obtain ⟨c, hc, hholds, hmatch⟩ := h
    exact ⟨c, hc, hholds.step action, projectionMatches_step hmatch action⟩
  | writing expected =>
    obtain ⟨c, hc, hholds, hmatch⟩ := h
    exact ⟨c, hc, hholds.step action, projectionMatches_step hmatch action⟩
  | reserving expected => exact h
  | idle => trivial
  | finishing expected status => trivial
  | done => trivial

@[simp] theorem transact_publication (w : World) (answer : Answer) (written : Option Record) :
    (w.transact answer written).publication = w.publication := by
  unfold World.transact
  split <;> rfl

@[simp] theorem deleteCommand_publication (w : World) (expected : Dict) :
    (w.deleteCommand expected).publication = w.publication := by
  unfold World.deleteCommand
  repeat' split
  all_goals rfl

@[simp] theorem setPipeline_publication (w : World) (i : ℕ) (next : Pipeline) :
    (w.setPipeline i next).publication = w.publication := rfl

@[simp] theorem goto_publication (w : World) (i : ℕ) (next : Stage) :
    (w.goto i next).publication = w.publication := rfl

@[simp] theorem adopted_publication (w : World) (i : ℕ) (who : Identity)
    (snapshot : Option Adopted) : (w.adopted i who snapshot).publication = w.publication := rfl

/-- A publisher stays, or moves on soundly; it moves on only before its end. -/
def Moved (nonce : ℕ → Str) (w w' : World) (p : ℕ) : Prop :=
  w'.publication p = w.publication p ∨
    Published nonce w' p (w'.publication p) ∧ w.publication p ≠ .done ∧
      (∀ expected status, w.publication p = .finishing expected status →
        w'.publication p = .done)

theorem moved_of_publisher {w base : World} {p : ℕ} {next : Publication}
    (hbase : base.publication = w.publication) (h : Published nonce (base.publisher p next) p next)
    (hdone : w.publication p ≠ .done)
    (hfinish : ∀ expected status, w.publication p = .finishing expected status → next = .done)
    (q : ℕ) : Moved nonce w (base.publisher p next) q := by
  unfold Moved
  simp only [World.publisher]
  by_cases hq : q = p
  · subst hq
    exact .inr ⟨by rwa [if_pos rfl], hdone, by rwa [if_pos rfl]⟩
  · exact .inl (by rw [if_neg hq, hbase])

theorem moved_of_done {w base : World} {p : ℕ} (hbase : base.publication = w.publication)
    (hdone : w.publication p ≠ .done) (q : ℕ) : Moved nonce w (base.publisher p .done) q := by
  refine moved_of_publisher hbase ?_ hdone (fun _ _ _ => rfl) q
  trivial

theorem step_publication (callSid : Str) (nonce : ℕ → Str) {w : World}
    (h : ∀ p, Published nonce w p (w.publication p)) (action : Action) (q : ℕ) :
    Moved nonce w (step callSid nonce w action).1 q := by
  cases action with
  | publish p expected now =>
    simp only [step]
    split
    · rename_i hstage
      split
      · rename_i hexpected
        refine moved_of_publisher rfl ?_ (by simp [hstage]) (by simp [hstage]) q
        exact expectedMessage_self hexpected
      · exact moved_of_done rfl (by simp [hstage]) q
    · exact .inl rfl
  | reserve p now later answer =>
    simp only [step]
    split
    · rename_i expected hstage
      have hp := h p
      rw [hstage] at hp
      obtain ⟨c, hc⟩ := hp
      split
      · rename_i hreserved
        obtain ⟨-, hmatch, hexpected⟩ := hreserved
        have hholds : (w.transact answer (Messages.reserve expected (nonce p) now w.record)).Holds c
            requestedOrTaking :=
          World.Holds.mono (expectedMessage_held hc hexpected)
            (by simp [requested, requestedOrTaking])
        refine moved_of_publisher (transact_publication ..) ?_ (by simp [hstage])
          (by simp [hstage]) q
        exact ⟨c, hc, hholds, hmatch⟩
      · exact moved_of_done (transact_publication ..) (by simp [hstage]) q
    · exact .inl rfl
  | check p now ok =>
    simp only [step]
    split
    · rename_i expected hstage
      have hp := h p
      rw [hstage] at hp
      split
      · refine moved_of_publisher rfl ?_ (by simp [hstage]) (by simp [hstage]) q
        exact hp
      · exact moved_of_done rfl (by simp [hstage]) q
    · exact .inl rfl
  | write p answer =>
    simp only [step]
    split
    · rename_i expected hstage
      split
      all_goals
        refine moved_of_publisher rfl ?_ (by simp [hstage]) (by simp [hstage]) q
        trivial
    · exact .inl rfl
  | finishProjection p now answer =>
    simp only [step]
    split
    · rename_i expected status hstage
      exact moved_of_done (transact_publication ..) (by simp [hstage]) q
    · exact .inl rfl
  | clean i ok =>
    simp only [step]
    split
    · exact .inl (by cases ok <;> simp)
    · exact .inl rfl
  | _ =>
    simp only [step]
    repeat' split
    all_goals exact .inl (by simp)

theorem published_step {w : World} (h : ∀ p, Published nonce w p (w.publication p))
    (action : Action) (p : ℕ) :
    Published nonce (step callSid nonce w action).1 p
      ((step callSid nonce w action).1.publication p) := by
  rcases step_publication callSid nonce h action p with hsame | ⟨hpublished, -, -⟩
  · rw [hsame]
    exact (h p).step action
  · exact hpublished

theorem Past.step {p : ℕ} {w : World} (hpast : Past p w)
    (h : ∀ p, Published nonce w p (w.publication p)) (action : Action) :
    Past p (Messages.step callSid nonce w action).1 := by
  rcases step_publication callSid nonce h action p with hsame | ⟨-, hdone, hfinish⟩
  · unfold Past
    rwa [hsame]
  · rcases hpast with ⟨expected, status, hp⟩ | hp
    · exact .inr (hfinish expected status hp)
    · exact absurd hp hdone

/-! ## What an effect says of the step -/

/-- A command is written by a publisher that was about to write it. -/
theorem wrote_inv {w : World} {action : Action} {p : ℕ} {command : Dict}
    (h : (step callSid nonce w action).2 = .wrote p command) :
    ∃ expected answer, action = .write p answer ∧ w.publication p = .writing expected ∧
      command = payload callSid expected ∧
      (step callSid nonce w action).1.command = some (.dict command) ∧
      Past p (step callSid nonce w action).1 := by
  cases action with
  | write q answer =>
    revert h
    simp only [step]
    split
    · rename_i expected hstage
      split
      · rintro ⟨⟩
      · rintro ⟨⟩
        exact ⟨expected, _, rfl, hstage, rfl, rfl, .inl ⟨_, _, if_pos rfl⟩⟩
      · rintro ⟨⟩
    · rintro ⟨⟩
  | _ =>
    revert h
    simp only [step]
    repeat' split
    all_goals rintro ⟨⟩

theorem delivered_inv {w : World} {action : Action} {i : ℕ} {key : Key}
    (h : (step callSid nonce w action).2 = .delivered i key) :
    ∃ who snapshot intent, (w.pipeline i).stage = .delivering who snapshot intent ∧
      key = ⟨who, intent.claim⟩ := by
  cases action with
  | deliver j ok =>
    revert h
    simp only [step]
    split
    · rename_i who snapshot intent hstage
      split
      · rintro ⟨⟩
        exact ⟨who, snapshot, intent, hstage, rfl⟩
      · rintro ⟨⟩
    · rintro ⟨⟩
  | _ =>
    revert h
    simp only [step]
    repeat' split
    all_goals rintro ⟨⟩

theorem acknowledged_inv {w : World} {action : Action} {i : ℕ} {key : Key}
    (h : (step callSid nonce w action).2 = .acknowledged i key) :
    ∃ who snapshot intent, key = ⟨who, intent.claim⟩ ∧
      ((w.pipeline i).stage = .acknowledging who snapshot intent ∨
        (i, .acknowledging who snapshot intent) ∈ w.stray) := by
  cases action with
  | acknowledge j now answer =>
    revert h
    simp only [step]
    split
    · rename_i who snapshot intent hstage
      generalize wrote answer _ = acked
      cases acked
      · split <;> rintro ⟨⟩
      · split
        all_goals
          rintro ⟨⟩
          exact ⟨who, _, intent, rfl, .inl hstage⟩
    · rintro ⟨⟩
  | commitStray k claimNonce now =>
    revert h
    simp only [step]
    split
    · split <;> rintro ⟨⟩
    · rename_i j who snapshot intent hstray
      split
      · rintro ⟨⟩
        exact ⟨who, snapshot, intent, rfl, .inr (List.mem_of_getElem? hstray)⟩
      · rintro ⟨⟩
    · rintro ⟨⟩
    · rintro ⟨⟩
  | _ =>
    revert h
    simp only [step]
    repeat' split
    all_goals rintro ⟨⟩

/-- An adoption that is none leaves the record. -/
theorem not_adopted_inv {w : World} {i : ℕ} {n : Str} {now later : Double} {answer : Answer}
    (h : (step callSid nonce w (.adopt i n now later answer)).2 ≠ .adopted i) :
    (step callSid nonce w (.adopt i n now later answer)).1.record = w.record := by
  revert h
  simp only [step]
  split
  · rename_i who command _
    rcases transact_record w answer (Messages.adopt who.contractorId who.wsToken n now w.record)
      with ⟨-, hsame⟩ | ⟨hyes, -⟩
    · exact fun _ => hsame
    · intro h
      exact absurd (by rw [if_pos hyes]) h
  · exact fun _ => rfl

/-! ## Every run -/

/-- What a stage has behind it. -/
def Sound (log : List LogEvent) (w : World) (i : ℕ) : Stage → Prop
  | .delivering _ _ intent => w.Holds intent.claim requestedOrTaking
  | .confirming who _ intent | .acknowledging who _ intent =>
    ∃ e ∈ log, e.resp = .delivered i ⟨who, intent.claim⟩
  | _ => True

structure Inv (nonce : ℕ → Str) (log : List LogEvent) (w : World) : Prop where
  stages : ∀ i, Sound log w i (w.pipeline i).stage
  stray : ∀ x ∈ w.stray, Sound log w x.1 x.2
  keys : ∀ i key, (w.pipeline i).deliveryKey = some key → ∃ e ∈ log, e.resp = .delivered i key
  published : ∀ p, Published nonce w p (w.publication p)

theorem Inv.start (record : Option Record) (command : Option Value) (identity : ℕ → Identity) :
    Inv nonce [] (World.start record command identity) where
  stages _ := trivial
  stray _ h := nomatch h
  keys _ _ h := nomatch h
  published _ := trivial

theorem Sound.of_plain {log : List LogEvent} {w : World} {i : ℕ} {s : Stage}
    (h : s.plain = true) : Sound log w i s := by
  cases s <;> trivial

/-- What a stage has behind it, it keeps. -/
theorem Sound.step {log : List LogEvent} {w : World} {i : ℕ} {s : Stage} (h : Sound log w i s)
    (action : Action) (e : LogEvent) :
    Sound (log ++ [e]) (Messages.step callSid nonce w action).1 i s := by
  have hlog : ∀ {key}, (∃ a ∈ log, a.resp = .delivered i key) →
      ∃ a ∈ log ++ [e], a.resp = .delivered i key :=
    fun ⟨a, ha, hresp⟩ => ⟨a, List.mem_append_left _ ha, hresp⟩
  cases s with
  | delivering who snapshot intent => exact World.Holds.step h action
  | confirming who snapshot intent => exact hlog h
  | acknowledging who snapshot intent => exact hlog h
  | _ => trivial

/-- What a pipeline says it has delivered, it has delivered. -/
theorem Inv.pipeline {log : List LogEvent} {w : World} (h : Inv nonce log w) (action : Action)
    (i : ℕ) :
    Sound (log ++ [(Messages.step callSid nonce).event w action])
        (Messages.step callSid nonce w action).1 i
        ((Messages.step callSid nonce w action).1.pipeline i).stage ∧
      ∀ key, ((Messages.step callSid nonce w action).1.pipeline i).deliveryKey = some key →
        ∃ a ∈ log ++ [(Messages.step callSid nonce).event w action],
          a.resp = .delivered i key := by
  have hkeys : ∀ key, (w.pipeline i).deliveryKey = some key →
      ∃ a ∈ log ++ [(Messages.step callSid nonce).event w action], a.resp = .delivered i key := by
    intro key hbefore
    obtain ⟨a, ha, hresp⟩ := h.keys i key hbefore
    exact ⟨a, List.mem_append_left _ ha, hresp⟩
  have hmono : ∀ s, Sound log w i s → Sound (log ++ [(Messages.step callSid nonce).event w action])
      (Messages.step callSid nonce w action).1 i s := fun s hs => hs.step action _
  have hstage := h.stages i
  have hnext := step_pipeline callSid nonce w action i
  generalize (Messages.step callSid nonce w action).1.pipeline i = next at hnext ⊢
  generalize w.pipeline i = before at hnext hkeys hstage
  generalize hr : (Messages.step callSid nonce w action).2 = effect at hnext
  cases hnext with
  | same hs hk => exact ⟨hs ▸ hmono _ hstage, hk ▸ hkeys⟩
  | plain hs hk => exact ⟨.of_plain hs, hk ▸ hkeys⟩
  | delivering who snapshot intent hholds =>
    refine ⟨hmono (.delivering who snapshot intent) ?_, hkeys⟩
    exact hholds.mono (by simp [requested, requestedOrTaking])
  | again who snapshot intent hk => exact ⟨hkeys _ hk, hkeys⟩
  | delivered =>
    have hlast : ∃ a ∈ log ++ [(Messages.step callSid nonce).event w action],
        a.resp = .delivered i _ :=
      ⟨_, List.mem_append_right _ List.mem_cons_self, hr⟩
    exact ⟨hlast, fun key hk => Option.some.inj hk ▸ hlast⟩
  | acknowledging hs =>
    rw [hs] at hstage
    exact ⟨hmono (.acknowledging _ _ _) hstage, hkeys⟩

theorem Inv.step {log : List LogEvent} {w : World} (h : Inv nonce log w) (action : Action) :
    Inv nonce (log ++ [(Messages.step callSid nonce).event w action])
      (Messages.step callSid nonce w action).1 := by
  constructor
  case stages => exact fun i => (h.pipeline action i).1
  case keys => exact fun i => (h.pipeline action i).2
  case stray =>
    intro x hx
    rcases step_stray callSid nonce w action with hsame | ⟨i, hnew⟩
    · rw [hsame] at hx
      exact (h.stray x hx).step action _
    · rw [hnew] at hx
      rcases List.mem_cons.mp hx with rfl | hx
      · exact (h.stages i).step action _
      · exact (h.stray x hx).step action _
  case published => exact published_step h.published action

/-- What a step keeps, from one event of a run to a later one. -/
theorem between {start : World} {actions : List Action} {I : World → Prop}
    (hs : ∀ w action, I w → I (step callSid nonce w action).1) {l₁ l₂ l₃ : List LogEvent}
    {a f : LogEvent} (h : (step callSid nonce).log start actions = l₁ ++ a :: l₂ ++ f :: l₃)
    (h0 : I a.post) : I f.pre :=
  (step callSid nonce).log_between (G := fun _ => True) (fun w action hi _ => hs w action hi) h h0
    fun _ _ => trivial

theorem acknowledged_record {w : World} {action : Action} {i : ℕ} {key : Key}
    (h : (step callSid nonce w action).2 = .acknowledged i key) :
    w.Holds key.claim requestedOrTaking ∧
      (step callSid nonce w action).1.Holds key.claim ["taking_message"] := by
  have hrecord := step_record callSid nonce w action
  rw [h] at hrecord
  rcases hrecord with ⟨-, hno⟩ | ⟨d, d', hd, hpost, hchange⟩
  · cases hno
  · cases hchange with
    | acknowledged hheld => exact ⟨⟨d, hd, hheld⟩, _, hpost, hheld.acknowledge _⟩

/-- Only an acknowledgement says that the message is being taken. -/
theorem taking_inv {w : World} {action : Action} (hpost : (step callSid nonce w action).1.Taking)
    (hpre : ¬ w.Taking) : ∃ i key, (step callSid nonce w action).2 = .acknowledged i key := by
  rcases step_record callSid nonce w action with ⟨hsame, -⟩ | ⟨d, d', hd, hd', hchange⟩
  · refine absurd ?_ hpre
    unfold World.Taking at hpost ⊢
    rwa [← hsame]
  · obtain ⟨d₁, hd₁, htaking⟩ := hpost
    cases hd'.symm.trans hd₁
    have hno : d.get "owner_action_status" ≠ .text "taking_message" := fun h => hpre ⟨d, hd, h⟩
    generalize (step callSid nonce w action).2 = effect at hchange ⊢
    cases hchange with
    | foreign hforeign => exact absurd (hforeign.status htaking) hno
    | adopted hforeign => exact absurd (hforeign.status htaking) hno
    | acknowledged => exact ⟨_, _, rfl⟩
    | reserved => exact absurd (by simpa using htaking) hno
    | finished => exact absurd (by simpa using htaking) hno

/-- Whatever the order of claims, publications, old consumers and pipelines: one instruction is
published for the claim that won, and it stays until a pipeline that has delivered it says so. -/
theorem instructed (callSid : Str) (nonce : ℕ → Str) (record : Option Record)
    (command : Option Value) (identity : ℕ → Identity) (actions : List Action)
    (hnonce : ∀ a ∈ actions, ∀ b ∈ actions, ∀ p q, a.publisher = some p → b.publisher = some q →
      nonce p = nonce q → p = q) :
    Instructed ((step callSid nonce).log (World.start record command identity) actions) := by
  have hinv : ∀ actions, Inv nonce ((step callSid nonce).log (.start record command identity) actions)
      ((step callSid nonce).run (.start record command identity) actions) := fun actions =>
    (step callSid nonce).log_inv (G := fun _ => True) (.start record command identity)
      (fun _ _ action h _ => h.step action) actions fun _ _ => trivial
  have hevent : ∀ e ∈ (step callSid nonce).log (World.start record command identity) actions,
      (∀ p, Published nonce e.pre p (e.pre.publication p)) ∧
        e.resp = (step callSid nonce e.pre e.call).2 ∧
        e.post = (step callSid nonce e.pre e.call).1 ∧ e.call ∈ actions := by
    intro e he
    obtain ⟨cs, c, cs', hcs, rfl⟩ := (step callSid nonce).mem_log he
    exact ⟨(hinv cs).published, rfl, rfl, by simp [hcs]⟩
  constructor
  case reservedOnce =>
    intro l₁ a l₂ f l₃ p q hlog ha hf
    obtain ⟨-, hra, hpa, -⟩ := hevent a (by simp [hlog])
    obtain ⟨-, hrf, -, -⟩ := hevent f (by simp [hlog])
    have hmatch : projectionMatches a.post.record (nonce p) = true := by
      have hrecord := step_record callSid nonce a.pre a.call
      rw [← hra, ha, ← hpa] at hrecord
      rcases hrecord with ⟨-, hno⟩ | ⟨d, d', -, hpost, hchange⟩
      · cases hno
      · cases hchange
        rw [hpost]
        exact projectionMatches_projection d _ _ _
    have hmatchf := between (I := fun w => projectionMatches w.record (nonce p) = true)
      (fun w action h => projectionMatches_step h action) hlog hmatch
    have hrecord := step_record callSid nonce f.pre f.call
    rw [← hrf, hf] at hrecord
    rcases hrecord with ⟨-, hno⟩ | ⟨d, d', hpre, -, hchange⟩
    · cases hno
    · cases hchange with
      | reserved hfree =>
        rw [hpre] at hmatchf
        obtain ⟨_, hget, -⟩ := projectionMatches_iff.mp hmatchf
        rw [Dict.get_of_not_has hfree] at hget
        cases hget
  case writtenOnce =>
    intro l₁ a l₂ f l₃ p q command command' hlog ha hf
    obtain ⟨hpuba, hra, hpa, hcalla⟩ := hevent a (by simp [hlog])
    obtain ⟨hpubf, hrf, -, hcallf⟩ := hevent f (by simp [hlog])
    obtain ⟨expected, answer, hacta, hstagea, -, -, hpast⟩ := wrote_inv (hra ▸ ha)
    obtain ⟨expected', answer', hactf, hstagef, -⟩ := wrote_inv (hrf ▸ hf)
    have hmatcha := hpuba p
    rw [hstagea] at hmatcha
    obtain ⟨-, -, -, hmatcha⟩ := hmatcha
    have hmatchf := hpubf q
    rw [hstagef] at hmatchf
    obtain ⟨-, -, -, hmatchf⟩ := hmatchf
    obtain ⟨hmatch, hpastf, -⟩ := between
      (I := fun w => projectionMatches w.record (nonce p) = true ∧ Past p w ∧
        ∀ p, Published nonce w p (w.publication p))
      (fun w action h => ⟨projectionMatches_step h.1 action, h.2.1.step h.2.2 action,
        published_step h.2.2 action⟩) hlog
      ⟨hpa ▸ projectionMatches_step hmatcha a.call, hpa ▸ hpast, hpa ▸ published_step hpuba a.call⟩
    obtain rfl : p = q := by
      refine hnonce _ hcalla _ hcallf p q (by rw [hacta]; rfl) (by rw [hactf]; rfl) ?_
      exact projectionMatches_unique hmatch hmatchf
    rcases hpastf with ⟨_, _, h⟩ | h <;> rw [h] at hstagef <;> cases hstagef
  case written =>
    intro e he p command hresp
    obtain ⟨hpub, hr, hp, -⟩ := hevent e he
    obtain ⟨expected, answer, -, hstage, rfl, hcommand, -⟩ := wrote_inv (hr ▸ hresp)
    have hpublished := hpub p
    rw [hstage] at hpublished
    obtain ⟨c, hc, hholds, -⟩ := hpublished
    refine ⟨hp ▸ hcommand, rfl, c, hp ▸ hholds.step e.call, ?_, ?_, ?_⟩
    · simpa [payload] using hc.operation
    · simpa [payload] using hc.action
    · simpa [payload] using hc.nonce
  case adopted =>
    intro e he i hresp
    obtain ⟨-, hr, hp, -⟩ := hevent e he
    have hrecord := step_record callSid nonce e.pre e.call
    rw [← hr, hresp, ← hp] at hrecord
    rcases hrecord with ⟨-, hno⟩ | ⟨d, d', hpre, hpost, hchange⟩
    · cases hno
    · cases hchange with
      | adopted _ hfree hheld => exact ⟨⟨d, hpre, hfree⟩, _, d', hpost, hheld⟩
  case notAdopted =>
    intro e he i n now later answer hcall hresp
    obtain ⟨-, hr, hp, -⟩ := hevent e he
    rw [hcall] at hr hp
    rw [hp]
    exact not_adopted_inv (hr ▸ hresp)
  case delivered =>
    intro e he i key hresp
    obtain ⟨cs, c, cs', -, rfl⟩ := (step callSid nonce).mem_log he
    obtain ⟨who, snapshot, intent, hstage, rfl⟩ := delivered_inv hresp
    have hsound := (hinv cs).stages i
    rw [hstage] at hsound
    exact World.Holds.step hsound c
  case taking =>
    intro l₁ e l₂ hlog hpost hpre
    obtain ⟨cs, c, cs', -, rfl, rfl, rfl⟩ := (step callSid nonce).log_eq_append_cons hlog
    obtain ⟨i, key, hresp⟩ := taking_inv hpost hpre
    obtain ⟨hholds, htaking⟩ := acknowledged_record hresp
    obtain ⟨who, snapshot, intent, rfl, hstage⟩ := acknowledged_inv hresp
    refine ⟨i, _, hresp, ?_, ?_, ?_⟩
    · obtain ⟨d, hd, hheld⟩ := hholds
      obtain ⟨t, ht, hstatus⟩ := isOneOf_iff.mp hheld.status
      refine ⟨d, hd, hheld.of_kept (.refl d) (isOneOf_iff.mpr ⟨t, ?_, hstatus⟩)⟩
      rcases List.mem_cons.mp ht with rfl | ht
      · exact List.mem_cons_self
      · obtain rfl := List.mem_singleton.mp ht
        exact absurd ⟨d, hd, hstatus⟩ hpre
    · rcases hstage with hstage | hstray
      · have hsound := (hinv cs).stages i
        rw [hstage] at hsound
        exact hsound
      · exact (hinv cs).stray _ hstray
    · intro f hf
      rcases List.mem_cons.mp hf with rfl | hf
      · exact htaking
      · exact ((step callSid nonce).log_pre (I := fun w => w.Holds intent.claim ["taking_message"])
          htaking (fun w action h => h.step_taking action) hf).2
  case kept =>
    intro l₁ a l₂ f l₃ c d hlog hd hheld
    have hkeeps : ∀ w action,
        (∃ d', World.record w = some d' ∧ Held c requestedOrTaking d' ∧ Kept d d') →
        ∃ d', (step callSid nonce w action).1.record = some d' ∧ Held c requestedOrTaking d' ∧
          Kept d d' := by
      rintro w action ⟨d', hd', hheld', hkept⟩
      rcases step_record callSid nonce w action with ⟨hsame, -⟩ | ⟨d₁, d'', hd₁, hpost, hchange⟩
      · exact ⟨d', hsame ▸ hd', hheld', hkept⟩
      · cases hd'.symm.trans hd₁
        obtain ⟨hheld'', hkept', -⟩ := hheld'.change hchange
        exact ⟨d'', hpost, hheld'', hkept.trans hkept'⟩
    have hf := between hkeeps hlog ⟨d, hd, hheld, .refl d⟩
    rw [(hevent f (by simp [hlog])).2.2.1]
    exact hkeeps f.pre f.call hf

def exampleRecord : Record :=
  [("contractor_id", .text "contractor-1"), ("state", .text "screening"),
    ("state_updated_at", .int 900), ("ws_token", .text "ws")]

def exampleNonce (p : ℕ) : Str := List.replicate 31 (digit 0) ++ [digit p]

def exampleTimeout : Record :=
  (reduceActiveCallAction (some exampleRecord) .timeout (py "contractor-1") (py "timeout_CA1")
    (exampleNonce 0) [] (.ofRat 1000)).getD []

/-- A timeout wins, its message is published, an old consumer deletes the command, and the pipeline
delivers what the record asks for. -/
def exampleDelivery : List Action :=
  [.claim .timeout (py "contractor-1") (py "timeout_CA1") (exampleNonce 0) [] (.ofRat 1000)
      .answered,
    .publish 0 exampleTimeout (.ofRat 1000), .reserve 0 (.ofRat 1000) (.ofRat 1000) .answered,
    .check 0 (.ofRat 1000) true, .write 0 .answered, .setCommand none,
    .consume 0, .readCommand 0 true, .readPending 0 (.ofRat 1001) true,
    .readCurrent 0 (.ofRat 1001) true, .prepare 0 true, .guard 0 (.ofRat 1001) true,
    .deliver 0 true, .confirm 0 (.ofRat 1002) true, .acknowledge 0 (.ofRat 1002) .answered]

theorem instructed_exampleDelivery :
    Instructed ((step (py "CA1") exampleNonce).log
      (World.start (some exampleRecord) none fun _ => ⟨py "contractor-1", py "CA1", py "ws"⟩)
      exampleDelivery) := by
  refine instructed _ _ _ _ _ _ fun a ha b hb p q hp hq _ => ?_
  have hone : ∀ a ∈ exampleDelivery, ∀ p, a.publisher = some p → p = 0 := by
    intro a ha p hp
    simp only [exampleDelivery, List.mem_cons, List.not_mem_nil, or_false] at ha
    rcases ha with rfl | rfl | rfl | rfl | rfl | rfl | rfl | rfl | rfl | rfl | rfl | rfl | rfl |
      rfl | rfl <;> cases hp <;> rfl
  rw [hone a ha p hp, hone b hb q hq]

end HeyKevin.L13.Messages
