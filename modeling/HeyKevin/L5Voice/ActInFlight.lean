import HeyKevin.L5Voice.SilenceTurns
/-!
# One act in flight

The lifecycle keeps issued intents in a dictionary and consumed acts in a set,
but never more than one thing in either: an act is requested, then consumed
and awaited, then gone. `Tidy` is this and the bookkeeping around it; every
turn keeps it, also one that ends in a raise.
-/
namespace HeyKevin.L5.Silence

open HeyKevin.Core L1.Text

/-- The phases that wait for an act, or for the hang-up. -/
def SilencePhase.pending : SilencePhase → Bool
  | .presencePending | .moreTimePending | .fallbackPending | .closingPending
  | .terminalEligible => true
  | _ => false

/-- At most one act is in flight: requested, or consumed and not yet played. -/
inductive InFlight : Entries Str CallIntent → List Str → Prop
  | none : InFlight [] []
  | requested (k : Str) (i : CallIntent) : InFlight [(k, i)] []
  | consumed (actId : Str) : InFlight [] [actId]

section Lifecycle

variable {config : Config}

structure Tidy (s : State config) : Prop where
  inFlight : InFlight s.cycle.issuedIntents s.cycle.materializedActIds
  settled : s.phase.pending = false →
    s.cycle.issuedIntents = [] ∧ s.cycle.materializedActIds = []
  running : s.cycle.deadlineMs.isSome = s.phase.armed
  receipt : s.cycle.timerIntent.isSome = true → s.phase.armed = true
  extended : s.phase = .moreTimePending ∨ s.phase = .moreTimeArmed → s.cycle.moreTimeUsed = true

theorem InFlight.pop {issued : Entries Str CallIntent} {acts : List Str} {k : Str}
    (h : InFlight issued acts) (hk : (issued.find? k).isSome = true) :
    issued.pop k = [] ∧ acts = [] := by
  cases h with
  | none => cases hk
  | consumed actId => cases hk
  | requested k' i =>
    have hkk : k' = k := by
      by_contra hne
      simp [Entries.find?, hne] at hk
    subst hkk
    exact ⟨by simp [Entries.pop], rfl⟩

theorem InFlight.played {issued : Entries Str CallIntent} {acts : List Str} {actId : Str}
    (h : InFlight issued acts) (ha : acts.contains actId = true) :
    issued = [] ∧ acts = [actId] := by
  cases h with
  | none => cases ha
  | requested k i => cases ha
  | consumed a =>
    simp only [List.contains_iff_mem, List.mem_singleton] at ha
    exact ⟨rfl, by rw [ha]⟩

/-- The act that was awaited is the one in flight; its playback ends it. -/
theorem Tidy.played {s : State config} {actId : Str} (h : Tidy s)
    (hm : s.cycle.materializedActIds.contains actId = true) :
    s.cycle.issuedIntents = [] ∧ s.cycle.discard actId = [] := by
  obtain ⟨hi, ha⟩ := h.inFlight.played hm
  exact ⟨hi, by simp [Cycle.discard, ha]⟩

theorem Issued.inFlight {base s' : State config} {kind : CallIntentKind} {actionId actId : Str}
    {r : Reply} (h : Issued base kind actionId actId s' r) (hi : base.cycle.issuedIntents = [])
    (hm : base.cycle.materializedActIds = []) :
    InFlight s'.cycle.issuedIntents s'.cycle.materializedActIds := by
  cases h with
  | ok i =>
    simp only [hi, hm, Entries.set]
    exact .requested actionId i
  | raised e =>
    rw [hi, hm]
    exact .none

theorem Tidy.start (voice : Voice.State) : Tidy (State.start config voice) :=
  ⟨.none, fun _ => ⟨rfl, rfl⟩, rfl, fun h => (by cases h), fun h => (by rcases h with h | h <;> cases h)⟩

theorem Tidy.of_clear {s : State config} (hc : s.cycle = Cycle.clear config)
    (hp : s.phase = .idle ∨ s.phase = .terminated) : Tidy s := by
  refine ⟨?_, fun _ => ?_, ?_, fun h => ?_, fun h => ?_⟩
  · rw [hc]
    exact .none
  · rw [hc]
    exact ⟨rfl, rfl⟩
  · rcases hp with hp | hp <;> rw [hc, hp] <;> rfl
  · rw [hc] at h
    cases h
  · rcases hp with hp | hp <;> rw [hp] at h <;> rcases h with h | h <;> cases h

/-- An armed timer: nothing is in flight. -/
theorem Tidy.of_armed {base s' : State config} {phase : SilencePhase} {actId : Str} {d : ℤ}
    {r : Reply} (h : Armed base phase actId d s' r) (hp : phase.armed = true)
    (hi : base.cycle.issuedIntents = []) (hm : base.cycle.materializedActIds = [])
    (hu : phase = .moreTimeArmed → base.cycle.moreTimeUsed = true) : Tidy s' := by
  obtain ⟨hphase, -, t, hc⟩ := h.fields
  refine ⟨?_, fun _ => ?_, ?_, fun _ => hphase ▸ hp, fun h => ?_⟩
  · rw [hc, hi, hm]
    exact .none
  · rw [hc]
    exact ⟨hi, hm⟩
  · rw [hc, hphase, hp]
    rfl
  · rw [hphase] at h
    rw [hc]
    rcases h with h | h
    · rw [h] at hp
      cases hp
    · exact hu h

/-- A requested act: no timer runs. -/
theorem Tidy.of_issued {base s' : State config} {kind : CallIntentKind} {actionId actId : Str}
    {r : Reply} (h : Issued base kind actionId actId s' r) (hp : base.phase.pending = true)
    (hi : base.cycle.issuedIntents = []) (hm : base.cycle.materializedActIds = [])
    (hd : base.cycle.deadlineMs = none) (ht : base.cycle.timerIntent = none)
    (hu : base.phase = .moreTimePending → base.cycle.moreTimeUsed = true) : Tidy s' := by
  obtain ⟨hphase, -, l, hc⟩ := h.fields
  have harmed : base.phase.armed = false ∧ base.phase ≠ .moreTimeArmed := by
    cases hb : base.phase <;> rw [hb] at hp <;> simp_all [SilencePhase.pending, SilencePhase.armed]
  refine ⟨h.inFlight hi hm, fun hn => ?_, ?_, fun h => ?_, fun h => ?_⟩
  · rw [hphase, hp] at hn
    cases hn
  · rw [hc, hphase, harmed.1, hd]
    rfl
  · rw [hc, ht] at h
    cases h
  · rw [hphase] at h
    rw [hc]
    rcases h with h | h
    · exact hu h
    · exact absurd h harmed.2

theorem SilencePhase.pending_of_armed {p : SilencePhase} (h : p.armed = true) :
    p.pending = false := by
  cases p <;> first | rfl | cases h

theorem awaited_pending {s : State config} {i : CallIntent} (h : awaited s i = true) :
    s.phase.pending = true := by
  simp only [awaited, Bool.or_eq_true, Bool.and_eq_true, beq_iff_eq] at h
  rcases h with ((h | h) | h) | h
  · rw [h.1.2]
    rfl
  · rw [h.1.2]
    rfl
  · rw [h.1.2]
    rfl
  · rw [h.1.1.2]
    rfl

/-- What consuming an intent leaves alone. -/
theorem materialize_fields (s : State config) (kind : CallIntentKind) (actId : Str) :
    let s' := materialize s kind actId
    s'.phase = s.phase ∧ s'.revision = s.revision ∧
      s'.cycle.issuedIntents = s.cycle.issuedIntents ∧
      s'.cycle.materializedActIds = actId :: s.cycle.materializedActIds ∧
      s'.cycle.deadlineMs = s.cycle.deadlineMs ∧ s'.cycle.timerIntent = s.cycle.timerIntent ∧
      s'.cycle.moreTimeUsed = s.cycle.moreTimeUsed ∧
      s'.cycle.presenceDelivered = s.cycle.presenceDelivered ∧
      s'.cycle.silenceTurnId = s.cycle.silenceTurnId ∧
      s'.cycle.silenceTurnSequence = s.cycle.silenceTurnSequence := by
  cases kind <;> exact ⟨rfl, rfl, rfl, rfl, rfl, rfl, rfl, rfl, rfl, rfl⟩

theorem tidy_turn {s s' : State config} {c : Call config} {r : Reply} (h : Tidy s)
    (hturn : Turn s c r s') : Tidy s' := by
  have hnone : s.phase.armed = false → s.cycle.deadlineMs = none ∧ s.cycle.timerIntent = none := by
    intro harmed
    refine ⟨Option.isNone_iff_eq_none.mp ?_, Option.isNone_iff_eq_none.mp ?_⟩
    · simpa [harmed] using h.running
    · simpa [harmed] using h.receipt
  cases hturn with
  | stay c r s' t hp hr hc =>
    refine ⟨?_, ?_, ?_, ?_, ?_⟩ <;> rw [hc]
    · exact h.inFlight
    · exact hp ▸ h.settled
    · exact hp ▸ h.running
    · exact hp ▸ h.receipt
    · exact hp ▸ h.extended
  | reserve p q s' hphase hp hr hc =>
    obtain ⟨hi, hm⟩ := h.settled (by rw [hphase]; rfl)
    obtain ⟨hd, ht⟩ := hnone (by rw [hphase]; rfl)
    refine ⟨?_, fun _ => ?_, ?_, fun h => ?_, fun h => ?_⟩
    · rw [hc, hi, hm]
      exact .none
    · rw [hc]
      exact ⟨hi, hm⟩
    · rw [hc, hp, hd]
      rfl
    · rw [hc, ht] at h
      cases h
    · rw [hp] at h
      rcases h with h | h <;> cases h
  | rollback binding q s' hphase hd hp hr hc => exact .of_clear hc (.inl hp)
  | confirm eventId sequence event s' hphase hq hp hr hc =>
    obtain ⟨hi, hm⟩ := h.settled (by rw [hphase]; rfl)
    obtain ⟨hd, ht⟩ := hnone (by rw [hphase]; rfl)
    refine ⟨?_, fun _ => ?_, ?_, fun h => ?_, fun h => ?_⟩
    · rw [hc]
      exact h.inFlight
    · rw [hc]
      exact ⟨hi, hm⟩
    · rw [hc, hp, hd]
      rfl
    · rw [hc, ht] at h
      cases h
    · rw [hp] at h
      rcases h with h | h <;> cases h
  | hardTerminalize l s' hp hr hc => exact .of_clear hc (.inr hp)
  | cancel p l s' hphase hp hr hc => exact .of_clear hc (.inl hp)
  | sealed c b s' k hissued hp hr hc => exact .of_clear hc (.inr hp)
  | materialize i m actId hissued hawaited hact hid =>
    obtain ⟨hi, hm⟩ := h.inFlight.pop (k := i.actionId) (by rw [hissued]; rfl)
    obtain ⟨hp, -, hi', hm', hd', ht', hu', -⟩ :=
      materialize_fields (s.popIssued i.actionId) i.kind (m.getD actId)
    have hpending := awaited_pending hawaited
    refine ⟨?_, fun hn => ?_, ?_, fun ht => ?_, fun he => ?_⟩
    · rw [hi', hm']
      simp only [State.popIssued, hi, hm]
      exact .consumed _
    · rw [hp] at hn
      simp only [State.popIssued] at hn
      rw [hpending] at hn
      cases hn
    · rw [hd', hp]
      exact h.running
    · rw [hp]
      rw [ht'] at ht
      exact h.receipt ht
    · rw [hu']
      rw [hp] at he
      exact h.extended he
  | armQuestion c r s' base actId t tr hplayed hheard hphase hq hr hc ha =>
    obtain ⟨hi, hm⟩ := h.settled (by rw [hphase]; rfl)
    exact .of_armed ha rfl (by rw [hc]; exact hi) (by rw [hc]; exact hm) (fun h => by cases h)
  | armPresence c r s' base actId t tr hplayed hheard hphase hid hm hr hc ha =>
    obtain ⟨hi, hm'⟩ := h.played hm
    exact .of_armed ha rfl (by rw [hc]; exact hi) (by rw [hc]; exact hm') (fun h => by cases h)
  | armMoreTime c r s' base actId t tr hplayed hheard hphase hid hm hr hc ha =>
    obtain ⟨hi, hm'⟩ := h.played hm
    exact .of_armed ha rfl (by rw [hc]; exact hi) (by rw [hc]; exact hm')
      (fun _ => by rw [hc]; exact h.extended (.inl hphase))
  | close c r s' base actId t tr hplayed hphase hid hm hp hr hc hi =>
    obtain ⟨hi', hm'⟩ := h.played hm
    obtain ⟨hd, ht⟩ := hnone (by rw [hphase]; rfl)
    exact .of_issued hi (by rw [hp]; rfl) (by rw [hc]; exact hi') (by rw [hc]; exact hm')
      (by rw [hc]; exact hd) (by rw [hc]; exact ht) (fun h => by rw [hp] at h; cases h)
  | fallbackPlayed c s' actId t hplayed hphase hp hr hc => exact .of_clear hc (.inl hp)
  | firePresence p actionId revision r s' base tr hdue hphase hp hr hc hi =>
    obtain ⟨hi', hm⟩ := h.settled (SilencePhase.pending_of_armed (timerDue_armed hdue))
    exact .of_issued hi (by rw [hp]; rfl) (by rw [hc]; exact hi') (by rw [hc]; exact hm)
      (by rw [hc]) (by rw [hc]) (fun h => by rw [hp] at h; cases h)
  | fireClosing p actionId revision r s' base hdue hphase hp hr hc hi =>
    obtain ⟨hi', hm⟩ := h.settled (SilencePhase.pending_of_armed (timerDue_armed hdue))
    exact .of_issued hi (by rw [hp]; rfl) (by rw [hc]; exact hi') (by rw [hc]; exact hm)
      (by rw [hc]) (by rw [hc]) (fun h => by rw [hp] at h; cases h)
  | fallback kind p turnId turnSequence r s' base cancels hallowed hp hr hc harm hcancel hid hi =>
    exact .of_issued hi (by rw [hp]; rfl) (by rw [hc]; rfl) (by rw [hc]; rfl) (by rw [hc]; rfl)
      (by rw [hc]; rfl) (fun h => by rw [hp] at h; cases h)
  | moreTime p r s' base i hgranted hi hid hp hr hc hissue =>
    have harmed : s.phase.armed = true := h.running ▸ (moreTimeGranted_spec hgranted).2.2
    obtain ⟨hi', hm⟩ := h.settled (SilencePhase.pending_of_armed harmed)
    exact .of_issued hissue (by rw [hp]; rfl) (by rw [hc]; exact hi') (by rw [hc]; exact hm)
      (by rw [hc]) (by rw [hc]) (fun _ => by rw [hc])

/-! ## Valid ids and a clock -/

/-- What makes an intent of the lifecycle valid but for its own action id. -/
structure Valid (s : State config) : Prop where
  clock : -1 ≤ s.atMs
  turnId : s.cycle.silenceTurnId.all config.isId = true
  turnSequence : s.cycle.silenceTurnId.isSome = true ∨ s.cycle.silenceTurnSequence = none
  issued : ∀ k i, s.cycle.issuedIntents.find? k = some i → i.isValid config = true
  materialized : ∀ a ∈ s.cycle.materializedActIds, config.isId a = true

theorem issueIntent_atMs (s : State config) (kind : CallIntentKind) (actionId actId : Str) :
    (s.issueIntent kind actionId actId).1.atMs = s.atMs := by
  unfold State.issueIntent
  split <;> rfl

theorem arm_atMs (s : State config) (phase : SilencePhase) (actId : Str) (d : ℤ) :
    (arm s phase actId d).1.atMs = s.atMs := by
  unfold arm
  simp only
  split <;> rfl

theorem afterPlayback_atMs (s : State config) (actId : Str) (t : ℤ) :
    (afterPlayback s actId t).1.atMs = s.atMs := by
  unfold afterPlayback
  simp only
  split
  · exact arm_atMs _ _ _ _
  split
  · exact arm_atMs _ _ _ _
  split
  · exact arm_atMs _ _ _ _
  split
  · exact issueIntent_atMs _ _ _ _
  split <;> rfl

/-- The clock of the lifecycle never runs backwards. -/
theorem atMs_step (s : State config) (c : Call config) : s.atMs ≤ ((step config) s c).1.atMs := by
  cases c with
  | voice event => exact Int.le_refl _
  | reserveQuestion p question =>
    show s.atMs ≤ (reserveQuestion s p question).1.atMs
    unfold reserveQuestion
    split
    · exact Int.le_refl _
    · rename_i h
      simp only [not_or, Bool.not_eq_false] at h
      exact (canAcceptPosition_spec h.2).2
  | rollbackQuestionReservation binding question =>
    show s.atMs ≤ (rollbackQuestionReservation s binding question).1.atMs
    unfold rollbackQuestionReservation
    split <;> exact Int.le_refl _
  | semanticConfirmed eventId sequence event =>
    show s.atMs ≤ (semanticConfirmed s eventId sequence event).1.atMs
    unfold semanticConfirmed
    simp only
    split
    · exact Int.le_refl _
    · rename_i h
      simp only [not_or, Bool.not_eq_false] at h
      exact (canAcceptPosition_spec h.2).2
  | hardTerminalize =>
    show s.atMs ≤ (hardTerminalize s).1.atMs
    unfold hardTerminalize
    split <;> exact Int.le_refl _
  | consumeIntent intent m =>
    show s.atMs ≤ (consumeIntent s intent m).1.atMs
    unfold consumeIntent
    split
    · exact Int.le_refl _
    simp only
    split
    · cases intent.kind <;> exact Int.le_refl _
    · split <;> exact Int.le_refl _
  | terminalize intent =>
    show s.atMs ≤ (terminalize s intent).1.atMs
    unfold terminalize
    simp only
    split
    · exact Int.le_refl _
    split <;> exact Int.le_refl _
  | transportResolved eventId sequence event =>
    show s.atMs ≤ (transportResolved s eventId sequence event).1.atMs
    unfold transportResolved
    simp only
    split
    · exact Int.le_refl _
    · rename_i h
      simp only [not_or, Bool.not_eq_false] at h
      exact (canAcceptPosition_spec h.2.2).2
  | playback p actId evidence inferenceId transportId =>
    rw [playback_step]
    split
    · rename_i h
      rw [afterPlayback_atMs]
      exact (heard_spec rfl h).1
    · exact Int.le_refl _
  | observedPlayback eventId sequence event =>
    rw [observedPlayback_step]
    split
    · rename_i h
      rw [afterPlayback_atMs]
      exact (heard_spec rfl h).1
    · exact Int.le_refl _
  | timerFired p actionId revision =>
    show s.atMs ≤ (timerFired s p actionId revision).1.atMs
    have hpresence : (requestPresence (takeDown s p)).1.atMs = p.atMs := issueIntent_atMs _ _ _ _
    have hclosing : (requestClosing (takeDown s p)).1.atMs = p.atMs := issueIntent_atMs _ _ _ _
    unfold timerFired
    split
    · exact Int.le_refl _
    rename_i h
    simp only [timerDue, Bool.not_eq_false, Bool.and_eq_true] at h
    have hle := (canAcceptPosition_spec h.2).2
    split
    · rw [hpresence]
      exact hle
    · rw [hclosing]
      exact hle
    · split
      · rw [hclosing]
        exact hle
      · rw [hpresence]
        exact hle
    · exact hle
  | requestFixedFallback kind p turnId turnSequence =>
    show s.atMs ≤ (requestFixedFallback s kind p turnId turnSequence).1.atMs
    unfold requestFixedFallback
    split
    · exact Int.le_refl _
    rename_i h
    simp only [fallbackAllowed, Bool.not_eq_false, Bool.and_eq_true] at h
    simp only
    split
    · exact (canAcceptPosition_spec h.2).2
    · rw [issueIntent_atMs]
      exact (canAcceptPosition_spec h.2).2
  | requestMoreTime p =>
    show s.atMs ≤ (requestMoreTime s p).1.atMs
    unfold requestMoreTime
    split
    · exact Int.le_refl _
    rename_i h
    simp only [not_or, Bool.not_eq_false] at h
    have hle := (canAcceptPosition_spec h.2.2).2
    simp only
    split
    · exact hle
    split
    · exact hle
    · unfold grantMoreTime
      split
      · exact hle
      · simp only
        rw [issueIntent_atMs]
        exact hle
  | cancel p =>
    show s.atMs ≤ (cancel s p).1.atMs
    unfold cancel
    split
    · exact Int.le_refl _
    rename_i h
    simp only [not_or, Bool.not_eq_false] at h
    have hle := (canAcceptPosition_spec h.2).2
    simp only
    split
    · exact hle
    split <;> exact hle

variable (config) in
theorem Valid.start (voice : Voice.State) : Valid (State.start config voice) :=
  ⟨Int.le_refl _, rfl, .inr rfl, fun _ _ h => (by cases h), fun _ h => (by cases h)⟩

theorem Valid.of_clear {s s' : State config} (h : Valid s) (hat : s.atMs ≤ s'.atMs)
    (hc : s'.cycle = Cycle.clear config) : Valid s' := by
  refine ⟨h.clock.trans hat, ?_, .inr ?_, fun k i hk => ?_, fun a ha => ?_⟩
  · rw [hc]
    rfl
  · rw [hc]
    rfl
  · rw [hc] at hk
    cases hk
  · rw [hc] at ha
    cases ha

/-- The turn is kept, and nothing is issued or consumed that was not. -/
theorem Valid.of_kept {s s' : State config} (h : Valid s) (hat : s.atMs ≤ s'.atMs)
    (hid : s'.cycle.silenceTurnId = s.cycle.silenceTurnId)
    (hseq : s'.cycle.silenceTurnSequence = s.cycle.silenceTurnSequence)
    (hi : ∀ k i, s'.cycle.issuedIntents.find? k = some i →
      s.cycle.issuedIntents.find? k = some i ∨ i.isValid config = true)
    (hm : ∀ a ∈ s'.cycle.materializedActIds,
      a ∈ s.cycle.materializedActIds ∨ config.isId a = true) : Valid s' := by
  refine ⟨h.clock.trans hat, hid ▸ h.turnId, ?_, fun k i hk => ?_, fun a ha => ?_⟩
  · rw [hid, hseq]
    exact h.turnSequence
  · rcases hi k i hk with hk | hk
    · exact h.issued k i hk
    · exact hk
  · rcases hm a ha with ha | ha
    · exact h.materialized a ha
    · exact ha

theorem Issued.issued {base s' : State config} {kind : CallIntentKind} {actionId actId : Str}
    {r : Reply} (h : Issued base kind actionId actId s' r) {k : Str} {i : CallIntent}
    (hk : s'.cycle.issuedIntents.find? k = some i) :
    base.cycle.issuedIntents.find? k = some i ∨ i.isValid config = true := by
  cases h with
  | ok j hkind ha hact hv =>
    simp only [Entries.find?_set] at hk
    split at hk
    · cases hk
      exact .inr hv
    · exact .inl hk
  | raised e => exact .inl hk

theorem mem_of_mem_discard {c : Cycle config} {actId a : Str} (h : a ∈ c.discard actId) :
    a ∈ c.materializedActIds := (List.mem_filter.mp h).1

theorem valid_turn {s s' : State config} {c : Call config} {r : Reply} (h : Valid s)
    (hat : s.atMs ≤ s'.atMs) (hturn : Turn s c r s') : Valid s' := by
  cases hturn with
  | stay c r s' t hp hr hc =>
    exact h.of_kept hat (by rw [hc]) (by rw [hc]) (by rw [hc]; exact fun _ _ => .inl)
      (by rw [hc]; exact fun _ => .inl)
  | reserve p q s' hphase hp hr hc =>
    refine ⟨h.clock.trans hat, ?_, .inl ?_, ?_, ?_⟩ <;> rw [hc]
    · exact q.turnId.property
    · rfl
    · exact h.issued
    · exact h.materialized
  | rollback binding q s' hphase hd hp hr hc => exact h.of_clear hat hc
  | confirm eventId sequence event s' hphase hq hp hr hc =>
    exact h.of_kept hat (by rw [hc]) (by rw [hc]) (by rw [hc]; exact fun _ _ => .inl)
      (by rw [hc]; exact fun _ => .inl)
  | hardTerminalize l s' hp hr hc => exact h.of_clear hat hc
  | cancel p l s' hphase hp hr hc => exact h.of_clear hat hc
  | sealed c b s' k hissued hp hr hc => exact h.of_clear hat hc
  | materialize i m actId hissued hawaited hact hid =>
    obtain ⟨-, -, hi', hm', -, -, -, -, hturn', hseq'⟩ :=
      materialize_fields (s.popIssued i.actionId) i.kind (m.getD actId)
    refine h.of_kept hat hturn' hseq' (fun k j hk => .inl ?_) (fun a ha => ?_)
    · rw [hi'] at hk
      simp only [State.popIssued, Entries.find?_pop] at hk
      split at hk
      · cases hk
      · exact hk
    · rw [hm'] at ha
      rcases List.mem_cons.mp ha with rfl | ha
      · refine .inr ?_
        cases m with
        | some a => exact hid
        | none =>
          have hv := h.issued _ _ hissued
          simp only [CallIntent.isValid, Bool.and_eq_true, hact] at hv
          exact hv.1.1.1.2
      · exact .inl ha
  | armQuestion c r s' base actId t tr hplayed hheard hphase hq hr hc ha =>
    obtain ⟨-, -, t', hc'⟩ := ha.fields
    rw [hc] at hc'
    exact h.of_kept hat (by rw [hc']) (by rw [hc']) (by rw [hc']; exact fun _ _ => .inl)
      (by rw [hc']; exact fun _ => .inl)
  | armPresence c r s' base actId t tr hplayed hheard hphase hid hm hr hc ha =>
    obtain ⟨-, -, t', hc'⟩ := ha.fields
    rw [hc] at hc'
    exact h.of_kept hat (by rw [hc']) (by rw [hc']) (by rw [hc']; exact fun _ _ => .inl)
      (by rw [hc']; exact fun _ ha => .inl (mem_of_mem_discard ha))
  | armMoreTime c r s' base actId t tr hplayed hheard hphase hid hm hr hc ha =>
    obtain ⟨-, -, t', hc'⟩ := ha.fields
    rw [hc] at hc'
    exact h.of_kept hat (by rw [hc']) (by rw [hc']) (by rw [hc']; exact fun _ _ => .inl)
      (by rw [hc']; exact fun _ ha => .inl (mem_of_mem_discard ha))
  | close c r s' base actId t tr hplayed hphase hid hm hp hr hc hi =>
    obtain ⟨-, -, l', hc'⟩ := hi.fields
    rw [hc] at hc'
    refine h.of_kept hat (by rw [hc']) (by rw [hc']) (fun k i hk => ?_)
      (by rw [hc']; exact fun _ ha => .inl (mem_of_mem_discard ha))
    have := hi.issued hk
    rwa [hc] at this
  | fallbackPlayed c s' actId t hplayed hphase hp hr hc => exact h.of_clear hat hc
  | firePresence p actionId revision r s' base tr hdue hphase hp hr hc hi =>
    obtain ⟨-, -, l', hc'⟩ := hi.fields
    rw [hc] at hc'
    refine h.of_kept hat (by rw [hc']) (by rw [hc']) (fun k i hk => ?_)
      (by rw [hc']; exact fun _ => .inl)
    have := hi.issued hk
    rwa [hc] at this
  | fireClosing p actionId revision r s' base hdue hphase hp hr hc hi =>
    obtain ⟨-, -, l', hc'⟩ := hi.fields
    rw [hc] at hc'
    refine h.of_kept hat (by rw [hc']) (by rw [hc']) (fun k i hk => ?_)
      (by rw [hc']; exact fun _ => .inl)
    have := hi.issued hk
    rwa [hc] at this
  | fallback kind p turnId turnSequence r s' base cancels hallowed hp hr hc harm hcancel hid hi =>
    obtain ⟨-, -, l', hc'⟩ := hi.fields
    rw [hc] at hc'
    simp only [fallbackAllowed, Bool.and_eq_true] at hallowed
    obtain ⟨⟨⟨⟨⟨⟨⟨-, hid⟩, -⟩, -⟩, -⟩, -⟩, -⟩, -⟩ := hallowed
    refine ⟨h.clock.trans hat, ?_, .inl ?_, fun k i hk => ?_, ?_⟩
    · rw [hc']
      exact hid
    · rw [hc']
      rfl
    · rcases hi.issued hk with hk | hv
      · rw [hc] at hk
        cases hk
      · exact hv
    · rw [hc']
      exact fun _ ha => (by cases ha)
  | moreTime p r s' base i hgranted hi hid hp hr hc hissue =>
    obtain ⟨-, -, l', hc'⟩ := hissue.fields
    rw [hc] at hc'
    refine h.of_kept hat (by rw [hc']) (by rw [hc']) (fun k i hk => ?_)
      (by rw [hc']; exact fun _ => .inl)
    have := hissue.issued hk
    rwa [hc] at this

end Lifecycle

end HeyKevin.L5.Silence
