import HeyKevin.L5Voice.QuestionSlots
/-!
# What one operation does to one act

Every operation of `SpeechControl` writes records in a few ways only
(`Moves`). An act is recorded anew, advances, streams a segment, or is rolled
back while it is still as it was reserved.

* `step_moves`: the record under any id, before and after any operation.
* `moves_run`: what every record in a reachable state has in common.
-/
namespace HeyKevin.L5.Speech

open HeyKevin.Core L1 L1.Text
open HeyKevin.L5.Voice (VoiceSessionBinding VoiceSemanticActKind)

variable (P : Python) (policy : SpeechPolicy)

/-- A record as a reservation leaves it, under an id of the code's making. -/
structure Fresh (id : Str) (r : ActRecord) : Prop where
  id_digest : ∃ text, id = actDigest P text
  turn_valid : IsIdentifier r.reserved.turnId
  unauthorized : r.authorized = false
  unstreamed : r.streamedText = []

/-- The conditions of `accept_segment`. -/
structure Streamable (r : ActRecord) (segment : Str) (final : Bool) : Prop where
  live : r.cancelled = false
  authorized : r.authorized = true
  kind : isTerminalKind r.reserved.kind = false ∧ r.reserved.kind ≠ .question ∧
    r.reserved.kind ≠ .safety
  nonempty : segment ≠ []
  isPrefix : r.streamedText ++ segment <+: r.reserved.text
  valid : (validateText P policy r.reserved.kind (r.streamedText ++ segment)).toBool = true
  final_iff : final = decide (r.streamedText ++ segment = r.reserved.text)

/-- What one operation can do to the record under `id`. -/
inductive Moves (id : Str) : Option ActRecord → Option ActRecord → Prop
  | same (o : Option ActRecord) : Moves id o o
  | advanced {r r' : ActRecord} (reserved : r'.reserved = r.reserved)
      (authorized : r'.authorized = r.authorized) (streamed : r'.streamedText = r.streamedText) :
      Moves id (some r) (some r')
  | authorized {r : ActRecord}
      (valid : (validateText P policy r.reserved.kind r.reserved.text).toBool = true) :
      Moves id (some r) (some { r with authorized := true })
  | recorded {r : ActRecord} (fresh : Fresh P id r) : Moves id none (some r)
  | rolledBack {r : ActRecord} (unauthorized : r.authorized = false)
      (unstreamed : r.streamedText = []) : Moves id (some r) none

/-- The segment that the operation streams to the act `id`, if it does. -/
def acceptedSegment (id : Str) : Op → Response → Option (Str × Bool)
  | .acceptSegment actId segment final, .done true =>
    if actId = id then some (segment, final) else none
  | _, _ => none

variable {P policy}

/-- Writing the record under one id leaves the others alone. -/
theorem moves_set {s t : State} {id : Str} {o : Option ActRecord} {r' : ActRecord}
    (hr : s.records.find? id = o) (ht : t.records = s.records.set id r')
    (h : Moves P policy id o (some r')) (x : Str) :
    Moves P policy x (s.records.find? x) (t.records.find? x) := by
  rw [ht, Entries.find?_set]
  by_cases hx : id = x
  · subst hx
    rw [if_pos rfl, hr]
    exact h
  · rw [if_neg hx]
    exact .same _

/-! ## Reservations -/

/-- What the second loop of `reserve` leaves under an id. -/
theorem reserveActs_records {authorization : SpeechAuthorization} {planId : Str}
    (acts : List SemanticAct) (index : ℕ) (s : State) (x : Str) :
    (reserveActs P authorization planId index acts s).1.records.find? x = s.records.find? x ∨
      x ∈ idsFrom P authorization planId index acts ∧
        ∃ r, (reserveActs P authorization planId index acts s).1.records.find? x = some r ∧
          Fresh P x r := by
  induction acts generalizing index s with
  | nil => exact .inl rfl
  | cons act acts ih =>
    rw [reserveActs, idsFrom]
    simp only
    rcases ih (index + 1) (reserveAct authorization act
      (actId P authorization.binding authorization.turnId planId index) s) with h | ⟨hx, h⟩
    · rw [h, reserveAct, Entries.find?_set]
      split
      · rename_i hx
        exact .inr ⟨by rw [← hx]; exact List.mem_cons_self, _, rfl,
          ⟨⟨_, hx.symm⟩, authorization.turn_valid, rfl, rfl⟩⟩
      · exact .inl rfl
    · exact .inr ⟨List.mem_cons_of_mem _ hx, h⟩

theorem moves_reserve {s t : State} {plan : SpokenPlan} {authorization : SpeechAuthorization}
    {batch : List ReservedSpeech} (h : reserve P policy plan authorization s = .ok (t, batch))
    (x : Str) : Moves P policy x (s.records.find? x) (t.records.find? x) := by
  simp only [reserve, bind_eq_ok, pure_eq_ok, Except.ok.injEq, Prod.mk.injEq] at h
  obtain ⟨u, hu, rfl, -⟩ := h
  change Moves P policy x _
    ((reserveActs P authorization plan.planId 0 plan.acts s).1.records.find? x)
  rcases reserveActs_records plan.acts 0 s x with hsame | ⟨hx, r, hr, hfresh⟩
  · rw [hsame]
    exact .same _
  · rw [hr, (checkActs_eq_ok hu).1 x hx]
    exact .recorded hfresh

theorem moves_reserveReplay {s t : State} {source : ReplaySource} {requestId : Str}
    {mode : ReplayMode} {authorization : SpeechAuthorization} {batch : List ReservedSpeech}
    (h : reserveReplay P source requestId mode authorization s = .ok (t, batch)) (x : Str) :
    Moves P policy x (s.records.find? x) (t.records.find? x) := by
  simp only [reserveReplay, bind_eq_ok, ensure_eq_ok, exists_unit] at h
  obtain ⟨-, h⟩ := h
  split at h
  · rename_i hc
    cases h
    exact moves_set (Option.isNone_iff_eq_none.mp hc.2.2.2.2.2.2.2.2) rfl
      (.recorded ⟨⟨_, rfl⟩, authorization.turn_valid, rfl, rfl⟩) x
  · cases h
    exact .same _

theorem moves_reserveRepair {originalActId : Str} {failure : FailureClass} {plan : SpokenPlan}
    {authorization : SpeechAuthorization} {facts : List Str} (s : State) (x : Str) :
    Moves P policy x (s.records.find? x)
      ((reserveRepair P policy originalActId failure plan authorization facts s).1.records.find?
        x) := by
  unfold reserveRepair
  split
  · split
    · split
      · rename_i ht
        have hmoves := moves_reserve ht x
        simp only
        split
        · exact hmoves
        · exact hmoves
      · rename_i ht
        exact moves_reserve ht x
      · exact .same _
    · exact .same _
  · exact .same _

/-! ## Rollback -/

theorem rollbackRecords_records (rs : List ActRecord) (s : State) (x : Str) :
    (rs.foldl (fun t r => rollbackRecord r t) s).records.find? x =
      if x ∈ rs.map (·.reserved.actId) then none else s.records.find? x := by
  induction rs generalizing s with
  | nil => rfl
  | cons r rs ih =>
    rw [List.foldl_cons, ih, rollbackRecord, Entries.find?_pop, List.map_cons]
    by_cases hx : x = r.reserved.actId
    · simp [hx]
    · simp [hx, Ne.symm hx]

theorem moves_rollbackReservation (reserved : List ReservedSpeech) (s : State) (x : Str) :
    Moves P policy x (s.records.find? x)
      ((rollbackReservation reserved s).1.records.find? x) := by
  unfold rollbackReservation
  split
  · rename_i h
    simp only
    rw [rollbackRecords_records]
    split
    · rename_i hx
      obtain ⟨r, hr, hrx⟩ := List.mem_map.mp hx
      obtain ⟨item, hitem, hfind⟩ := List.mem_filterMap.mp hr
      obtain ⟨r', hr', hpristine⟩ := h.2.2.2 item hitem
      obtain rfl : r = r' := Option.some.inj (hfind.symm.trans hr')
      have hx' : x = item.actId := by rw [← hrx, hpristine.1]
      rw [hx', hfind]
      exact .rolledBack hpristine.2.1 hpristine.2.2.2.2.2.1
    · exact .same _
  · exact .same _

/-! ## One operation -/

theorem moves_cancelled (id : Str) (o : Option ActRecord) :
    Moves P policy id o (o.map fun r => { r with cancelled := true }) := by
  cases o with
  | none => exact .same _
  | some r => exact .advanced rfl rfl rfl

theorem moves_authorizeText (id text : Str) (s : State) (x : Str) :
    Moves P policy x (s.records.find? x) ((authorizeText P policy id text s).1.records.find? x) := by
  unfold authorizeText
  split
  · rename_i r hr
    split
    · rename_i h
      refine moves_set hr rfl (.authorized ?_) x
      rw [← h.2.2.1]
      exact h.2.2.2
    · exact .same _
  · exact .same _

theorem moves_bindTts {id audioId : Str} {s t : State} {b : Bool}
    (h : bindTts P id audioId s = .ok (t, b)) (x : Str) :
    Moves P policy x (s.records.find? x) (t.records.find? x) := by
  unfold bindTts at h
  split at h
  · rename_i r hr
    split at h
    · simp only [bind_eq_ok, pure_eq_ok, Except.ok.injEq, Prod.mk.injEq] at h
      obtain ⟨_, -, rfl, -⟩ := h
      refine moves_set hr rfl ?_ x
      exact .advanced rfl rfl rfl
    · cases h
      exact .same _
  · cases h
    exact .same _

theorem moves_bindPlayout (id playoutId : Str) (s : State) (x : Str) :
    Moves P policy x (s.records.find? x) ((bindPlayout id playoutId s).1.records.find? x) := by
  unfold bindPlayout
  split
  · rename_i r hr
    split
    · split
      · refine moves_set hr rfl ?_ x
        exact .advanced rfl rfl rfl
      · exact .same _
    · exact .same _
  · exact .same _

theorem moves_recordCallerPlaybackObserved (id playoutId : Str) (s : State) (x : Str) :
    Moves P policy x (s.records.find? x)
      ((recordCallerPlaybackObserved id playoutId s).1.records.find? x) := by
  unfold recordCallerPlaybackObserved
  split
  · rename_i r hr
    split
    · refine moves_set hr rfl ?_ x
      exact .advanced rfl rfl rfl
    · exact .same _
  · exact .same _

theorem moves_cancel (id : Str) (reason : CancellationReason) (supersedingEpoch : Option ℤ)
    (s : State) (x : Str) : Moves P policy x (s.records.find? x)
      ((cancel id reason supersedingEpoch s).1.records.find? x) := by
  unfold cancel
  split
  · rename_i r hr
    split
    · refine moves_set hr rfl ?_ x
      exact .advanced rfl rfl rfl
    · exact .same _
  · exact .same _

/-- Streaming a segment. -/
theorem acceptSegment_cases (id segment : Str) (final : Bool) (s : State) :
    acceptSegment P policy id segment final s = (s, false) ∨
      ∃ r, s.records.find? id = some r ∧ Streamable P policy r segment final ∧
        acceptSegment P policy id segment final s =
          (s.setRecord id { r with streamedText := r.streamedText ++ segment }, true) := by
  unfold acceptSegment
  split
  · rename_i r hr
    simp only
    split
    · rename_i h
      exact .inr ⟨r, hr, ⟨h.1, h.2.1, ⟨h.2.2.1, h.2.2.2.1, h.2.2.2.2.1⟩, h.2.2.2.2.2.1,
        h.2.2.2.2.2.2.1, h.2.2.2.2.2.2.2.1, h.2.2.2.2.2.2.2.2⟩, rfl⟩
    · exact .inl rfl
  · exact .inl rfl

/-- The record under an id, before and after an operation: it streams the segment that was
accepted for it, or moves in one of the other ways. -/
theorem step_moves (s : State) (op : Op) (x : Str) :
    (acceptedSegment x op (step P policy s op).2 = none ∧
      Moves P policy x (s.records.find? x) ((step P policy s op).1.records.find? x)) ∨
    ∃ r segment final, acceptedSegment x op (step P policy s op).2 = some (segment, final) ∧
      s.records.find? x = some r ∧ Streamable P policy r segment final ∧
      (step P policy s op).1.records.find? x =
        some { r with streamedText := r.streamedText ++ segment } := by
  cases op with
  | reserve plan authorization =>
    refine .inl ⟨rfl, ?_⟩
    simp only [step]
    cases h : reserve P policy plan authorization s with
    | error m => exact .same _
    | ok y => exact moves_reserve h x
  | rollbackReservation reserved => exact .inl ⟨rfl, moves_rollbackReservation reserved s x⟩
  | completeReservation reserved =>
    refine .inl ⟨rfl, ?_⟩
    change Moves P policy x _ ((completeReservation reserved s).1.records.find? x)
    rw [(sameRecords_retire reserved s).1]
    exact .same _
  | retireReservation reserved =>
    refine .inl ⟨rfl, ?_⟩
    change Moves P policy x _ ((retireReservation reserved s).1.records.find? x)
    rw [(sameRecords_retire reserved s).2.2.1]
    exact .same _
  | forceRetireReservation reserved =>
    refine .inl ⟨rfl, ?_⟩
    change Moves P policy x _ ((forceRetireReservation reserved s).1.records.find? x)
    rw [(sameRecords_retire reserved s).2.2.2.2.1]
    exact .same _
  | authorizeText id text => exact .inl ⟨rfl, moves_authorizeText id text s x⟩
  | acceptSegment id segment final =>
    simp only [step, Prod.map]
    rcases acceptSegment_cases id segment final s with h | ⟨r, hr, hstream, h⟩
    · rw [h]
      exact .inl ⟨rfl, .same _⟩
    · rw [h]
      by_cases hx : id = x
      · subst hx
        refine .inr ⟨r, segment, final, ?_, hr, hstream, ?_⟩
        · exact if_pos rfl
        · exact (Entries.find?_set ..).trans (if_pos rfl)
      · refine .inl ⟨if_neg hx, ?_⟩
        show Moves P policy x _ ((s.records.set id _).find? x)
        rw [Entries.find?_set, if_neg hx]
        exact .same _
  | bindTts id audioId =>
    refine .inl ⟨rfl, ?_⟩
    simp only [step]
    cases h : bindTts P id audioId s with
    | error m => exact .same _
    | ok y => exact moves_bindTts h x
  | bindPlayout id playoutId => exact .inl ⟨rfl, moves_bindPlayout id playoutId s x⟩
  | recordCallerPlaybackObserved id playoutId =>
    exact .inl ⟨rfl, moves_recordCallerPlaybackObserved id playoutId s x⟩
  | reserveReplay source requestId mode authorization =>
    refine .inl ⟨rfl, ?_⟩
    simp only [step]
    cases h : reserveReplay P source requestId mode authorization s with
    | error m => exact .same _
    | ok y => exact moves_reserveReplay h x
  | reserveRepair originalActId failure plan authorization facts =>
    exact .inl ⟨rfl, moves_reserveRepair s x⟩
  | cancel id reason supersedingEpoch =>
    exact .inl ⟨rfl, moves_cancel id reason supersedingEpoch s x⟩
  | hardTerminalize id =>
    refine .inl ⟨rfl, ?_⟩
    simp only [step]
    rw [hardTerminalize_records]
    split
    · exact moves_cancelled x _
    · exact .same _
  | hardTerminalizeBinding binding =>
    refine .inl ⟨rfl, ?_⟩
    simp only [step]
    rw [hardTerminalizeBinding, (hardTerminalize_all (actIdsForBinding s binding) s).1 x]
    split
    · exact moves_cancelled x _
    · exact .same _

end HeyKevin.L5.Speech
