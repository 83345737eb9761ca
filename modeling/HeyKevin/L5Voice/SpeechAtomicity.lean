import HeyKevin.L5Voice.ActRecords
/-!
# Speech operations are all or nothing

An operation of `SpeechControl` that raises or answers `False`, `None` or the
empty tuple leaves no trace, with one exception: `reserve_repair` reserves its
plan before it builds the intent, so a confirmed fact that is no identifier
leaves the reservation behind.

* `named_run`: the ids and the turns of a reachable state are identifiers, so
  nothing else of an intent can be refused.
* `allOrNothing_iff`: the exception, exactly.
-/
namespace HeyKevin.L5.Speech

open HeyKevin.Core L1 L1.Text
open HeyKevin.L5.Voice (VoiceSessionBinding VoiceSemanticActKind)

variable (P : Python) (policy : SpeechPolicy)

/-- The call raised, or answered `False`, `None` or `()`. -/
def Response.failed : Response → Bool
  | .raised _ => true
  | .done ok => !ok
  | .batch reserved => reserved.isEmpty
  | .repair intent => intent.isNone

/-- The checks that `reserve_repair` makes before it reserves. -/
structure Repairable (s : State) (originalActId : Str) (failure : FailureClass) (plan : SpokenPlan)
    (authorization : SpeechAuthorization) (r : ActRecord) : Prop where
  recorded : s.records.find? originalActId = some r
  recoverable : failure = .recoverable
  kind : r.reserved.kind ≠ .repair
  unrepaired : (r.reserved.binding, originalActId) ∉ s.repairs
  one_repair : plan.acts.map SemanticAct.kind = [.repair]
  binding : authorization.binding = r.reserved.binding
  turn : authorization.turnId = r.reserved.turnId

/-- A repair that passes every check but for a confirmed fact that is no identifier. -/
def Orphans (s : State) : Op → Prop
  | .reserveRepair originalActId failure plan authorization confirmedFactIds =>
    (∃ r, Repairable s originalActId failure plan authorization r) ∧
      checkActs P policy s authorization plan.planId 0 plan.acts = .ok () ∧
      ∃ fact ∈ confirmedFactIds, ¬ IsIdentifier fact
  | _ => False

/-! ## Identifiers -/

/-- The ids and the turns on record are identifiers. -/
def Named (s : State) : Prop :=
  ∀ x r, s.records.find? x = some r →
    (∃ text, x = actDigest P text) ∧ IsIdentifier r.reserved.turnId

variable {P policy}

theorem isIdentifier_actDigest (hP : P.HexDigest) (text : Str) :
    IsIdentifier (actDigest P text) := by
  have hdigest := hP ((encodeUtf8 text).getD [])
  rw [Python.isDigest, Bool.and_eq_true, beq_iff_eq, List.all_eq_true] at hdigest
  have hlen : (actDigest P text).length = 68 := by
    rw [actDigest, List.length_append, hdigest.1]
    decide
  refine ⟨by omega, by omega, List.all_eq_true.mpr fun c hc => ?_⟩
  rcases List.mem_append.mp hc with hc | hc
  · have hact : IsIdentifier (py "act_") := by decide
    exact List.all_eq_true.mp hact.2.2 c hc
  · have hhex := hdigest.2 c hc
    simp only [Python.isLowerHex, Bool.or_eq_true, Bool.and_eq_true, decide_eq_true_eq] at hhex
    simp only [Bool.or_eq_true, Bool.and_eq_true, decide_eq_true_eq]
    omega

theorem Moves.named {x : Str} {o o' : Option ActRecord} (h : Moves P policy x o o')
    (ho : ∀ r, o = some r → (∃ text, x = actDigest P text) ∧ IsIdentifier r.reserved.turnId) :
    ∀ r, o' = some r → (∃ text, x = actDigest P text) ∧ IsIdentifier r.reserved.turnId := by
  intro r hr
  cases h with
  | same => exact ho r hr
  | advanced reserved authorized streamed =>
    obtain rfl := Option.some.inj hr
    rw [reserved]
    exact ho _ rfl
  | authorized valid =>
    rename_i before
    obtain rfl := Option.some.inj hr
    exact ho before rfl
  | recorded fresh =>
    obtain rfl := Option.some.inj hr
    exact ⟨fresh.id_digest, fresh.turn_valid⟩
  | rolledBack => cases hr

theorem named_step (s : State) (op : Op) (hs : Named P s) : Named P (step P policy s op).1 := by
  intro x r hr
  rcases step_moves s op x with ⟨-, hmoves⟩ | ⟨r', segment, final, -, hr', -, hpost⟩
  · exact hmoves.named (hs x) r hr
  · rw [hpost] at hr
    obtain rfl := Option.some.inj hr
    exact hs x r' hr'

theorem named_run (ops : List Op) : Named P ((step P policy).run .start ops) := by
  refine (step P policy).reachable_inv ?_ named_step ⟨ops, rfl⟩
  intro x r hr
  cases hr

/-! ## Reservations -/

theorem reserve_of_checkActs {s : State} {plan : SpokenPlan} {authorization : SpeechAuthorization}
    (h : checkActs P policy s authorization plan.planId 0 plan.acts = .ok ()) :
    ∃ t, reserve P policy plan authorization s =
      .ok (t, (reserveActs P authorization plan.planId 0 plan.acts s).2) ∧
      t.records = (reserveActs P authorization plan.planId 0 plan.acts s).1.records := by
  rw [reserve, h]
  exact ⟨_, rfl, rfl⟩

theorem checkActs_of_reserve {s t : State} {plan : SpokenPlan}
    {authorization : SpeechAuthorization} {batch : List ReservedSpeech}
    (h : reserve P policy plan authorization s = .ok (t, batch)) :
    checkActs P policy s authorization plan.planId 0 plan.acts = .ok () := by
  simp only [reserve, bind_eq_ok] at h
  obtain ⟨u, hu, -⟩ := h
  exact hu

/-- A plan of one repair reserves one act, under an id that was free. -/
theorem reserve_repair {s : State} {plan : SpokenPlan} {authorization : SpeechAuthorization}
    (hone : plan.acts.map SemanticAct.kind = [.repair])
    (h : checkActs P policy s authorization plan.planId 0 plan.acts = .ok ()) :
    ∃ t item, reserve P policy plan authorization s = .ok (t, [item]) ∧
      (∃ text, item.actId = actDigest P text) ∧ t ≠ s := by
  obtain ⟨t, ht, hrecords⟩ := reserve_of_checkActs h
  obtain ⟨act, hact, -⟩ := List.map_eq_singleton_iff.mp hone
  rw [hact] at ht hrecords h
  refine ⟨t, _, ht, ⟨_, rfl⟩, ?_⟩
  intro hsame
  have hfree := (checkActs_eq_ok h).1 _ List.mem_cons_self
  rw [← hsame, hrecords] at hfree
  simp only [reserveActs, reserveAct, Entries.find?_set, if_true, reduceCtorEq] at hfree

/-! ## All or nothing -/

theorem reserveRepair_iff (hP : P.HexDigest) {s : State} (hs : Named P s) (originalActId : Str)
    (failure : FailureClass) (plan : SpokenPlan) (authorization : SpeechAuthorization)
    (facts : List Str) :
    ((reserveRepair P policy originalActId failure plan authorization facts s).2 = none →
      (reserveRepair P policy originalActId failure plan authorization facts s).1 = s) ↔
    ¬ Orphans P policy s (.reserveRepair originalActId failure plan authorization facts) := by
  unfold reserveRepair
  split
  · rename_i r hr
    split
    · rename_i hguard
      have hrepairable : Repairable s originalActId failure plan authorization r :=
        ⟨hr, hguard.1, hguard.2.1, hguard.2.2.1, hguard.2.2.2.1, hguard.2.2.2.2.1,
          hguard.2.2.2.2.2⟩
      cases hreserve : reserve P policy plan authorization s with
      | error m =>
        refine iff_of_true (fun _ => rfl) ?_
        rintro ⟨-, hchecks, -⟩
        obtain ⟨t, ht, -⟩ := reserve_of_checkActs hchecks
        exact absurd (hreserve.symm.trans ht) (by simp)
      | ok y =>
        have hchecks := checkActs_of_reserve hreserve
        obtain ⟨t, item, ht, ⟨text, hitem⟩, hne⟩ := reserve_repair hrepairable.one_repair hchecks
        obtain rfl : y = (t, [item]) := Except.ok.inj (hreserve.symm.trans ht)
        obtain ⟨⟨original, horiginal⟩, hturn⟩ := hs originalActId r hr
        simp only
        by_cases hfacts : ∀ fact ∈ facts, IsIdentifier fact
        · rw [if_pos ⟨horiginal ▸ isIdentifier_actDigest hP original,
            hitem ▸ isIdentifier_actDigest hP text, hturn, hfacts⟩]
          refine iff_of_true (fun h => by cases h) ?_
          rintro ⟨-, -, fact, hfact, hbad⟩
          exact hbad (hfacts fact hfact)
        · rw [if_neg fun hvalid => hfacts hvalid.2.2.2]
          refine iff_of_false (fun h => hne (h rfl)) (not_not.mpr ?_)
          push Not at hfacts
          exact ⟨⟨r, hrepairable⟩, hchecks, hfacts⟩
    · rename_i hguard
      refine iff_of_true (fun _ => rfl) ?_
      rintro ⟨⟨r', h⟩, -⟩
      obtain rfl : r = r' := Option.some.inj (hr.symm.trans h.recorded)
      exact hguard ⟨h.recoverable, h.kind, h.unrepaired, h.one_repair, h.binding, h.turn⟩
  · rename_i hr
    refine iff_of_true (fun _ => rfl) ?_
    rintro ⟨⟨r, h⟩, -⟩
    exact absurd (hr.symm.trans h.recorded) (by simp)

/-- The state after a failed call is the state before it. -/
def AllOrNothing (s : State) (x : State × Response) : Prop := x.2.failed = true → x.1 = s

theorem allOrNothing_attempt {α : Type} {s : State} {x : Except String (State × α)}
    {f : α → Response} (h : ∀ t a, x = .ok (t, a) → (f a).failed = true → t = s) :
    AllOrNothing s (attempt s x f) := by
  cases x with
  | error m => exact fun _ => rfl
  | ok y => exact h y.1 y.2 rfl

/-- An operation that answers `True`, or `False` with the state as it was. -/
theorem allOrNothing_done {s : State} (x : State × Bool) (h : x = (s, false) ∨ x.2 = true) :
    AllOrNothing s (x.map id .done) := by
  intro hfailed
  rcases h with h | h
  · rw [h]
    rfl
  · simp only [Prod.map, Response.failed, h, Bool.not_true, Bool.false_eq_true] at hfailed

theorem reserve_batch {s t : State} {plan : SpokenPlan} {authorization : SpeechAuthorization}
    {batch : List ReservedSpeech} (h : reserve P policy plan authorization s = .ok (t, batch)) :
    batch ≠ [] := by
  obtain ⟨t', ht, -⟩ := reserve_of_checkActs (checkActs_of_reserve h)
  obtain ⟨-, rfl⟩ := Prod.mk.inj (Except.ok.inj (h.symm.trans ht))
  obtain ⟨act, acts, hacts⟩ := List.exists_cons_of_ne_nil plan.nonempty
  rw [hacts, reserveActs]
  exact List.cons_ne_nil _ _

theorem allOrNothing_reserveReplay {s : State} (source : ReplaySource) (requestId : Str)
    (mode : ReplayMode) (authorization : SpeechAuthorization) :
    AllOrNothing s (attempt s (reserveReplay P source requestId mode authorization s) .batch) := by
  refine allOrNothing_attempt fun t batch h hfailed => ?_
  simp only [reserveReplay, bind_eq_ok, ensure_eq_ok, exists_unit] at h
  obtain ⟨-, h⟩ := h
  split at h
  · cases h
    cases hfailed
  · cases h
    rfl

theorem allOrNothing_bindTts {s : State} (id audioId : Str) :
    AllOrNothing s (attempt s (bindTts P id audioId s) .done) := by
  refine allOrNothing_attempt fun t ok h hfailed => ?_
  unfold bindTts at h
  split at h
  · split at h
    · simp only [bind_eq_ok, pure_eq_ok, Except.ok.injEq, Prod.mk.injEq] at h
      obtain ⟨_, -, -, rfl⟩ := h
      cases hfailed
    · cases h
      rfl
  · cases h
    rfl

theorem allOrNothing_acceptSegment {s : State} (actId segment : Str) (final : Bool) :
    AllOrNothing s ((acceptSegment P policy actId segment final s).map id .done) := by
  refine allOrNothing_done _ ?_
  rcases acceptSegment_cases actId segment final s with h | ⟨r, -, -, h⟩
  · exact .inl h
  · exact .inr (by rw [h])

/-- An act cannot be live after it was terminated. -/
theorem hardTerminalize_not_live (s : State) (id : Str) : isLive (hardTerminalize id s) id = false := by
  rw [isLive, hardTerminalize_records, if_pos rfl]
  cases s.records.find? id with
  | none => rfl
  | some r => simp

theorem hardTerminalizeBinding_not_live (s : State) (binding : VoiceSessionBinding) {id : Str}
    (h : id ∈ actIdsForBinding s binding) : isLive (hardTerminalizeBinding binding s) id = false := by
  rw [isLive, hardTerminalizeBinding, (hardTerminalize_all (actIdsForBinding s binding) s).1 id,
    if_pos h]
  cases s.records.find? id with
  | none => rfl
  | some r => simp

/-- One call is all or nothing, unless it is a repair that orphans its reservation. -/
theorem allOrNothing_step_iff (hP : P.HexDigest) {s : State} (hs : Named P s) (op : Op) :
    AllOrNothing s (step P policy s op) ↔ ¬ Orphans P policy s op := by
  cases op with
  | reserve plan authorization =>
    refine iff_of_true (allOrNothing_attempt fun t batch h hfailed => ?_) not_false
    exact absurd (List.isEmpty_iff.mp hfailed) (reserve_batch h)
  | rollbackReservation reserved =>
    refine iff_of_true (allOrNothing_done (rollbackReservation reserved s) ?_) not_false
    unfold rollbackReservation
    split
    · exact .inr rfl
    · exact .inl rfl
  | completeReservation reserved =>
    refine iff_of_true (allOrNothing_done (completeReservation reserved s) ?_) not_false
    unfold completeReservation
    split
    · exact .inr rfl
    · exact .inl rfl
  | retireReservation reserved =>
    refine iff_of_true (allOrNothing_done (retireReservation reserved s) ?_) not_false
    unfold retireReservation
    split
    · exact .inr rfl
    · exact .inl rfl
  | forceRetireReservation reserved =>
    refine iff_of_true (allOrNothing_done (forceRetireReservation reserved s) ?_) not_false
    unfold forceRetireReservation
    split
    · exact .inr rfl
    · exact .inl rfl
  | authorizeText actId text =>
    refine iff_of_true (allOrNothing_done (authorizeText P policy actId text s) ?_) not_false
    unfold authorizeText
    split
    · split
      · exact .inr rfl
      · exact .inl rfl
    · exact .inl rfl
  | acceptSegment actId segment final =>
    exact iff_of_true (allOrNothing_acceptSegment actId segment final) not_false
  | bindTts id audioId => exact iff_of_true (allOrNothing_bindTts id audioId) not_false
  | bindPlayout actId playoutId =>
    refine iff_of_true (allOrNothing_done (bindPlayout actId playoutId s) ?_) not_false
    unfold bindPlayout
    split
    · split
      · split
        · exact .inr rfl
        · exact .inl rfl
      · exact .inl rfl
    · exact .inl rfl
  | recordCallerPlaybackObserved actId playoutId =>
    refine iff_of_true (allOrNothing_done (recordCallerPlaybackObserved actId playoutId s) ?_) not_false
    unfold recordCallerPlaybackObserved
    split
    · split
      · exact .inr rfl
      · exact .inl rfl
    · exact .inl rfl
  | reserveReplay source requestId mode authorization =>
    exact iff_of_true (allOrNothing_reserveReplay source requestId mode authorization) not_false
  | reserveRepair originalActId failure plan authorization facts =>
    rw [← reserveRepair_iff hP hs]
    simp only [AllOrNothing, step, Prod.map, Response.failed, Option.isNone_iff_eq_none, id_eq]
  | cancel actId reason supersedingEpoch =>
    refine iff_of_true (allOrNothing_done (cancel actId reason supersedingEpoch s) ?_) not_false
    unfold cancel
    split
    · split
      · exact .inr rfl
      · exact .inl rfl
    · exact .inl rfl
  | hardTerminalize id =>
    refine iff_of_true (fun h => ?_) not_false
    simp only [step, Response.failed, hardTerminalize_not_live, Bool.not_false, Bool.and_true,
      Bool.not_eq_true', Option.isSome_eq_false_iff, Option.isNone_iff_eq_none] at h
    simp only [step, hardTerminalize, h]
  | hardTerminalizeBinding binding =>
    refine iff_of_true (fun h => ?_) not_false
    simp only [step, Response.failed, Bool.not_eq_true', List.all_eq_false] at h
    obtain ⟨id, hid, hlive⟩ := h
    rw [hardTerminalizeBinding_not_live s binding hid] at hlive
    exact absurd rfl hlive

/-- In every reachable state a call that fails leaves no trace, exactly unless it is a repair
whose confirmed facts are refused after its plan was reserved. -/
theorem allOrNothing_iff (P : Python) (hP : P.HexDigest) (policy : SpeechPolicy) (ops : List Op)
    (op : Op) :
    AllOrNothing ((step P policy).run .start ops)
        (step P policy ((step P policy).run .start ops) op) ↔
      ¬ Orphans P policy ((step P policy).run .start ops) op :=
  allOrNothing_step_iff hP (named_run ops) op

/-! ## A repair with a bad fact -/

def exampleSpoken (kind : VoiceSemanticActKind) (h : (none : Option Str).isSome ↔ kind = .question) :
    SemanticAct where
  kind := kind
  text := py "yes"
  questionSlot := none
  privateDisclosure := false
  unsupportedPromise := false
  complete := true
  text_valid := by decide
  slot_valid := noSlot_isIdentifier
  slot_isSome := h

def exampleAnswered : SpokenPlan :=
  ⟨py "p1", [exampleSpoken .answer answer_noSlot], exampleP1_isIdentifier, by decide, by decide,
    by decide⟩

def exampleRepaired : SpokenPlan :=
  ⟨py "p2", [exampleSpoken .repair (by decide)], exampleP2_isIdentifier, by decide, by decide,
    by decide⟩

def exampleBoth : SpeechAuthorization :=
  ⟨Voice.exampleBinding, py "turn", [.answer, .repair], false, [], py "en",
    exampleTurn_isIdentifier⟩

def exampleReserved : List Op := [.reserve exampleAnswered exampleBoth]

def exampleBadFact : Op :=
  .reserveRepair (exampleAct "p1") .recoverable exampleRepaired exampleBoth [py "job address"]

theorem exampleBadFact_iff :
    AllOrNothing ((step asciiPython examplePolicy).run .start exampleReserved)
        (step asciiPython examplePolicy
          ((step asciiPython examplePolicy).run .start exampleReserved) exampleBadFact) ↔
      ¬ Orphans asciiPython examplePolicy
        ((step asciiPython examplePolicy).run .start exampleReserved) exampleBadFact :=
  allOrNothing_iff asciiPython asciiPython_hexDigest examplePolicy exampleReserved exampleBadFact

/-- The repair is refused and its act stays reserved. -/
theorem exampleBadFact_orphans :
    ¬ AllOrNothing ((step asciiPython examplePolicy).run .start exampleReserved)
      (step asciiPython examplePolicy
        ((step asciiPython examplePolicy).run .start exampleReserved) exampleBadFact) := by
  intro h
  have hsame := congrArg (fun t => t.records.length) (h (by decide +kernel))
  exact absurd hsame (by decide +kernel)

end HeyKevin.L5.Speech
