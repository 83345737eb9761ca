import HeyKevin.L5Voice.PlaybackProof
/-!
# Reading the inputs after a cursor

The lifecycle keeps the last 256 accepted input events and, as a floor, the
sequence of the newest one it has dropped. A reader that names a cursor below
the floor is refused (`input_observations_after`,
app/services/voice_lifecycle.py:492-507).

* `Retained`: the history is the end of everything accepted, and the floor the
  last of the rest.
* `inputObservationsAfter_complete`: what a reader gets is everything after its
  cursor, and it is refused only where that is more than 256 events.
-/
namespace HeyKevin.L5.Voice

open HeyKevin.Core L1 L1.Text

/-- mirrors app/services/voice_lifecycle.py:492-507 -/
def inputObservationsAfter (s : State) (sequence : ℤ) : Option (List VoiceEvent) :=
  if sequence < -1 ∨ sequence < s.inputObservationHistoryFloor then none
  else some (s.inputObservationHistory.filter fun e => sequence < e.sequence)

/-- The input events accepted since the beginning. -/
def acceptedInputs (log : List LifecycleEvent) : List VoiceEvent :=
  (acceptedEvents log).filter fun e => isInputEventKind e.kind

/-- What the history and its floor are of all accepted inputs. -/
structure Retained (inputs : List VoiceEvent) (s : State) : Prop where
  kept : ∃ dropped, inputs = dropped ++ s.inputObservationHistory ∧
    ((dropped = [] ∧ s.inputObservationHistoryFloor = -1) ∨
      ∃ older newest, dropped = older ++ [newest] ∧
        s.inputObservationHistoryFloor = newest.sequence ∧
        s.inputObservationHistory.length = maxInputObservationHistory)
  bounded : s.inputObservationHistory.length ≤ maxInputObservationHistory

/-- The same history and the same floor. -/
def SameHistory (s s' : State) : Prop :=
  s'.inputObservationHistory = s.inputObservationHistory ∧
    s'.inputObservationHistoryFloor = s.inputObservationHistoryFloor

theorem Retained.of_same {inputs : List VoiceEvent} {s s' : State} (h : Retained inputs s)
    (hsame : SameHistory s s') : Retained inputs s' where
  kept := by rw [hsame.1, hsame.2]; exact h.kept
  bounded := by rw [hsame.1]; exact h.bounded

theorem ingestInput_history {s s' : State} {event : VoiceEvent}
    (h : ingestInput s event = (s', true)) :
    let history := s.inputObservationHistory ++ [event]
    s'.inputObservationHistory =
        (if history.length > maxInputObservationHistory then history.tail else history) ∧
      s'.inputObservationHistoryFloor =
        if history.length > maxInputObservationHistory then
          (history.head?.map (fun e => (e.sequence : ℤ))).getD s.inputObservationHistoryFloor
        else s.inputObservationHistoryFloor := by
  unfold ingestInput at h
  split at h
  · cases h
  · cases h
    exact ⟨rfl, rfl⟩

/-- An accepted input is appended, and the oldest makes room for it. -/
theorem Retained.push {inputs : List VoiceEvent} {s s' : State} (h : Retained inputs s)
    {event : VoiceEvent} (hin : ingestInput s event = (s', true)) :
    Retained (inputs ++ [event]) s' := by
  obtain ⟨hhistory', hfloor'⟩ := ingestInput_history hin
  obtain ⟨dropped, hinputs, hfloor⟩ := h.kept
  have hbounded := h.bounded
  by_cases hfull : s.inputObservationHistory.length = maxInputObservationHistory
  · have hover : (s.inputObservationHistory ++ [event]).length > maxInputObservationHistory := by
      simp [hfull]
    rw [if_pos hover] at hhistory' hfloor'
    cases hhistory : s.inputObservationHistory with
    | nil => rw [hhistory] at hfull; cases hfull
    | cons oldest rest =>
      rw [hhistory] at hfull hhistory' hfloor' hinputs
      have hlength : s'.inputObservationHistory.length = maxInputObservationHistory := by
        rw [hhistory']
        simpa using hfull
      refine ⟨⟨dropped ++ [oldest], ?_, .inr ⟨dropped, oldest, rfl, hfloor', hlength⟩⟩, hlength.le⟩
      rw [hinputs, hhistory']
      simp
  · have hroom : ¬ ((s.inputObservationHistory ++ [event]).length > maxInputObservationHistory) := by
      simp only [List.length_append, List.length_singleton]
      omega
    rw [if_neg hroom] at hhistory' hfloor'
    refine ⟨⟨dropped, ?_, .inl ?_⟩, ?_⟩
    · rw [hhistory', hinputs, List.append_assoc]
    · rcases hfloor with ⟨hnone, hfloor⟩ | ⟨_, _, -, -, hlength⟩
      · exact ⟨hnone, hfloor'.trans hfloor⟩
      · exact absurd hlength hfull
    · rw [hhistory']
      omega

theorem ingest_history {s s' : State} {event : VoiceEvent} (h : ingest s event = (s', true)) :
    (isInputEventKind event.kind = true ∧
      ∃ t, ingestInput s event = (t, true) ∧ SameHistory t s') ∨
    (isInputEventKind event.kind = false ∧ SameHistory s s') := by
  unfold ingest at h
  split at h
  · cases h
  split at h
  · cases h
  split at h
  · split at h
    · cases h
    · rename_i t hobs
      cases h
      unfold ingestObservation at hobs
      split at hobs
      · rename_i hinput
        exact .inl ⟨hinput, t, hobs, rfl, rfl⟩
      · rename_i hinput
        refine .inr ⟨by simpa using hinput, ?_⟩
        split at hobs
        · unfold ingestGeneration at hobs
          repeat' split at hobs
          all_goals cases hobs
          exact ⟨rfl, rfl⟩
        · unfold ingestSession at hobs
          split at hobs
          · cases hobs
          · cases hobs
            exact ⟨rfl, rfl⟩
  · rename_i hobs
    have hinput : isInputEventKind event.kind = false := by
      simp only [isObservationalEventKind, Bool.or_eq_true, not_or, Bool.not_eq_true] at hobs
      exact hobs.1.1
    dsimp only at h
    split at h
    · cases h
    split at h
    · cases h
    · cases h
      exact .inr ⟨hinput, rfl, rfl⟩

theorem acceptedInputs_append (log : List LifecycleEvent) (s : State) (event : VoiceEvent) :
    acceptedInputs (log ++ [step.event s event]) = acceptedInputs log ++
      if (ingest s event).2 = true ∧ isInputEventKind event.kind = true then [event] else [] := by
  unfold acceptedInputs
  rw [acceptedEvents_append, List.filter_append]
  by_cases hacc : (ingest s event).2 = true <;> by_cases hinput : isInputEventKind event.kind = true
  all_goals simp [hacc, hinput]

theorem Retained.step {log : List LifecycleEvent} {s : State} (h : Retained (acceptedInputs log) s)
    (event : VoiceEvent) :
    Retained (acceptedInputs (log ++ [Voice.step.event s event])) (Voice.step s event).1 := by
  rw [acceptedInputs_append]
  cases hacc : (ingest s event).2 with
  | false =>
    rw [if_neg (by simp), List.append_nil]
    refine h.of_same ?_
    rw [show (Voice.step s event).1 = s.reject from reject_of_refused hacc]
    exact ⟨rfl, rfl⟩
  | true =>
    have heq : ingest s event = ((Voice.step s event).1, true) := by
      rw [← hacc]
      rfl
    rcases ingest_history heq with ⟨hinput, t, hpush, hsame⟩ | ⟨hinput, hsame⟩
    · rw [if_pos ⟨rfl, hinput⟩]
      exact (h.push hpush).of_same hsame
    · rw [if_neg (by simp [hinput]), List.append_nil]
      exact h.of_same hsame

theorem retained_run (binding : VoiceSessionBinding) (es : List VoiceEvent) :
    Retained (acceptedInputs (step.log (State.start binding) es))
      (step.run (State.start binding) es) :=
  step.log_inv (G := fun _ => True)
    (I := fun log s => Retained (acceptedInputs log) s)
    ⟨⟨[], rfl, .inl ⟨rfl, rfl⟩⟩, Nat.zero_le _⟩
    (fun _ _ event h _ => h.step event) es fun _ _ => trivial

/-- **Complete or refused.** Whatever was ingested, a reader gets every input accepted after its
cursor, in order, and is refused only where these are more than the history holds. -/
theorem inputObservationsAfter_complete (binding : VoiceSessionBinding) (es : List VoiceEvent)
    (cursor : ℤ) (hcursor : -1 ≤ cursor) :
    let after := (acceptedInputs (step.log (State.start binding) es)).filter fun e =>
      cursor < e.sequence
    (inputObservationsAfter (step.run (State.start binding) es) cursor = none ∨
      inputObservationsAfter (step.run (State.start binding) es) cursor = some after) ∧
    (after.length ≤ maxInputObservationHistory →
      inputObservationsAfter (step.run (State.start binding) es) cursor = some after) := by
  intro after
  generalize hs : step.run (State.start binding) es = s
  have hretained := retained_run binding es
  have hordered := (recorded_run binding es).ordered
  rw [hs] at hretained
  have hinputs : (acceptedInputs (step.log (State.start binding) es)).Pairwise Before :=
    hordered.sublist List.filter_sublist
  obtain ⟨dropped, heq, hfloor⟩ := hretained.kept
  rw [heq] at hinputs
  have hafter : after = dropped.filter (fun e => cursor < e.sequence) ++
      s.inputObservationHistory.filter fun e => cursor < e.sequence := by
    rw [← List.filter_append, ← heq]
  by_cases hbelow : cursor < s.inputObservationHistoryFloor
  · have hnone : inputObservationsAfter s cursor = none := if_pos (.inr hbelow)
    refine ⟨.inl hnone, fun hlength => ?_⟩
    -- the newest that was dropped and the full history are all after the cursor
    rcases hfloor with ⟨-, hfloor⟩ | ⟨older, newest, rfl, hfloor, hfull⟩
    · omega
    · exfalso
      have hnewest : cursor < newest.sequence := by omega
      have hall : s.inputObservationHistory.filter (fun e => cursor < e.sequence) =
          s.inputObservationHistory := by
        refine List.filter_eq_self.mpr fun e he => ?_
        have hlater := ((List.pairwise_append.mp hinputs).2.2 newest (by simp) e he).1
        simp only [decide_eq_true_eq]
        omega
      rw [hafter, hall, List.filter_append, List.filter_cons_of_pos (by simpa using hnewest)] at hlength
      simp only [List.filter_nil, List.length_append, List.length_singleton] at hlength
      omega
  · have hsome : inputObservationsAfter s cursor =
        some (s.inputObservationHistory.filter fun e => cursor < e.sequence) :=
      if_neg (by omega)
    have hdropped : dropped.filter (fun e => cursor < e.sequence) = [] := by
      rcases hfloor with ⟨rfl, -⟩ | ⟨older, newest, rfl, hfloor, -⟩
      · rfl
      · refine List.filter_eq_nil_iff.mpr fun e he => ?_
        have hle : e.sequence ≤ newest.sequence := by
          rcases List.mem_append.mp he with he | he
          · have hpair := (List.pairwise_append.mp hinputs).1
            exact ((List.pairwise_append.mp hpair).2.2 e he newest (by simp)).1.le
          · rw [List.mem_singleton.mp he]
        simp only [decide_eq_true_eq]
        omega
    rw [hdropped, List.nil_append] at hafter
    rw [hafter]
    exact ⟨.inr hsome, fun _ => hsome⟩

/-- An input that starts, and one that ends it. -/
theorem inputObservationsAfter_complete_example :
    let es := [exampleEvent .inputActivityStarted 0 false false,
      exampleEvent .inputActivityEnded 3 false false]
    let after := (acceptedInputs (step.log (State.start exampleBinding) es)).filter fun e =>
      (0 : ℤ) < e.sequence
    (inputObservationsAfter (step.run (State.start exampleBinding) es) 0 = none ∨
      inputObservationsAfter (step.run (State.start exampleBinding) es) 0 = some after) ∧
    (after.length ≤ maxInputObservationHistory →
      inputObservationsAfter (step.run (State.start exampleBinding) es) 0 = some after) :=
  inputObservationsAfter_complete exampleBinding _ 0 (by decide)

end HeyKevin.L5.Voice
