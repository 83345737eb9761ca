import HeyKevin.L5Voice.ActRecords
/-!
# Streaming an authorized act

`accept_segment` runs the text policy again on every prefix it is given. The
policy is monotone along prefixes but for one check: a prefix of white space
only is refused, though the whole text is not.

* `validateText_of_start`: the policy on a prefix of an accepted text.
* `streams_iff`: a text streams through when its first segment is not blank.
* `told_run`: what was accepted for an act is a prefix of its reserved text,
  with one final segment at most.
-/
namespace HeyKevin.L1.Python

/-- Documented property of `str.casefold`: it folds one character at a time. -/
def CasefoldAppend (P : Python) : Prop :=
  ∀ s t : Text.Str, P.casefold (s ++ t) = P.casefold s ++ P.casefold t

end HeyKevin.L1.Python

namespace HeyKevin.L1.Text

theorem strip_eq_nil {s : Str} : strip s = [] ↔ ∀ c ∈ s, isSpace c = true := by
  rw [strip, List.rdropWhile_eq_nil_iff]
  constructor
  · intro h c hc
    by_contra hspace
    have hkept : s.dropWhile isSpace ≠ [] := by
      intro hnil
      exact hspace (List.dropWhile_eq_nil_iff.mp hnil c hc)
    have hhead := List.head_dropWhile_not isSpace hkept
    rw [h _ (List.head_mem hkept)] at hhead
    cases hhead
  · intro h c hc
    exact h c ((List.dropWhile_sublist _).subset hc)

theorem strip_ne_nil_of_start {s t : Str} (h : s <+: t) (hs : strip s ≠ []) : strip t ≠ [] := by
  intro ht
  exact hs (strip_eq_nil.mpr fun c hc => strip_eq_nil.mp ht c (h.subset hc))

theorem length_push (c : CodePoint) (next : Option CodePoint) (ws : List Str) :
    (push c next ws).length =
      if ws.length = 0 then 1 else if next.all isSpace then ws.length + 1 else ws.length := by
  cases ws with
  | nil => rfl
  | cons w ws =>
    have hne : ¬ (w :: ws).length = 0 := by simp
    rw [push, if_neg hne]
    split <;> rfl

/-- More text, no fewer words. -/
theorem length_split_le (s t : Str) : (split s).length ≤ (split (s ++ t)).length := by
  induction s with
  | nil => exact Nat.zero_le _
  | cons c s ih =>
    rw [List.cons_append, split, split]
    split
    · exact ih
    · rw [length_push, length_push]
      cases s with
      | nil =>
        have hnone : (split []).length = 0 := rfl
        rw [if_pos hnone]
        split_ifs <;> omega
      | cons d s =>
        rw [List.cons_append, List.head?_cons, List.head?_cons]
        rw [List.cons_append] at ih
        split_ifs <;> omega

end HeyKevin.L1.Text

namespace HeyKevin.L5.Speech

open HeyKevin.Core L1 L1.Text
open HeyKevin.L5.Voice (VoiceSessionBinding VoiceSemanticActKind)

variable {P : Python} {policy : SpeechPolicy}

/-! ## The policy along prefixes -/

theorem validateText_toBool {kind : VoiceSemanticActKind} {text : Str} :
    (validateText P policy kind text).toBool = true ↔
      strip text ≠ [] ∧
      (split text).length ≤
        (if kind = .safety then policy.safetyWordBudget else policy.normalWordBudget) ∧
      ¬ (isTerminalKind kind = false ∧
        ∃ fragment ∈ policy.terminalFragments, P.casefold fragment <:+: P.casefold text) := by
  constructor
  · intro h
    obtain ⟨u, hu⟩ := exists_ok_of_toBool h
    simp only [validateText, bind_eq_ok, ensure_eq_ok, exists_unit] at hu
    exact hu
  · intro h
    have hok : validateText P policy kind text = .ok () := by
      simp only [validateText, bind_eq_ok, ensure_eq_ok, exists_unit]
      exact h
    rw [hok]
    rfl

theorem validateText_of_start (hfold : P.CasefoldAppend) {kind : VoiceSemanticActKind}
    {text start : Str} (hstart : start <+: text)
    (htext : (validateText P policy kind text).toBool = true) :
    (validateText P policy kind start).toBool = true ↔ strip start ≠ [] := by
  obtain ⟨rest, rfl⟩ := hstart
  rw [validateText_toBool] at htext ⊢
  refine and_iff_left ⟨(length_split_le start rest).trans htext.2.1, ?_⟩
  rintro ⟨hkind, fragment, hfragment, hinfix⟩
  refine htext.2.2 ⟨hkind, fragment, hfragment, hinfix.trans ?_⟩
  rw [hfold]
  exact (List.prefix_append _ _).isInfix

/-! ## Segments in order -/

/-- `accept_segment` for each segment, the last one final. -/
def streamOps (id : Str) : List Str → List Op
  | [] => []
  | [segment] => [.acceptSegment id segment true]
  | segment :: segments => .acceptSegment id segment false :: streamOps id segments

/-- Every call answers `True`, and what was accepted is the reserved text. -/
structure Streams (P : Python) (policy : SpeechPolicy) (s : State) (id : Str) (r : ActRecord)
    (segments : List Str) : Prop where
  accepted : ∀ e ∈ (step P policy).log s (streamOps id segments), e.resp = .done true
  complete : ((step P policy).run s (streamOps id segments)).records.find? id =
    some { r with streamedText := r.reserved.text }

theorem acceptSegment_of_streamable {s : State} {id segment : Str} {final : Bool} {r : ActRecord}
    (hr : s.records.find? id = some r) (h : Streamable P policy r segment final) :
    acceptSegment P policy id segment final s =
      (s.setRecord id { r with streamedText := r.streamedText ++ segment }, true) := by
  rw [acceptSegment, hr]
  exact if_pos ⟨h.live, h.authorized, h.kind.1, h.kind.2.1, h.kind.2.2, h.nonempty, h.isPrefix,
    h.valid, h.final_iff⟩

/-- An act that can be streamed. -/
structure Open (P : Python) (policy : SpeechPolicy) (r : ActRecord) : Prop where
  live : r.cancelled = false
  authorized : r.authorized = true
  kind : isTerminalKind r.reserved.kind = false ∧ r.reserved.kind ≠ .question ∧
    r.reserved.kind ≠ .safety
  valid : (validateText P policy r.reserved.kind r.reserved.text).toBool = true

theorem Open.streamable (hfold : P.CasefoldAppend) {r : ActRecord} (h : Open P policy r)
    {segment rest : Str} (hne : segment ≠ [])
    (hcut : r.streamedText ++ segment ++ rest = r.reserved.text)
    (hblank : strip (r.streamedText ++ segment) ≠ []) :
    Streamable P policy r segment (decide (rest = [])) := by
  have hpre : r.streamedText ++ segment <+: r.reserved.text := ⟨rest, hcut⟩
  refine ⟨h.live, h.authorized, h.kind, hne, hpre,
    (validateText_of_start hfold hpre h.valid).mpr hblank, ?_⟩
  rw [← hcut]
  simp

theorem step_of_streamable {s : State} {id segment : Str} {final : Bool} {r : ActRecord}
    (hr : s.records.find? id = some r) (h : Streamable P policy r segment final) :
    step P policy s (.acceptSegment id segment final) =
      (s.setRecord id { r with streamedText := r.streamedText ++ segment }, .done true) := by
  rw [step, acceptSegment_of_streamable hr h]
  rfl

@[simp] theorem find?_setRecord (s : State) (id : Str) (r : ActRecord) :
    (s.setRecord id r).records.find? id = some r :=
  (Entries.find?_set ..).trans (if_pos rfl)

theorem streams_of_open (hfold : P.CasefoldAppend) {s : State} {id : Str} {r : ActRecord}
    (hr : s.records.find? id = some r) (h : Open P policy r) (segment : Str)
    (segments : List Str) (hne : ∀ x ∈ segment :: segments, x ≠ [])
    (hcut : r.streamedText ++ (segment :: segments).flatten = r.reserved.text)
    (hblank : strip (r.streamedText ++ segment) ≠ []) :
    Streams P policy s id r (segment :: segments) := by
  induction segments generalizing s r segment with
  | nil =>
    rw [List.flatten_cons, List.flatten_nil, ← List.append_assoc] at hcut
    have hstep := step_of_streamable hr
      (h.streamable hfold (hne segment List.mem_cons_self) hcut hblank)
    rw [List.append_nil] at hcut
    refine ⟨fun e he => ?_, ?_⟩
    · rw [streamOps, Machine.log_cons, Machine.log_nil, List.mem_singleton] at he
      rw [he, Machine.event_resp]
      exact congrArg Prod.snd hstep
    · rw [streamOps, Machine.run_cons, Machine.run_nil]
      rw [decide_eq_true rfl] at hstep
      rw [hstep, find?_setRecord, hcut]
  | cons next segments ih =>
    rw [List.flatten_cons, ← List.append_assoc] at hcut
    have hnext : next ≠ [] := hne next (by simp)
    have hstep := step_of_streamable hr
      (h.streamable hfold (hne segment List.mem_cons_self) hcut hblank)
    have hrest : ¬ (next :: segments).flatten = [] := by
      rw [List.flatten_cons]
      exact List.append_ne_nil_of_left_ne_nil hnext _
    rw [decide_eq_false hrest] at hstep
    have hthen := ih (s := s.setRecord id { r with streamedText := r.streamedText ++ segment })
      (find?_setRecord ..) ⟨h.live, h.authorized, h.kind, h.valid⟩ next
      (fun x hx => hne x (List.mem_cons_of_mem _ hx)) hcut
      (strip_ne_nil_of_start (List.prefix_append _ _) hblank)
    refine ⟨fun e he => ?_, ?_⟩
    · rw [streamOps, Machine.log_cons, hstep] at he
      · rcases List.mem_cons.mp he with rfl | he
        · exact congrArg Prod.snd hstep
        · exact hthen.accepted e he
      · exact fun hnil => by cases hnil
    · rw [streamOps, Machine.run_cons, hstep]
      · exact hthen.complete
      · exact fun hnil => by cases hnil

theorem Streams.first {s : State} {id segment : Str} {segments : List Str} {r : ActRecord}
    (h : Streams P policy s id r (segment :: segments)) (hr : s.records.find? id = some r) :
    (validateText P policy r.reserved.kind (r.streamedText ++ segment)).toBool = true := by
  obtain ⟨final, ops, hops⟩ : ∃ final ops,
      streamOps id (segment :: segments) = .acceptSegment id segment final :: ops := by
    cases segments with
    | nil => exact ⟨true, [], rfl⟩
    | cons next segments => exact ⟨false, _, rfl⟩
  have hfirst := h.accepted ((step P policy).event s (.acceptSegment id segment final)) (by
    rw [hops, Machine.log_cons]
    exact List.mem_cons_self)
  rw [Machine.event_resp, step] at hfirst
  rcases acceptSegment_cases id segment final s with hrefused | ⟨r', hr', hstream, -⟩
  · rw [hrefused] at hfirst
    cases hfirst
  · obtain rfl : r = r' := Option.some.inj (hr.symm.trans hr')
    exact hstream.valid

/-! ## What was accepted -/

/-- The segments accepted for an act, each with whether it was final. -/
def accepted (id : Str) (log : List (Event State Op Response)) : List (Str × Bool) :=
  log.filterMap fun e => acceptedSegment id e.call e.resp

def acceptedText (id : Str) (log : List (Event State Op Response)) : Str :=
  ((accepted id log).map Prod.fst).flatten

def finals (id : Str) (log : List (Event State Op Response)) : ℕ :=
  (accepted id log).countP Prod.snd

/-- What the log tells of the record under an id. -/
structure ToldAct (P : Python) (policy : SpeechPolicy) (text : Str) (finals : ℕ) (r : ActRecord) :
    Prop where
  streamed : text = r.streamedText
  isPrefix : r.streamedText <+: r.reserved.text
  final : finals = 0 ∨ finals = 1 ∧ r.streamedText = r.reserved.text ∧ r.streamedText ≠ []
  valid : r.authorized = true →
    (validateText P policy r.reserved.kind r.reserved.text).toBool = true

/-- The same, where there may be no record. -/
def Told (P : Python) (policy : SpeechPolicy) (text : Str) (finals : ℕ) : Option ActRecord → Prop
  | some r => ToldAct P policy text finals r
  | none => text = [] ∧ finals = 0

theorem Moves.told {id text : Str} {n : ℕ} {o o' : Option ActRecord}
    (h : Moves P policy id o o') (ho : Told P policy text n o) : Told P policy text n o' := by
  cases h with
  | same => exact ho
  | advanced reserved authorized streamed =>
    exact ⟨by rw [streamed]; exact ho.streamed, by rw [streamed, reserved]; exact ho.isPrefix,
      by rw [streamed, reserved]; exact ho.final,
      by rw [authorized, reserved]; exact ho.valid⟩
  | authorized valid => exact ⟨ho.streamed, ho.isPrefix, ho.final, fun _ => valid⟩
  | recorded fresh =>
    refine ⟨ho.1.trans fresh.unstreamed.symm, ?_, .inl ho.2, fun hauthorized => ?_⟩
    · rw [fresh.unstreamed]
      exact List.nil_prefix
    · rw [fresh.unauthorized] at hauthorized
      cases hauthorized
  | rolledBack unauthorized unstreamed =>
    refine ⟨ho.streamed.trans unstreamed, ?_⟩
    rcases ho.final with hfinal | ⟨-, -, hne⟩
    · exact hfinal
    · exact absurd unstreamed hne

theorem ToldAct.streamed_step {text segment : Str} {n : ℕ} {final : Bool} {r : ActRecord}
    (h : ToldAct P policy text n r) (hstream : Streamable P policy r segment final) :
    ToldAct P policy (text ++ segment) (n + if final then 1 else 0)
      { r with streamedText := r.streamedText ++ segment } := by
  have hunfinished : n = 0 := by
    rcases h.final with hzero | ⟨-, hcomplete, -⟩
    · exact hzero
    · have hlen := hstream.isPrefix.length_le
      rw [← hcomplete, List.length_append] at hlen
      have hpos := List.length_pos_iff.mpr hstream.nonempty
      omega
  refine ⟨by rw [h.streamed], hstream.isPrefix, ?_, h.valid⟩
  rw [hunfinished, zero_add]
  cases hfinal : final with
  | false => exact .inl rfl
  | true =>
    refine .inr ⟨rfl, ?_, List.append_ne_nil_of_right_ne_nil _ hstream.nonempty⟩
    exact of_decide_eq_true (hstream.final_iff.symm.trans hfinal)

theorem acceptedText_append (id : Str) (log : List (Event State Op Response))
    (e : Event State Op Response) : acceptedText id (log ++ [e]) =
      acceptedText id log ++ ((acceptedSegment id e.call e.resp).map Prod.fst).getD [] := by
  rw [acceptedText, acceptedText, accepted, accepted, List.filterMap_append, List.map_append,
    List.flatten_append]
  cases h : acceptedSegment id e.call e.resp with
  | none => simp [h]
  | some x => simp [h]

theorem finals_append (id : Str) (log : List (Event State Op Response))
    (e : Event State Op Response) : finals id (log ++ [e]) =
      finals id log + if (acceptedSegment id e.call e.resp).any Prod.snd then 1 else 0 := by
  rw [finals, finals, accepted, accepted, List.filterMap_append, List.countP_append]
  cases h : acceptedSegment id e.call e.resp with
  | none => simp [h]
  | some x => simp [h, List.countP_cons]

theorem told_run (P : Python) (policy : SpeechPolicy) (ops : List Op) (id : Str) :
    Told P policy (acceptedText id ((step P policy).log .start ops))
      (finals id ((step P policy).log .start ops))
      (((step P policy).run .start ops).records.find? id) := by
  refine (step P policy).log_inv
    (G := fun _ => True)
    (I := fun log s => Told P policy (acceptedText id log) (finals id log) (s.records.find? id))
    ?_ ?_ ops fun _ _ => trivial
  · exact (⟨rfl, rfl⟩ : ([] : Str) = [] ∧ 0 = 0)
  intro log s op hs _
  rw [acceptedText_append, finals_append, Machine.event_call, Machine.event_resp]
  rcases step_moves s op id with ⟨hnone, hmoves⟩ | ⟨r, segment, final, hsome, hr, hstream, hpost⟩
  · rw [hnone]
    simp only [Option.map_none, Option.getD_none, List.append_nil, Option.any_none,
      Bool.false_eq_true, if_false, add_zero]
    exact hmoves.told hs
  · rw [hr] at hs
    rw [hsome, hpost]
    exact hs.streamed_step hstream

/-! ## Complete and exact -/

/-- An act that was authorized and not yet streamed streams through, however it is cut, as long
as its first segment is not blank. And whatever is called, what was accepted for an act is a
prefix of its reserved text, with one final segment at most. -/
theorem streams_and_exact (P : Python) (hfold : P.CasefoldAppend) (policy : SpeechPolicy)
    (ops : List Op) (id : Str) :
    (∀ r segment segments, ((step P policy).run .start ops).records.find? id = some r →
      r.authorized = true → r.cancelled = false → r.streamedText = [] →
      isTerminalKind r.reserved.kind = false → r.reserved.kind ≠ .question →
      r.reserved.kind ≠ .safety → (segment :: segments).flatten = r.reserved.text →
      (∀ x ∈ segment :: segments, x ≠ []) →
        (Streams P policy ((step P policy).run .start ops) id r (segment :: segments) ↔
          strip segment ≠ [])) ∧
      acceptedText id ((step P policy).log .start ops) <+:
        ((((step P policy).run .start ops).records.find? id).elim [] fun r => r.reserved.text) ∧
      finals id ((step P policy).log .start ops) ≤ 1 := by
  have htold := told_run P policy ops id
  refine ⟨?_, ?_⟩
  · intro r segment segments hr hauthorized hlive hunstreamed hterminal hquestion hsafety hcut hne
    rw [hr] at htold
    have hopen : Open P policy r :=
      ⟨hlive, hauthorized, ⟨hterminal, hquestion, hsafety⟩, htold.valid hauthorized⟩
    constructor
    · intro h
      have hfirst := (validateText_toBool.mp (h.first hr)).1
      rw [hunstreamed, List.nil_append] at hfirst
      exact hfirst
    · intro hblank
      refine streams_of_open hfold hr hopen segment segments hne ?_ ?_
      · rw [hunstreamed]
        exact hcut
      · rw [hunstreamed]
        exact hblank
  · cases hr : ((step P policy).run .start ops).records.find? id with
    | none =>
      rw [hr] at htold
      rw [htold.1, htold.2]
      exact ⟨List.nil_prefix, Nat.zero_le _⟩
    | some r =>
      rw [hr] at htold
      refine ⟨?_, ?_⟩
      · rw [htold.streamed]
        exact htold.isPrefix
      · rcases htold.final with hfinal | ⟨hfinal, -⟩ <;> omega

/-! ## A cut after a leading blank -/

theorem asciiPython_casefoldAppend : asciiPython.CasefoldAppend := fun _ _ => List.map_append

def exampleLeading : SemanticAct :=
  ⟨.answer, py " yes", none, false, false, true, by decide, noSlot_isIdentifier, answer_noSlot⟩

def exampleLeadingPlan : SpokenPlan :=
  ⟨py "p1", [exampleLeading], exampleP1_isIdentifier, by decide, by decide, by decide⟩

def exampleAnswerOnly : SpeechAuthorization :=
  ⟨Voice.exampleBinding, py "turn", [.answer], false, [], py "en", exampleTurn_isIdentifier⟩

def exampleAuthorized : List Op :=
  [.reserve exampleLeadingPlan exampleAnswerOnly, .authorizeText (exampleAct "p1") (py " yes")]

def exampleState : State := (step asciiPython examplePolicy).run .start exampleAuthorized

theorem exampleAuthorized_record : ∃ r, exampleState.records.find? (exampleAct "p1") = some r ∧
    r.authorized = true ∧ r.cancelled = false ∧ r.streamedText = [] ∧
      r.reserved.kind = .answer ∧ r.reserved.text = py " yes" := by
  have hany : (exampleState.records.find? (exampleAct "p1")).any (fun r =>
      r.authorized && !r.cancelled && decide (r.streamedText = []) &&
        decide (r.reserved.kind = .answer) && decide (r.reserved.text = py " yes")) = true := by
    decide +kernel
  cases hr : exampleState.records.find? (exampleAct "p1") with
  | none =>
    rw [hr] at hany
    cases hany
  | some r =>
    rw [hr] at hany
    simp only [Option.any_some, Bool.and_eq_true, Bool.not_eq_true', decide_eq_true_eq] at hany
    exact ⟨r, rfl, hany.1.1.1.1, hany.1.1.1.2, hany.1.1.2, hany.1.2, hany.2⟩

/-- Cut behind its first letter it streams through. -/
theorem exampleLeading_streams : ∃ r, exampleState.records.find? (exampleAct "p1") = some r ∧
    Streams asciiPython examplePolicy exampleState (exampleAct "p1") r [py " y", py "es"] := by
  obtain ⟨r, hr, hauthorized, hlive, hunstreamed, hkind, htext⟩ := exampleAuthorized_record
  refine ⟨r, hr, ((streams_and_exact asciiPython asciiPython_casefoldAppend examplePolicy
    exampleAuthorized (exampleAct "p1")).1 r (py " y") [py "es"] hr hauthorized hlive hunstreamed
    ?_ ?_ ?_ ?_ (by decide)).mpr (by decide)⟩
  · rw [hkind]
    rfl
  · rw [hkind]
    decide
  · rw [hkind]
    decide
  · rw [htext]
    decide

/-- Cut behind the blank it does not. -/
theorem exampleLeading_refused : ∃ r, exampleState.records.find? (exampleAct "p1") = some r ∧
    r.authorized = true ∧ [py " ", py "yes"].flatten = r.reserved.text ∧
      ¬ Streams asciiPython examplePolicy exampleState (exampleAct "p1") r
        [py " ", py "yes"] := by
  obtain ⟨r, hr, hauthorized, hlive, hunstreamed, hkind, htext⟩ := exampleAuthorized_record
  refine ⟨r, hr, hauthorized, by rw [htext]; decide, fun h => ?_⟩
  have hfirst := h.first hr
  rw [hunstreamed, hkind] at hfirst
  exact absurd hfirst (by decide)

end HeyKevin.L5.Speech
