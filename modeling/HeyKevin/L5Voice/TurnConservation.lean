import HeyKevin.L5Voice.CallerTurns
/-!
# No caller speech is lost, duplicated or misordered

A run of the assembler cuts the accepted fragments into consecutive segments.
`Segment` is the ghost record of one closed group: what it heard and the turn
that was reported of it, if any. `Advance` says that a piece of code moved
fragments from its input through the pending group into closed segments, with
turn ids counting up and times in order; it composes (`Advance.trans`), so each
function of the assembler has one lemma and a run is their composition.

* `Pending.Bounded`, `Pending.Timely`: the times of the pending group lie
  between the last report and now, and an open deadline lies ahead.
* `step_advance`: one call, of any kind, accepted or raising.
* `speech_conserved` is the contract over whole runs.
-/
namespace HeyKevin.L5.CallerTurns

open HeyKevin.Core L1.Text

/-- A closed group of fragments and the turn it was reported as. -/
structure Segment where
  fragments : List Fragment
  turn : Option RetrospectiveCallerTurn

/-- What may become of a closed group. -/
inductive Segment.Settled (nfc : Str → Str) (config : Config) : Segment → Prop
  | reported (fs : List Fragment) (t : RetrospectiveCallerTurn) (hs : t.status ≠ .dropped)
      (ht : t.transcript = strip (nfc (join fs))) (hne : t.transcript ≠ []) :
      Settled nfc config ⟨fs, some t⟩
  | dropped (fs : List Fragment) (t : RetrospectiveCallerTurn) (hs : t.status = .dropped)
      (ht : t.transcript = []) (hr : t.closeReason = .resourceLimit)
      (hlimit : config.maxEvents < t.eventCount ∨ transcriptExceedsLimit config fs = true) :
      Settled nfc config ⟨fs, some t⟩
  | blank (fs : List Fragment) (h : strip (nfc (join fs)) = []) : Settled nfc config ⟨fs, none⟩

/-- The times of one turn are in order. -/
def RetrospectiveCallerTurn.Ordered (t : RetrospectiveCallerTurn) : Prop :=
  t.firstEventAtMs ≤ t.lastTranscriptAtMs ∧ t.lastTranscriptAtMs ≤ t.finalizedAtMs ∧
    t.terminalAtMs ≤ t.finalizedAtMs

/-- Turns reported one after the other between two moments. -/
def Timed : ℕ → List RetrospectiveCallerTurn → ℕ → Prop
  | floor, [], floor' => floor ≤ floor'
  | floor, t :: ts, floor' =>
    floor ≤ t.firstEventAtMs ∧ t.Ordered ∧ Timed t.finalizedAtMs ts floor'

theorem Timed.append {f₁ f₂ f₃ : ℕ} {ts us : List RetrospectiveCallerTurn} (h₁ : Timed f₁ ts f₂)
    (h₂ : Timed f₂ us f₃) : Timed f₁ (ts ++ us) f₃ := by
  induction ts generalizing f₁ with
  | nil =>
    cases us with
    | nil => exact Nat.le_trans h₁ h₂
    | cons u us => exact ⟨Nat.le_trans h₁ h₂.1, h₂.2⟩
  | cons t ts ih => exact ⟨h₁.1, h₁.2.1, ih h₁.2.2⟩

theorem Timed.spec {f₁ f₂ : ℕ} {ts : List RetrospectiveCallerTurn} (h : Timed f₁ ts f₂) :
    (∀ t ∈ ts, f₁ ≤ t.firstEventAtMs ∧ t.Ordered) ∧
      ts.Pairwise fun t u => t.finalizedAtMs ≤ u.firstEventAtMs := by
  induction ts generalizing f₁ with
  | nil => exact ⟨fun t ht => (by cases ht), List.Pairwise.nil⟩
  | cons t ts ih =>
    obtain ⟨hf, ho, hrest⟩ := h
    obtain ⟨hall, hpair⟩ := ih hrest
    refine ⟨?_, List.pairwise_cons.mpr ⟨fun u hu => (hall u hu).1, hpair⟩⟩
    intro u hu
    rcases List.mem_cons.mp hu with rfl | hu
    · exact ⟨hf, ho⟩
    · have := (hall u hu).1
      have := ho.1
      have := ho.2.1
      exact ⟨by omega, (hall u hu).2⟩

/-- The times of a pending group lie between the last report and `now`. -/
structure Pending.Bounded (p : Pending) (floor now : ℕ) : Prop where
  floor_le : floor ≤ now
  first : ∀ f, p.firstEventAtMs = some f → floor ≤ f ∧ f ≤ now
  last : ∀ l, p.lastTranscriptAtMs = some l →
    l ≤ now ∧ ∃ f, p.firstEventAtMs = some f ∧ f ≤ l
  terminal : ∀ t, p.terminalAtMs = some t → t ≤ now

/-- Bounded, and an open deadline lies ahead. -/
structure Pending.Timely (p : Pending) (floor now : ℕ) : Prop where
  bounded : p.Bounded floor now
  deadline : ∀ d, p.deadlineMs = some d → now < d ∧ 0 < p.eventCount

theorem Pending.Bounded.mono {p : Pending} {floor now now' : ℕ} (h : p.Bounded floor now)
    (hle : now ≤ now') : p.Bounded floor now' where
  floor_le := Nat.le_trans h.floor_le hle
  first f hf := ⟨(h.first f hf).1, Nat.le_trans (h.first f hf).2 hle⟩
  last l hl := ⟨Nat.le_trans (h.last l hl).1 hle, (h.last l hl).2⟩
  terminal t ht := Nat.le_trans (h.terminal t ht) hle

theorem Pending.empty_timely {floor now : ℕ} (h : floor ≤ now) :
    Pending.empty.Timely floor now where
  bounded := ⟨h, fun _ h => (by cases h), fun _ h => (by cases h), fun _ h => (by cases h)⟩
  deadline _ h := by cases h

/-! ## Moving fragments into segments -/

section Assembler

variable {nfc : Str → Str} {config : Config}

/-- The fragments `fs` entered, the segments `gs` closed. -/
structure Advance (nfc : Str → Str) (config : Config) (gs : List Segment) (floor floor' : ℕ)
    (s s' : State) (fs : List Fragment) : Prop where
  fragments : s.pending.fragments ++ fs = gs.flatMap (·.fragments) ++ s'.pending.fragments
  settled : ∀ g ∈ gs, g.Settled nfc config
  ids : (gs.filterMap (·.turn)).map (·.turnId) =
    List.range' s.nextTurnId (gs.filterMap (·.turn)).length
  next : s'.nextTurnId = s.nextTurnId + (gs.filterMap (·.turn)).length
  timed : Timed floor (gs.filterMap (·.turn)) floor'

theorem Advance.stay {s s' : State} {fs : List Fragment} {floor : ℕ}
    (hf : s'.pending.fragments = s.pending.fragments ++ fs)
    (hn : s'.nextTurnId = s.nextTurnId) : Advance nfc config [] floor floor s s' fs where
  fragments := by simp [hf]
  settled g hg := by cases hg
  ids := rfl
  next := hn
  timed := Nat.le_refl floor

theorem Advance.trans {gs hs : List Segment} {f₁ f₂ f₃ : ℕ} {s₁ s₂ s₃ : State}
    {fs₁ fs₂ : List Fragment} (h₁ : Advance nfc config gs f₁ f₂ s₁ s₂ fs₁)
    (h₂ : Advance nfc config hs f₂ f₃ s₂ s₃ fs₂) :
    Advance nfc config (gs ++ hs) f₁ f₃ s₁ s₃ (fs₁ ++ fs₂) where
  fragments := by
    rw [← List.append_assoc, h₁.fragments, List.append_assoc, h₂.fragments, List.flatMap_append,
      List.append_assoc]
  settled g hg := by
    rcases List.mem_append.mp hg with hg | hg
    · exact h₁.settled g hg
    · exact h₂.settled g hg
  ids := by
    rw [List.filterMap_append, List.map_append, h₁.ids, h₂.ids, h₁.next, List.length_append]
    exact List.range'_append_1
  next := by
    rw [h₂.next, h₁.next, List.filterMap_append, List.length_append]
    omega
  timed := by
    rw [List.filterMap_append]
    exact h₁.timed.append h₂.timed

/-- A function of the assembler, with `fs` arriving at `now`: it closes
segments, and reports exactly their turns. -/
def Conserves (nfc : Str → Str) (config : Config) (s : State) (fs : List Fragment)
    (floor now : ℕ) (r : State × List RetrospectiveCallerTurn) : Prop :=
  ∃ gs floor', r.2 = gs.filterMap (·.turn) ∧ Advance nfc config gs floor floor' s r.1 fs ∧
    r.1.pending.Timely floor' now

theorem Conserves.start {s t : State} {fs : List Fragment} {floor now : ℕ}
    {r : State × List RetrospectiveCallerTurn} (h : Conserves nfc config t fs floor now r)
    (hp : t.pending.fragments = s.pending.fragments) (hn : t.nextTurnId = s.nextTurnId) :
    Conserves nfc config s fs floor now r := by
  obtain ⟨gs, floor', he, hadv, ht⟩ := h
  refine ⟨gs, floor', he, ⟨?_, hadv.settled, ?_, ?_, hadv.timed⟩, ht⟩
  · rw [← hp]; exact hadv.fragments
  · rw [← hn]; exact hadv.ids
  · rw [← hn]; exact hadv.next

theorem Conserves.finish {s s' t' : State} {fs : List Fragment} {floor now : ℕ}
    {ts : List RetrospectiveCallerTurn} (h : Conserves nfc config s fs floor now (s', ts))
    (hp : t'.pending = s'.pending) (hn : t'.nextTurnId = s'.nextTurnId) :
    Conserves nfc config s fs floor now (t', ts) := by
  obtain ⟨gs, floor', he, hadv, ht⟩ := h
  refine ⟨gs, floor', he, ⟨?_, hadv.settled, hadv.ids, ?_, hadv.timed⟩, ?_⟩
  · rw [hp]; exact hadv.fragments
  · rw [hn]; exact hadv.next
  · rw [hp]; exact ht

theorem Conserves.trans {s s₁ : State} {fs₁ fs₂ : List Fragment} {floor now now' : ℕ}
    {ts : List RetrospectiveCallerTurn} {r : State × List RetrospectiveCallerTurn}
    (h₁ : Conserves nfc config s fs₁ floor now (s₁, ts))
    (h₂ : ∀ floor', s₁.pending.Timely floor' now → Conserves nfc config s₁ fs₂ floor' now' r) :
    Conserves nfc config s (fs₁ ++ fs₂) floor now' (r.1, ts ++ r.2) := by
  obtain ⟨gs, floor₁, he, hadv, ht⟩ := h₁
  obtain ⟨hs, floor₂, he', hadv', ht'⟩ := h₂ floor₁ ht
  refine ⟨gs ++ hs, floor₂, ?_, hadv.trans hadv', ht'⟩
  rw [List.filterMap_append, ← he, ← he']

/-! ## Closing a group -/

theorem ordered_of_bounded {p : Pending} {floor atMs : ℕ} {t : RetrospectiveCallerTurn}
    (h : p.Bounded floor atMs) (h₁ : t.firstEventAtMs = p.firstEventAtMs.getD atMs)
    (h₂ : t.lastTranscriptAtMs = p.lastTranscriptAtMs.getD t.firstEventAtMs)
    (h₃ : t.terminalAtMs = p.terminalAtMs.getD atMs) (h₄ : t.finalizedAtMs = atMs) :
    Timed floor [t] atMs := by
  have hfirst : floor ≤ t.firstEventAtMs ∧ t.firstEventAtMs ≤ atMs := by
    rw [h₁]
    cases hf : p.firstEventAtMs with
    | none => exact ⟨h.floor_le, Nat.le_refl _⟩
    | some f => exact h.first f hf
  have hlast : t.firstEventAtMs ≤ t.lastTranscriptAtMs ∧ t.lastTranscriptAtMs ≤ atMs := by
    rw [h₂]
    cases hl : p.lastTranscriptAtMs with
    | none => exact ⟨Nat.le_refl _, hfirst.2⟩
    | some l =>
      obtain ⟨hle, f, hf, hfl⟩ := h.last l hl
      rw [hf] at h₁
      exact ⟨by rw [h₁]; exact hfl, hle⟩
  have hterm : t.terminalAtMs ≤ atMs := by
    rw [h₃]
    cases ht : p.terminalAtMs with
    | none => exact Nat.le_refl _
    | some t => exact h.terminal t ht
  refine ⟨hfirst.1, ⟨hlast.1, ?_, ?_⟩, ?_⟩
  · rw [h₄]; exact hlast.2
  · rw [h₄]; exact hterm
  · rw [h₄]; exact Nat.le_refl _

theorem conserves_turn {s s' : State} {fs : List Fragment} {floor atMs now : ℕ}
    {t : RetrospectiveCallerTurn} (hid : t.turnId = s.nextTurnId)
    (hset : Segment.Settled nfc config ⟨s.pending.fragments ++ fs, some t⟩)
    (htimed : Timed floor [t] atMs) (hnow : atMs ≤ now) (hp : s'.pending = Pending.empty)
    (hn : s'.nextTurnId = s.nextTurnId + 1) :
    Conserves nfc config s fs floor now (s', [t]) := by
  refine ⟨[⟨s.pending.fragments ++ fs, some t⟩], atMs, rfl, ?_, ?_⟩
  · exact {
      fragments := by simp [hp, Pending.empty]
      settled := fun g hg => by
        rw [List.mem_singleton.mp hg]
        exact hset
      ids := by simp [hid]
      next := hn
      timed := htimed }
  · rw [hp]
    exact Pending.empty_timely hnow

theorem finalize_conserves {s : State} {floor atMs now : ℕ} {status : CallerTurnCompletionStatus}
    {reason : CallerTurnCloseReason} (h : s.pending.Bounded floor atMs)
    (harmed : ∀ d, s.pending.deadlineMs = some d → 0 < s.pending.eventCount)
    (hs : status ≠ .dropped) (hnow : atMs ≤ now) :
    Conserves nfc config s [] floor now (finalize nfc s atMs status reason true) := by
  by_cases hblank : s.pending.transcript nfc = []
  · rw [finalize_blank hblank hs]
    refine ⟨[⟨s.pending.fragments, none⟩], atMs, rfl, ?_, Pending.empty_timely hnow⟩
    exact {
      fragments := by simp [Pending.empty]
      settled := fun g hg => by
        rw [List.mem_singleton.mp hg]
        exact .blank _ hblank
      ids := rfl
      next := rfl
      timed := h.floor_le }
  · have hne : ¬ (s.pending.transcript nfc = [] ∧ status ≠ .dropped) := fun hh => hblank hh.1
    cases hp : s.pending.hasPending with
    | false =>
      -- nothing is pending, so no deadline is open
      have hcount : ¬ 0 < s.pending.eventCount := by
        intro hc
        simp [Pending.hasPending, hc] at hp
      rw [finalize_idle hne hp]
      exact ⟨[], floor, rfl, .stay (by simp) rfl, h.mono hnow,
        fun d hd => absurd (harmed d hd) hcount⟩
    | true =>
      rw [finalize_report hne hp]
      refine conserves_turn rfl ?_ (ordered_of_bounded h rfl rfl rfl rfl) hnow rfl rfl
      rw [List.append_nil]
      exact .reported _ _ hs rfl hblank

/-- A group over a limit is reported as dropped, with the fragments that
arrived last. -/
theorem drop_conserves {s : State} {fs gs : List Fragment} {floor atMs now : ℕ}
    (h : s.pending.Bounded floor atMs) (hcount : 0 < s.pending.eventCount)
    (hgs : s.pending.fragments ++ fs = gs)
    (hlimit : config.maxEvents < s.pending.eventCount ∨ transcriptExceedsLimit config gs = true)
    (hnow : atMs ≤ now) :
    Conserves nfc config s fs floor now (dropForResourceLimit nfc s atMs) := by
  have hp : s.pending.hasPending = true := by simp [Pending.hasPending, hcount]
  subst hgs
  unfold dropForResourceLimit
  rw [finalize_report (fun hh => hh.2 rfl) hp]
  exact conserves_turn rfl (.dropped _ _ rfl rfl rfl hlimit)
    (ordered_of_bounded h rfl rfl rfl rfl) hnow rfl rfl

theorem finalizeExpired_conserves {s : State} {floor now atMs : ℕ}
    (h : s.pending.Timely floor now) (hle : now ≤ atMs) :
    Conserves nfc config s [] floor atMs (finalizeExpired nfc s atMs) := by
  unfold finalizeExpired
  cases hd : s.pending.deadlineMs with
  | none =>
    exact ⟨[], floor, rfl, .stay (by simp) rfl, h.bounded.mono hle,
      fun d he => by rw [hd] at he; cases he⟩
  | some d =>
    obtain ⟨hlt, hcount⟩ := h.deadline d hd
    simp only
    split
    · rename_i hbefore
      refine ⟨[], floor, rfl, .stay (by simp) rfl, h.bounded.mono hle, fun d' he => ?_⟩
      rw [hd, Option.some.injEq] at he
      exact ⟨by omega, hcount⟩
    · exact finalize_conserves (h.bounded.mono (by omega)) (fun _ _ => hcount) (by decide)
        (by omega)

variable (config) in
theorem enterEpoch_conserves {s : State} {floor : ℕ} {event : CallerTurnEvent}
    (h : s.pending.Timely floor event.atMs) :
    Conserves nfc config s [] floor event.atMs (enterEpoch nfc s event) := by
  unfold enterEpoch
  split
  · have hf : Conserves nfc config s [] floor event.atMs
        (finalize nfc s event.atMs .incomplete .reconnectStarted true) :=
      finalize_conserves h.bounded (fun d hd => (h.deadline d hd).2) (by decide) (Nat.le_refl _)
    exact hf.finish rfl rfl
  · exact ⟨[], floor, rfl, .stay (by simp) rfl, h⟩

/-! ## One event -/

theorem recordEvent_timely {p : Pending} {floor : ℕ} {event : CallerTurnEvent}
    (h : p.Timely floor event.atMs) : (recordEvent p event).Timely floor event.atMs where
  bounded := {
    floor_le := h.bounded.floor_le
    first := by
      intro f hf
      simp only [recordEvent, Option.some.injEq] at hf
      subst hf
      cases hp : p.firstEventAtMs with
      | none => exact ⟨h.bounded.floor_le, Nat.le_refl _⟩
      | some f => exact h.bounded.first f hp
    last := by
      intro l hl
      obtain ⟨hle, f, hf, hfl⟩ := h.bounded.last l hl
      exact ⟨hle, f, by simp [recordEvent, hf], hfl⟩
    terminal := h.bounded.terminal }
  deadline d hd := ⟨(h.deadline d hd).1, Nat.succ_pos _⟩

/-- What an event of the active epoch adds to the accepted speech. -/
def heard (s : State) (event : CallerTurnEvent) : List Fragment :=
  if event.kind = .inputTranscriptFragment ∧ event.sequence ∉ s.seenSequences then [event.text]
  else []

theorem dispatch_fragment_conserves {s : State} {floor : ℕ} {event : CallerTurnEvent}
    (h : s.pending.Timely floor event.atMs) (hcount : 0 < s.pending.eventCount)
    (hfirst : s.pending.firstEventAtMs.isSome) (hk : event.kind = .inputTranscriptFragment) :
    Conserves nfc config s [event.text] floor event.atMs (dispatch nfc config s event) := by
  obtain ⟨f, hf⟩ := Option.isSome_iff_exists.mp hfirst
  have hb := h.bounded
  have hlast : ∀ l, some event.atMs = some l →
      l ≤ event.atMs ∧ ∃ f, s.pending.firstEventAtMs = some f ∧ f ≤ l := by
    intro l hl
    cases hl
    exact ⟨Nat.le_refl _, f, hf, (hb.first f hf).2⟩
  unfold dispatch
  rw [if_pos hk]
  simp only
  split
  · rename_i hlimit
    obtain ⟨gs, floor', he, hadv, ht⟩ : Conserves nfc config _ [] floor event.atMs _ :=
      drop_conserves (s := { s with pending := { s.pending with
          fragments := s.pending.fragments ++ [event.text]
          lastTranscriptAtMs := some event.atMs } })
        ⟨hb.floor_le, hb.first, hlast, hb.terminal⟩ hcount rfl
        (by simpa using Or.inr hlimit) (Nat.le_refl _)
    refine ⟨gs, floor', he, ⟨?_, hadv.settled, hadv.ids, hadv.next, hadv.timed⟩, ht⟩
    simpa using hadv.fragments
  · refine ⟨[], floor, rfl, .stay rfl rfl, ⟨hb.floor_le, hb.first, hlast, hb.terminal⟩, ?_⟩
    intro d hd
    refine ⟨?_, hcount⟩
    simp only [extendDeadline] at hd
    have hq := config.quiescence_pos
    split at hd
    · cases hd; omega
    · exact (h.deadline d hd).1

theorem dispatch_other_conserves {s : State} {floor : ℕ} {event : CallerTurnEvent}
    (h : s.pending.Timely floor event.atMs) (hcount : 0 < s.pending.eventCount)
    (hk : event.kind ≠ .inputTranscriptFragment) :
    Conserves nfc config s [] floor event.atMs (dispatch nfc config s event) := by
  have hb := h.bounded
  unfold dispatch
  rw [if_neg hk]
  split
  · refine ⟨[], floor, rfl, .stay (by simp) rfl, ⟨hb.floor_le, hb.first, hb.last, ?_⟩, ?_⟩
    · intro t ht
      cases ht
      exact Nat.le_refl _
    · intro d hd
      cases hd
      have hq := config.quiescence_pos
      exact ⟨by omega, hcount⟩
  · split
    · refine finalize_conserves hb (fun _ _ => hcount) ?_ (Nat.le_refl _)
      split <;> decide
    · exact ⟨[], floor, rfl, .stay (by simp) rfl, h⟩

variable (nfc config) in
theorem receive_conserves {s : State} {floor : ℕ} {event : CallerTurnEvent}
    (h : s.pending.Timely floor event.atMs) :
    Conserves nfc config s (heard s event) floor event.atMs (receive nfc config s event) := by
  unfold receive heard
  simp only
  by_cases hseen : event.sequence ∈ s.seenSequences
  · rw [if_neg (fun hh => hh.2 hseen), if_pos hseen]
    exact ⟨[], floor, rfl, .stay (by simp) rfl, h⟩
  rw [if_neg hseen]
  by_cases hr : event.kind = .reconnectStarted
  · rw [if_neg (by simp [hr]), if_pos hr]
    split
    · exact Conserves.start (finalize_conserves (s := { s with
        lastAtMs := event.atMs
        seenSequences := retain config s.seenSequences event.sequence }) h.bounded
        (fun d hd => (h.deadline d hd).2) (by decide) (Nat.le_refl _)) rfl rfl
    · exact ⟨[], floor, rfl, .stay (by simp) rfl, h⟩
  rw [if_neg hr]
  have hrec := recordEvent_timely h
  have hcount : 0 < (recordEvent s.pending event).eventCount := Nat.succ_pos _
  by_cases hmax : (recordEvent s.pending event).eventCount > config.maxEvents
  · rw [if_pos hmax]
    exact Conserves.start (drop_conserves (s := { s with
      lastAtMs := event.atMs
      seenSequences := retain config s.seenSequences event.sequence
      pending := recordEvent s.pending event }) hrec.bounded hcount rfl (.inl hmax)
      (Nat.le_refl _)) rfl rfl
  · rw [if_neg hmax]
    by_cases hk : event.kind = .inputTranscriptFragment
    · rw [if_pos ⟨hk, hseen⟩]
      exact Conserves.start (dispatch_fragment_conserves hrec hcount rfl hk) rfl rfl
    · rw [if_neg (fun hh => hk hh.1)]
      exact Conserves.start (dispatch_other_conserves hrec hcount hk) rfl rfl

/-! ## Calls and runs -/

/-- A fragment that `ingest` neither counts away nor refuses. -/
def Accepts (s : State) (event : CallerTurnEvent) : Prop :=
  event.kind = .inputTranscriptFragment ∧ isStale s event = false ∧ s.lastAtMs ≤ event.atMs ∧
    event.sequence ∉ s.seenSequences

instance (s : State) (event : CallerTurnEvent) : Decidable (Accepts s event) := by
  unfold Accepts; infer_instance

/-- The fragment a call added to the accepted speech. -/
def accepted (e : AssemblerEvent) : List Fragment :=
  match e.call with
  | .ingest event => if Accepts e.pre event then [event.text] else []
  | _ => []

theorem accepted_ingest (s : State) (event : CallerTurnEvent) :
    accepted ((step nfc config).event s (.ingest event)) =
      if Accepts s event then [event.text] else [] := rfl

variable (nfc) in
/-- A fragment of the active epoch is heard where it arrives: closing the old
group first does not change which sequences were seen. -/
theorem heard_enterEpoch {s : State} {event : CallerTurnEvent} (hstale : isStale s event = false)
    (hle : s.lastAtMs ≤ event.atMs) :
    heard (enterEpoch nfc (finalizeExpired nfc s event.atMs).1 event).1 event =
      if Accepts s event then [event.text] else [] := by
  unfold heard Accepts
  by_cases hk : event.kind = .inputTranscriptFragment
  · have hepoch : ¬ s.activeEpoch < event.epoch := by
      intro hlt
      simp [isStale, hk, hlt] at hstale
    have hsame : (enterEpoch nfc (finalizeExpired nfc s event.atMs).1 event).1 =
        (finalizeExpired nfc s event.atMs).1 := by
      unfold enterEpoch
      rw [(finalizeExpired_framed _ s event.atMs).activeEpoch, if_neg hepoch]
    simp [hsame, hk, hstale, hle, (finalizeExpired_framed _ s event.atMs).seenSequences]
  · simp [hk]

theorem accept_conserves {s : State} {floor : ℕ} {event : CallerTurnEvent}
    (h : s.pending.Timely floor s.lastAtMs) (hstale : isStale s event = false)
    (hle : s.lastAtMs ≤ event.atMs) :
    Conserves nfc config s (if Accepts s event then [event.text] else []) floor event.atMs
      (accept nfc config s event) := by
  rw [← heard_enterEpoch nfc hstale hle]
  have h₁ : Conserves nfc config s [] floor event.atMs (finalizeExpired nfc s event.atMs) :=
    finalizeExpired_conserves h hle
  have h₂ := h₁.trans fun _ ht => enterEpoch_conserves config ht
  have h₃ := h₂.trans fun _ ht => receive_conserves nfc config ht
  exact h₃

variable (nfc config) in
/-- **One call.** Whatever the call and whether it is accepted, it moves the
accepted fragment through the pending group and reports exactly the turns of
the segments it closes. -/
theorem step_conserves {s : State} {floor : ℕ} (h : s.pending.Timely floor s.lastAtMs) (c : Call) :
    Conserves nfc config s (accepted ((step nfc config).event s c)) floor
      (step nfc config s c).1.lastAtMs
      ((step nfc config s c).1, Outcome.turns (step nfc config s c).2) := by
  have idle : ∀ s' : State, s'.pending = s.pending → s'.nextTurnId = s.nextTurnId →
      s'.lastAtMs = s.lastAtMs → Conserves nfc config s [] floor s'.lastAtMs (s', []) := by
    intro s' hp hn hl
    exact ⟨[], floor, rfl, .stay (by simp [hp]) hn, by rw [hp, hl]; exact h⟩
  cases c with
  | ingest event =>
    rw [accepted_ingest]
    simp only [step]
    cases hstale : isStale s event with
    | true =>
      rw [if_neg (fun ha => by simp [ha.2.1] at hstale), ingest_stale hstale]
      exact idle _ rfl rfl rfl
    | false =>
      by_cases hle : event.atMs < s.lastAtMs
      · rw [if_neg (fun ha => Nat.not_lt.mpr ha.2.2.1 hle), ingest_early hstale hle]
        exact idle _ rfl rfl rfl
      · rw [ingest_accept _ _ hstale (by omega),
          show (accept nfc config s event).1.lastAtMs = event.atMs from receive_lastAtMs _ _]
        exact accept_conserves h hstale (by omega)
  | advanceTime atMs =>
    simp only [step, advanceTime, accepted, Machine.event_call]
    split
    · exact idle _ rfl rfl rfl
    · rw [(finalizeExpired_framed _ _ _).lastAtMs]
      exact Conserves.start (finalizeExpired_conserves (s := { s with lastAtMs := atMs }) h
        (Nat.not_lt.mp ‹_›)) rfl rfl
  | finish atMs reason =>
    simp only [step, finish, accepted, Machine.event_call]
    split
    · exact idle _ rfl rfl rfl
    · rw [(finalize_framed _ _ _ _ _ _).lastAtMs]
      refine Conserves.start (finalize_conserves (s := { s with lastAtMs := atMs })
        (h.bounded.mono (by omega)) (fun d hd => (h.deadline d hd).2) ?_ (Nat.le_refl _)) rfl rfl
      split <;> decide

end Assembler

def acceptedSpeech (log : List AssemblerEvent) : List Fragment := log.flatMap accepted

/-- What the log of a run and the state after it have to do with each other. -/
structure Conserved (nfc : Str → Str) (config : Config) (log : List AssemblerEvent) (s : State)
    (segments : List Segment) (floor : ℕ) : Prop where
  speech : acceptedSpeech log = segments.flatMap (·.fragments) ++ s.pending.fragments
  turns : emitted log = segments.filterMap (·.turn)
  settled : ∀ g ∈ segments, g.Settled nfc config
  ids : (emitted log).map (·.turnId) = List.range' 1 (emitted log).length
  next : s.nextTurnId = 1 + (emitted log).length
  timed : Timed 0 (emitted log) floor
  pending : s.pending.Timely floor s.lastAtMs

theorem Conserved.start (nfc : Str → Str) (config : Config) :
    Conserved nfc config [] config.start [] 0 where
  speech := rfl
  turns := rfl
  settled g hg := by cases hg
  ids := rfl
  next := rfl
  timed := Nat.le_refl 0
  pending := Pending.empty_timely (Nat.le_refl 0)

theorem Conserved.step {nfc : Str → Str} {config : Config} {log : List AssemblerEvent} {s : State}
    {segments : List Segment} {floor : ℕ} (h : Conserved nfc config log s segments floor)
    (c : Call) : ∃ gs floor', Conserved nfc config (log ++ [(step nfc config).event s c])
      (CallerTurns.step nfc config s c).1 (segments ++ gs) floor' := by
  obtain ⟨gs, floor', he, hadv, ht⟩ := step_conserves nfc config h.pending c
  have hemit : emitted (log ++ [(CallerTurns.step nfc config).event s c]) =
      emitted log ++ gs.filterMap (·.turn) := by
    rw [← he]
    simp [emitted]
  refine ⟨gs, floor', ?_, ?_, ?_, ?_, ?_, ?_, ht⟩
  · simp only [acceptedSpeech, List.flatMap_append, List.flatMap_cons, List.flatMap_nil,
      List.append_nil]
    rw [show log.flatMap accepted = _ from h.speech, List.append_assoc, hadv.fragments,
      List.append_assoc]
  · rw [hemit, h.turns, List.filterMap_append]
  · intro g hg
    rcases List.mem_append.mp hg with hg | hg
    · exact h.settled g hg
    · exact hadv.settled g hg
  · rw [hemit, List.map_append, h.ids, hadv.ids, h.next, List.length_append]
    exact List.range'_append_1
  · rw [hemit, hadv.next, h.next, List.length_append]
    omega
  · rw [hemit]
    exact h.timed.append hadv.timed

theorem conserved_run (nfc : Str → Str) (config : Config) (cs : List Call) :
    ∃ segments floor, Conserved nfc config ((step nfc config).log config.start cs)
      ((step nfc config).run config.start cs) segments floor := by
  refine (step nfc config).log_inv (G := fun _ => True)
    (I := fun log s => ∃ segments floor, Conserved nfc config log s segments floor)
    ⟨[], 0, .start nfc config⟩ ?_ cs fun _ _ => trivial
  intro log s c hi _
  obtain ⟨segments, floor, h⟩ := hi
  obtain ⟨gs, floor', h'⟩ := h.step c
  exact ⟨segments ++ gs, floor', h'⟩

/-- **Conservation of speech.** In every run of `ingest`, `advance_time` and
`finish` from a fresh assembler, raising calls included: the accepted fragments
are cut into consecutive closed segments and the pending group; the emitted
turns are those of the closed segments, in order; a closed segment was reported
as its stripped NFC text, dropped over a resource limit, or blank; turn ids
count from one; each turn's times are in order, and no turn begins before the
one before it was finalized. -/
theorem speech_conserved (nfc : Str → Str) (config : Config) (cs : List Call) :
    ∃ segments : List Segment,
      acceptedSpeech ((step nfc config).log config.start cs) = segments.flatMap (·.fragments) ++
        ((step nfc config).run config.start cs).pending.fragments ∧
      emitted ((step nfc config).log config.start cs) = segments.filterMap (·.turn) ∧
      (∀ g ∈ segments, g.Settled nfc config) ∧
      (emitted ((step nfc config).log config.start cs)).map (·.turnId) =
        List.range' 1 (emitted ((step nfc config).log config.start cs)).length ∧
      (∀ t ∈ emitted ((step nfc config).log config.start cs), t.Ordered) ∧
      (emitted ((step nfc config).log config.start cs)).Pairwise
        fun t u => t.finalizedAtMs ≤ u.firstEventAtMs := by
  obtain ⟨segments, floor, h⟩ := conserved_run nfc config cs
  obtain ⟨hall, hpair⟩ := h.timed.spec
  exact ⟨segments, h.speech, h.turns, h.settled, h.ids, fun t ht => (hall t ht).2, hpair⟩

end HeyKevin.L5.CallerTurns
