import HeyKevin.L5Voice.CallerTurns
import HeyKevin.L1Encoding.Nfc
/-!
# How long a reported transcript can be

The limits are checked on the fragments as they come in, joined; the turn
reports the normal form of the joined text (`_transcript_exceeds_limit` and
`_finalize`, app/services/caller_turns.py:374-378, 404-439). A fragment may
start with a mark that breaks up the last letter of the one before, and the
normal form is then the longer one.

* `RawWithin.step`: the joined fragments are always within the limits.
* `transcript_within_iff`: a reported transcript is, where normalization
  does not lengthen what was joined; and where it does, not at every limit.
-/
namespace HeyKevin.L5.CallerTurns

open HeyKevin.Core L1 L1.Text L1.Nfc

/-- The transcript respects the limits of the assembler. -/
def Within (config : Config) (t : RetrospectiveCallerTurn) : Prop :=
  t.transcript.length ≤ config.maxCodepoints ∧ utf8Length t.transcript ≤ config.maxUtf8Bytes

/-- The normal form, without the white space around it, is longer than the text. -/
def Lengthened (T : Tables) (s : Str) : Prop :=
  s.length < (strip (nfc T s)).length ∨ utf8Length s < utf8Length (strip (nfc T s))

instance (config : Config) (t : RetrospectiveCallerTurn) : Decidable (Within config t) :=
  inferInstanceAs (Decidable (_ ∧ _))

instance (T : Tables) (s : Str) : Decidable (Lengthened T s) :=
  inferInstanceAs (Decidable (_ ∨ _))

/-- The joined fragments respect the limits of the assembler. -/
def RawWithin (config : Config) (fragments : List Fragment) : Prop :=
  transcriptExceedsLimit config fragments = false

theorem rawWithin_iff {config : Config} {fragments : List Fragment} :
    RawWithin config fragments ↔ (join fragments).length ≤ config.maxCodepoints ∧
      utf8Length (join fragments) ≤ config.maxUtf8Bytes := by
  simp only [RawWithin, transcriptExceedsLimit, gt_iff_lt, Bool.or_eq_false_iff,
    decide_eq_false_iff_not, not_lt]

theorem rawWithin_nil (config : Config) : RawWithin config [] :=
  rawWithin_iff.mpr ⟨Nat.zero_le _, Nat.zero_le _⟩

section Steps

variable {T : Tables} {config : Config}

/-- What a call that closes groups leaves and reports: no fragments or the old ones, and of a
group that was not dropped the normal form of its text. -/
structure Closes (T : Tables) (s : State) (r : State × List RetrospectiveCallerTurn) : Prop where
  left : r.1.pending.fragments = [] ∨ r.1.pending.fragments = s.pending.fragments
  told : ∀ t ∈ r.2, t.transcript = [] ∨
    t.status ≠ .dropped ∧ t.transcript = strip (nfc T (join s.pending.fragments))

theorem Closes.silent (s : State) : Closes T s (s, []) := ⟨.inr rfl, by simp⟩

theorem finalize_fragments (s : State) (atMs : ℕ) (status : CallerTurnCompletionStatus)
    (reason : CallerTurnCloseReason) (retainTranscript : Bool) :
    (finalize (nfc T) s atMs status reason retainTranscript).1.pending.fragments = [] := by
  unfold finalize
  split
  · rfl
  split
  · rename_i hno
    simp only [Pending.hasPending, Bool.or_eq_false_iff, Bool.not_eq_false'] at hno
    exact List.isEmpty_iff.mp hno.2
  · rfl

theorem finalize_closes (s : State) (atMs : ℕ) (status : CallerTurnCompletionStatus)
    (reason : CallerTurnCloseReason) (retainTranscript : Bool)
    (hstatus : retainTranscript = true → status ≠ .dropped) :
    Closes T s (finalize (nfc T) s atMs status reason retainTranscript) := by
  refine ⟨.inl (finalize_fragments ..), ?_⟩
  unfold finalize
  split
  · simp
  split
  · simp
  · intro t ht
    rw [List.mem_singleton] at ht
    subst ht
    cases retainTranscript with
    | false => exact .inl rfl
    | true => exact .inr ⟨hstatus rfl, rfl⟩

theorem finalizeExpired_closes (s : State) (atMs : ℕ) :
    Closes T s (finalizeExpired (nfc T) s atMs) := by
  unfold finalizeExpired
  split
  · exact .silent s
  split
  · exact .silent s
  · exact finalize_closes _ _ _ _ _ (by decide)

theorem enterEpoch_closes (s : State) (event : CallerTurnEvent) :
    Closes T s (enterEpoch (nfc T) s event) := by
  unfold enterEpoch
  split
  · have h := finalize_closes (T := T) s event.atMs .incomplete .reconnectStarted true (by decide)
    exact ⟨h.left, h.told⟩
  · exact .silent s

theorem receive_closes (s : State) (event : CallerTurnEvent)
    (hs : RawWithin config s.pending.fragments) :
    RawWithin config (receive (nfc T) config s event).1.pending.fragments ∧
      ∀ t ∈ (receive (nfc T) config s event).2, t.transcript = [] ∨
        t.status ≠ .dropped ∧ t.transcript = strip (nfc T (join s.pending.fragments)) := by
  have hclose : ∀ r, Closes T s r → RawWithin config r.1.pending.fragments ∧
      ∀ t ∈ r.2, t.transcript = [] ∨
        t.status ≠ .dropped ∧ t.transcript = strip (nfc T (join s.pending.fragments)) := by
    intro r h
    refine ⟨?_, h.told⟩
    rcases h.left with h | h <;> rw [h]
    · exact rawWithin_nil config
    · exact hs
  have hdrop : ∀ s', RawWithin config (dropForResourceLimit (nfc T) s' event.atMs).1.pending.fragments
      ∧ ∀ t ∈ (dropForResourceLimit (nfc T) s' event.atMs).2, t.transcript = [] ∨
        t.status ≠ .dropped ∧ t.transcript = strip (nfc T (join s.pending.fragments)) := by
    intro s'
    refine ⟨?_, ?_⟩
    · rw [dropForResourceLimit, finalize_fragments]
      exact rawWithin_nil config
    · unfold dropForResourceLimit finalize
      split
      · simp
      split
      · simp
      · intro t ht
        rw [List.mem_singleton] at ht
        subst ht
        exact .inl rfl
  unfold receive
  simp only
  split
  · exact hclose _ ⟨.inr rfl, by simp⟩
  split
  · split
    · have h := finalize_closes (T := T) { s with
        lastAtMs := event.atMs
        seenSequences := retain config s.seenSequences event.sequence } event.atMs
        .incomplete .reconnectStarted true (by decide)
      exact hclose _ ⟨h.left, h.told⟩
    · exact hclose _ ⟨.inr rfl, by simp⟩
  split
  · exact hdrop _
  unfold dispatch
  simp only
  split
  · split
    · exact hdrop _
    · rename_i hlimit
      rw [Bool.not_eq_true] at hlimit
      exact ⟨hlimit, by simp⟩
  · split
    · exact hclose _ ⟨.inr rfl, by simp⟩
    · split
      · refine hclose _ ⟨.inl (finalize_fragments ..), ?_⟩
        refine (finalize_closes _ _ _ _ _ ?_).told
        intro _
        split <;> decide
      · exact hclose _ ⟨.inr rfl, by simp⟩

theorem strip_nfc_of_nil {fragments : List Fragment} (h : fragments = []) :
    strip (nfc T (join fragments)) = [] := by
  rw [h, join_nil, nfc_nil]
  rfl

theorem accept_closes (s : State) (event : CallerTurnEvent)
    (hs : RawWithin config s.pending.fragments) :
    RawWithin config (accept (nfc T) config s event).1.pending.fragments ∧
      ∀ t ∈ (accept (nfc T) config s event).2, t.transcript = [] ∨
        t.status ≠ .dropped ∧ t.transcript = strip (nfc T (join s.pending.fragments)) := by
  have h₁ := finalizeExpired_closes (T := T) s event.atMs
  have h₂ := enterEpoch_closes (T := T) (finalizeExpired (nfc T) s event.atMs).1 event
  -- a later stage sees the open group, or none at all
  have hopen : ∀ fragments : List Fragment, fragments = [] ∨ fragments = s.pending.fragments →
      ∀ t : RetrospectiveCallerTurn, (t.transcript = [] ∨
        t.status ≠ .dropped ∧ t.transcript = strip (nfc T (join fragments))) →
      t.transcript = [] ∨
        t.status ≠ .dropped ∧ t.transcript = strip (nfc T (join s.pending.fragments)) := by
    rintro fragments (h | rfl) t ht
    · rw [strip_nfc_of_nil h] at ht
      exact .inl (ht.elim id And.right)
    · exact ht
  have hleft₂ : (enterEpoch (nfc T) (finalizeExpired (nfc T) s event.atMs).1
      event).1.pending.fragments = [] ∨
      (enterEpoch (nfc T) (finalizeExpired (nfc T) s event.atMs).1 event).1.pending.fragments =
        s.pending.fragments := by
    rcases h₂.left with h | h
    · exact .inl h
    · rw [h]
      exact h₁.left
  have hraw : RawWithin config (enterEpoch (nfc T) (finalizeExpired (nfc T) s event.atMs).1
      event).1.pending.fragments := by
    rcases hleft₂ with h | h <;> rw [h]
    · exact rawWithin_nil config
    · exact hs
  have h₃ := receive_closes (T := T) (enterEpoch (nfc T) (finalizeExpired (nfc T) s event.atMs).1
    event).1 event hraw
  refine ⟨h₃.1, fun t ht => ?_⟩
  simp only [accept, List.mem_append] at ht
  rcases ht with (ht | ht) | ht
  · exact h₁.told t ht
  · exact hopen _ h₁.left t (h₂.told t ht)
  · exact hopen _ hleft₂ t (h₃.2 t ht)

/-- One call keeps the joined fragments within the limits, and what it reports is the normal form
of the group that was open. -/
theorem step_closes (s : State) (c : Call) (hs : RawWithin config s.pending.fragments) :
    RawWithin config (step (nfc T) config s c).1.pending.fragments ∧
      ∀ t ∈ (step (nfc T) config s c).2.turns, t.transcript = [] ∨
        t.status ≠ .dropped ∧ t.transcript = strip (nfc T (join s.pending.fragments)) := by
  have hclose : ∀ r, Closes T s r → RawWithin config r.1.pending.fragments ∧
      ∀ t ∈ r.2, t.transcript = [] ∨
        t.status ≠ .dropped ∧ t.transcript = strip (nfc T (join s.pending.fragments)) := by
    intro r h
    refine ⟨?_, h.told⟩
    rcases h.left with h | h <;> rw [h]
    · exact rawWithin_nil config
    · exact hs
  cases c with
  | ingest event =>
    simp only [step, ingest]
    split
    · exact ⟨hs, by simp [Outcome.turns]⟩
    split
    · exact ⟨hs, by simp [Outcome.turns]⟩
    · exact accept_closes s event hs
  | advanceTime atMs =>
    simp only [step, advanceTime]
    split
    · exact ⟨hs, by simp [Outcome.turns]⟩
    · have h := finalizeExpired_closes (T := T) { s with lastAtMs := atMs } atMs
      exact hclose _ ⟨h.left, h.told⟩
  | finish atMs reason =>
    simp only [step, finish]
    split
    · exact ⟨hs, by simp [Outcome.turns]⟩
    · have h := finalize_closes (T := T) { s with lastAtMs := atMs } atMs
        (if reason = .toolCallCancelled then .cancelled else .incomplete) reason true (by
          intro _
          split <;> decide)
      exact hclose _ ⟨h.left, h.told⟩

theorem within_run (calls : List Call)
    (h : ∀ e ∈ (step (nfc T) config).log config.start calls,
      (∃ t ∈ Outcome.turns e.resp, t.status ≠ .dropped) →
        ¬ Lengthened T (join e.pre.pending.fragments)) :
    ∀ t ∈ emitted ((step (nfc T) config).log config.start calls), Within config t := by
  intro t ht
  obtain ⟨e, he, hte⟩ := List.mem_flatMap.mp ht
  have hraw := ((step (nfc T) config).log_pre (I := fun s => RawWithin config s.pending.fragments)
    (rawWithin_nil config) (fun s c hs => (step_closes s c hs).1) he).1
  have hresp := ((step (nfc T) config).eq_of_mem_log he).1
  have htold := (step_closes (T := T) e.pre e.call hraw).2 t (by rw [← hresp]; exact hte)
  rcases htold with htold | ⟨hstatus, htold⟩
  · rw [Within, htold]
    exact ⟨Nat.zero_le _, Nat.zero_le _⟩
  · have hno := h e he ⟨t, hte, hstatus⟩
    rw [Lengthened, not_or, not_lt, not_lt] at hno
    rw [rawWithin_iff] at hraw
    rw [Within, htold]
    exact ⟨hno.1.trans hraw.1, hno.2.trans hraw.2⟩

end Steps

/-! ## One group, at every limit -/

/-- The fragments as they come in, one after the other, and the end of the call. -/
def groupCalls (epoch : ℕ) : ℕ → List Fragment → List Call
  | _, [] => [.finish 0 .pipelineStopped]
  | i, f :: fs => .ingest ⟨.inputTranscriptFragment, 0, i, epoch, f, fun h => absurd rfl h⟩ ::
    groupCalls epoch (i + 1) fs

/-- The assembler's limits let these fragments through. -/
structure Admits (config : Config) (fragments : List Fragment) : Prop where
  events : fragments.length ≤ config.maxEvents
  raw : RawWithin config fragments

theorem encodeUtf8_append {s t : Str} {b c : List Byte} (hs : encodeUtf8 s = some b)
    (ht : encodeUtf8 t = some c) : encodeUtf8 (s ++ t) = some (b ++ c) := by
  induction s generalizing b with
  | nil =>
    cases hs
    exact ht
  | cons d s ih =>
    obtain ⟨x, y, hx, hy, rfl⟩ := encodeUtf8_cons hs
    rw [List.cons_append, encodeUtf8, hx, ih hy]
    simp

theorem utf8Length_append {s t : Str} (hs : Encodable s) (ht : Encodable t) :
    utf8Length (s ++ t) = utf8Length s + utf8Length t := by
  obtain ⟨b, hb⟩ := Option.isSome_iff_exists.mp ((encodeUtf8_isSome_iff s).mpr hs)
  obtain ⟨c, hc⟩ := Option.isSome_iff_exists.mp ((encodeUtf8_isSome_iff t).mpr ht)
  rw [utf8Length, utf8Length, utf8Length, encodeUtf8_append hb hc, hb, hc]
  simp

theorem RawWithin.of_append {config : Config} {fs gs : List Fragment}
    (h : RawWithin config (fs ++ gs)) : RawWithin config fs := by
  rw [rawWithin_iff] at h ⊢
  have hjoin : join (fs ++ gs) = join fs ++ join gs := List.flatMap_append
  rw [hjoin, List.length_append, utf8Length_append (encodable_join fs) (encodable_join gs)] at h
  omega

/-- Fragments have come in at time zero, and nothing else. -/
structure Collecting (config : Config) (i : ℕ) (s : State) : Prop where
  epoch : s.activeEpoch = config.activeEpoch
  clock : s.lastAtMs = 0
  seen : ∀ q ∈ s.seenSequences, q < i
  count : s.pending.eventCount = s.pending.fragments.length
  terminal : s.pending.terminalAtMs = none
  deadline : s.pending.deadlineMs = none

theorem mem_retain {config : Config} {seen : List ℕ} {i q : ℕ} (h : q ∈ retain config seen i) :
    q ∈ seen ∨ q = i := by
  unfold retain at h
  simp only at h
  have hmem : q ∈ seen ++ [i] := by
    split at h
    · exact List.mem_of_mem_tail h
    · exact h
  simpa using hmem

section Group

variable {T : Tables} {config : Config} {s : State} {i : ℕ}

theorem Collecting.ingest (h : Collecting config i s) (f : Fragment)
    (hadmits : Admits config (s.pending.fragments ++ [f])) :
    ∃ s', CallerTurns.ingest (nfc T) config s
        ⟨.inputTranscriptFragment, 0, i, config.activeEpoch, f, fun h => absurd rfl h⟩ =
          (s', .ok []) ∧
      Collecting config (i + 1) s' ∧ s'.pending.fragments = s.pending.fragments ++ [f] := by
  have hfresh : i ∉ s.seenSequences := fun hmem => Nat.lt_irrefl i (h.seen i hmem)
  have hevents : ¬ s.pending.eventCount + 1 > config.maxEvents := by
    have hlen := hadmits.events
    rw [List.length_append, List.length_singleton, ← h.count] at hlen
    omega
  have hraw : transcriptExceedsLimit config (s.pending.fragments ++ [f]) = false := hadmits.raw
  have hstale : isStale s ⟨.inputTranscriptFragment, 0, i, config.activeEpoch, f,
      fun h => absurd rfl h⟩ = false := by
    simp [isStale, h.epoch]
  have haccept : accept (nfc T) config s ⟨.inputTranscriptFragment, 0, i, config.activeEpoch, f,
      fun h => absurd rfl h⟩ = ({ s with
        lastAtMs := 0
        seenSequences := retain config s.seenSequences i
        pending := { s.pending with
          fragments := s.pending.fragments ++ [f]
          eventCount := s.pending.eventCount + 1
          firstEventAtMs := some (s.pending.firstEventAtMs.getD 0)
          lastTranscriptAtMs := some 0
          deadlineMs := none } }, []) := by
    simp only [accept, finalizeExpired, h.deadline, enterEpoch, h.epoch, lt_irrefl, if_false,
      receive, hfresh, reduceCtorEq, recordEvent, hevents, dispatch, if_true, hraw,
      Bool.false_eq_true, extendDeadline, h.terminal, Option.isSome_none, List.append_nil]
  rw [ingest_accept _ _ hstale (by simp [h.clock]), haccept]
  refine ⟨_, rfl, ⟨h.epoch, rfl, ?_, ?_, h.terminal, rfl⟩, rfl⟩
  · intro q hq
    rcases mem_retain hq with hq | rfl
    · exact (h.seen q hq).trans (Nat.lt_succ_self i)
    · exact Nat.lt_succ_self q
  · simp [h.count]

theorem Collecting.finish (h : Collecting config i s) :
    ((finish (nfc T) s 0 .pipelineStopped).2.turns).map (·.transcript) =
      if strip (nfc T (join s.pending.fragments)) = [] then []
      else [strip (nfc T (join s.pending.fragments))] := by
  have hclock : ¬ 0 < s.lastAtMs := by simp [h.clock]
  simp only [CallerTurns.finish, hclock, if_false, Outcome.turns, reduceCtorEq]
  unfold finalize
  by_cases hblank : strip (nfc T (join s.pending.fragments)) = []
  · rw [if_pos ⟨hblank, by decide⟩, if_pos hblank]
    rfl
  · have hne : s.pending.fragments ≠ [] := fun hnil => hblank (strip_nfc_of_nil hnil)
    have hpending : Pending.hasPending s.pending = true := by
      simp [Pending.hasPending, hne]
    rw [if_neg (fun hno => hblank hno.1), if_neg (by simp [hpending]), if_neg hblank]
    rfl

theorem Collecting.emitted (h : Collecting config i s) (fs : List Fragment)
    (hadmits : Admits config (s.pending.fragments ++ fs)) :
    (CallerTurns.emitted ((step (nfc T) config).log s
        (groupCalls config.activeEpoch i fs))).map (·.transcript) =
      if strip (nfc T (join (s.pending.fragments ++ fs))) = [] then []
      else [strip (nfc T (join (s.pending.fragments ++ fs)))] := by
  induction fs generalizing s i with
  | nil =>
    rw [List.append_nil, ← h.finish]
    simp [groupCalls, CallerTurns.emitted, step]
  | cons f fs ih =>
    have hfirst : Admits config (s.pending.fragments ++ [f]) := by
      have hsplit : s.pending.fragments ++ f :: fs = (s.pending.fragments ++ [f]) ++ fs := by simp
      rw [hsplit] at hadmits
      refine ⟨?_, hadmits.raw.of_append⟩
      have := hadmits.events
      rw [List.length_append] at this
      omega
    obtain ⟨s', hs', hcollect, hfragments⟩ := h.ingest (T := T) f hfirst
    have hrest := ih hcollect (by rw [hfragments]; simpa using hadmits)
    rw [hfragments, List.append_assoc, List.singleton_append] at hrest
    rw [← hrest]
    simp only [groupCalls, Machine.log_cons, CallerTurns.emitted, List.flatMap_cons,
      Machine.event_resp, step, hs', Outcome.turns, List.nil_append]

end Group

/-- The tightest limits that let these fragments through. -/
def limitsFor (fragments : List Fragment) : Config where
  activeEpoch := 0
  quiescenceMs := 1
  maxEvents := max 1 fragments.length
  maxCodepoints := max 1 (join fragments).length
  maxUtf8Bytes := max 1 (utf8Length (join fragments))
  maxRetainedSequences := 1
  quiescence_pos := Nat.one_pos
  limits_pos := ⟨by omega, by omega, by omega⟩
  retained_pos := Nat.one_pos

theorem limitsFor_admits (fragments : List Fragment) : Admits (limitsFor fragments) fragments :=
  ⟨le_max_right _ _, rawWithin_iff.mpr ⟨le_max_right _ _, le_max_right _ _⟩⟩

theorem start_collecting (config : Config) : Collecting config 0 config.start :=
  ⟨rfl, rfl, by simp [Config.start], rfl, rfl, rfl⟩

theorem utf8Length_pos {s : Str} (he : Encodable s) (hne : s ≠ []) : 0 < utf8Length s := by
  cases s with
  | nil => exact absurd rfl hne
  | cons c s =>
    obtain ⟨bs, hbs⟩ := Option.isSome_iff_exists.mp ((encodeUtf8_isSome_iff (c :: s)).mpr he)
    obtain ⟨b, t, hb, -, rfl⟩ := encodeUtf8_cons hbs
    have hpos : b ≠ [] := by
      rintro rfl
      exact encodeCodePoint_ne_nil c hb
    rw [utf8Length, hbs, Option.getD_some, List.length_append]
    have := List.length_pos_iff.mpr hpos
    omega

/-- Every assembler that lets a group through reports it within its limits exactly where
normalization does not lengthen it. -/
theorem group_within_iff (T : Tables) (fs : List Fragment) :
    (∀ config, Admits config fs →
      ∀ t ∈ emitted ((step (nfc T) config).log config.start
        (groupCalls config.activeEpoch 0 fs)), Within config t) ↔ ¬ Lengthened T (join fs) := by
  have hreport : ∀ config, Admits config fs →
      (emitted ((step (nfc T) config).log config.start
        (groupCalls config.activeEpoch 0 fs))).map (·.transcript) =
      if strip (nfc T (join fs)) = [] then [] else [strip (nfc T (join fs))] := by
    intro config hadmits
    exact (start_collecting config).emitted fs hadmits
  constructor
  · intro hall hlong
    have hne : strip (nfc T (join fs)) ≠ [] := by
      intro hnil
      rw [Lengthened, hnil] at hlong
      exact hlong.elim (Nat.not_lt_zero _) (Nat.not_lt_zero _)
    have hraw : join fs ≠ [] := by
      intro hnil
      rw [hnil, nfc_nil] at hne
      exact hne rfl
    have htold := hreport _ (limitsFor_admits fs)
    rw [if_neg hne] at htold
    obtain ⟨t, ht, htr⟩ := List.map_eq_singleton_iff.mp htold
    have hwithin := hall _ (limitsFor_admits fs) t (by rw [ht]; exact List.mem_singleton.mpr rfl)
    have hlen := List.length_pos_iff.mpr hraw
    have hbytes := utf8Length_pos (encodable_join fs) hraw
    rw [Within, htr] at hwithin
    simp only [limitsFor] at hwithin
    rw [Lengthened] at hlong
    omega
  · intro hshort config hadmits t ht
    have hmem := List.mem_map_of_mem (f := (·.transcript)) ht
    rw [hreport config hadmits] at hmem
    split at hmem
    · cases hmem
    · rw [List.mem_singleton] at hmem
      have hraw := rawWithin_iff.mp hadmits.raw
      rw [Lengthened, not_or, not_lt, not_lt] at hshort
      rw [Within, hmem]
      exact ⟨hshort.1.trans hraw.1, hshort.2.trans hraw.2⟩

/-- **Transcripts within the limits.** In every run that reports only groups that normalization
does not lengthen, every transcript respects the limits; and a group that it does lengthen breaks
them in some assembler that lets its fragments through. -/
theorem transcript_within_iff (T : Tables) :
    (∀ config calls,
      (∀ e ∈ (step (nfc T) config).log config.start calls,
        (∃ t ∈ Outcome.turns e.resp, t.status ≠ .dropped) →
          ¬ Lengthened T (join e.pre.pending.fragments)) →
      ∀ t ∈ emitted ((step (nfc T) config).log config.start calls), Within config t) ∧
    ∀ fs, (∀ config, Admits config fs →
      ∀ t ∈ emitted ((step (nfc T) config).log config.start
        (groupCalls config.activeEpoch 0 fs)), Within config t) ↔ ¬ Lengthened T (join fs) :=
  ⟨fun _ calls h => within_run calls h, group_within_iff T⟩

/-- The entries of U+0075, U+00FC, U+016B, U+01D6, U+1EE5 and of their marks. -/
def latinU : Tables where
  decomposition c :=
    if c = 0xfc then [0x75, 0x308]
    else if c = 0x16b then [0x75, 0x304]
    else if c = 0x1d6 then [0x75, 0x308, 0x304]
    else if c = 0x1ee5 then [0x75, 0x323]
    else [c]
  combiningClass c := if c = 0x304 ∨ c = 0x308 then 230 else if c = 0x323 then 220 else 0
  composite c d :=
    if c = 0x75 ∧ d = 0x308 then some 0xfc
    else if c = 0x75 ∧ d = 0x304 then some 0x16b
    else if c = 0xfc ∧ d = 0x304 then some 0x1d6
    else if c = 0x75 ∧ d = 0x323 then some 0x1ee5
    else none

def exampleMarked : Fragment := ⟨[0x1d6], by decide, by decide⟩

def exampleBelow : Fragment := ⟨[0x323], by decide, by decide⟩

/-- One letter, and then one mark: within the limits as they stand. -/
theorem transcript_within_exampleMarked :
    (∀ t ∈ emitted ((step (nfc latinU) (limitsFor [exampleMarked])).log
      (limitsFor [exampleMarked]).start (groupCalls 0 0 [exampleMarked])),
      Within (limitsFor [exampleMarked]) t) ∧
    (emitted ((step (nfc latinU) (limitsFor [exampleMarked])).log
      (limitsFor [exampleMarked]).start (groupCalls 0 0 [exampleMarked]))).length = 1 :=
  ⟨((transcript_within_iff latinU).2 [exampleMarked]).mpr (by decide) _
    (limitsFor_admits _), by decide⟩

/-- The letter and the mark together: two code points come in, each in normal form, and three
are reported. -/
theorem exampleBelow_exceeds :
    normalizeFragment (nfc latinU) [0x1d6] = .ok exampleMarked ∧
    normalizeFragment (nfc latinU) [0x323] = .ok exampleBelow ∧
    (limitsFor [exampleMarked, exampleBelow]).maxCodepoints = 2 ∧
    ∃ t ∈ emitted ((step (nfc latinU) (limitsFor [exampleMarked, exampleBelow])).log
      (limitsFor [exampleMarked, exampleBelow]).start
      (groupCalls 0 0 [exampleMarked, exampleBelow])),
      t.transcript = [0x1ee5, 0x308, 0x304] ∧
        ¬ Within (limitsFor [exampleMarked, exampleBelow]) t := by
  refine ⟨by rfl, by rfl, by decide, ?_⟩
  decide

end HeyKevin.L5.CallerTurns
