import HeyKevin.L5Voice.SpeechControl
import HeyKevin.L5Voice.PlaybackProof
import HeyKevin.L1Encoding.Sha256
/-!
# One live owner per question slot

The set of reserved slots is kept beside the records. It is exact when it lists
the slots of the acts that own one and are not cancelled, and no two of these
acts share a slot.

* `SlotsExact`: the law.
* `Harmless`: what an operation must not do. Terminalizing an act a second time
  discards its slot again, also when another act has reserved it since; and two
  acts of a plan must not share an id.
* `slotsExact_step_iff`: an operation keeps the law exactly when it is harmless.
* `slotsExact_run_iff`: the same of every state of a run.
-/
namespace HeyKevin.L5.Speech

open HeyKevin.Core L1 L1.Text
open HeyKevin.L5.Voice (VoiceSessionBinding VoiceSemanticActKind)

/-- The act owns the slot and is not cancelled. -/
def ActRecord.Owns (r : ActRecord) (k : SlotKey) : Prop := r.cancelled = false ∧ r.slotKey? = some k

instance (r : ActRecord) (k : SlotKey) : Decidable (r.Owns k) := inferInstanceAs (Decidable (_ ∧ _))

/-- The act recorded under `id` is the live owner of the slot. -/
def Holder (s : State) (k : SlotKey) (id : Str) : Prop :=
  ∃ r, s.records.find? id = some r ∧ r.Owns k

theorem holder_of_any {s : State} {k : SlotKey} {id : Str}
    (h : (s.records.find? id).any (fun r => r.Owns k) = true) : Holder s k id := by
  cases hr : s.records.find? id with
  | none =>
    rw [hr] at h
    cases h
  | some r =>
    rw [hr] at h
    exact ⟨r, hr, of_decide_eq_true h⟩

structure SlotsExact (s : State) : Prop where
  mem_iff : ∀ k, k ∈ s.reservedSlots ↔ ∃ id, Holder s k id
  unique : ∀ k id id', Holder s k id → Holder s k id' → id = id'

theorem mem_discard {slots : Finset SlotKey} {r : ActRecord} {k : SlotKey} :
    k ∈ discard slots r ↔ k ∈ slots ∧ r.slotKey? ≠ some k := by
  unfold discard
  cases h : r.slotKey? with
  | none => simp
  | some j =>
    simp only [Finset.mem_erase, ne_eq, Option.some.injEq]
    constructor
    · exact fun hk => ⟨hk.2, fun he => hk.1 he.symm⟩
    · exact fun hk => ⟨fun he => hk.2 he.symm, hk.1⟩

theorem holder_set {s t : State} {id : Str} {r : ActRecord} (h : t.records = s.records.set id r)
    {k : SlotKey} {x : Str} :
    Holder t k x ↔ (x = id ∧ r.Owns k) ∨ (x ≠ id ∧ Holder s k x) := by
  unfold Holder
  rw [h]
  simp only [Entries.find?_set]
  by_cases hx : id = x
  · subst hx
    simp
  · simp [hx, Ne.symm hx]

/-- The law depends on the holders and the reserved slots only. -/
theorem slotsExact_congr {s t : State} (hh : ∀ k x, Holder t k x ↔ Holder s k x)
    (hs : t.reservedSlots = s.reservedSlots) : SlotsExact t ↔ SlotsExact s := by
  constructor
  · intro h
    refine ⟨fun k => ?_, fun k x y hx hy => h.unique k x y ((hh k x).mpr hx) ((hh k y).mpr hy)⟩
    rw [← hs, h.mem_iff]
    simp only [hh]
  · intro h
    refine ⟨fun k => ?_, fun k x y hx hy => h.unique k x y ((hh k x).mp hx) ((hh k y).mp hy)⟩
    rw [hs, h.mem_iff]
    simp only [hh]

theorem SlotsExact.of_eq {s t : State} (h : SlotsExact s) (hr : t.records = s.records)
    (hs : t.reservedSlots = s.reservedSlots) : SlotsExact t := by
  refine (slotsExact_congr (fun k x => ?_) hs).mpr h
  unfold Holder
  rw [hr]

/-- A record that changes in neither its slot nor its cancellation. -/
theorem slotsExact_setRecord {s t : State} {id : Str} {r r' : ActRecord}
    (hr : s.records.find? id = some r) (ht : t.records = s.records.set id r')
    (hslots : t.reservedSlots = s.reservedSlots) (hk : r'.slotKey? = r.slotKey?)
    (hc : r'.cancelled = r.cancelled) : SlotsExact t ↔ SlotsExact s := by
  refine slotsExact_congr (fun k x => ?_) hslots
  rw [holder_set ht]
  by_cases hx : x = id
  · subst hx
    simp only [true_and, ne_eq, not_true_eq_false, false_and, or_false]
    unfold Holder ActRecord.Owns
    rw [hr, hk, hc]
    simp
  · simp [hx]

/-! ## Giving up a slot -/

/-- A live act that goes takes its slot with it. -/
theorem slotsExact_vacated {s t : State} {id : Str} {r : ActRecord} (hs : SlotsExact s)
    (hr : s.records.find? id = some r) (hl : r.cancelled = false)
    (hh : ∀ k x, Holder t k x ↔ x ≠ id ∧ Holder s k x)
    (hd : t.reservedSlots = discard s.reservedSlots r) : SlotsExact t := by
  refine ⟨fun k => ?_, fun k x y hx hy => hs.unique k x y ((hh k x).mp hx).2 ((hh k y).mp hy).2⟩
  rw [hd, mem_discard, hs.mem_iff]
  simp only [hh]
  constructor
  · rintro ⟨⟨x, hx⟩, hne⟩
    refine ⟨x, ?_, hx⟩
    rintro rfl
    obtain ⟨r', hr', ho⟩ := hx
    rw [hr] at hr'
    cases hr'
    exact hne ho.2
  · rintro ⟨x, hne, hx⟩
    refine ⟨⟨x, hx⟩, fun hk => hne ?_⟩
    exact hs.unique k x id hx ⟨r, hr, hl, hk⟩

theorem holder_terminate {s : State} {id : Str} {r : ActRecord} {k : SlotKey} {x : Str} :
    Holder (terminate id r s) k x ↔ x ≠ id ∧ Holder s k x := by
  rw [holder_set rfl]
  simp [ActRecord.Owns]

theorem slotsExact_terminate {s : State} {id : Str} {r : ActRecord} (hs : SlotsExact s)
    (hr : s.records.find? id = some r) (hl : r.cancelled = false) :
    SlotsExact (terminate id r s) :=
  slotsExact_vacated hs hr hl (fun _ _ => holder_terminate) rfl

/-- A second termination discards the slot again. -/
theorem slotsExact_terminate_iff {s : State} {id : Str} {r : ActRecord} (hs : SlotsExact s)
    (hr : s.records.find? id = some r) (hc : r.cancelled = true) :
    SlotsExact (terminate id r s) ↔ ∀ k ∈ r.slotKey?, k ∉ s.reservedSlots := by
  have same : ∀ k x, Holder (terminate id r s) k x ↔ Holder s k x := by
    intro k x
    rw [holder_terminate]
    refine and_iff_right_of_imp fun hx => ?_
    rintro rfl
    obtain ⟨r', hr', ho⟩ := hx
    rw [hr] at hr'
    cases hr'
    rw [ho.1] at hc
    cases hc
  constructor
  · intro h k hk hmem
    -- the live owner of the slot is still recorded, but the slot is gone
    obtain ⟨x, hx⟩ := (hs.mem_iff k).mp hmem
    have := (h.mem_iff k).mpr ⟨x, (same k x).mpr hx⟩
    exact (mem_discard.mp this).2 hk
  · intro h
    refine (slotsExact_congr same ?_).mpr hs
    ext k
    change k ∈ discard s.reservedSlots r ↔ _
    rw [mem_discard]
    exact and_iff_left_of_imp fun hmem hk => h k hk hmem

/-! ## Rollback -/

theorem holder_rollbackRecord {s : State} {r : ActRecord} {k : SlotKey} {x : Str} :
    Holder (rollbackRecord r s) k x ↔ x ≠ r.reserved.actId ∧ Holder s k x := by
  unfold Holder rollbackRecord
  simp only [Entries.find?_pop]
  by_cases hx : r.reserved.actId = x
  · simp [hx]
  · simp [hx, Ne.symm hx]

/-- A batch of live acts, each under its own id, goes act by act. -/
theorem slotsExact_rollback {items : List ReservedSpeech} {s : State} (hs : SlotsExact s)
    (hn : (actIds items).Nodup)
    (hp : ∀ item ∈ items, ∃ r ∈ s.records.find? item.actId, r.reserved = item ∧
      r.cancelled = false) :
    SlotsExact ((items.filterMap fun item => s.records.find? item.actId).foldl
      (fun t r => rollbackRecord r t) s) := by
  have general : ∀ t : State, SlotsExact t →
      (∀ item ∈ items, t.records.find? item.actId = s.records.find? item.actId) →
      SlotsExact ((items.filterMap fun item => s.records.find? item.actId).foldl
        (fun t r => rollbackRecord r t) t) := by
    induction items with
    | nil => exact fun t ht _ => ht
    | cons item items ih =>
      intro t ht same
      obtain ⟨r, hr, hitem, hl⟩ := hp item (by simp)
      have hr : s.records.find? item.actId = some r := hr
      simp only [List.filterMap_cons, hr, List.foldl_cons]
      simp only [actIds, List.map_cons, List.nodup_cons] at hn
      refine ih hn.2 (fun i hi => hp i (by simp [hi])) _ ?_ ?_
      · have hrt : t.records.find? r.reserved.actId = some r := by
          rw [hitem, same item (by simp), hr]
        exact slotsExact_vacated ht hrt hl (fun _ _ => holder_rollbackRecord) rfl
      · intro i hi
        have hne : r.reserved.actId ≠ i.actId := by
          rw [hitem]
          exact fun he => hn.1 (he ▸ List.mem_map_of_mem hi)
        rw [rollbackRecord, Entries.find?_pop, if_neg hne]
        exact same i (by simp [hi])
  exact general s hs fun _ _ => rfl

/-! ## Reserving a plan -/

variable {P : Python} {policy : SpeechPolicy}

/-- The slot that an act would reserve. -/
def actKey (authorization : SpeechAuthorization) (act : SemanticAct) : Option SlotKey :=
  act.questionSlot.map fun slot => (authorization.binding, slot)

theorem reserveAct_reservedSlots {authorization : SpeechAuthorization} {act : SemanticAct}
    {id : Str} {s : State} {k : SlotKey} :
    k ∈ (reserveAct authorization act id s).reservedSlots ↔
      actKey authorization act = some k ∨ k ∈ s.reservedSlots := by
  unfold reserveAct actKey
  cases act.questionSlot with
  | none => simp
  | some slot => simp [eq_comm]

theorem holder_reserveAct {authorization : SpeechAuthorization} {act : SemanticAct} {id : Str}
    {s : State} {k : SlotKey} {x : Str} :
    Holder (reserveAct authorization act id s) k x ↔
      (x = id ∧ actKey authorization act = some k) ∨ (x ≠ id ∧ Holder s k x) := by
  rw [holder_set rfl]
  unfold ActRecord.Owns ActRecord.slotKey? newRecord actKey
  cases act.questionSlot with
  | none => simp
  | some slot => simp [reservedSpeech]

/-- The ids of the acts from `index` on. -/
def idsFrom (P : Python) (authorization : SpeechAuthorization) (planId : Str) :
    ℕ → List SemanticAct → List Str
  | _, [] => []
  | index, _ :: acts =>
    actId P authorization.binding authorization.turnId planId index ::
      idsFrom P authorization planId (index + 1) acts

theorem mem_idsFrom {authorization : SpeechAuthorization} {planId : Str} {acts : List SemanticAct}
    {index : ℕ} {x : Str} : x ∈ idsFrom P authorization planId index acts ↔
      ∃ j < acts.length, x = actId P authorization.binding authorization.turnId planId (index + j) := by
  induction acts generalizing index with
  | nil => simp [idsFrom]
  | cons act acts ih =>
    rw [idsFrom, List.mem_cons, ih]
    constructor
    · rintro (rfl | ⟨j, hj, rfl⟩)
      · exact ⟨0, by simp, rfl⟩
      · exact ⟨j + 1, by simpa using hj, by rw [Nat.add_right_comm, Nat.add_assoc]⟩
    · rintro ⟨j, hj, rfl⟩
      cases j with
      | zero => exact .inl rfl
      | succ j =>
        exact .inr ⟨j, by simpa using hj, by rw [Nat.add_right_comm, Nat.add_assoc]⟩

/-- Acts that are no questions touch neither the slots nor the other holders. -/
theorem reserveActs_plain (authorization : SpeechAuthorization) (planId : Str)
    {acts : List SemanticAct} (hacts : ∀ a ∈ acts, a.questionSlot = none) (index : ℕ) (s : State) :
    (∀ k, k ∈ (reserveActs P authorization planId index acts s).1.reservedSlots ↔
        k ∈ s.reservedSlots) ∧
      ∀ k x, Holder (reserveActs P authorization planId index acts s).1 k x ↔
        x ∉ idsFrom P authorization planId index acts ∧ Holder s k x := by
  induction acts generalizing index s with
  | nil => simp [reserveActs, idsFrom]
  | cons act acts ih =>
    have hkey : actKey authorization act = none := by
      rw [actKey, hacts act (by simp)]
      rfl
    obtain ⟨hslots, hholder⟩ := ih (fun a ha => hacts a (by simp [ha])) (index + 1)
      (reserveAct authorization act
        (actId P authorization.binding authorization.turnId planId index) s)
    refine ⟨fun k => ?_, fun k x => ?_⟩
    · rw [reserveActs]
      simp only
      rw [hslots, reserveAct_reservedSlots, hkey]
      simp
    · rw [reserveActs]
      simp only
      rw [hholder, holder_reserveAct, hkey, idsFrom, List.mem_cons]
      simp only [reduceCtorEq, and_false, false_or]
      tauto

theorem reserveActs_append {authorization : SpeechAuthorization} {planId : Str}
    (as bs : List SemanticAct) (index : ℕ) (s : State) :
    (reserveActs P authorization planId index (as ++ bs) s).1 =
      (reserveActs P authorization planId (index + as.length) bs
        (reserveActs P authorization planId index as s).1).1 := by
  induction as generalizing index s with
  | nil => rfl
  | cons a as ih =>
    simp only [List.cons_append, reserveActs, ih, List.length_cons]
    rw [Nat.add_right_comm, Nat.add_assoc]

/-- What the checks of a reservation establish. -/
theorem checkActs_eq_ok {s : State} {authorization : SpeechAuthorization} {planId : Str}
    {acts : List SemanticAct} {index : ℕ} {u : Unit}
    (h : checkActs P policy s authorization planId index acts = .ok u) :
    (∀ x ∈ idsFrom P authorization planId index acts, s.records.find? x = none) ∧
      ∀ a ∈ acts, ∀ k ∈ actKey authorization a, k ∉ s.reservedSlots := by
  induction acts generalizing index with
  | nil => simp [idsFrom]
  | cons act acts ih =>
    simp only [checkActs, bind_eq_ok, ensure_eq_ok, exists_unit] at h
    obtain ⟨-, hid, -, hslot, h⟩ := h
    obtain ⟨hids, hslots⟩ := ih h
    refine ⟨?_, ?_⟩
    · intro x hx
      rcases List.mem_cons.mp hx with rfl | hx
      · exact Option.isNone_iff_eq_none.mp hid
      · exact hids x hx
    · intro a ha k hk
      rcases List.mem_cons.mp ha with rfl | ha
      · obtain ⟨slot, hs, rfl⟩ := Option.map_eq_some_iff.mp hk
        exact hslot slot hs
      · exact hslots a ha k hk

/-- A later act of the plan has the id of its question. -/
def Collides (P : Python) (plan : SpokenPlan) (authorization : SpeechAuthorization) : Prop :=
  ∃ i j, i < j ∧ j < plan.acts.length ∧ (∃ a ∈ plan.acts[i]?, a.kind = .question) ∧
    actId P authorization.binding authorization.turnId plan.planId i =
      actId P authorization.binding authorization.turnId plan.planId j

theorem plain_of_ne {a : SemanticAct} (h : a.kind ≠ .question) : a.questionSlot = none := by
  have := mt a.slot_isSome.mp h
  simpa using this

/-- A plan asks no question, or exactly one. -/
theorem SpokenPlan.cases (plan : SpokenPlan) :
    (∀ a ∈ plan.acts, a.kind ≠ .question) ∨
      ∃ pre q post, plan.acts = pre ++ q :: post ∧ q.kind = .question ∧
        (∀ a ∈ pre, a.kind ≠ .question) ∧ ∀ a ∈ post, a.kind ≠ .question := by
  by_cases h : ∀ a ∈ plan.acts, a.kind ≠ .question
  · exact .inl h
  · push Not at h
    obtain ⟨q, hq, hk⟩ := h
    obtain ⟨pre, post, hacts⟩ := List.append_of_mem hq
    have hone := plan.one_question
    rw [hacts, List.filter_append, List.filter_cons_of_pos (by simp [SemanticAct.isQuestion, hk]),
      List.length_append, List.length_cons] at hone
    have none_of : ∀ l : List SemanticAct, (l.filter SemanticAct.isQuestion).length = 0 →
        ∀ a ∈ l, a.kind ≠ .question := by
      intro l hl a ha he
      have := List.filter_eq_nil_iff.mp (List.length_eq_zero_iff.mp hl) a ha
      simp [SemanticAct.isQuestion, he] at this
    exact .inr ⟨pre, q, post, hacts, hk, none_of pre (by omega), none_of post (by omega)⟩

/-- With its one question at a known place, a plan collides when a later act
has the id of that place. -/
theorem collides_iff {plan : SpokenPlan} {authorization : SpeechAuthorization}
    {pre post : List SemanticAct} {q : SemanticAct} (hacts : plan.acts = pre ++ q :: post)
    (hq : q.kind = .question) (hpre : ∀ a ∈ pre, a.kind ≠ .question)
    (hpost : ∀ a ∈ post, a.kind ≠ .question) :
    Collides P plan authorization ↔
      actId P authorization.binding authorization.turnId plan.planId pre.length ∈
        idsFrom P authorization plan.planId (pre.length + 1) post := by
  unfold Collides
  rw [mem_idsFrom, hacts]
  simp only [List.length_append, List.length_cons]
  constructor
  · rintro ⟨i, j, hij, hj, ⟨a, ha, hk⟩, he⟩
    have hi : i = pre.length := by
      rcases Nat.lt_trichotomy i pre.length with hlt | heq | hgt
      · rw [Option.mem_def, List.getElem?_append_left hlt] at ha
        exact absurd hk (hpre a (List.mem_of_getElem? ha))
      · exact heq
      · rw [Option.mem_def, List.getElem?_append_right (by omega),
          show i - pre.length = i - pre.length - 1 + 1 by omega, List.getElem?_cons_succ] at ha
        exact absurd hk (hpost a (List.mem_of_getElem? ha))
    subst hi
    refine ⟨j - (pre.length + 1), by omega, ?_⟩
    rw [he, show pre.length + 1 + (j - (pre.length + 1)) = j by omega]
  · rintro ⟨j, hj, he⟩
    refine ⟨pre.length, pre.length + 1 + j, by omega, by omega, ⟨q, ?_, hq⟩, he⟩
    rw [Option.mem_def, List.getElem?_append_right (by omega), Nat.sub_self]
    rfl

/-- An accepted plan keeps the law exactly when its ids do not collide. -/
theorem slotsExact_reserveActs_iff {s : State} {plan : SpokenPlan}
    {authorization : SpeechAuthorization} {u : Unit} (hs : SlotsExact s)
    (h : checkActs P policy s authorization plan.planId 0 plan.acts = .ok u) :
    SlotsExact (reserveActs P authorization plan.planId 0 plan.acts s).1 ↔
      ¬ Collides P plan authorization := by
  obtain ⟨hfresh, hfree⟩ := checkActs_eq_ok h
  have old : ∀ {k x}, Holder s k x → x ∉ idsFrom P authorization plan.planId 0 plan.acts := by
    rintro k x ⟨r, hr, -⟩ hx
    rw [hfresh x hx] at hr
    cases hr
  rcases plan.cases with hplain | ⟨pre, q, post, hacts, hq, hpre, hpost⟩
  · obtain ⟨hslots, hholder⟩ := reserveActs_plain (P := P) authorization plan.planId
      (fun a ha => plain_of_ne (hplain a ha)) 0 s
    have hno : ¬ Collides P plan authorization := by
      rintro ⟨i, j, -, -, ⟨a, ha, hk⟩, -⟩
      exact hplain a (List.mem_of_getElem? ha) hk
    refine iff_of_true ((slotsExact_congr (fun k x => ?_) (Finset.ext hslots)).mpr hs) hno
    rw [hholder]
    exact and_iff_right_of_imp old
  · rw [collides_iff hacts hq hpre hpost]
    set idq := actId P authorization.binding authorization.turnId plan.planId pre.length with hidq
    obtain ⟨slot, hslot⟩ := Option.isSome_iff_exists.mp (q.slot_isSome.mpr hq)
    have hkey : actKey authorization q = some (authorization.binding, slot) := by
      rw [actKey, hslot]
      rfl
    set key : SlotKey := (authorization.binding, slot)
    have hkfree : key ∉ s.reservedSlots := hfree q (by rw [hacts]; simp) key hkey
    obtain ⟨hs₁, hh₁⟩ := reserveActs_plain (P := P) authorization plan.planId
      (fun a ha => plain_of_ne (hpre a ha)) 0 s
    set s₁ := (reserveActs P authorization plan.planId 0 pre s).1
    obtain ⟨hs₂, hh₂⟩ := reserveActs_plain (P := P) authorization plan.planId
      (fun a ha => plain_of_ne (hpost a ha)) (pre.length + 1)
      (reserveAct authorization q idq s₁)
    have hfinal : (reserveActs P authorization plan.planId 0 plan.acts s).1 =
        (reserveActs P authorization plan.planId (pre.length + 1) post
          (reserveAct authorization q idq s₁)).1 := by
      rw [hacts, reserveActs_append, reserveActs, Nat.zero_add]
    rw [hfinal]
    have slots : ∀ k, k ∈ (reserveActs P authorization plan.planId (pre.length + 1) post
        (reserveAct authorization q idq s₁)).1.reservedSlots ↔ k = key ∨ k ∈ s.reservedSlots := by
      intro k
      rw [hs₂, reserveAct_reservedSlots, hkey, hs₁, Option.some.injEq, eq_comm]
    -- an old holder is none of the new ids
    have holder : ∀ k x, Holder (reserveActs P authorization plan.planId (pre.length + 1) post
        (reserveAct authorization q idq s₁)).1 k x ↔
          (x ∉ idsFrom P authorization plan.planId (pre.length + 1) post ∧ x = idq ∧ k = key) ∨
            Holder s k x := by
      intro k x
      rw [hh₂, holder_reserveAct, hkey, hh₁, Option.some.injEq]
      have hold : Holder s k x → x ∉ idsFrom P authorization plan.planId (pre.length + 1) post ∧
          x ≠ idq ∧ x ∉ idsFrom P authorization plan.planId 0 pre := by
        intro hx
        have hx := old hx
        rw [mem_idsFrom, hacts] at hx
        simp only [Nat.zero_add, List.length_append, List.length_cons] at hx
        refine ⟨fun hm => ?_, fun he => ?_, fun hm => ?_⟩
        · obtain ⟨j, hj, rfl⟩ := mem_idsFrom.mp hm
          exact hx ⟨pre.length + 1 + j, by omega, rfl⟩
        · exact hx ⟨pre.length, by omega, he⟩
        · obtain ⟨j, hj, rfl⟩ := mem_idsFrom.mp hm
          exact hx ⟨j, by omega, by rw [Nat.zero_add]⟩
      constructor
      · rintro ⟨hm, ⟨rfl, he⟩ | ⟨-, -, hx⟩⟩
        · exact .inl ⟨hm, rfl, he.symm⟩
        · exact .inr hx
      · rintro (⟨hm, rfl, rfl⟩ | hx)
        · exact ⟨hm, .inl ⟨rfl, rfl⟩⟩
        · obtain ⟨h1, h2, h3⟩ := hold hx
          exact ⟨h1, .inr ⟨h2, h3, hx⟩⟩
    constructor
    · intro ht hm
      -- the record of the question has been overwritten
      obtain ⟨x, hx⟩ := (ht.mem_iff key).mp ((slots key).mpr (.inl rfl))
      rcases (holder key x).mp hx with ⟨hn, rfl, -⟩ | hx
      · exact hn hm
      · exact hkfree ((hs.mem_iff key).mpr ⟨x, hx⟩)
    · intro hm
      refine ⟨fun k => ?_, fun k x y hx hy => ?_⟩
      · rw [slots, hs.mem_iff]
        simp only [holder]
        constructor
        · rintro (rfl | ⟨x, hx⟩)
          · exact ⟨idq, .inl ⟨hm, rfl, rfl⟩⟩
          · exact ⟨x, .inr hx⟩
        · rintro ⟨x, ⟨-, -, rfl⟩ | hx⟩
          · exact .inl rfl
          · exact .inr ⟨x, hx⟩
      · have nokey : ∀ x, ¬ Holder s key x := fun x hx => hkfree ((hs.mem_iff key).mpr ⟨x, hx⟩)
        rcases (holder k x).mp hx with ⟨-, rfl, rfl⟩ | hx <;>
          rcases (holder _ y).mp hy with ⟨-, rfl, hk⟩ | hy
        · rfl
        · exact absurd hy (nokey y)
        · exact absurd (hk ▸ hx) (nokey x)
        · exact hs.unique k x y hx hy

theorem slotsExact_reserve_iff {s t : State} {plan : SpokenPlan}
    {authorization : SpeechAuthorization} {batch : List ReservedSpeech} (hs : SlotsExact s)
    (h : reserve P policy plan authorization s = .ok (t, batch)) :
    SlotsExact t ↔ ¬ Collides P plan authorization := by
  simp only [reserve, bind_eq_ok, pure_eq_ok, Except.ok.injEq, Prod.mk.injEq] at h
  obtain ⟨u, hu, rfl, -⟩ := h
  rw [← slotsExact_reserveActs_iff hs hu]
  exact slotsExact_congr (fun _ _ => Iff.rfl) rfl

/-- A replay owns no slot. -/
theorem slotsExact_reserveReplay {s t : State} {source : ReplaySource} {requestId : Str}
    {mode : ReplayMode} {authorization : SpeechAuthorization} {batch : List ReservedSpeech}
    (hs : SlotsExact s)
    (h : reserveReplay P source requestId mode authorization s = .ok (t, batch)) :
    SlotsExact t := by
  simp only [reserveReplay, bind_eq_ok, ensure_eq_ok, exists_unit] at h
  obtain ⟨-, h⟩ := h
  split at h
  · rename_i hc
    cases h
    have hfresh := Option.isNone_iff_eq_none.mp hc.2.2.2.2.2.2.2.2
    refine (slotsExact_congr (s := s) (fun k x => ?_) ?_).mpr hs
    swap
    · rfl
    rw [holder_set rfl]
    simp only [ActRecord.Owns, ActRecord.slotKey?, newRecord, Bool.false_eq_true, if_false,
      reduceCtorEq, and_false, false_or]
    refine and_iff_right_of_imp ?_
    rintro ⟨r, hr, -⟩ rfl
    rw [hfresh] at hr
    cases hr
  · cases h
    exact hs

/-- A repair asks nothing. -/
theorem not_collides_of_repair {plan : SpokenPlan} {authorization : SpeechAuthorization}
    (h : plan.acts.map SemanticAct.kind = [.repair]) : ¬ Collides P plan authorization := by
  rintro ⟨i, j, -, -, ⟨a, ha, hk⟩, -⟩
  have hm : a.kind ∈ plan.acts.map SemanticAct.kind :=
    List.mem_map_of_mem (List.mem_of_getElem? ha)
  rw [h, hk] at hm
  simp at hm

theorem slotsExact_reserveRepair {s : State} {originalActId : Str} {failure : FailureClass}
    {plan : SpokenPlan} {authorization : SpeechAuthorization} {facts : List Str}
    (hs : SlotsExact s) :
    SlotsExact (reserveRepair P policy originalActId failure plan authorization facts s).1 := by
  unfold reserveRepair
  split
  · split
    · rename_i r hr hc
      have hno : ¬ Collides P plan authorization := not_collides_of_repair hc.2.2.2.1
      split
      · rename_i t repair rest ht
        have ht := (slotsExact_reserve_iff hs ht).mpr hno
        simp only
        split
        · exact ht.of_eq rfl rfl
        · exact ht
      · rename_i t ht
        exact (slotsExact_reserve_iff hs ht).mpr hno
      · exact hs
    · exact hs
  · exact hs

/-! ## Terminating a binding -/

theorem hardTerminalize_records {s : State} {id x : Str} :
    (hardTerminalize id s).records.find? x =
      if x = id then (s.records.find? x).map fun r => { r with cancelled := true }
      else s.records.find? x := by
  unfold hardTerminalize
  cases hr : s.records.find? id with
  | none =>
    by_cases hx : x = id
    · subst hx
      simp [hr]
    · simp [hx]
  | some r =>
    simp only [terminate, Entries.find?_set]
    by_cases hx : x = id
    · subst hx
      simp [hr]
    · simp [hx, Ne.symm hx]

theorem mem_hardTerminalize_slots {s : State} {id : Str} {k : SlotKey} :
    k ∈ (hardTerminalize id s).reservedSlots ↔
      k ∈ s.reservedSlots ∧ ∀ r, s.records.find? id = some r → r.slotKey? ≠ some k := by
  unfold hardTerminalize
  cases hr : s.records.find? id with
  | none => simp
  | some r =>
    change k ∈ discard s.reservedSlots r ↔ _
    rw [mem_discard]
    simp

/-- What terminating a list of acts leaves. -/
theorem hardTerminalize_all (ids : List Str) (s : State) :
    (∀ x, (ids.foldl (fun t id => hardTerminalize id t) s).records.find? x =
        if x ∈ ids then (s.records.find? x).map fun r => { r with cancelled := true }
        else s.records.find? x) ∧
      ∀ k, k ∈ (ids.foldl (fun t id => hardTerminalize id t) s).reservedSlots ↔
        k ∈ s.reservedSlots ∧
          ∀ id ∈ ids, ∀ r, s.records.find? id = some r → r.slotKey? ≠ some k := by
  induction ids generalizing s with
  | nil => simp
  | cons id ids ih =>
    obtain ⟨hrec, hslots⟩ := ih (hardTerminalize id s)
    simp only [List.foldl_cons]
    refine ⟨fun x => ?_, fun k => ?_⟩
    · rw [hrec, hardTerminalize_records]
      by_cases hx : x = id
      · subst hx
        simp only [if_true, List.mem_cons, true_or]
        split
        · simp [Option.map_map, Function.comp_def]
        · rfl
      · simp [hx]
    · rw [hslots, mem_hardTerminalize_slots, List.forall_mem_cons]
      have later : (∀ i ∈ ids, ∀ r, (hardTerminalize id s).records.find? i = some r →
          r.slotKey? ≠ some k) ↔ ∀ i ∈ ids, ∀ r, s.records.find? i = some r → r.slotKey? ≠ some k := by
        refine forall₂_congr fun i _ => ?_
        rw [hardTerminalize_records]
        split
        · -- cancelling an act does not change its slot
          constructor
          · intro h r hr
            exact h { r with cancelled := true } (by rw [hr]; rfl)
          · intro h r hr
            obtain ⟨r', hr', rfl⟩ := Option.map_eq_some_iff.mp hr
            exact h r' hr'
        · exact Iff.rfl
      rw [later]
      tauto

theorem mem_actIdsForBinding {s : State} (hn : (Entries.keys s.records).Nodup)
    {binding : VoiceSessionBinding} {x : Str} : x ∈ actIdsForBinding s binding ↔
      ∃ r, s.records.find? x = some r ∧ r.reserved.binding = binding := by
  unfold actIdsForBinding
  simp only [List.mem_map, List.mem_filter, decide_eq_true_eq, Prod.exists]
  constructor
  · rintro ⟨a, r, ⟨hm, hb⟩, rfl⟩
    exact ⟨r, Entries.find?_of_mem hn hm, hb⟩
  · rintro ⟨r, hr, hb⟩
    exact ⟨x, r, ⟨Entries.mem_of_find? hr, hb⟩, rfl⟩

theorem slotKey?_binding {r : ActRecord} {k : SlotKey} (h : r.slotKey? = some k) :
    k.1 = r.reserved.binding := by
  unfold ActRecord.slotKey? at h
  split at h
  · obtain ⟨slot, -, rfl⟩ := Option.map_eq_some_iff.mp h
    rfl
  · cases h

/-- With the acts of a binding all its slots go. -/
theorem slotsExact_hardTerminalizeBinding {s : State} (hn : (Entries.keys s.records).Nodup)
    (hs : SlotsExact s) (binding : VoiceSessionBinding) :
    SlotsExact (hardTerminalizeBinding binding s) := by
  obtain ⟨hrec, hslots⟩ := hardTerminalize_all (actIdsForBinding s binding) s
  unfold hardTerminalizeBinding
  set t := (actIdsForBinding s binding).foldl (fun t id => hardTerminalize id t) s
  have holder : ∀ k x, Holder t k x ↔ x ∉ actIdsForBinding s binding ∧ Holder s k x := by
    intro k x
    unfold Holder
    rw [hrec]
    by_cases hx : x ∈ actIdsForBinding s binding
    · simp only [hx, if_true, not_true_eq_false, false_and, iff_false]
      rintro ⟨r, hr, ho⟩
      obtain ⟨r', -, rfl⟩ := Option.map_eq_some_iff.mp hr
      cases ho.1
    · simp [hx]
  refine ⟨fun k => ?_, fun k x y hx hy =>
    hs.unique k x y ((holder k x).mp hx).2 ((holder k y).mp hy).2⟩
  rw [hslots, hs.mem_iff]
  simp only [holder]
  constructor
  · rintro ⟨⟨x, hx⟩, hne⟩
    refine ⟨x, fun hm => ?_, hx⟩
    obtain ⟨r, hr, ho⟩ := hx
    exact hne x hm r hr ho.2
  · rintro ⟨x, hm, hx⟩
    refine ⟨⟨x, hx⟩, fun y hy r hr hk => hm ?_⟩
    obtain ⟨r', hr', hb⟩ := (mem_actIdsForBinding hn).mp hy
    rw [hr] at hr'
    cases hr'
    obtain ⟨rx, hrx, ho⟩ := hx
    refine (mem_actIdsForBinding hn).mpr ⟨rx, hrx, ?_⟩
    rw [← slotKey?_binding ho.2, slotKey?_binding hk, hb]

/-! ## Keys -/

/-- The records of `t` come from those of `s` by writes and deletions. -/
def KeysKept (s t : State) : Prop :=
  (Entries.keys s.records).Nodup → (Entries.keys t.records).Nodup

theorem keysKept_set {s t : State} {id : Str} {r : ActRecord}
    (h : t.records = s.records.set id r) : KeysKept s t := by
  intro hn
  rw [h]
  exact Entries.nodup_keys_set hn id r

theorem keysKept_reserveActs {authorization : SpeechAuthorization} {planId : Str}
    (acts : List SemanticAct) (index : ℕ) (s : State) :
    KeysKept s (reserveActs P authorization planId index acts s).1 := by
  induction acts generalizing index s with
  | nil => exact id
  | cons act acts ih => exact fun hn => ih (index + 1) _ (keysKept_set rfl hn)

theorem keysKept_reserve {s t : State} {plan : SpokenPlan} {authorization : SpeechAuthorization}
    {batch : List ReservedSpeech} (h : reserve P policy plan authorization s = .ok (t, batch)) :
    KeysKept s t := by
  simp only [reserve, bind_eq_ok, pure_eq_ok, Except.ok.injEq, Prod.mk.injEq] at h
  obtain ⟨u, -, rfl, -⟩ := h
  exact keysKept_reserveActs plan.acts 0 s

theorem keysKept_foldl {α : Type} {f : State → α → State} (hf : ∀ s a, KeysKept s (f s a))
    (as : List α) (s : State) : KeysKept s (as.foldl f s) := by
  induction as generalizing s with
  | nil => exact id
  | cons a as ih => exact fun hn => ih _ (hf s a hn)

theorem keysKept_hardTerminalize (s : State) (id : Str) : KeysKept s (hardTerminalize id s) := by
  unfold hardTerminalize
  split
  · exact keysKept_set rfl
  · exact fun hn => hn

/-! ## One operation -/

/-- The operation neither terminalizes a cancelled act while its slot is
reserved, nor reserves a plan whose ids collide. -/
def Harmless (P : Python) (policy : SpeechPolicy) (s : State) : Op → Prop
  | .reserve plan authorization =>
    checkActs P policy s authorization plan.planId 0 plan.acts = .ok () →
      ¬ Collides P plan authorization
  | .hardTerminalize id =>
    ∀ r ∈ s.records.find? id, r.cancelled = true → ∀ k ∈ r.slotKey?, k ∉ s.reservedSlots
  | _ => True

/-- The record under `id` is written in place. -/
inductive Rewrites (s : State) : State → Prop
  | refl : Rewrites s s
  | set {t : State} (id : Str) (r r' : ActRecord) (hr : s.records.find? id = some r)
      (records : t.records = s.records.set id r') (slots : t.reservedSlots = s.reservedSlots)
      (slotKey : r'.slotKey? = r.slotKey?) (cancelled : r'.cancelled = r.cancelled) : Rewrites s t

theorem Rewrites.slotsExact {s t : State} (h : Rewrites s t) (hs : SlotsExact s) :
    SlotsExact t := by
  cases h with
  | refl => exact hs
  | set id r r' hr records slots slotKey cancelled =>
    exact (slotsExact_setRecord hr records slots slotKey cancelled).mpr hs

theorem Rewrites.keysKept {s t : State} (h : Rewrites s t) : KeysKept s t := by
  cases h with
  | refl => exact id
  | set id r r' hr records slots slotKey cancelled => exact keysKept_set records

theorem rewrites_authorizeText (id text : Str) (s : State) :
    Rewrites s (authorizeText P policy id text s).1 := by
  unfold authorizeText
  split
  · rename_i r hr
    split
    · exact .set id r _ hr rfl rfl rfl rfl
    · exact .refl
  · exact .refl

theorem rewrites_acceptSegment (id segment : Str) (final : Bool) (s : State) :
    Rewrites s (acceptSegment P policy id segment final s).1 := by
  unfold acceptSegment
  split
  · rename_i r hr
    simp only
    split
    · exact .set id r _ hr rfl rfl rfl rfl
    · exact .refl
  · exact .refl

theorem rewrites_bindTts {id audioId : Str} {s t : State} {b : Bool}
    (h : bindTts P id audioId s = .ok (t, b)) : Rewrites s t := by
  unfold bindTts at h
  split at h
  · rename_i r hr
    split at h
    · simp only [bind_eq_ok, pure_eq_ok, Except.ok.injEq, Prod.mk.injEq] at h
      obtain ⟨_, -, rfl, -⟩ := h
      exact .set id r _ hr rfl rfl rfl rfl
    · cases h
      exact .refl
  · cases h
    exact .refl

theorem rewrites_bindPlayout (id playoutId : Str) (s : State) :
    Rewrites s (bindPlayout id playoutId s).1 := by
  unfold bindPlayout
  split
  · rename_i r hr
    split
    · split
      · exact .set id r _ hr rfl rfl rfl rfl
      · exact .refl
    · exact .refl
  · exact .refl

theorem rewrites_recordCallerPlaybackObserved (id playoutId : Str) (s : State) :
    Rewrites s (recordCallerPlaybackObserved id playoutId s).1 := by
  unfold recordCallerPlaybackObserved
  split
  · rename_i r hr
    split
    · exact .set id r _ hr rfl rfl rfl rfl
    · exact .refl
  · exact .refl

/-- Retiring a batch index touches no record. -/
theorem sameRecords_retire (reserved : List ReservedSpeech) (s : State) :
    (completeReservation reserved s).1.records = s.records ∧
      (completeReservation reserved s).1.reservedSlots = s.reservedSlots ∧
      (retireReservation reserved s).1.records = s.records ∧
      (retireReservation reserved s).1.reservedSlots = s.reservedSlots ∧
      (forceRetireReservation reserved s).1.records = s.records ∧
      (forceRetireReservation reserved s).1.reservedSlots = s.reservedSlots := by
  unfold completeReservation retireReservation forceRetireReservation
  refine ⟨?_, ?_, ?_, ?_, ?_, ?_⟩ <;> split <;> rfl

theorem slotsExact_rollbackReservation {s : State} (hs : SlotsExact s)
    (reserved : List ReservedSpeech) : SlotsExact (rollbackReservation reserved s).1 := by
  unfold rollbackReservation
  split
  · rename_i h
    refine SlotsExact.of_eq (slotsExact_rollback hs h.2.1 ?_) rfl rfl
    intro item hi
    obtain ⟨r, hr, hp⟩ := h.2.2.2 item hi
    exact ⟨r, hr, hp.1, hp.2.2.1⟩
  · exact hs

theorem slotsExact_cancel {s : State} (hs : SlotsExact s) (id : Str) (reason : CancellationReason)
    (supersedingEpoch : Option ℤ) : SlotsExact (cancel id reason supersedingEpoch s).1 := by
  unfold cancel
  split
  · rename_i r hr
    split
    · rename_i h
      exact slotsExact_terminate hs hr h.1
    · exact hs
  · exact hs

theorem slotsExact_hardTerminalize_iff {s : State} (hs : SlotsExact s) (id : Str) :
    SlotsExact (hardTerminalize id s) ↔ Harmless P policy s (.hardTerminalize id) := by
  change _ ↔ ∀ r ∈ s.records.find? id, r.cancelled = true → ∀ k ∈ r.slotKey?, k ∉ s.reservedSlots
  unfold hardTerminalize
  cases hr : s.records.find? id with
  | none => simp [hs]
  | some r =>
    cases hc : r.cancelled with
    | false => simp [hc, slotsExact_terminate hs hr hc]
    | true => simpa [hc] using slotsExact_terminate_iff hs hr hc

/-- One operation keeps the law exactly when it is harmless. -/
theorem slotsExact_step_iff {s : State} (hn : (Entries.keys s.records).Nodup) (hs : SlotsExact s)
    (op : Op) : SlotsExact (step P policy s op).1 ↔ Harmless P policy s op := by
  cases op with
  | reserve plan authorization =>
    simp only [step, Harmless]
    cases h : reserve P policy plan authorization s with
    | error m =>
      refine iff_of_true hs fun hu => ?_
      simp only [reserve, hu, ok_bind, pure_eq_ok] at h
      cases h
    | ok x =>
      obtain ⟨t, batch⟩ := x
      rw [attempt, slotsExact_reserve_iff hs h]
      simp only [reserve, bind_eq_ok] at h
      obtain ⟨u, hu, -⟩ := h
      exact ⟨fun hc _ => hc, fun hc => hc hu⟩
  | rollbackReservation reserved =>
    exact iff_of_true (slotsExact_rollbackReservation hs reserved) trivial
  | completeReservation reserved =>
    obtain ⟨hr, hslots, -⟩ := sameRecords_retire reserved s
    exact iff_of_true (hs.of_eq hr hslots) trivial
  | retireReservation reserved =>
    obtain ⟨-, -, hr, hslots, -⟩ := sameRecords_retire reserved s
    exact iff_of_true (hs.of_eq hr hslots) trivial
  | forceRetireReservation reserved =>
    obtain ⟨-, -, -, -, hr, hslots⟩ := sameRecords_retire reserved s
    exact iff_of_true (hs.of_eq hr hslots) trivial
  | authorizeText id text =>
    exact iff_of_true ((rewrites_authorizeText id text s).slotsExact hs) trivial
  | acceptSegment id segment final =>
    exact iff_of_true ((rewrites_acceptSegment id segment final s).slotsExact hs) trivial
  | bindTts id audioId =>
    refine iff_of_true ?_ trivial
    simp only [step]
    cases h : bindTts P id audioId s with
    | error m => exact hs
    | ok x =>
      obtain ⟨t, b⟩ := x
      exact (rewrites_bindTts h).slotsExact hs
  | bindPlayout id playoutId =>
    exact iff_of_true ((rewrites_bindPlayout id playoutId s).slotsExact hs) trivial
  | recordCallerPlaybackObserved id playoutId =>
    exact iff_of_true ((rewrites_recordCallerPlaybackObserved id playoutId s).slotsExact hs) trivial
  | reserveReplay source requestId mode authorization =>
    refine iff_of_true ?_ trivial
    simp only [step]
    cases h : reserveReplay P source requestId mode authorization s with
    | error m => exact hs
    | ok x =>
      obtain ⟨t, batch⟩ := x
      exact slotsExact_reserveReplay hs h
  | reserveRepair originalActId failure plan authorization facts =>
    exact iff_of_true (slotsExact_reserveRepair hs) trivial
  | cancel id reason supersedingEpoch =>
    exact iff_of_true (slotsExact_cancel hs id reason supersedingEpoch) trivial
  | hardTerminalize id => exact slotsExact_hardTerminalize_iff hs id
  | hardTerminalizeBinding binding =>
    exact iff_of_true (slotsExact_hardTerminalizeBinding hn hs binding) trivial

theorem keysKept_step (s : State) (op : Op) : KeysKept s (step P policy s op).1 := by
  cases op with
  | reserve plan authorization =>
    simp only [step]
    cases h : reserve P policy plan authorization s with
    | error m => exact fun hn => hn
    | ok x =>
      obtain ⟨t, batch⟩ := x
      exact keysKept_reserve h
  | rollbackReservation reserved =>
    change KeysKept s (rollbackReservation reserved s).1
    unfold rollbackReservation
    split
    · exact keysKept_foldl (fun t r hn => Entries.nodup_keys_pop hn _) _ s
    · exact fun hn => hn
  | completeReservation reserved =>
    exact fun hn => (sameRecords_retire reserved s).1 ▸ hn
  | retireReservation reserved =>
    exact fun hn => (sameRecords_retire reserved s).2.2.1 ▸ hn
  | forceRetireReservation reserved =>
    exact fun hn => (sameRecords_retire reserved s).2.2.2.2.1 ▸ hn
  | authorizeText id text => exact (rewrites_authorizeText id text s).keysKept
  | acceptSegment id segment final => exact (rewrites_acceptSegment id segment final s).keysKept
  | bindTts id audioId =>
    simp only [step]
    cases h : bindTts P id audioId s with
    | error m => exact fun hn => hn
    | ok x =>
      obtain ⟨t, b⟩ := x
      exact (rewrites_bindTts h).keysKept
  | bindPlayout id playoutId => exact (rewrites_bindPlayout id playoutId s).keysKept
  | recordCallerPlaybackObserved id playoutId =>
    exact (rewrites_recordCallerPlaybackObserved id playoutId s).keysKept
  | reserveReplay source requestId mode authorization =>
    simp only [step]
    cases h : reserveReplay P source requestId mode authorization s with
    | error m => exact fun hn => hn
    | ok x =>
      simp only [reserveReplay, bind_eq_ok, ensure_eq_ok, exists_unit] at h
      obtain ⟨-, h⟩ := h
      split at h
      · cases h
        exact keysKept_set rfl
      · cases h
        exact fun hn => hn
  | reserveRepair originalActId failure plan authorization facts =>
    change KeysKept s (reserveRepair P policy originalActId failure plan authorization facts s).1
    unfold reserveRepair
    split
    · split
      · split
        · rename_i ht
          have hk := keysKept_reserve ht
          simp only
          split
          · exact hk
          · exact hk
        · rename_i ht
          exact keysKept_reserve ht
        · exact fun hn => hn
      · exact fun hn => hn
    · exact fun hn => hn
  | cancel id reason supersedingEpoch =>
    change KeysKept s (cancel id reason supersedingEpoch s).1
    unfold cancel
    split
    · split
      · exact keysKept_set rfl
      · exact fun hn => hn
    · exact fun hn => hn
  | hardTerminalize id => exact keysKept_hardTerminalize s id
  | hardTerminalizeBinding binding =>
    exact keysKept_foldl keysKept_hardTerminalize _ s

/-! ## Runs -/

theorem slotsExact_start : SlotsExact .start := by
  refine ⟨fun k => ?_, ?_⟩
  · simp [State.start, Holder]
  · rintro k x y ⟨r, hr, -⟩
    cases hr

/-- Every state that a run passes through is exact exactly when every operation
of the run is harmless. -/
theorem slotsExact_run_iff (P : Python) (policy : SpeechPolicy) (ops : List Op) :
    (∀ e ∈ (step P policy).log .start ops, SlotsExact e.post) ↔
      ∀ e ∈ (step P policy).log .start ops, Harmless P policy e.pre e.call := by
  have hn : ∀ e ∈ (step P policy).log .start ops, (Entries.keys e.post.records).Nodup :=
    fun e he => ((step P policy).log_pre (I := fun s => (Entries.keys s.records).Nodup)
      (by simp [State.start, Entries.keys]) (fun s op => keysKept_step s op) he).2
  have hstart : (Entries.keys State.start.records).Nodup ∧ SlotsExact .start :=
    ⟨by simp [State.start, Entries.keys], slotsExact_start⟩
  have h := (step P policy).log_post_iff
    (I := fun s => (Entries.keys s.records).Nodup ∧ SlotsExact s)
    (G := fun e => Harmless P policy e.pre e.call) hstart
    (fun s op hs => by
      rw [slotsExact_step_iff hs.1 hs.2]
      exact and_iff_right (keysKept_step s op hs.1)) ops
  rw [← h]
  exact forall₂_congr fun e he => (and_iff_right (hn e he)).symm

/-! ## A slot with two owners -/

theorem exampleP1_isIdentifier : IsIdentifier (py "p1") := by decide
theorem exampleP2_isIdentifier : IsIdentifier (py "p2") := by decide
theorem exampleTurn_isIdentifier : IsIdentifier (py "turn") := by decide

theorem noSlot_isIdentifier : ∀ slot ∈ (none : Option Str), IsIdentifier slot :=
  fun _ hslot => by cases hslot

theorem answer_noSlot : (none : Option Str).isSome ↔ VoiceSemanticActKind.answer = .question := by
  decide

def exampleQuestion : SemanticAct :=
  ⟨.question, py "where", some (py "address"), false, false, true, by decide, by decide, by decide⟩

def examplePlan (id : String) (h : IsIdentifier (py id)) : SpokenPlan :=
  ⟨py id, [exampleQuestion], h, by decide, by decide, by decide⟩

def exampleAuthorization : SpeechAuthorization :=
  ⟨Voice.exampleBinding, py "turn", [.question], false, [], py "en", by decide⟩

def examplePolicy : SpeechPolicy := ⟨40, 80, [py "emergency"], [py "goodbye"], []⟩

def exampleAct (planId : String) : Str :=
  actId asciiPython Voice.exampleBinding (py "turn") (py planId) 0

/-- The question is asked, cancelled and asked again; then cleanup terminalizes
the cancelled act. -/
def exampleCleanup : List Op :=
  [.reserve (examplePlan "p1" (by decide)) exampleAuthorization,
    .cancel (exampleAct "p1") .interruption none,
    .reserve (examplePlan "p2" (by decide)) exampleAuthorization,
    .hardTerminalize (exampleAct "p1")]

/-- A third plan asks the same question. -/
def exampleThird : Op := .reserve (examplePlan "p3" (by decide)) exampleAuthorization

theorem question_reserved_twice :
    ¬ ∀ e ∈ (step asciiPython examplePolicy).log .start (exampleCleanup ++ [exampleThird]),
      SlotsExact e.post := by
  intro h
  rw [Machine.log_append_cons] at h
  have hsame := (h _ (List.mem_append_right _ List.mem_cons_self)).unique
    (Voice.exampleBinding, py "address") (exampleAct "p2") (exampleAct "p3")
    (holder_of_any (by decide +kernel)) (holder_of_any (by decide +kernel))
  exact absurd hsame (by decide +kernel)

end HeyKevin.L5.Speech
