import HeyKevin.L8Triage.Filing
/-!
# Chronology

The times of a case: its creation, the issue and the resolution of its actions,
its completion and its deletion. Events bring their own times, so the order is
what the handlers compare.

* `Chronological`: the order a snapshot should show.
* `Marked`: all that an accepted event does to the times.
* `Charted`: the order that every run keeps.
* `chronological_iff`: what is missing. `deletion_verified` is compared with the
  request for deletion and not with the completion, and a request may be dated
  before the completion.
-/
namespace HeyKevin.L8.Triage

open HeyKevin.Core L1 L1.Text L1.Datetime

/-- The issue and the resolution of an action. -/
structure Span where
  issuedAt : ℤ
  resolvedAt : Option ℤ

/-- The times of a case. -/
structure Times where
  createdAt : Option ℤ
  resolved : List Span
  pending : Option Span
  completed : Bool
  completedAt : Option ℤ
  deletion : DeletionStatus
  deletedAt : Option ℤ

def PendingCustomerAction.span (a : PendingCustomerAction) : Span :=
  ⟨a.issuedAt.instant, a.resolvedAt.map (·.instant)⟩

def CaseStatus.completed (c : CaseStatus) : Bool := c = .closed ∨ c = .cancelled ∨ c = .expired

def VisualTriageCase.times (c : VisualTriageCase) : Times where
  createdAt := c.createdAt.map (·.instant)
  resolved := c.resolvedCustomerActions.map (·.span)
  pending := c.pendingCustomerAction.map (·.span)
  completed := c.stateVector.case.completed
  completedAt := c.completedAt.map (·.instant)
  deletion := c.stateVector.deletion
  deletedAt := c.deletedAt.map (·.instant)

/-- Issued by `t`, and resolved by `t` if at all. -/
def Span.By (a : Span) (t : ℤ) : Prop := a.issuedAt ≤ t ∧ ∀ r ∈ a.resolvedAt, r ≤ t

namespace Times

/-- The recorded actions, in order. -/
def recorded (c : Times) : List Span := c.resolved ++ c.pending.toList

/-- Everything but the deletion happened by `t`. -/
def By (c : Times) (t : ℤ) : Prop :=
  (∃ x ∈ c.createdAt, x ≤ t) ∧ ∀ a ∈ c.recorded, a.By t

end Times

/-- The order of the times that a snapshot shows. -/
structure Chronological (c : Times) : Prop where
  issued : ∀ a ∈ c.recorded, ∃ t ∈ c.createdAt, t ≤ a.issuedAt
  resolved : ∀ a ∈ c.recorded, ∀ r ∈ a.resolvedAt, a.issuedAt ≤ r
  ordered : c.recorded.Pairwise fun a b => ∀ r ∈ a.resolvedAt, r ≤ b.issuedAt
  completed : c.completed = true → ∃ t ∈ c.completedAt, ∀ a ∈ c.recorded, a.By t
  deleted : c.deletion = .verified →
    ∃ t ∈ c.deletedAt, c.By t ∧ ∀ x ∈ c.completedAt, x ≤ t

/-! ## What an event does to the times -/

/-- The times, and that of the request for deletion, which no snapshot shows. -/
structure Chart extends Times where
  requestedAt : Option ℤ

def Aggregate.chart (agg : Aggregate) : Chart where
  createdAt := agg.createdAt.map (·.instant)
  resolved := agg.resolvedCustomerActions.map (·.span)
  pending := agg.pending.map (·.span)
  completed := agg.state.case.completed
  completedAt := agg.completedAt.map (·.instant)
  deletion := agg.state.deletion
  deletedAt := agg.deletedAt.map (·.instant)
  requestedAt := agg.deletionRequestedAt.map (·.instant)

/-- Nothing recorded is dated after `t`. -/
structure Chart.ActiveBy (c : Chart) (t : ℤ) : Prop where
  created : ∃ x ∈ c.createdAt, x ≤ t
  pending : ∀ a ∈ c.pending, a.issuedAt ≤ t
  resolved : ∀ a ∈ c.resolved, ∀ r ∈ a.resolvedAt, r ≤ t

/-- All that an event accepted at `t` does to the times. -/
inductive Marked (t : ℤ) (c : Chart) : Chart → Prop
  | kept : Marked t c c
  | created (hresolved : c.resolved = []) (hpending : c.pending = none)
      (hcompleted : c.completed = false) (hdeletion : c.deletion = .notRequested) :
      Marked t c { c with createdAt := some t }
  | issued (hcompleted : c.completed = false) (hdeletion : c.deletion = .notRequested)
      (hpending : c.pending = none) (hcreated : ∃ x ∈ c.createdAt, x ≤ t)
      (hresolved : ∀ a ∈ c.resolved, ∀ r ∈ a.resolvedAt, r ≤ t) :
      Marked t c { c with pending := some (Span.mk t none) }
  | resolved (a : Span) (n : ℕ) (hcompleted : c.completed = false)
      (hdeletion : c.deletion = .notRequested) (hpending : c.pending = some a)
      (hissued : a.issuedAt ≤ t) :
      Marked t c { c with
        resolved := (c.resolved ++ [Span.mk a.issuedAt (some t)]).drop n
        pending := none }
  | completed (hcompleted : c.completed = false) (hdeletion : c.deletion = .notRequested)
      (hactive : c.ActiveBy t) :
      Marked t c { c with pending := none, completed := true, completedAt := some t }
  | requested (hdeletion : c.deletion = .notRequested) (hactive : c.ActiveBy t) :
      Marked t c { c with pending := none, deletion := .pending, requestedAt := some t }
  | verified (hdeletion : c.deletion = .pending) (hrequested : ∀ x ∈ c.requestedAt, x ≤ t)
      (hactive : c.ActiveBy t) :
      Marked t c { c with deletion := .verified, deletedAt := some t }

theorem CaseStatus.completed_eq_false {c : CaseStatus} (h : c = .created ∨ c = .active) :
    c.completed = false := by
  obtain rfl | rfl := h <;> rfl

theorem activeBy_chart {agg : Aggregate} {t : Aware} :
    agg.chart.ActiveBy t.instant ↔ agg.CreatedBy t ∧ agg.ActiveBy t := by
  constructor
  · intro h
    obtain ⟨i, hi, hle⟩ := h.created
    obtain ⟨x, hx, rfl⟩ := Option.mem_map.mp hi
    refine ⟨⟨x, hx, hle⟩, fun a ha => ?_, fun a ha r hr => ?_⟩
    · exact h.pending _ (Option.mem_map_of_mem _ ha)
    · exact h.resolved _ (List.mem_map_of_mem ha) _ (Option.mem_map_of_mem _ hr)
  · rintro ⟨⟨x, hx, hle⟩, hpending, hresolved⟩
    refine ⟨⟨x.instant, Option.mem_map_of_mem _ hx, hle⟩, fun a ha => ?_, fun a ha r hr => ?_⟩
    · obtain ⟨action, haction, rfl⟩ := Option.mem_map.mp ha
      exact hpending action haction
    · obtain ⟨action, haction, rfl⟩ := List.mem_map.mp ha
      obtain ⟨y, hy, rfl⟩ := Option.mem_map.mp hr
      exact hresolved action haction y hy

theorem Marked.of_eq {t : ℤ} {c c' : Chart} (h : c' = c) : Marked t c c' := h ▸ .kept

theorem activeBy_created {agg : Aggregate} {t : Aware} (hg : Gated agg)
    (hcase : agg.state.case = .created) : agg.ActiveBy t := by
  obtain ⟨hpending, -⟩ := hg.quiet (Gated.not_open_of_created hcase)
  obtain ⟨-, -, hresolved⟩ := hg.unstarted hcase
  exact ⟨by simp [hpending], by simp [Aggregate.ResolvedBy, hresolved]⟩

theorem chart_open {agg : Aggregate} (h : agg.Open) :
    agg.chart.completed = false ∧ agg.chart.deletion = .notRequested :=
  ⟨CaseStatus.completed_eq_false (.inr h.2), h.1⟩

theorem marked_completed {agg agg' : Aggregate} {t : Aware}
    (hcase : agg.state.case = .created ∨ agg.state.case = .active)
    (hdeletion : agg.state.deletion = .notRequested) (hcreated : agg.CreatedBy t)
    (hactive : agg.ActiveBy t) (h : agg'.chart = { agg.chart with
      pending := none, completed := true, completedAt := some t.instant }) :
    Marked t.instant agg.chart agg'.chart := by
  rw [h]
  exact .completed (CaseStatus.completed_eq_false hcase) hdeletion (activeBy_chart.mpr ⟨hcreated, hactive⟩)

theorem marked_issued {agg agg' : Aggregate} {t : Aware} {action : PendingCustomerAction}
    (hopen : agg.Open) (hpending : agg.pending = none) (hcreated : agg.CreatedBy t)
    (hresolved : agg.ResolvedBy t) (htime : action.issuedAt = t)
    (hunresolved : action.resolvedAt = none)
    (h : agg'.chart = { agg.chart with pending := some action.span }) :
    Marked t.instant agg.chart agg'.chart := by
  have hby := activeBy_chart.mpr ⟨hcreated, by simp [hpending], hresolved⟩
  have hspan : action.span = Span.mk t.instant none := by
    rw [PendingCustomerAction.span, htime, hunresolved]
    rfl
  rw [h, hspan]
  exact .issued (chart_open hopen).1 (chart_open hopen).2 (by simp [Aggregate.chart, hpending])
    hby.created hby.resolved

theorem marked_resolved {agg agg' : Aggregate} {t : Aware}
    {action resolved : PendingCustomerAction} (hopen : agg.Open)
    (hpending : agg.pending = some action) (htime : action.issuedAt.instant ≤ t.instant)
    (hissuedAt : resolved.issuedAt = action.issuedAt) (hresolvedAt : resolved.resolvedAt = some t)
    (h : agg'.chart = (agg.resolve resolved).chart) : Marked t.instant agg.chart agg'.chart := by
  have hspan : resolved.span = Span.mk action.span.issuedAt (some t.instant) := by
    rw [PendingCustomerAction.span, hissuedAt, hresolvedAt]
    rfl
  have hchart : (agg.resolve resolved).chart = { agg.chart with
      resolved := (agg.chart.resolved ++ [Span.mk action.span.issuedAt (some t.instant)]).drop
        (agg.resolvedCustomerActions.length + 1 - 4)
      pending := none } := by
    simp [Aggregate.chart, Aggregate.resolve, lastFour, List.map_drop, hspan]
  rw [h, hchart]
  exact .resolved action.span _ (chart_open hopen).1 (chart_open hopen).2
    (by simp [Aggregate.chart, hpending]) htime

theorem marked_of_did {e : VisualTriageEvent} {agg agg' : Aggregate} (hg : Gated agg)
    (hi : Identified agg) (hd : Did e agg agg') :
    Marked e.eventTime.instant agg.chart agg'.chart := by
  obtain ⟨media, assets, hfin, -⟩ := Aggregate.finalized_eq agg
  cases hd with
  | created scenario sourceRef hkind hnone hscenario href =>
    have hstate := (hi.absent hnone).2
    have hcase : agg.state.case = .created := by rw [hstate]; rfl
    obtain ⟨hpending, -⟩ := hg.quiet (Gated.not_open_of_created hcase)
    exact .created (by simp [Aggregate.chart, (hg.unstarted hcase).2.2])
      (by simp [Aggregate.chart, hpending]) (CaseStatus.completed_eq_false (.inl hcase))
      (by simp [Aggregate.chart, hstate, Aggregate.initial])
  | asked => exact .kept
  | granted hkind hdeletion hcase hconsent =>
    exact .of_eq (by simp [Aggregate.chart, hcase, CaseStatus.completed])
  | declined hkind hdeletion hcase hcreated =>
    exact marked_completed (.inl hcase) hdeletion hcreated (activeBy_created hg hcase) rfl
  | withdrawn hkind hopen hcreated hactive =>
    exact marked_completed (.inr hopen.2) hopen.1 hcreated hactive (by rw [hfin]; rfl)
  | plateIssued action hkind hopen hpending hdue hnothing hcreated hresolved haction hissued htime
      hunresolved =>
    exact marked_issued hopen hpending hcreated hresolved htime hunresolved rfl
  | recaptureIssued action hkind hopen hpending hcount hmedia hnothing hcreated hresolved haction
      hissued htime hunresolved =>
    exact marked_issued hopen hpending hcreated hresolved htime hunresolved rfl
  | questionIssued action hkind hopen hpending hconcluded hnothing hcount hcreated hresolved haction
      hissued htime hunresolved =>
    exact marked_issued hopen hpending hcreated hresolved htime hunresolved rfl
  | questionResolved action resolved analysis hkind hopen hpending haction htime hissuedAt
      hresolvedAt hanalysis =>
    exact marked_resolved hopen hpending htime hissuedAt hresolvedAt rfl
  | videoStarted => exact .kept
  | uploadStarted action asset hkind hopen hpending hissued hfresh hrole hvalidation =>
    exact .of_eq (by simp [Aggregate.chart, hpending, PendingCustomerAction.span])
  | videoFinalized => exact .kept
  | uploadFinalized action hkind hopen hpending hmedia huploading =>
    exact .of_eq (by simp [Aggregate.chart, hpending, PendingCustomerAction.span])
  | mediaValidated => exact .kept
  | actionResolved action resolved role status assets media analysis hkind hopen hpending hrole htime
      hsettled hissuedAt hresolvedAt hmedia hanalysis =>
    exact marked_resolved hopen hpending htime hissuedAt hresolvedAt rfl
  | analysisStarted => exact .kept
  | retried => exact .kept
  | analysisEnded => exact .kept
  | packetMoved => exact .kept
  | deliveryMoved => exact .kept
  | closed hkind hopen hquiescent hcreated hactive =>
    refine marked_completed (.inr hopen.2) hopen.1 hcreated hactive ?_
    simp [Aggregate.chart, hquiescent.1, CaseStatus.completed]
  | ended status expiresAt hkind hdeletion hcase hcreated hactive =>
    refine marked_completed hcase hdeletion hcreated hactive ?_
    obtain ⟨-, rfl⟩ | ⟨-, rfl⟩ := hkind <;> rw [hfin] <;> rfl
  | deletionRequested hkind hdeletion hcreated hactive =>
    rw [hfin]
    exact .requested hdeletion (activeBy_chart.mpr ⟨hcreated, hactive⟩)
  | deletionRetried => exact .kept
  | deletionVerified hkind hdeletion hcreated hrequested hactive =>
    refine .verified hdeletion (fun x hx => ?_) (activeBy_chart.mpr ⟨hcreated, hactive⟩)
    obtain ⟨t, ht, rfl⟩ := Option.mem_map.mp hx
    exact hrequested t ht

/-! ## The order that every run keeps -/

structure Charted (c : Chart) : Prop where
  issued : ∀ a ∈ c.recorded, ∃ t ∈ c.createdAt, t ≤ a.issuedAt
  settled : ∀ a ∈ c.resolved, ∃ r ∈ a.resolvedAt, a.issuedAt ≤ r
  waiting : ∀ a ∈ c.pending, a.resolvedAt = none
  ordered : c.recorded.Pairwise fun a b => ∀ r ∈ a.resolvedAt, r ≤ b.issuedAt
  completed : c.completed = true → ∃ t ∈ c.completedAt, c.By t
  requested : c.deletion ≠ .notRequested → ∃ t ∈ c.requestedAt, c.By t
  unrequested : c.deletion = .notRequested → c.requestedAt = none
  deleted : c.deletion = .verified → ∃ t ∈ c.deletedAt, c.By t
  undeleted : c.deletion ≠ .verified → c.deletedAt = none

theorem charted_initial : Charted Aggregate.initial.chart where
  issued := by simp [Aggregate.initial, Aggregate.chart, Times.recorded]
  settled := by simp [Aggregate.initial, Aggregate.chart]
  waiting := by simp [Aggregate.initial, Aggregate.chart]
  ordered := by simp [Aggregate.initial, Aggregate.chart, Times.recorded]
  completed := by simp [Aggregate.initial, Aggregate.chart, CaseStatus.completed]
  requested := by simp [Aggregate.initial, Aggregate.chart]
  unrequested := fun _ => rfl
  deleted := by simp [Aggregate.initial, Aggregate.chart]
  undeleted := fun _ => rfl

namespace Charted

variable {c c' : Chart} {t : ℤ}

theorem by_of_active (h : Charted c) (ha : c.ActiveBy t) : c.By t := by
  refine ⟨ha.created, fun a hmem => ?_⟩
  rcases List.mem_append.mp hmem with hr | hp
  · obtain ⟨r, hr', hle⟩ := h.settled a hr
    exact ⟨hle.trans (ha.resolved a hr r hr'), fun x hx => ha.resolved a hr x hx⟩
  · have hp := Option.mem_toList.mp hp
    exact ⟨ha.pending a hp, by simp [h.waiting a hp]⟩

theorem active_of_by (h : c.By t) : c.ActiveBy t where
  created := h.1
  pending := fun a ha => (h.2 a (List.mem_append_right _ (Option.mem_toList.mpr ha))).1
  resolved := fun a ha r hr => (h.2 a (List.mem_append_left _ ha)).2 r hr

theorem by_mono {c : Times} {t u : ℤ} (h : c.By t) (hle : t ≤ u) : c.By u := by
  obtain ⟨⟨x, hx, hxt⟩, hby⟩ := h
  exact ⟨⟨x, hx, hxt.trans hle⟩, fun a ha =>
    ⟨(hby a ha).1.trans hle, fun r hr => ((hby a ha).2 r hr).trans hle⟩⟩

theorem by_drop_pending {c : Times} (h : c.By t) : Times.By { c with pending := none } t :=
  ⟨h.1, fun a ha => h.2 a (by
    simp only [Times.recorded, Option.toList_none, List.append_nil] at ha
    exact List.mem_append_left _ ha)⟩

theorem drop_pending (h : Charted c) : Charted { c with pending := none } := by
  have hmem : ∀ a ∈ Times.recorded { c.toTimes with pending := none }, a ∈ c.recorded := by
    intro a ha
    simp only [Times.recorded, Option.toList_none, List.append_nil] at ha
    exact List.mem_append_left _ ha
  exact { h with
    issued := fun a ha => h.issued a (hmem a ha)
    waiting := by simp
    ordered := by
      simp only [Times.recorded, Option.toList_none, List.append_nil]
      exact (List.pairwise_append.mp h.ordered).1
    completed := fun hc => (h.completed hc).imp fun t ht => ⟨ht.1, by_drop_pending ht.2⟩
    requested := fun hd => (h.requested hd).imp fun t ht => ⟨ht.1, by_drop_pending ht.2⟩
    deleted := fun hd => (h.deleted hd).imp fun t ht => ⟨ht.1, by_drop_pending ht.2⟩ }

/-- **Every accepted event keeps the order.** -/
theorem step (h : Charted c) (hm : Marked t c c') : Charted c' := by
  cases hm with
  | kept => exact h
  | created hresolved hpending hcompleted hdeletion =>
    exact { h with
      issued := by simp [Times.recorded, hresolved, hpending]
      completed := fun hc => by simp [hcompleted] at hc
      requested := fun hd => absurd hdeletion hd
      deleted := fun hd => by simp [hdeletion] at hd }
  | issued hcompleted hdeletion hpending hcreated hresolved =>
    exact { h with
      issued := fun a ha => by
        rcases List.mem_append.mp ha with hr | hp
        · exact h.issued a (List.mem_append_left _ hr)
        · obtain rfl := List.mem_singleton.mp hp
          exact hcreated
      waiting := by simp
      ordered := List.pairwise_append.mpr ⟨(List.pairwise_append.mp h.ordered).1, by simp,
        fun a ha b hb r hr => by
          obtain rfl := List.mem_singleton.mp hb
          exact hresolved a ha r hr⟩
      completed := fun hc => by simp [hcompleted] at hc
      requested := fun hd => absurd hdeletion hd
      deleted := fun hd => by simp [hdeletion] at hd }
  | resolved a n hcompleted hdeletion hpending hissued =>
    have hrecorded : c.recorded = c.resolved ++ [a] := by simp [Times.recorded, hpending]
    have hmem : ∀ b ∈ (c.resolved ++ [Span.mk a.issuedAt (some t)]).drop n,
        b ∈ c.resolved ∨ b = Span.mk a.issuedAt (some t) := by
      intro b hb
      simpa using List.mem_of_mem_drop hb
    have hordered := hrecorded ▸ h.ordered
    exact { h with
      issued := fun b hb => by
        simp only [Times.recorded, Option.toList_none, List.append_nil] at hb
        rcases hmem b hb with hr | rfl
        · exact h.issued b (List.mem_append_left _ hr)
        · exact h.issued a (by simp [hrecorded])
      settled := fun b hb => by
        rcases hmem b hb with hr | rfl
        · exact h.settled b hr
        · exact ⟨t, rfl, hissued⟩
      waiting := by simp
      ordered := by
        simp only [Times.recorded, Option.toList_none, List.append_nil]
        refine List.Pairwise.sublist (List.drop_sublist ..) ?_
        obtain ⟨hpairs, -, hlast⟩ := List.pairwise_append.mp hordered
        refine List.pairwise_append.mpr ⟨hpairs, by simp, fun x hx y hy => ?_⟩
        obtain rfl := List.mem_singleton.mp hy
        exact hlast x hx a (by simp)
      completed := fun hc => by simp [hcompleted] at hc
      requested := fun hd => absurd hdeletion hd
      deleted := fun hd => by simp [hdeletion] at hd }
  | completed hcompleted hdeletion hactive =>
    have hby := h.by_of_active hactive
    exact { h.drop_pending with completed := fun _ => ⟨t, rfl, by_drop_pending hby⟩ }
  | requested hdeletion hactive =>
    have hby := h.by_of_active hactive
    have hundeleted := h.undeleted (by simp [hdeletion])
    exact { h.drop_pending with
      requested := fun _ => ⟨t, rfl, by_drop_pending hby⟩
      unrequested := fun hd => by cases hd
      deleted := fun hd => by cases hd
      undeleted := fun _ => hundeleted }
  | verified hdeletion hrequested hactive =>
    have hby := h.by_of_active hactive
    exact { h with
      requested := fun _ => h.requested (by simp [hdeletion])
      unrequested := fun hd => by cases hd
      deleted := fun _ => ⟨t, rfl, hby⟩
      undeleted := fun hd => absurd rfl hd }

end Charted

/-! ## What is missing -/

/-- The deletion is not dated before the completion. -/
def InOrder (c : Chart) : Prop := ∀ d ∈ c.deletedAt, ∀ x ∈ c.completedAt, x ≤ d

theorem Charted.inOrder_iff {c : Chart} (h : Charted c) :
    Chronological c.toTimes ↔ InOrder c := by
  constructor
  · intro hc d hd x hx
    have hverified : c.deletion = .verified := by
      by_contra hne
      rw [h.undeleted hne] at hd
      cases hd
    obtain ⟨t, ht, -, hle⟩ := hc.deleted hverified
    obtain rfl := Option.mem_unique hd ht
    exact hle x hx
  · intro ho
    exact {
      issued := h.issued
      resolved := fun a ha r hr => by
        rcases List.mem_append.mp ha with hres | hp
        · obtain ⟨r', hr', hle⟩ := h.settled a hres
          obtain rfl := Option.mem_unique hr hr'
          exact hle
        · rw [h.waiting a (Option.mem_toList.mp hp)] at hr
          cases hr
      ordered := h.ordered
      completed := fun hc => (h.completed hc).imp fun t ht => ⟨ht.1, ht.2.2⟩
      deleted := fun hd => by
        obtain ⟨t, ht, hby⟩ := h.deleted hd
        exact ⟨t, ht, hby, ho t ht⟩ }

theorem Marked.inOrder {t : ℤ} {c c' : Chart} (h : Charted c) (hm : Marked t c c')
    (ho : InOrder c) : InOrder c' ∨ c.deletion = .pending ∧ c'.deletion = .verified ∧
      (∃ x ∈ c.requestedAt, x ≤ t) ∧ ∃ x ∈ c.completedAt, t < x := by
  cases hm with
  | kept => exact .inl ho
  | created => exact .inl ho
  | issued => exact .inl ho
  | resolved => exact .inl ho
  | requested => exact .inl ho
  | completed hcompleted hdeletion hactive =>
    refine .inl fun d hd => ?_
    rw [h.undeleted (by simp [hdeletion])] at hd
    cases hd
  | verified hdeletion hrequested hactive =>
    by_cases hlate : ∃ x ∈ c.completedAt, t < x
    · obtain ⟨x, hx, -⟩ := h.requested (by simp [hdeletion])
      exact .inr ⟨hdeletion, rfl, ⟨x, hx, hrequested x hx⟩, hlate⟩
    · refine .inl fun d hd x hx => ?_
      obtain rfl := Option.some.inj hd
      exact not_lt.mp fun hlt => hlate ⟨x, hx, hlt⟩

theorem kind_of_verified {e : VisualTriageEvent} {agg agg' : Aggregate} (hd : Did e agg agg')
    (hpending : agg.state.deletion = .pending) (hverified : agg'.state.deletion = .verified) :
    e.kind = .deletionVerified := by
  have hne : DeletionStatus.pending ≠ .verified := by decide
  have hfin : agg.finalized.state.deletion = .pending := by
    rw [Aggregate.finalized_state]
    exact hpending
  cases hd with
  | deletionVerified hkind => exact hkind
  | deletionRequested => cases hverified
  | withdrawn => exact absurd (hfin.symm.trans hverified) hne
  | ended => exact absurd (hfin.symm.trans hverified) hne
  | _ => exact absurd (hpending.symm.trans hverified) hne

/-- A new verification of a requested deletion, dated after the request and
before the completion of the case. -/
def Overtaken (P : Python) (s : State) (e : VisualTriageEvent) : Prop :=
  e.kind = .deletionVerified ∧ screen P s e = .ok none ∧
    (∃ r ∈ s.deletionRequestedAt, r.instant ≤ e.eventTime.instant) ∧
    ∃ x ∈ s.completedAt, e.eventTime.instant < x.instant

theorem deletionVerified_eq_ok {e : VisualTriageEvent} {agg : Aggregate}
    (hcase : agg.caseId.isSome = true) (hdeletion : agg.state.deletion = .pending)
    (hactive : agg.chart.ActiveBy e.eventTime.instant)
    (hrequested : ∀ t ∈ agg.deletionRequestedAt, t.instant ≤ e.eventTime.instant) :
    deletionVerified e agg = .ok ({ agg with
      deletedAt := some e.eventTime
      state := { agg.state with deletion := .verified } }, code "deletion_verified") := by
  obtain ⟨hcreated, hactive⟩ := activeBy_chart.mp hactive
  simp only [deletionVerified, Aggregate.attempt_eq_ok, bind_eq_ok, exists_unit, ensure_eq_ok,
    Aggregate.requireCase_eq_ok, Aggregate.requireNotBeforeCreated_eq_ok,
    Aggregate.rejectIfPredatesRecordedActivity_eq_ok, pure_eq_ok]
  exact ⟨hcase, hdeletion, hcreated, hrequested, hactive, trivial⟩

/-- What all states of a run have. -/
structure Sound (s : State) : Prop where
  gated : Gated s.toAggregate
  identified : Identified s.toAggregate
  charted : Charted s.chart

theorem sound_fresh : Sound State.fresh := ⟨.initial, identified_initial, charted_initial⟩

section Steps

variable {P : Python} {s : State} {e : VisualTriageEvent}

theorem Sound.apply (h : Sound s) (e : VisualTriageEvent) : Sound (apply P s e).1 := by
  have hstep := apply_stepped P s e
  generalize Triage.apply P s e = out at hstep ⊢
  cases hstep with
  | refused => exact h
  | replayed => exact h
  | accepted agg r hadmitted hdid =>
    exact ⟨gated_of_did h.gated hdid, identified_of_did h.identified hadmitted hdid,
      h.charted.step (marked_of_did h.gated h.identified hdid)⟩

/-- **An overtaken verification is accepted**, and puts the times out of order. -/
theorem Overtaken.accepted (hex : P.HexDigest) (h : Sound s) (ho : Overtaken P s e) :
    ¬ InOrder (apply P s e).1.chart := by
  obtain ⟨hkind, hscreen, ⟨r, hr, hrle⟩, x, hx, hlt⟩ := ho
  have ha := screen_eq_none hscreen
  have hrequested : s.deletionRequestedAt = some r := hr
  have hdeletion : s.state.deletion = .pending := by
    cases hd : s.state.deletion with
    | pending => rfl
    | verified => exact absurd hd ha.unverified
    | notRequested =>
      have := h.charted.unrequested hd
      simp [Aggregate.chart, hrequested] at this
  have hcase : s.caseId.isSome = true := by
    by_contra hn
    rw [Option.not_isSome_iff_eq_none] at hn
    have := ha.creation hn
    rw [hkind] at this
    cases this
  have hactive : s.chart.ActiveBy e.eventTime.instant := by
    obtain ⟨t, ht, hby⟩ := h.charted.requested (by simp [Aggregate.chart, hdeletion])
    obtain ⟨r', hr', rfl⟩ := Option.mem_map.mp ht
    obtain rfl := Option.mem_unique hr hr'
    exact Charted.active_of_by (Charted.by_mono hby hrle)
  have hdid := deletionVerified_eq_ok hcase hdeletion hactive (by simpa [hrequested] using hrle)
  obtain ⟨rc, hrc⟩ := receipt_eq_ok hex (code "deletion_verified") (s.revision + 1) ha.integrity
  have hdispatch : dispatch P e s.toAggregate = deletionVerified e s.toAggregate := by
    simp only [dispatch, hkind]
  have hperform := perform_of_dispatch (hdispatch.trans hdid) hrc
  rw [Triage.apply, hscreen]
  simp only [hperform]
  intro horder
  have := horder _ rfl _ (Option.mem_map_of_mem _ hx)
  exact absurd this (not_le.mpr hlt)

theorem sound_inOrder_iff (hex : P.HexDigest) (h : Sound s ∧ InOrder s.chart) :
    (Sound (apply P s e).1 ∧ InOrder (apply P s e).1.chart) ↔ ¬ Overtaken P s e := by
  constructor
  · rintro ⟨-, ho⟩ hover
    exact hover.accepted hex h.1 ho
  · intro hover
    refine ⟨h.1.apply e, ?_⟩
    have hstep := apply_stepped P s e
    generalize Triage.apply P s e = out at hstep ⊢
    cases hstep with
    | refused => exact h.2
    | replayed => exact h.2
    | accepted agg r hadmitted hdid hreceipt hscreen =>
      rcases (marked_of_did h.1.gated h.1.identified hdid).inOrder h.1.charted h.2 with
        ho | ⟨hpending, hverified, ⟨i, hi, hle⟩, j, hj, hlt⟩
      · exact ho
      · obtain ⟨x, hx, rfl⟩ := Option.mem_map.mp hi
        obtain ⟨y, hy, rfl⟩ := Option.mem_map.mp hj
        exact absurd ⟨kind_of_verified hdid hpending hverified, hscreen, ⟨x, hx, hle⟩, y, hy, hlt⟩
          hover

theorem times_of_snapshot {c : VisualTriageCase} (h : s.snapshot = .ok (some c)) :
    c.times = s.chart.toTimes := by
  unfold State.snapshot at h
  split at h
  · rw [VisualTriageCase.construct] at h
    split at h
    · cases h
      rfl
    · cases h
  · cases h

theorem absent_of_snapshot (hi : Identified s.toAggregate) (h : s.snapshot = .ok none) :
    s.caseId = none := by
  by_contra hne
  obtain ⟨c, hc⟩ := Option.ne_none_iff_exists'.mp hne
  obtain ⟨k, hk⟩ := Option.isSome_iff_exists.mp (hi.present (by simp [hc]))
  simp only [State.snapshot, hc, hk, VisualTriageCase.construct] at h
  split at h <;> cases h

/-- **When the times are in order.** All snapshots of a run show its times in order exactly
when no verification of deletion is dated before the completion of its case. -/
theorem chronological_iff (P : Python) (hP : P.CasefoldAscii) (hex : P.HexDigest)
    (events : List VisualTriageEvent) :
    (∀ a ∈ (apply P).log State.fresh events, ∀ c, a.post.snapshot = .ok (some c) →
      Chronological c.times) ↔
    ∀ a ∈ (apply P).log State.fresh events, ¬ Overtaken P a.pre a.call := by
  rw [← (apply P).log_post_iff (I := fun s => Sound s ∧ InOrder s.chart)
    (G := fun a => ¬ Overtaken P a.pre a.call) ⟨sound_fresh, fun d hd => by cases hd⟩
    (fun s e h => sound_inOrder_iff hex h)]
  refine forall₂_congr fun a ha => ?_
  have hsound : Sound a.post := ((apply P).log_pre sound_fresh (fun s e h => h.apply e) ha).2
  obtain ⟨snap, hsnap⟩ := ((event_log_sound P hP events).1 a ha).snapshot
  constructor
  · intro h
    refine ⟨hsound, ?_⟩
    cases snap with
    | some c =>
      have hc := h c hsnap
      rw [times_of_snapshot hsnap] at hc
      exact hsound.charted.inOrder_iff.mp hc
    | none =>
      have hstate := (hsound.identified.absent (absent_of_snapshot hsound.identified hsnap)).2
      have hundeleted := hsound.charted.undeleted (by
        simp [Aggregate.chart, hstate, Aggregate.initial])
      exact fun d hd => by simp [hundeleted] at hd
  · rintro ⟨-, ho⟩ c hc
    rw [times_of_snapshot hc]
    exact hsound.charted.inOrder_iff.mpr ho

end Steps

theorem chronological_iff_cancelledCase :
    (∀ a ∈ (apply asciiPython).log State.fresh cancelledCase, ∀ c,
      a.post.snapshot = .ok (some c) → Chronological c.times) ↔
    ∀ a ∈ (apply asciiPython).log State.fresh cancelledCase, ¬ Overtaken asciiPython a.pre a.call :=
  chronological_iff asciiPython asciiPython_casefoldAscii asciiPython_hexDigest cancelledCase

/-- A case whose deletion is dated before its completion. -/
def Aggregate.backdated (agg : Aggregate) : Bool :=
  agg.caseId.isSome && agg.chart.deletedAt.any fun d => agg.chart.completedAt.any fun x => d < x

theorem not_chronological_of_backdated {P : Python} (hP : P.CasefoldAscii)
    {events : List VisualTriageEvent}
    (h : ((apply P).run State.fresh events).backdated = true) :
    ¬ ∀ a ∈ (apply P).log State.fresh events, ∀ c, a.post.snapshot = .ok (some c) →
      Chronological c.times := by
  intro hall
  simp only [Aggregate.backdated, Bool.and_eq_true, decide_eq_true_eq, Option.any_eq_true] at h
  obtain ⟨hcase, d, hd, x, hx, hlt⟩ := h
  have hne : events ≠ [] := by
    rintro rfl
    cases hcase
  obtain ⟨a, ha, hpost⟩ := Machine.exists_mem_log_post (apply P) State.fresh hne
  rw [← hpost] at hcase hd hx
  have hsound : Sound a.post := ((apply P).log_pre sound_fresh (fun s e h => h.apply e) ha).2
  obtain ⟨snap, hsnap⟩ := ((event_log_sound P hP events).1 a ha).snapshot
  cases snap with
  | none =>
    have hnone := absent_of_snapshot hsound.identified hsnap
    exact Option.isSome_iff_ne_none.mp hcase hnone
  | some c =>
    have hc := hall a ha c hsnap
    rw [times_of_snapshot hsnap, hsound.charted.inOrder_iff] at hc
    exact absurd (hc d hd x hx) (not_le.mpr hlt)

/-- Cancelled at minute 20; deletion requested at minute 12 and verified at minute 13. -/
def backdatedSteps : List (EventKind × Dict × ℕ) :=
  [(.caseCreated, [], 10), (.caseCancelled, [], 20), (.deletionRequested, [], 12),
    (.deletionVerified, [], 13)]

theorem backdatedSteps_not_chronological :
    ¬ ∀ a ∈ (apply asciiPython).log State.fresh (syntheticCase backdatedSteps), ∀ c,
      a.post.snapshot = .ok (some c) → Chronological c.times :=
  not_chronological_of_backdated asciiPython_casefoldAscii
    (syntheticCase_run backdatedSteps Aggregate.backdated true (by decide +kernel))

end HeyKevin.L8.Triage
