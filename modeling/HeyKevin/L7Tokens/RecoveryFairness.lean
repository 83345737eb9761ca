import HeyKevin.L7Tokens.RecoveryQueue
import HeyKevin.L1Encoding.Sha256
/-!
# The recovery queue does not starve

As many calls as work documents examine every document, whatever the starting
cursor: each call examines at least one of them, and the cursor is at the last
one examined. A document that is due is leased when it is examined, unless its
attempts are used up.

* `acquire_spec`: what one transaction does.
* `acquireFrom_spec`: what one call does.
* `neverStarves_iff`: the queue is fair exactly where the code takes every id
  of the collection for a path segment.
-/
namespace HeyKevin.L7.Recovery

open HeyKevin.Core Binary64 L1 L1.Text

/-! ## Updates of a valid record -/

theorem has_update (d u : Dict) (k : String) : (d.update u).has k = (d.has k || u.has k) := by
  induction u generalizing d with
  | nil => simp
  | cons e u ih =>
    obtain ⟨j, v⟩ := e
    have hstep : d.update ((j, v) :: u) = (d.set j v).update u := rfl
    rw [hstep, ih, Dict.has_set, Dict.has_cons]
    cases Dict.has d k <;> simp

/-- An update of known fields to values that pass their checks. -/
theorem Schema.holds_update {schema : Schema} {d u : Dict} (h : schema.holds d = true)
    (hkeys : ∀ k, u.has k = true → k ∈ schema.map Prod.fst)
    (hu : ∀ f ∈ schema, (d.update u).get f.1 = d.get f.1 ∨ f.2 ((d.update u).get f.1) = true) :
    schema.holds (d.update u) = true := by
  rw [Schema.holds, Bool.and_eq_true, List.all_eq_true] at h ⊢
  obtain ⟨hd, hfields⟩ := h
  rw [Dict.keysAre_iff] at hd
  refine ⟨Dict.keysAre_iff.mpr fun k => ?_, fun f hf => ?_⟩
  · rw [has_update, Bool.or_eq_true, hd k]
    exact ⟨fun h => h.elim id (hkeys k), .inl⟩
  · rcases hu f hf with hsame | hcheck
    · rw [hsame]
      exact hfields f hf
    · exact hcheck

theorem validWork_iff {P : Python} {d : Dict} :
    validWork P d = true ↔ workSchema.holds d = true ∧
      (d.get "work_id").isStr (computeWorkDocId P (textOf (d.get "app_id"))
        (textOf (d.get "account_id"))) = true ∧
      leaseMatches d = true ∧ (hasStatus d "completed" = true → isNone (d.get "cursor") = true) ∧
      (hasStatus d "pending" = true ∨ hasStatus d "processing" = true →
        intOf (d.get "attempt_count") < maxWorkAttempts) := by
  simp only [validWork, Bool.and_eq_true, Bool.or_eq_true, Bool.not_eq_true', decide_eq_true_eq,
    Bool.or_eq_false_iff, and_assoc]
  refine and_congr_right fun _ => and_congr_right fun _ => and_congr_right fun _ => ?_
  refine and_congr ?_ ?_
  · cases hasStatus d "completed" <;> simp
  · cases hasStatus d "pending" <;> cases hasStatus d "processing" <;> simp

theorem attempts_bounds {P : Python} {d : Dict} (h : validWork P d = true) :
    0 ≤ intOf (d.get "attempt_count") := by
  have hfields := (validWork_iff.mp h).1
  rw [Schema.holds, Bool.and_eq_true, List.all_eq_true] at hfields
  have hcount := hfields.2 ("attempt_count", isBounded 0 maxWorkAttempts) (by simp [workSchema])
  simp only [isBounded] at hcount
  split at hcount
  · rename_i n hn
    simp only [hn, intOf]
    exact (of_decide_eq_true hcount).1
  · cases hcount

theorem isAdmissionId_leaseNonce (c : AcquireCall) : isAdmissionId (.str c.leaseNonce) = true := by
  obtain ⟨hlength, hhex⟩ := c.hexForm
  have hchar : ∀ x, Python.isLowerHex x = true → isAdmissionChar x = true := by
    intro x hx
    simp only [Python.isLowerHex, isAdmissionChar, Bool.or_eq_true, Bool.and_eq_true,
      decide_eq_true_eq] at hx ⊢
    omega
  have hlabel : (py "lease_").length = 6 ∧ (py "lease_").all isAdmissionChar = true := by decide
  simp only [isAdmissionId, AcquireCall.leaseNonce, List.length_append, hlabel.1, hlength,
    List.all_append, hlabel.2, Bool.true_and, Bool.and_eq_true, decide_eq_true_eq]
  refine ⟨by omega, List.all_eq_true.mpr fun x hx => hchar x (List.all_eq_true.mp hhex x hx)⟩

theorem isPositive_value (t : ServerTime) : isPositive t.value = true :=
  decide_eq_true t.pos

theorem isPositive_lease (lease : Number) (hlease : 1 ≤ lease.val) (now : ServerTime) :
    isPositive (.number (.float (.ofRat (now.seconds.val + lease.toFloat.val)))) = true := by
  refine decide_eq_true ?_
  have hrnd : 0 ≤ lease.toFloat.val := rnd_nonneg (zero_le_one.trans hlease)
  calc 0 < now.seconds.val := now.pos
    _ ≤ rnd (now.seconds.val + lease.toFloat.val) :=
      now.seconds.le_rnd_of_le (le_add_of_nonneg_right hrnd)

/-- A record that is parked for review is valid. -/
theorem validWork_reviewUpdates {P : Python} {d : Dict} (h : validWork P d = true)
    (now : ServerTime) : validWork P (d.update (reviewUpdates now)) = true := by
  have hpos := isPositive_value now
  obtain ⟨hfields, hid, hlease, hcompleted, hattempts⟩ := validWork_iff.mp h
  refine validWork_iff.mpr ⟨Schema.holds_update hfields ?_ ?_, ?_, ?_, ?_, ?_⟩
  · intro k hk
    simp only [reviewUpdates, Dict.has_cons, Dict.has_nil, Bool.or_false, Bool.or_eq_true,
      decide_eq_true_eq] at hk
    rcases hk with rfl | rfl | rfl | rfl | rfl <;> decide
  · simp [workSchema, reviewUpdates, isWorkStatus, isOptional, isNone, isBounded, maxWorkAttempts,
      Value.int, hpos]
  · simpa [reviewUpdates] using hid
  · simp [leaseMatches, hasStatus, reviewUpdates, isNone]
  · simp [hasStatus, reviewUpdates]
  · simp [hasStatus, reviewUpdates]

/-- A record that is leased is valid, while an attempt is left. -/
theorem validWork_leaseUpdates {P : Python} {d : Dict} (h : validWork P d = true)
    (c : AcquireCall) {lease : Number} (hlease : 1 ≤ lease.val) (now : ServerTime)
    (hleft : attemptsOf d < maxWorkAttempts) :
    validWork P (d.update (leaseUpdates c.leaseNonce lease now (attemptsOf d))) = true := by
  have hnow := isPositive_value now
  have hexpires := isPositive_lease lease hlease now
  have hnonce := isAdmissionId_leaseNonce c
  have hcount : 0 ≤ attemptsOf d := by
    have hstored := attempts_bounds h
    unfold attemptsOf
    split <;> omega
  obtain ⟨hfields, hid, -, -, -⟩ := validWork_iff.mp h
  refine validWork_iff.mpr ⟨Schema.holds_update hfields ?_ ?_, ?_, ?_, ?_, ?_⟩
  · intro k hk
    simp only [leaseUpdates, Dict.has_cons, Dict.has_nil, Bool.or_false, Bool.or_eq_true,
      decide_eq_true_eq] at hk
    rcases hk with rfl | rfl | rfl | rfl | rfl <;> decide
  · simp [workSchema, leaseUpdates, isWorkStatus, isOptional, isNone, isBounded, Value.int, hnow,
      hexpires, hnonce, hcount, hleft.le]
  · simpa [leaseUpdates] using hid
  · simp [leaseMatches, hasStatus, leaseUpdates, isNone]
  · simp [hasStatus, leaseUpdates]
  · simp [hasStatus, leaseUpdates, intOf, Value.int, hleft]

/-! ## One transaction -/

/-- The records around the queue are readable. -/
structure Ready (s : Store) : Prop where
  control : ∃ control, s.control = some control ∧ validControl control = true
  scan : ∀ scan, s.scan = some scan → validScan scan = true

/-- The work record under an id, where it and its account pass every check. -/
def checked (P : Python) (s : Store) (id : Str) : Option Dict :=
  s.control.bind fun control => (s.work.get id).bind (checkedWork P control s.barriers id)

/-- The record is valid and waits for a worker. -/
def Live (P : Python) (s : Store) (id : Str) : Prop :=
  ∃ work, checked P s id = some work ∧
    (hasStatus work "pending" = true ∨ hasStatus work "processing" = true)

/-- The clock is past the next attempt and the lease of the record. -/
def PastFor (P : Python) (s : Store) (now : ServerTime) (id : Str) : Prop :=
  ∀ work, checked P s id = some work →
    secondsOf (work.get "next_attempt_at") ≤ now.seconds.val ∧
      secondsOf (work.get "lease_expires_at") ≤ now.seconds.val

theorem checkedWork_eq_some {P : Python} {control : Dict} {barriers : Str → Option Dict} {id : Str}
    {data work : Dict} (h : checkedWork P control barriers id data = some work) :
    work = data ∧ validWork P work = true ∧ work.get "work_id" = .str id := by
  unfold checkedWork at h
  split at h
  · rename_i hvalid
    rw [Bool.and_eq_true] at hvalid
    simp only at h
    split at h
    · obtain rfl := Option.some.inj h
      exact ⟨rfl, hvalid.1, (Value.isStr_iff _ _).mp hvalid.2⟩
    · cases h
  · cases h

theorem readScan_of_ready {s : Store} (h : Ready s) :
    ∃ control, s.control = some control ∧ readScan s = .ok (control, s.scan) := by
  obtain ⟨control, hcontrol, hvalid⟩ := h.control
  refine ⟨control, hcontrol, ?_⟩
  unfold readScan
  rw [hcontrol]
  simp only [hvalid, if_true]
  cases hscan : s.scan with
  | none => rfl
  | some scan => simp only [h.scan scan hscan, if_true]

theorem validScan_scanPayload {cursor : Str} (h : isFirestoreDocumentId cursor = true)
    (now : ServerTime) : validScan (scanPayload cursor now) = true := by
  have hnow := isPositive_value now
  simp [validScan, scanSchema, Schema.holds, scanPayload, Dict.keysAre, Entries.keys,
    isSchemaVersion, isBounded, Value.int, h, hnow]

theorem advance_eq_ok {s : Store} {cursor : Str} (h : isFirestoreDocumentId cursor = true)
    (now : ServerTime) :
    advance s cursor now = .ok { s with scan := some (scanPayload cursor now) } :=
  if_pos (validScan_scanPayload h now)

/-- What a transaction over a candidate leaves. -/
structure Moved (s s' : Store) (candidate : Str) : Prop where
  control : s'.control = s.control
  barriers : s'.barriers = s.barriers
  scan : ∃ now, s'.scan = some (scanPayload candidate now)
  ids : s'.work.ids = s.work.ids
  other : ∀ j, j ≠ candidate → s'.work.get j = s.work.get j

theorem moved_of_reviews (s : Store) (reviews : Str → Option Dict) (candidate : Str)
    (now : ServerTime) :
    Moved s { s with reviews := reviews, scan := some (scanPayload candidate now) } candidate :=
  ⟨rfl, rfl, ⟨now, rfl⟩, rfl, fun _ _ => rfl⟩

theorem moved_of_update (s : Store) (reviews : Str → Option Dict) (candidate : Str)
    (now : ServerTime) (updates : Dict) :
    Moved s { s with
      reviews := reviews, scan := some (scanPayload candidate now),
      work := s.work.update candidate updates } candidate := by
  refine ⟨rfl, rfl, ⟨now, rfl⟩, Collection.ids_update .., ?_⟩
  intro j hj
  rw [Collection.get_update]
  simp only [if_neg hj, Option.map_id']

/-- A record that is parked waits for no worker. -/
theorem not_live_of_reviewUpdates {P : Python} {s : Store} {candidate : Str} {now now' : ServerTime}
    {reviews : Str → Option Dict} :
    ¬ Live P { s with
      reviews := reviews, scan := some (scanPayload candidate now),
      work := s.work.update candidate (reviewUpdates now') } candidate := by
  rintro ⟨work, hwork, hstatus⟩
  obtain ⟨control, -, hwork⟩ := Option.bind_eq_some_iff.mp hwork
  obtain ⟨data, hdata, hwork⟩ := Option.bind_eq_some_iff.mp hwork
  obtain ⟨rfl, -, -⟩ := checkedWork_eq_some hwork
  rw [Collection.get_update] at hdata
  obtain ⟨d, -, rfl⟩ := Option.map_eq_some_iff.mp hdata
  simp [hasStatus, reviewUpdates] at hstatus

/-- **What one transaction does**: it moves the cursor to the candidate, and leases it where it is
due and has an attempt left. -/
theorem acquire_spec {P : Python} (c : AcquireCall) {lease : Number} (hlease : 1 ≤ lease.val)
    {s : Store} (hs : Ready s) {candidate : Str} (hlegal : isFirestoreDocumentId candidate = true)
    (now : ServerTime) :
    ∃ s' o, acquire P c.leaseNonce lease now (cursorOf s.scan) candidate s = .ok (s', o) ∧
      Moved s s' candidate ∧
      ((o = .advanced ∧
          (Live P s candidate → PastFor P s now candidate → ¬ Live P s' candidate)) ∨
        ∃ work, o = .acquired work ∧ work.get "work_id" = .str candidate) := by
  obtain ⟨control, hcontrol, hscan⟩ := readScan_of_ready hs
  unfold acquire
  rw [hscan]
  simp only [ok_bind, ne_eq, not_true_eq_false, if_false]
  cases hdata : s.work.get candidate with
  | none =>
    simp only [advance_eq_ok hlegal, ok_bind]
    refine ⟨_, _, rfl, moved_of_reviews s s.reviews candidate now, .inl ⟨rfl, ?_⟩⟩
    rintro ⟨work, hwork, -⟩
    rw [checked, hcontrol, hdata] at hwork
    cases hwork
  | some data =>
    have hchecked : checked P s candidate = checkedWork P control s.barriers candidate data := by
      rw [checked, hcontrol, hdata]
      rfl
    have hrepaired : ∃ reviews, (if (s.reviews (reviewKey P candidate)).any
        (fun r => !validReview P candidate r) then putReview P s candidate now else s) =
          { s with reviews := reviews } := by
      split
      · exact ⟨_, rfl⟩
      · exact ⟨s.reviews, rfl⟩
    obtain ⟨reviews, hrepaired⟩ := hrepaired
    simp only [hrepaired]
    cases hwork : checkedWork P control s.barriers candidate data with
    | none =>
      have hmarked : ∃ marked, (if (s.reviews (reviewKey P candidate)).isNone = true then
          putReview P { s with reviews := reviews } candidate now
          else { s with reviews := reviews }) = { s with reviews := marked } := by
        split
        · exact ⟨_, rfl⟩
        · exact ⟨reviews, rfl⟩
      obtain ⟨marked, hmarked⟩ := hmarked
      simp only [hmarked, advance_eq_ok hlegal, ok_bind]
      refine ⟨_, _, rfl, moved_of_reviews s marked candidate now, .inl ⟨rfl, ?_⟩⟩
      rintro ⟨work, hlive, -⟩
      rw [hchecked, hwork] at hlive
      cases hlive
    | some work =>
      obtain ⟨rfl, hvalid, hid⟩ := checkedWork_eq_some hwork
      simp only
      split
      · -- not due: neither is a record past its times that waits for a worker
        rename_i hdue
        simp only [advance_eq_ok hlegal, ok_bind]
        refine ⟨_, _, rfl, moved_of_reviews s reviews candidate now, .inl ⟨rfl, ?_⟩⟩
        rintro ⟨w, hw, hstatus⟩ hpast
        rw [hchecked, hwork] at hw
        obtain rfl := Option.some.inj hw
        obtain ⟨hnext, hexpired⟩ := hpast work (by rw [hchecked, hwork])
        rcases hdue with hdue | hdue
        · simp only [eligible, Bool.or_eq_false_iff, Bool.and_eq_false_iff] at hdue
          rcases hstatus with hstatus | hstatus
          · rw [hdue.1] at hstatus
            cases hstatus
          · rcases hdue.2 with hother | hlate
            · rw [hother] at hstatus
              cases hstatus
            · exact absurd hexpired (of_decide_eq_false hlate)
        · exact absurd hnext (not_le.mpr hdue)
      · split
        · rename_i hexhausted
          simp only [ensure_of _ (validWork_reviewUpdates hvalid now), advance_eq_ok hlegal, ok_bind]
          exact ⟨_, _, rfl, moved_of_update s reviews candidate now (reviewUpdates now),
            .inl ⟨rfl, fun _ _ => not_live_of_reviewUpdates⟩⟩
        · rename_i hleft
          simp only [ensure_of _ (validWork_leaseUpdates hvalid c hlease now (not_le.mp hleft)),
            advance_eq_ok hlegal, ok_bind]
          refine ⟨_, _, rfl, moved_of_update s reviews candidate now _, .inr ⟨_, rfl, ?_⟩⟩
          simpa [leaseUpdates] using hid

theorem Moved.ready {s s' : Store} {candidate : Str} (h : Moved s s' candidate) (hs : Ready s)
    (hlegal : isFirestoreDocumentId candidate = true) : Ready s' := by
  obtain ⟨now, hscan⟩ := h.scan
  refine ⟨by rw [h.control]; exact hs.control, fun scan hsome => ?_⟩
  rw [hscan] at hsome
  obtain rfl := Option.some.inj hsome
  exact validScan_scanPayload hlegal now

theorem Moved.cursor {s s' : Store} {candidate : Str} (h : Moved s s' candidate) :
    cursorOf s'.scan = some candidate := by
  obtain ⟨now, hscan⟩ := h.scan
  rw [hscan]
  rfl

theorem checked_congr (P : Python) {s s' : Store} {id : Str} (hcontrol : s'.control = s.control)
    (hbarriers : s'.barriers = s.barriers) (hget : s'.work.get id = s.work.get id) :
    checked P s' id = checked P s id := by
  rw [checked, checked, hcontrol, hbarriers, hget]

/-! ## One call -/

/-- What a call leaves that examined these candidates. -/
structure Examined (P : Python) (s s' : Store) (examined : List Str) : Prop where
  control : s'.control = s.control
  barriers : s'.barriers = s.barriers
  ids : s'.work.ids = s.work.ids
  other : ∀ j, j ∉ examined → s'.work.get j = s.work.get j

/-- The loop raises on an id that is no path segment, or it examines candidates from the front on,
moves the cursor to the last of them, and leases what is due. -/
theorem acquireFrom_spec {P : Python} (c : AcquireCall) {lease : Number} (hlease : 1 ≤ lease.val) :
    ∀ {candidates k s}, Ready s → candidates.Nodup →
      ∃ examined, examined <+: candidates ∧ ∃ s' r,
        acquireFrom P c lease candidates k (cursorOf s.scan) s = (s', r) ∧ Ready s' ∧
        Examined P s s' examined ∧
        ((r = .error .unsafeId ∧ ∃ id ∈ candidates, isFirestoreDocumentId id = false) ∨
          ∃ o, r = .ok o ∧ (candidates ≠ [] → examined ≠ []) ∧
            (examined ≠ [] → cursorOf s'.scan = examined.getLast?) ∧
            ∀ id ∈ examined, isFirestoreDocumentId id = true ∧
              (Live P s id → (∀ i, PastFor P s (c.clock i) id) →
                (∃ work, o = some work ∧ work.get "work_id" = .str id) ∨ ¬ Live P s' id)) := by
  intro candidates
  induction candidates with
  | nil =>
    intro k s hs _
    exact ⟨[], List.prefix_rfl, s, .ok none, rfl, hs, ⟨rfl, rfl, rfl, fun _ _ => rfl⟩,
      .inr ⟨none, rfl, fun h => absurd rfl h, fun h => absurd rfl h, fun id hid => by cases hid⟩⟩
  | cons candidate rest ih =>
    intro k s hs hnodup
    obtain ⟨hfresh, hrest⟩ := List.nodup_cons.mp hnodup
    cases hlegal : isFirestoreDocumentId candidate with
    | false =>
      refine ⟨[], List.nil_prefix, s, .error .unsafeId, ?_, hs, ⟨rfl, rfl, rfl, fun _ _ => rfl⟩,
        .inl ⟨rfl, candidate, List.mem_cons_self, hlegal⟩⟩
      rw [acquireFrom, if_pos hlegal]
    | true =>
      obtain ⟨s₁, o, hacquire, hmoved, houtcome⟩ := acquire_spec c hlease hs hlegal (c.clock k)
      have hready := hmoved.ready hs hlegal
      rw [acquireFrom, if_neg (by rw [hlegal]; exact Bool.true_eq_false_eq_False), hacquire]
      rcases houtcome with ⟨rfl, hparked⟩ | ⟨work, rfl, hid⟩
      · obtain ⟨examined, hpre, s', r, hrun, hs', hexamined, hresult⟩ := ih (k := k + 1)
          hready hrest
        rw [hmoved.cursor] at hrun
        refine ⟨candidate :: examined, List.prefix_cons_inj candidate |>.mpr hpre, s', r, hrun,
          hs', ?_, ?_⟩
        · refine ⟨hexamined.control.trans hmoved.control,
            hexamined.barriers.trans hmoved.barriers, hexamined.ids.trans hmoved.ids, ?_⟩
          intro j hj
          rw [List.mem_cons, not_or] at hj
          exact (hexamined.other j hj.2).trans (hmoved.other j hj.1)
        · have hunseen : candidate ∉ examined := fun h => hfresh (hpre.subset h)
          rcases hresult with ⟨herror, id, hmem, hbad⟩ | ⟨o, hok, hne, hcursor, hall⟩
          · exact .inl ⟨herror, id, List.mem_cons_of_mem _ hmem, hbad⟩
          · refine .inr ⟨o, hok, fun _ => List.cons_ne_nil _ _, fun _ => ?_, ?_⟩
            · cases examined with
              | nil =>
                have hlast : rest = [] := by
                  by_contra hmore
                  exact hne hmore rfl
                subst hlast
                obtain ⟨rfl, -⟩ := Prod.mk.inj hrun
                exact hmoved.cursor
              | cons next examined =>
                rw [hcursor (List.cons_ne_nil _ _), List.getLast?_cons_cons]
            · intro id hid
              rcases List.mem_cons.mp hid with rfl | hid
              · refine ⟨hlegal, fun hlive hpast => .inr ?_⟩
                have hgone := hparked hlive (hpast k)
                rintro ⟨w, hw, hstatus⟩
                rw [checked_congr P hexamined.control hexamined.barriers
                  (hexamined.other id hunseen)] at hw
                exact hgone ⟨w, hw, hstatus⟩
              · have hne : id ≠ candidate := fun h => hunseen (h ▸ hid)
                have hsame := checked_congr P hmoved.control hmoved.barriers (hmoved.other id hne)
                obtain ⟨hidlegal, hidlive⟩ := hall id hid
                refine ⟨hidlegal, fun hlive hpast => hidlive ?_ ?_⟩
                · obtain ⟨w, hw, hstatus⟩ := hlive
                  exact ⟨w, hsame.trans hw, hstatus⟩
                · intro i w hw
                  exact hpast i w (hsame.symm.trans hw)
      · refine ⟨[candidate], ⟨rest, rfl⟩, s₁, .ok (some work), rfl, hready,
          ⟨hmoved.control, hmoved.barriers, hmoved.ids, ?_⟩, .inr ⟨some work, rfl,
            fun _ => List.cons_ne_nil _ _, fun _ => hmoved.cursor, ?_⟩⟩
        · intro j hj
          exact hmoved.other j fun h => hj (h ▸ List.mem_singleton_self _)
        · intro id hmem
          obtain rfl := List.mem_singleton.mp hmem
          exact ⟨hlegal, fun _ _ => .inl ⟨work, rfl, hid⟩⟩

/-- The arguments of a call are let in. -/
def AcquireCall.Valid (c : AcquireCall) : Prop :=
  isSafeDocumentId (.str c.workerId) = true ∧ c.nowTs = none ∧
    (leaseDuration? c.leaseDuration).isSome = true

/-- A call over a collection that is not empty. -/
structure Pass (P : Python) (e : Event Store AcquireCall (Except Failure (Option Dict)))
    (examined : List Str) : Prop where
  ne_nil : examined ≠ []
  prefix_rotation : examined <+: RotatingScan.rotation e.pre.work.ids (cursorOf e.pre.scan)
  cursor : cursorOf e.post.scan = examined.getLast?
  legal : ∀ id ∈ examined, isFirestoreDocumentId id = true
  leased : ∀ id ∈ examined, Live P e.pre id → (∀ i, PastFor P e.pre (e.call.clock i) id) →
    (∃ work, e.resp = .ok (some work) ∧ work.get "work_id" = .str id) ∨ ¬ Live P e.post id

/-- **What one call does.** -/
theorem acquireWorkLeaseAtomic_spec {P : Python} {c : AcquireCall} (hc : c.Valid) {s : Store}
    (hs : Ready s) :
    Ready ((acquireWorkLeaseAtomic P).event s c).post ∧
      ((acquireWorkLeaseAtomic P).event s c).post.work.ids = s.work.ids ∧
      ((((acquireWorkLeaseAtomic P).event s c).resp = .error .unsafeId ∧
          ∃ id ∈ s.work.ids, isFirestoreDocumentId id = false) ∨
        (∃ o, ((acquireWorkLeaseAtomic P).event s c).resp = .ok o) ∧
          (s.work.ids ≠ [] → ∃ examined, Pass P ((acquireWorkLeaseAtomic P).event s c) examined)) := by
  obtain ⟨hworker, hnow, hduration⟩ := hc
  obtain ⟨lease, hlease⟩ := Option.isSome_iff_exists.mp hduration
  obtain ⟨control, -, hscan⟩ := readScan_of_ready hs
  have hone : 1 ≤ lease.val := by
    unfold leaseDuration? at hlease
    split at hlease
    · split at hlease
      · rename_i hbounds
        obtain rfl := Option.some.inj hlease
        exact hbounds.1
      · cases hlease
    · cases hlease
  have hperm := RotatingScan.rotation_perm s.work.ids (cursorOf s.scan)
  have hpage := RotatingScan.page_prefix candidateScanLimit s.work.ids (cursorOf s.scan)
  have hsorted : s.work.ids.Nodup := s.work.sorted.imp ne_of_lt
  have hnodup := hpage.sublist.nodup (hperm.nodup_iff.mpr hsorted)
  obtain ⟨examined, hpre, s', r, hrun, hs', hexamined, hresult⟩ :=
    acquireFrom_spec (P := P) c hone (k := 0) hs hnodup
  have hcall : acquireWorkLeaseAtomic P s c = (s', r) := by
    unfold acquireWorkLeaseAtomic
    rw [if_neg (by rw [hworker, hnow]; simp), hlease, hscan]
    exact hrun
  simp only [Machine.event_post, Machine.event_resp, hcall]
  refine ⟨hs', hexamined.ids, ?_⟩
  rcases hresult with ⟨herror, id, hmem, hbad⟩ | ⟨o, hok, hne, hcursor, hall⟩
  · exact .inl ⟨herror, id, hperm.mem_iff.mp (hpage.subset hmem), hbad⟩
  · refine .inr ⟨⟨o, hok⟩, fun hids => ⟨examined, ?_⟩⟩
    have hexaminedNe := hne (RotatingScan.page_ne_nil (by decide) hids _)
    refine ⟨hexaminedNe, hpre.trans hpage, ?_, fun id hid => (hall id hid).1, ?_⟩
    · rw [Machine.event_post, hcall]
      exact hcursor hexaminedNe
    · intro id hid hlive hpast
      rw [Machine.event_post, Machine.event_resp, hcall]
      rcases (hall id hid).2 hlive hpast with ⟨work, rfl, hwork⟩ | hgone
      · exact .inl ⟨work, hok, hwork⟩
      · exact .inr hgone

/-! ## Runs -/

theorem scans_of_run {P : Python} {calls : List AcquireCall} (hcalls : ∀ c ∈ calls, c.Valid)
    {s : Store} (hs : Ready s) (hids : s.work.ids ≠ [])
    (hok : ∀ e ∈ (acquireWorkLeaseAtomic P).log s calls, ∃ o, e.resp = .ok o) :
    ∃ passes, passes.length = calls.length ∧
      RotatingScan.Scans s.work.ids (cursorOf s.scan) passes ∧
      ∀ examined ∈ passes, ∃ e ∈ (acquireWorkLeaseAtomic P).log s calls, Pass P e examined := by
  induction calls generalizing s with
  | nil => exact ⟨[], rfl, trivial, fun examined h => by cases h⟩
  | cons c calls ih =>
    rw [Machine.log_cons] at hok ⊢
    obtain ⟨hready, hsame, hresult⟩ := acquireWorkLeaseAtomic_spec (hcalls c List.mem_cons_self) hs
    have hpass : ∃ examined, Pass P ((acquireWorkLeaseAtomic P).event s c) examined := by
      rcases hresult with ⟨herror, -⟩ | ⟨-, hpass⟩
      · obtain ⟨o, ho⟩ := hok _ List.mem_cons_self
        rw [herror] at ho
        cases ho
      · exact hpass hids
    obtain ⟨examined, hpass⟩ := hpass
    obtain ⟨passes, hlength, hscans, hevents⟩ := ih
      (fun c hc => hcalls c (List.mem_cons_of_mem _ hc)) hready (hsame ▸ hids)
      fun e he => hok e (List.mem_cons_of_mem _ he)
    refine ⟨examined :: passes, by rw [List.length_cons, List.length_cons, hlength],
      ⟨hpass.ne_nil, hpass.prefix_rotation, ?_⟩, ?_⟩
    · rw [← hpass.cursor, ← hsame]
      exact hscans
    · intro v hv
      rcases List.mem_cons.mp hv with rfl | hv
      · exact ⟨_, List.mem_cons_self, hpass⟩
      · obtain ⟨e, he, hpasses⟩ := hevents v hv
        exact ⟨e, List.mem_cons_of_mem _ he, hpasses⟩

theorem returns_of_legal {P : Python} {calls : List AcquireCall} (hcalls : ∀ c ∈ calls, c.Valid)
    {s : Store} (hs : Ready s) (hlegal : ∀ id ∈ s.work.ids, isFirestoreDocumentId id = true) :
    ∀ e ∈ (acquireWorkLeaseAtomic P).log s calls, ∃ o, e.resp = .ok o := by
  induction calls generalizing s with
  | nil =>
    intro e he
    cases he
  | cons c calls ih =>
    obtain ⟨hready, hsame, hresult⟩ := acquireWorkLeaseAtomic_spec (hcalls c List.mem_cons_self) hs
    rw [Machine.log_cons]
    intro e he
    rcases List.mem_cons.mp he with rfl | he
    · rcases hresult with ⟨-, id, hid, hbad⟩ | ⟨hok, -⟩
      · rw [hlegal id hid] at hbad
        cases hbad
      · exact hok
    · exact ih (fun c hc => hcalls c (List.mem_cons_of_mem _ hc)) hready
        (fun id hid => hlegal id (hsame ▸ hid)) e he

/-- Every call returns, and every record that is valid and waits for a worker throughout is leased
by one of them. -/
def NeverStarves (P : Python) (s : Store) (calls : List AcquireCall) : Prop :=
  (∀ e ∈ (acquireWorkLeaseAtomic P).log s calls, ∃ o, e.resp = .ok o) ∧
    ∀ id ∈ s.work.ids,
      (∀ e ∈ (acquireWorkLeaseAtomic P).log s calls, Live P e.pre id ∧ Live P e.post id) →
      ∃ e ∈ (acquireWorkLeaseAtomic P).log s calls, ∃ work,
        e.resp = .ok (some work) ∧ work.get "work_id" = .str id

/-- Over as many calls as documents, whose clock is past every next attempt and lease, the queue is
fair exactly where every id is a path segment to the code. -/
theorem neverStarves_iff {P : Python} {s : Store} {calls : List AcquireCall} (hs : Ready s)
    (hcalls : ∀ c ∈ calls, c.Valid) (hlength : s.work.ids.length ≤ calls.length)
    (hclock : ∀ e ∈ (acquireWorkLeaseAtomic P).log s calls, ∀ i id,
      PastFor P e.pre (e.call.clock i) id) :
    NeverStarves P s calls ↔ ∀ id ∈ s.work.ids, isFirestoreDocumentId id = true := by
  have hexamined : (∀ e ∈ (acquireWorkLeaseAtomic P).log s calls, ∃ o, e.resp = .ok o) →
      ∀ id ∈ s.work.ids, ∃ e ∈ (acquireWorkLeaseAtomic P).log s calls,
        ∃ examined, Pass P e examined ∧ id ∈ examined := by
    intro hok id hid
    obtain ⟨passes, hpasses, hscans, hevents⟩ :=
      scans_of_run hcalls hs (List.ne_nil_of_mem hid) hok
    obtain ⟨examined, hmem, hin⟩ := RotatingScan.examined_of_scans s.work.sorted hscans
      (by rw [hpasses]; exact hlength) hid
    obtain ⟨e, he, hpass⟩ := hevents examined hmem
    exact ⟨e, he, examined, hpass, hin⟩
  constructor
  · intro h id hid
    obtain ⟨e, -, examined, hpass, hin⟩ := hexamined h.1 id hid
    exact hpass.legal id hin
  · intro hlegal
    have hok := returns_of_legal (P := P) hcalls hs hlegal
    refine ⟨hok, fun id hid hlive => ?_⟩
    obtain ⟨e, he, examined, hpass, hin⟩ := hexamined hok id hid
    refine ⟨e, he, ?_⟩
    exact (hpass.leased id hin (hlive e he).1 fun i => hclock e he i id).resolve_right
      (not_not_intro (hlive e he).2)

/-! ## A queue that is fair, and one that is not -/

/-- The clock is past the times of every record that passes its checks. -/
def pastAll (P : Python) (s : Store) (now : ServerTime) : Bool :=
  s.work.ids.all fun id =>
    match checked P s id with
    | none => true
    | some work => decide (secondsOf (work.get "next_attempt_at") ≤ now.seconds.val ∧
        secondsOf (work.get "lease_expires_at") ≤ now.seconds.val)

theorem pastFor_of_pastAll {P : Python} {s : Store} {now : ServerTime}
    (h : pastAll P s now = true) (id : Str) : PastFor P s now id := by
  intro work hwork
  obtain ⟨control, -, hget⟩ := Option.bind_eq_some_iff.mp hwork
  obtain ⟨data, hdata, -⟩ := Option.bind_eq_some_iff.mp hget
  have hid := List.all_eq_true.mp h id (Collection.mem_ids hdata)
  rw [hwork] at hid
  exact of_decide_eq_true hid

theorem exampleNow_pos : 0 < rnd 1700000000 := by
  have h : rnd (1700000000 : ℚ) = 1700000000 := by
    exact_mod_cast rnd_natCast (n := 1700000000) (by norm_num)
  rw [h]
  norm_num

theorem exampleLater_pos : 0 < rnd 1700000100 := by
  have h : rnd (1700000100 : ℚ) = 1700000100 := by
    exact_mod_cast rnd_natCast (n := 1700000100) (by norm_num)
  rw [h]
  norm_num

def exampleNow : ServerTime := ⟨.ofRat 1700000000, exampleNow_pos⟩

def exampleLater : ServerTime := ⟨.ofRat 1700000100, exampleLater_pos⟩

theorem exampleHex_form : (List.replicate 32 (0x61 : CodePoint)).length = 32 ∧
    (List.replicate 32 (0x61 : CodePoint)).all Python.isLowerHex = true := by decide

def exampleCall (now : ServerTime) : AcquireCall :=
  ⟨py "worker", .int 60, none, _, exampleHex_form, fun _ => now⟩

theorem exampleCall_valid (now : ServerTime) : (exampleCall now).Valid := by
  refine ⟨?_, rfl, ?_⟩
  · have hworker : isSafeDocumentId (.str (py "worker")) = true := by decide
    exact hworker
  · have hduration : (leaseDuration? (.int 60)).isSome = true := by decide
    exact hduration

def exampleWorkId : Str :=
  py "e006d8653eafce6569166aca610cbb8b61451d0ede543f26230574e8ad368186"

def exampleControl : Dict :=
  [("schema_version", .int 1), ("expected_app_id", .text "app"), ("receipt_counter", .int 3),
    ("enforcement_active", .bool true), ("updated_at", .int 1600000000)]

def exampleBarrier : Dict :=
  [("schema_version", .int 1), ("app_id", .text "app"), ("account_id", .text "account"),
    ("barrier", .int 2), ("last_receipt_id", .text "adm_2"), ("updated_at", .int 1600000000)]

def exampleWork : Dict :=
  [("schema_version", .int 1), ("work_id", .str exampleWorkId), ("app_id", .text "app"),
    ("account_id", .text "account"), ("barrier", .int 2), ("last_receipt_id", .text "adm_2"),
    ("status", .text "pending"), ("cursor", .none), ("lease_id", .none),
    ("lease_expires_at", .none), ("attempt_count", .int 0), ("next_attempt_at", .int 1600000000),
    ("created_at", .int 1600000000), ("updated_at", .int 1600000000)]

def exampleStore (work : Collection) : Store where
  control := some exampleControl
  scan := none
  work := work
  barriers := fun key =>
    if key = computeAccountBarrierKey asciiPython (py "app") (py "account") then some exampleBarrier
    else none
  reviews := fun _ => none

theorem exampleControl_valid : validControl exampleControl = true := by decide

theorem exampleStore_ready (work : Collection) : Ready (exampleStore work) :=
  ⟨⟨exampleControl, rfl, exampleControl_valid⟩, fun scan h => by cases h⟩

theorem examplePoison_sorted :
    (Entries.keys [(py "! poison", ([] : Dict)), (exampleWorkId, exampleWork)]).Pairwise (· < ·) := by
  decide

def exampleQueue : Store := exampleStore ⟨_, examplePoison_sorted⟩

def exampleCalls : List AcquireCall := [exampleCall exampleNow, exampleCall exampleLater]

theorem exampleQueue_fair : NeverStarves asciiPython exampleQueue exampleCalls := by
  refine (neverStarves_iff (exampleStore_ready _) ?_ (by decide +kernel) ?_).mpr
    (by decide +kernel)
  · intro c hc
    rcases List.mem_cons.mp hc with rfl | hc
    · exact exampleCall_valid exampleNow
    · obtain rfl := List.mem_singleton.mp hc
      exact exampleCall_valid exampleLater
  · have hfirst : pastAll asciiPython exampleQueue exampleNow = true := by decide +kernel
    have hsecond : pastAll asciiPython
        (acquireWorkLeaseAtomic asciiPython exampleQueue (exampleCall exampleNow)).1
          exampleLater = true := by decide +kernel
    intro e he i id
    rcases List.mem_cons.mp he with rfl | he
    · exact pastFor_of_pastAll hfirst id
    · obtain rfl := List.mem_singleton.mp he
      exact pastFor_of_pastAll hsecond id

theorem exampleUnderscores_sorted :
    (Entries.keys [(py "__", ([] : Dict)), (exampleWorkId, exampleWork)]).Pairwise (· < ·) := by
  decide

def exampleStuck : Store := exampleStore ⟨_, exampleUnderscores_sorted⟩

theorem exampleStuck_raises (now : ServerTime) :
    acquireWorkLeaseAtomic asciiPython exampleStuck (exampleCall now) =
      (exampleStuck, .error .unsafeId) := by
  obtain ⟨hworker, hnow, hduration⟩ := exampleCall_valid now
  obtain ⟨lease, hlease⟩ := Option.isSome_iff_exists.mp hduration
  obtain ⟨control, -, hscan⟩ := readScan_of_ready (exampleStore_ready ⟨_, exampleUnderscores_sorted⟩)
  have hbad : isFirestoreDocumentId (py "__") = false := by decide
  unfold acquireWorkLeaseAtomic
  rw [if_neg (by rw [hworker, hnow]; simp), hlease, exampleStuck, hscan]
  exact if_pos hbad

theorem exampleStuck_starves : ¬ NeverStarves asciiPython exampleStuck exampleCalls := by
  rintro ⟨hok, -⟩
  obtain ⟨o, ho⟩ := hok _ List.mem_cons_self
  rw [Machine.event_resp, exampleStuck_raises] at ho
  cases ho

end HeyKevin.L7.Recovery
