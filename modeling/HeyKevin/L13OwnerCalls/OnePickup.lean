import HeyKevin.L13OwnerCalls.Arbitration
/-!
# At most one pickup

* `step_record`: what a step writes, and under which guard.
* `step_phase`: how a request moves.
* `Locked`: a claim whose redirect was started; every step keeps it.
* `arbitrated`: what holds of every run on one call.
-/
namespace HeyKevin.L13

open HeyKevin.Core Binary64 L1 L1.Text

variable {callSid : Str} {nonce conference : ℕ → Str}

abbrev LogEvent := Event World Action Outcome

/-! ## What is claimed -/

def Action.request : Action → Option ℕ
  | .claim r .. | .prepare r .. | .readBack r .. | .mark r .. | .release r .. | .redirect r ..
  | .finish r .. | .timeout r .. | .status r .. | .statusFinish r .. | .statusReread r .. => some r
  | .ensureDeadline .. | .project .. => none

/-- The request that calls the provider. -/
def redirects? (e : LogEvent) : Option ℕ :=
  match e.call with
  | .redirect r _ =>
    match e.pre.phase r with
    | .started .. => some r
    | _ => none
  | _ => none

/-- The request that writes `redirect_started_at`. -/
def starts? (e : LogEvent) : Option ℕ :=
  match e.call with
  | .mark r .. => if e.resp.wrote then some r else none
  | _ => none

/-- The request that wins a claim. -/
def wins? (e : LogEvent) : Option ℕ :=
  match e.call with
  | .claim r .. | .timeout r .. => if e.resp.wrote then some r else none
  | _ => none

/-- The request that releases its claim. -/
def releases? (e : LogEvent) : Option ℕ :=
  match e.call with
  | .release r .. => if e.resp.wrote then some r else none
  | _ => none

/-- The record holds this pickup, and its redirect was started. -/
def Locked (n : Str) (record : Option Record) : Prop :=
  ∃ d, record = some d ∧ d.get "owner_action" = .text "accept" ∧ d.get "claim_nonce" = .str n ∧
    d.get "accepted" = .bool true

/-- The record holds a decline or a timeout. -/
def Declined (record : Option Record) : Prop :=
  ∃ d, record = some d ∧
    (d.get "owner_action" = .text "decline" ∨ d.get "owner_action" = .text "timeout")

structure Arbitrated (nonce : ℕ → Str) (log : List LogEvent) : Prop where
  /-- At most one request reaches the provider. -/
  once : ∀ l₁ a l₂ f l₃, log = l₁ ++ a :: l₂ ++ f :: l₃ → redirects? a ≠ none →
    redirects? f = none
  /-- Once a redirect was started, the claim stays and no other wins. -/
  locked : ∀ l₁ a l₂ f l₃ r, log = l₁ ++ a :: l₂ ++ f :: l₃ → starts? a = some r →
    wins? f = none ∧ releases? f = none ∧ Locked (nonce r) f.post.record
  /-- A claim is released only if its redirect never started. -/
  released : ∀ f ∈ log, ∀ r, releases? f = some r →
    ∀ e ∈ log, starts? e ≠ some r ∧ redirects? e ≠ some r
  /-- After a decline or a timeout no redirect is started. -/
  declined : ∀ l₁ a l₂, log = l₁ ++ a :: l₂ → Declined a.post.record →
    ∀ e ∈ l₂, starts? e = none ∧ redirects? e = none
  /-- Credentials are given out for the requested operation, when it is accepted. -/
  credentials : ∀ e ∈ log, ∀ r code, e.resp.reply = some (.answered r code) →
    r.credentials ≠ none → ∃ d, e.post.record = some d ∧
      d.get "owner_action_status" = .text "accepted" ∧
      d.get "owner_operation_id" = .str r.request.operationId
  /-- A transaction that does not win leaves the record as it is. -/
  rejected : ∀ e ∈ log, e.resp.wrote = false → e.post.record = e.pre.record

/-! ## What a step does -/

@[simp] theorem move_record (w : World) (r : ℕ) (next : Phase) :
    (w.move r next).record = w.record := rfl

@[simp] theorem move_phase (w : World) (r q : ℕ) (next : Phase) :
    (w.move r next).phase q = if q = r then next else w.phase q := rfl

@[simp] theorem transact_phase (w : World) (answer : Answer) (written : Option Record) :
    (w.transact answer written).phase = w.phase := by
  unfold World.transact
  split <;> rfl

theorem transact_record (w : World) (answer : Answer) (written : Option Record) :
    wrote answer written = false ∧ (w.transact answer written).record = w.record ∨
      wrote answer written = true ∧ ∃ d, written = some d ∧
        (w.transact answer written).record = some d := by
  unfold World.transact
  split
  · exact .inl ⟨rfl, rfl⟩
  · rename_i d hne
    exact .inr ⟨by cases answer <;> simp_all [wrote], d, rfl, rfl⟩
  · rename_i hne
    exact .inl ⟨by simp [wrote], rfl⟩

/-- What a transaction of this action may write. -/
inductive Written (callSid : Str) (nonce conference : ℕ → Str) (w : World) : Action → Record → Prop
  | claim {r action contractorId operationId now later answer token name d}
      (h : reduceActiveCallAction w.record action contractorId
        (requestOperation action operationId) (nonce r) name now = some d) :
      Written callSid nonce conference w
        (.claim r action contractorId operationId now later answer token) d
  | timeout {r contractorId operationId now later answer d}
      (h : reduceActiveCallAction w.record .timeout contractorId operationId (nonce r) [] now =
        some d) :
      Written callSid nonce conference w (.timeout r contractorId now later answer) d
  | mark {r now later answer q committed d} (hphase : w.phase r = .verified q committed)
      (h : markRedirectStarted committed now w.record = some d) :
      Written callSid nonce conference w (.mark r now later answer) d
  | release {r now later answer token q committed d} (hphase : w.phase r = .failing q committed)
      (h : releasePreparation committed now w.record = some d) :
      Written callSid nonce conference w (.release r now later answer token) d
  | finish {r now later answer token committed target d}
      (h : finish committed target now w.record = some d) :
      Written callSid nonce conference w (.finish r now later answer token) d
  | statusFinish {r now later answer record d}
      (h : finish record "accepted" now w.record = some d) :
      Written callSid nonce conference w (.statusFinish r now later answer) d
  | ensureDeadline {contractorId urgent deadline now later answer d}
      (h : ensureOwnerDeadline contractorId urgent deadline now w.record = some d) :
      Written callSid nonce conference w
        (.ensureDeadline contractorId urgent deadline now later answer) d
  | project {projection d} (h : w.record = some d) :
      Written callSid nonce conference w (.project projection)
        (d.set "legacy_command_projection" projection)

/-- A step that ends with a transaction writes what its callback gives. -/
theorem written_of_transact {w : World} {action : Action} (answer : Answer)
    (written : Option Record) {result : World × Outcome}
    (hw : ∀ d, written = some d → Written callSid nonce conference w action d)
    (hrecord : result.1.record = (w.transact answer written).record)
    (hwrote : result.2.wrote = wrote answer written) :
    result.2.wrote = false ∧ result.1.record = w.record ∨
      result.2.wrote = true ∧
        ∃ d, Written callSid nonce conference w action d ∧ result.1.record = some d := by
  rw [hrecord, hwrote]
  rcases transact_record w answer written with h | ⟨h, d, hd, hpost⟩
  · exact .inl h
  · exact .inr ⟨h, d, hw d hd, hpost⟩

theorem step_record (callSid : Str) (nonce conference : ℕ → Str) (w : World) (action : Action) :
    (step callSid nonce conference w action).2.wrote = false ∧
        (step callSid nonce conference w action).1.record = w.record ∨
      (step callSid nonce conference w action).2.wrote = true ∧
        ∃ d, Written callSid nonce conference w action d ∧
          (step callSid nonce conference w action).1.record = some d := by
  cases action with
  | claim r action contractorId operationId now later answer token =>
    simp only [step]
    split
    · split
      · exact .inl ⟨rfl, rfl⟩
      · split
        · exact .inl ⟨rfl, rfl⟩
        · generalize (if action = .accept then conference r else []) = name
          refine written_of_transact answer (reduceActiveCallAction w.record action contractorId
            (requestOperation action operationId) (nonce r) name now) (fun d h => .claim h) ?_ ?_
          all_goals repeat' split
          all_goals rfl
    · exact .inl ⟨rfl, rfl⟩
  | prepare r ok =>
    simp only [step]
    split <;> exact .inl ⟨rfl, rfl⟩
  | readBack r later ok =>
    simp only [step]
    repeat' split
    all_goals exact .inl ⟨rfl, rfl⟩
  | mark r now later answer =>
    simp only [step]
    split
    · rename_i q committed hphase
      refine written_of_transact answer (markRedirectStarted committed now w.record)
        (fun d h => .mark hphase h) ?_ ?_
      all_goals repeat' split
      all_goals rfl
    · exact .inl ⟨rfl, rfl⟩
  | release r now later answer token =>
    simp only [step]
    split
    · rename_i q committed hphase
      exact written_of_transact answer _ (fun d h => .release hphase h) rfl rfl
    · exact .inl ⟨rfl, rfl⟩
  | redirect r ok =>
    simp only [step]
    split <;> exact .inl ⟨rfl, rfl⟩
  | finish r now later answer token =>
    simp only [step]
    split
    · exact written_of_transact answer _ (fun d h => .finish h) rfl rfl
    · exact .inl ⟨rfl, rfl⟩
  | timeout r contractorId now later answer =>
    simp only [step]
    split
    · exact written_of_transact answer _ (fun d h => .timeout h) rfl rfl
    · exact .inl ⟨rfl, rfl⟩
  | status r contractorId operationId now contains token =>
    simp only [step]
    repeat' split
    all_goals exact .inl ⟨rfl, rfl⟩
  | statusFinish r now later answer =>
    simp only [step]
    split
    · exact written_of_transact answer _ (fun d h => .statusFinish h) rfl rfl
    · exact .inl ⟨rfl, rfl⟩
  | statusReread r now token =>
    simp only [step]
    split <;> exact .inl ⟨rfl, rfl⟩
  | ensureDeadline contractorId urgent deadline now later answer =>
    exact written_of_transact answer _ (fun d h => .ensureDeadline h) rfl rfl
  | project projection =>
    refine written_of_transact .answered _ (fun d h => ?_) rfl ?_
    · obtain ⟨d, hd, rfl⟩ := Option.map_eq_some_iff.mp h
      exact .project hd
    · simp [step, wrote]

/-! ## How a request moves -/

/-- The request and the record that a claim committed, while its pickup is under way. -/
def Phase.committed? : Phase → Option (Request × Record)
  | .claimed q c | .bound q c | .verified q c | .failing q c | .started q c
  | .redirected q c _ => some (q, c)
  | _ => none

/-- A phase changes into the next of the saga, or the request ends. -/
inductive Advance (nonce : ℕ → Str) (action : Action) (w' : World) (r : ℕ) : Phase → Phase → Prop
  | claimed {q committed} (hrecord : w'.record = some committed)
      (hop : (committed.get "owner_operation_id").isStr q.operationId = true)
      (haction : (committed.get "owner_action").isStr (py "accept") = true)
      (hnonce : (committed.get "claim_nonce").isStr (nonce r) = true) :
      Advance nonce action w' r .idle (.claimed q committed)
  | next {before next : Phase} (hlive : before ≠ .ended) (hsame : next.committed? = before.committed?)
      (hbefore : ∀ q c sent, before ≠ .started q c ∧ before ≠ .redirected q c sent)
      (hnext : ∀ q c sent, next ≠ .started q c ∧ next ≠ .redirected q c sent) :
      Advance nonce action w' r before next
  | started {q committed now later} (h : redirectStarted committed now later w'.record = true) :
      Advance nonce action w' r (.verified q committed) (.started q committed)
  | redirected {q committed sent} (haction : action = .redirect r sent) :
      Advance nonce action w' r (.started q committed) (.redirected q committed sent)
  | ended {before : Phase} (h : ∀ q c, before ≠ .started q c) :
      Advance nonce action w' r before .ended

theorem advance_of_move {w base : World} {action : Action} {r : ℕ} {next : Phase}
    (hbase : base.phase = w.phase)
    (h : Advance nonce action (base.move r next) r (w.phase r) next) (q : ℕ) :
    (base.move r next).phase q = w.phase q ∨
      Advance nonce action (base.move r next) q (w.phase q) ((base.move r next).phase q) := by
  rw [move_phase]
  by_cases hq : q = r
  · subst hq
    exact .inr (by rwa [if_pos rfl])
  · exact .inl (by rw [if_neg hq, hbase])

/-- Without a saga under way, the request may end. -/
theorem ended_of_move {w base : World} {action : Action} {r : ℕ}
    (hbase : base.phase = w.phase) (h : ∀ q c, w.phase r ≠ .started q c) (q : ℕ) :
    (base.move r .ended).phase q = w.phase q ∨
      Advance nonce action (base.move r .ended) q (w.phase q) ((base.move r .ended).phase q) :=
  advance_of_move hbase (.ended h) q

theorem step_phase (callSid : Str) (nonce conference : ℕ → Str) (w : World) (action : Action) (q : ℕ) :
    (step callSid nonce conference w action).1.phase q = w.phase q ∨
      Advance nonce action (step callSid nonce conference w action).1 q (w.phase q)
        ((step callSid nonce conference w action).1.phase q) := by
  cases action with
  | claim r action contractorId operationId now later answer token =>
    simp only [step]
    split
    · rename_i hidle
      have hnot : ∀ q c, w.phase r ≠ .started q c := by simp [hidle]
      generalize (if action = .accept then conference r else []) = name
      split
      · exact ended_of_move rfl hnot q
      · split
        · exact ended_of_move rfl hnot q
        · split
          · exact ended_of_move (transact_phase ..) hnot q
          · split
            · rename_i committed hrecord
              split
              · exact ended_of_move (transact_phase ..) hnot q
              · rename_i hmatch
                simp only [not_or, Bool.not_eq_false] at hmatch
                split
                · rename_i hwon
                  obtain ⟨rfl, hnonce⟩ := hwon
                  refine advance_of_move (transact_phase ..) ?_ q
                  rw [hidle]
                  exact .claimed hrecord hmatch.1 hmatch.2 hnonce
                · exact ended_of_move (transact_phase ..) hnot q
            · exact ended_of_move (transact_phase ..) hnot q
    · exact .inl rfl
  | prepare r ok =>
    simp only [step]
    split
    · rename_i q' committed hphase
      refine advance_of_move rfl ?_ q
      rw [hphase]
      cases ok <;> exact .next (by simp) rfl (by simp) (by simp)
    · exact .inl rfl
  | readBack r later ok =>
    simp only [step]
    split
    · rename_i q' committed hphase
      have hnot : ∀ q c, w.phase r ≠ .started q c := by simp [hphase]
      split
      · refine advance_of_move rfl ?_ q
        rw [hphase]
        exact .next (by simp) rfl (by simp) (by simp)
      · split
        · split
          · refine advance_of_move rfl ?_ q
            rw [hphase]
            exact .next (by simp) rfl (by simp) (by simp)
          · exact ended_of_move rfl hnot q
        · exact ended_of_move rfl hnot q
    · exact .inl rfl
  | mark r now later answer =>
    simp only [step]
    split
    · rename_i q' committed hphase
      split
      · refine advance_of_move (transact_phase ..) ?_ q
        rw [hphase]
        exact .next (by simp) rfl (by simp) (by simp)
      · split
        · rename_i hstarted
          refine advance_of_move (transact_phase ..) ?_ q
          rw [hphase]
          exact .started hstarted
        · exact ended_of_move (transact_phase ..) (by simp [hphase]) q
    · exact .inl rfl
  | release r now later answer token =>
    simp only [step]
    split
    · rename_i q' committed hphase
      exact ended_of_move (transact_phase ..) (by simp [hphase]) q
    · exact .inl rfl
  | redirect r ok =>
    simp only [step]
    split
    · rename_i q' committed hphase
      refine advance_of_move rfl ?_ q
      rw [hphase]
      exact .redirected rfl
    · exact .inl rfl
  | finish r now later answer token =>
    simp only [step]
    split
    · rename_i q' committed sent hphase
      exact ended_of_move (transact_phase ..) (by simp [hphase]) q
    · exact .inl rfl
  | timeout r contractorId now later answer =>
    simp only [step]
    split
    · rename_i hphase
      exact ended_of_move (transact_phase ..) (by simp [hphase]) q
    · exact .inl rfl
  | status r contractorId operationId now contains token =>
    simp only [step]
    split
    · rename_i hphase
      have hnot : ∀ q c, w.phase r ≠ .started q c := by simp [hphase]
      split
      · exact ended_of_move rfl hnot q
      · split
        · exact ended_of_move rfl hnot q
        · split
          · refine advance_of_move rfl ?_ q
            rw [hphase]
            cases contains <;> exact .next (by simp) rfl (by simp) (by simp)
          · exact ended_of_move rfl hnot q
    · exact .inl rfl
  | statusFinish r now later answer =>
    simp only [step]
    split
    · rename_i q' d hphase
      refine advance_of_move (transact_phase ..) ?_ q
      rw [hphase]
      exact .next (by simp) rfl (by simp) (by simp)
    · exact .inl rfl
  | statusReread r now token =>
    simp only [step]
    split
    · rename_i q' hphase
      exact ended_of_move rfl (by simp [hphase]) q
    · exact .inl rfl
  | ensureDeadline contractorId urgent deadline now later answer =>
    exact .inl (congrFun (transact_phase ..) q)
  | project projection => exact .inl (congrFun (transact_phase ..) q)

/-! ## Claims that stay -/

variable {w : World}

abbrev eventOf (callSid : Str) (nonce conference : ℕ → Str) (w : World) (action : Action) :
    LogEvent := (step callSid nonce conference).event w action

/-- What writes nothing neither wins, starts nor releases. -/
theorem of_not_wrote {action : Action}
    (h : (step callSid nonce conference w action).2.wrote = false) :
    wins? (eventOf callSid nonce conference w action) = none ∧
      starts? (eventOf callSid nonce conference w action) = none ∧
      releases? (eventOf callSid nonce conference w action) = none := by
  have h' : (eventOf callSid nonce conference w action).resp.wrote = false := h
  simp only [wins?, starts?, releases?, h']
  cases action <;> exact ⟨rfl, rfl, rfl⟩

/-- No claim wins over another. -/
theorem not_claimed {action : OwnerAction} {contractorId operationId claimNonce name : Str}
    {now : Double} {d d' : Record} (hrecord : w.record = some d)
    (htruthy : (d.get "owner_action").truthy = true)
    (h : reduceActiveCallAction w.record action contractorId operationId claimNonce name now =
      some d') : False := by
  obtain ⟨⟨d₀, hd₀, hfalsy⟩, -⟩ := reduceActiveCallAction_eq_some h
  obtain rfl : d = d₀ := Option.some.inj (hrecord.symm.trans hd₀)
  rw [htruthy] at hfalsy
  cases hfalsy

/-- Every step keeps a started pickup: no claim wins over it, and it is not released. -/
theorem Locked.step {n : Str} (h : Locked n w.record) (action : Action) :
    Locked n (step callSid nonce conference w action).1.record ∧
      wins? (eventOf callSid nonce conference w action) = none ∧
      releases? (eventOf callSid nonce conference w action) = none := by
  rcases step_record callSid nonce conference w action with
    ⟨hno, hsame⟩ | ⟨-, d', hwritten, hpost⟩
  · obtain ⟨hwins, -, hreleases⟩ := of_not_wrote hno
    exact ⟨by rwa [hsame], hwins, hreleases⟩
  · obtain ⟨d, hrecord, hact, hclaim, haccepted⟩ := h
    have htruthy : (d.get "owner_action").truthy = true := by rw [hact]; rfl
    rw [hpost]
    cases hwritten with
    | claim h => exact (not_claimed hrecord htruthy h).elim
    | timeout h => exact (not_claimed hrecord htruthy h).elim
    | mark hphase h =>
      obtain ⟨-, haccepted', d₀, hd₀, hframe⟩ := markRedirectStarted_eq_some h
      obtain rfl : d = d₀ := Option.some.inj (hrecord.symm.trans hd₀)
      exact ⟨⟨d', rfl, by rw [hframe _ (by decide) (by decide), hact],
        by rw [hframe _ (by decide) (by decide), hclaim], haccepted'⟩, rfl, rfl⟩
    | release hphase h =>
      obtain ⟨-, d₀, hd₀, hnot⟩ := releasePreparation_eq_some h
      obtain rfl : d = d₀ := Option.some.inj (hrecord.symm.trans hd₀)
      rw [haccepted] at hnot
      cases hnot
    | finish h =>
      obtain ⟨-, d₀, hd₀, hframe⟩ := finish_eq_some h
      obtain rfl : d = d₀ := Option.some.inj (hrecord.symm.trans hd₀)
      exact ⟨⟨d', rfl, by rw [hframe _ (by decide) (by decide), hact],
        by rw [hframe _ (by decide) (by decide), hclaim],
        by rw [hframe _ (by decide) (by decide), haccepted]⟩, rfl, rfl⟩
    | statusFinish h =>
      obtain ⟨-, d₀, hd₀, hframe⟩ := finish_eq_some h
      obtain rfl : d = d₀ := Option.some.inj (hrecord.symm.trans hd₀)
      exact ⟨⟨d', rfl, by rw [hframe _ (by decide) (by decide), hact],
        by rw [hframe _ (by decide) (by decide), hclaim],
        by rw [hframe _ (by decide) (by decide), haccepted]⟩, rfl, rfl⟩
    | ensureDeadline h =>
      obtain ⟨d₀, hd₀, hfalsy⟩ := ensureOwnerDeadline_eq_some h
      obtain rfl : d = d₀ := Option.some.inj (hrecord.symm.trans hd₀)
      rw [htruthy] at hfalsy
      cases hfalsy
    | project h =>
      obtain rfl : d = _ := Option.some.inj (hrecord.symm.trans h)
      exact ⟨⟨_, rfl, by simpa using hact, by simpa using hclaim, by simpa using haccepted⟩,
        rfl, rfl⟩

/-- What the requests hold: their own claims, and for a started pickup the record. -/
structure Inv (nonce : ℕ → Str) (w : World) : Prop where
  owns : ∀ r q c, (w.phase r).committed? = some (q, c) → c.get "owner_action" = .text "accept" ∧
    c.get "claim_nonce" = .str (nonce r) ∧ c.get "owner_operation_id" = .str q.operationId
  locked : ∀ r q c sent, w.phase r = .started q c ∨ w.phase r = .redirected q c sent →
    Locked (nonce r) w.record

theorem Inv.start (record : Option Record) : Inv nonce (World.start record) where
  owns := fun _ _ _ h => nomatch h
  locked := fun _ _ _ _ h => by rcases h with h | h <;> cases h

/-- The record that a started redirect saw is locked. -/
theorem locked_of_redirectStarted {c : Record} {now later : Double} {record : Option Record}
    {n : Str} (h : redirectStarted c now later record = true)
    (hact : c.get "owner_action" = .text "accept") (hclaim : c.get "claim_nonce" = .str n) :
    Locked n record := by
  unfold redirectStarted at h
  split at h
  · cases h
  · rename_i d
    simp only [Bool.and_eq_true] at h
    obtain ⟨⟨⟨hsame, -⟩, haccepted⟩, -⟩ := h
    obtain ⟨d₁, hd₁, hact'⟩ := sameClaim_str (k := "owner_action") (by decide) hsame hact
    obtain ⟨d₂, hd₂, hclaim'⟩ := sameClaim_str (k := "claim_nonce") (by decide) hsame hclaim
    cases hd₁
    cases hd₂
    refine ⟨d, rfl, hact', hclaim', ?_⟩
    cases hv : d.get "accepted" with
    | bool b =>
      rw [hv] at haccepted
      cases b with
      | true => rfl
      | false => cases haccepted
    | _ => rw [hv] at haccepted; cases haccepted

theorem Inv.step (h : Inv nonce w) (action : Action) :
    Inv nonce (step callSid nonce conference w action).1 where
  owns := by
    intro r q c hc
    rcases step_phase callSid nonce conference w action r
      with hsame | hadv
    · rw [hsame] at hc
      exact h.owns r q c hc
    · revert hc
      generalize hbefore : w.phase r = before at hadv
      generalize (L13.step callSid nonce conference w action).1.phase r = next at hadv
      intro hc
      cases hadv with
      | claimed hrecord hop haction hnonce =>
        cases hc
        exact ⟨(Value.isStr_iff _ _).mp haction, (Value.isStr_iff _ _).mp hnonce,
          (Value.isStr_iff _ _).mp hop⟩
      | next _ hsame => exact h.owns r q c (by rw [hbefore, ← hsame, hc])
      | started => exact h.owns r q c (by rw [hbefore]; exact hc)
      | redirected => exact h.owns r q c (by rw [hbefore]; exact hc)
      | ended => cases hc
  locked := by
    intro r q c sent hphase
    rcases step_phase callSid nonce conference w action r
      with hsame | hadv
    · rw [hsame] at hphase
      exact ((h.locked r q c sent hphase).step action).1
    · generalize hbefore : w.phase r = before at hadv
      generalize hafter : (L13.step callSid nonce conference w action).1.phase r = next
        at hadv hphase
      cases hadv with
      | claimed => rcases hphase with hphase | hphase <;> cases hphase
      | next _ _ _ hnext =>
        rcases hphase with hphase | hphase
        · exact absurd hphase (hnext q c sent).1
        · exact absurd hphase (hnext q c sent).2
      | @started q' c' now later hstarted =>
        obtain ⟨hact, hclaim, -⟩ := h.owns r q' c' (by rw [hbefore]; rfl)
        exact locked_of_redirectStarted hstarted hact hclaim
      | @redirected q' c' sent' =>
        exact ((h.locked r q' c' sent' (.inl hbefore)).step action).1
      | ended => rcases hphase with hphase | hphase <;> cases hphase

theorem Declined.not_accept {d : Record} {record : Option Record} (h : Declined record)
    (hrecord : record = some d) : d.get "owner_action" ≠ .text "accept" := by
  obtain ⟨d', hd', hact⟩ := h
  cases hrecord.symm.trans hd'
  rcases hact with hact | hact <;> rw [hact] <;> simp [Value.text]

/-- A decline or a timeout stays, and no redirect is started over it. -/
theorem Declined.step (h : Declined w.record) (hinv : Inv nonce w) (action : Action) :
    Declined (step callSid nonce conference w action).1.record ∧
      starts? (eventOf callSid nonce conference w action) = none ∧
      redirects? (eventOf callSid nonce conference w action) = none := by
  have hredirects : redirects? (eventOf callSid nonce conference w action) = none := by
    unfold redirects?
    split
    · rename_i r ok _
      split
      · rename_i q c hphase
        obtain ⟨d, hd, hact, -⟩ := hinv.locked r q c ok (.inl hphase)
        exact absurd hact (h.not_accept hd)
      · rfl
    · rfl
  rcases step_record callSid nonce conference w action with
    ⟨hno, hsame⟩ | ⟨-, d', hwritten, hpost⟩
  · exact ⟨by rwa [hsame], (of_not_wrote hno).2.1, hredirects⟩
  · have hown : ∀ {r q c now}, (w.phase r).committed? = some (q, c) →
        sameClaim w.record c now = true → False := by
      intro r q c now hphase hclaim
      obtain ⟨d, hd, hact⟩ := sameClaim_str (k := "owner_action") (by decide) hclaim
        (hinv.owns r q c hphase).1
      exact h.not_accept hd hact
    obtain ⟨d, hrecord, hact⟩ := id h
    have htruthy : (d.get "owner_action").truthy = true := by
      rcases hact with hact | hact <;> rw [hact] <;> rfl
    rw [hpost]
    cases hwritten with
    | claim h => exact (not_claimed hrecord htruthy h).elim
    | timeout h => exact (not_claimed hrecord htruthy h).elim
    | mark hphase h =>
      exact (hown (by rw [hphase]; rfl) (markRedirectStarted_eq_some h).1).elim
    | release hphase h =>
      exact (hown (by rw [hphase]; rfl) (releasePreparation_eq_some h).1).elim
    | finish h =>
      obtain ⟨-, d₀, hd₀, hframe⟩ := finish_eq_some h
      obtain rfl : d = d₀ := Option.some.inj (hrecord.symm.trans hd₀)
      exact ⟨⟨d', rfl, by rwa [hframe _ (by decide) (by decide)]⟩, rfl, hredirects⟩
    | statusFinish h =>
      obtain ⟨-, d₀, hd₀, hframe⟩ := finish_eq_some h
      obtain rfl : d = d₀ := Option.some.inj (hrecord.symm.trans hd₀)
      exact ⟨⟨d', rfl, by rwa [hframe _ (by decide) (by decide)]⟩, rfl, hredirects⟩
    | ensureDeadline h =>
      obtain ⟨d₀, hd₀, hfalsy⟩ := ensureOwnerDeadline_eq_some h
      obtain rfl : d = d₀ := Option.some.inj (hrecord.symm.trans hd₀)
      rw [htruthy] at hfalsy
      cases hfalsy
    | project h =>
      obtain rfl : d = _ := Option.some.inj (hrecord.symm.trans h)
      exact ⟨⟨_, rfl, by simpa using hact⟩, rfl, hredirects⟩

/-- The request has called the provider, or has ended. -/
def Past (r : ℕ) (w : World) : Prop :=
  (∃ q c sent, w.phase r = .redirected q c sent) ∨ w.phase r = .ended

theorem Past.step {r : ℕ} (h : Past r w) (action : Action) :
    Past r (step callSid nonce conference w action).1 := by
  rcases step_phase callSid nonce conference w action r with hsame | hadv
  · rwa [Past, hsame]
  · generalize hafter : (L13.step callSid nonce conference w action).1.phase r = next at hadv
    rcases h with ⟨q, c, sent, hphase⟩ | hphase
    · rw [hphase] at hadv
      cases hadv with
      | next _ _ hbefore => exact absurd rfl (hbefore q c sent).2
      | ended => exact .inr hafter
    · rw [hphase] at hadv
      cases hadv with
      | next hlive => exact absurd rfl hlive
      | ended => exact .inr hafter

/-! ## Credentials -/

theorem response_credentials {d : Record} {q : Request} {credentials : Bool} {token : Option Str}
    {r : Response} (h : response d q credentials token = some r) (hr : r.credentials ≠ none) :
    r.request = q ∧ d.get "owner_action_status" = .text "accepted" := by
  unfold response at h
  dsimp only at h
  split at h
  · rename_i hgranted
    split at h
    · obtain ⟨jwt, -, rfl⟩ := Option.map_eq_some_iff.mp h
      refine ⟨rfl, ?_⟩
      have haccepted := (Value.isStr_iff _ _).mp (Bool.and_eq_true_iff.mp hgranted).2
      unfold statusOf at haccepted
      split at haccepted
      · exact haccepted
      · simp [Value.text] at haccepted
    · cases h
  · cases h
    exact absurd rfl hr

/-- What credentials in a reply say of the record it was made from. -/
def Granted (record : Option Record) (result : Reply) : Prop :=
  ∀ r code, result = .answered r code → r.credentials ≠ none → ∃ d, record = some d ∧
    d.get "owner_action_status" = .text "accepted" ∧
    d.get "owner_operation_id" = .str r.request.operationId

theorem Granted.raised (record : Option Record) (code : ℕ) : Granted record (.raised code) :=
  fun _ _ h => nomatch h

theorem Granted.response {d : Record} {q : Request} {credentials : Bool} {token : Option Str}
    (code : Response → ℕ) (hop : d.get "owner_operation_id" = .str q.operationId) :
    Granted (some d) (reply code (response d q credentials token)) := by
  intro r n hreply hr
  cases hresponse : L13.response d q credentials token with
  | none =>
    rw [hresponse] at hreply
    cases hreply
  | some r' =>
    rw [hresponse] at hreply
    cases hreply
    obtain ⟨rfl, haccepted⟩ := response_credentials hresponse hr
    exact ⟨d, rfl, haccepted, hop⟩

/-- Without credentials there is nothing to say of the record. -/
theorem Granted.map_plain (record : Option Record) (code : Response → ℕ) (d : Record)
    (q : Request) (token : Option Str) {f : Response → Response}
    (hf : ∀ r, (f r).credentials = r.credentials) :
    Granted record (reply code ((L13.response d q false token).map f)) := by
  intro r n hreply hr
  cases hreply
  exact absurd (hf _) hr

theorem Granted.plain (record : Option Record) (code : Response → ℕ) (d : Record) (q : Request)
    (token : Option Str) : Granted record (reply code (L13.response d q false token)) := by
  intro r n hreply hr
  cases hreply
  exact absurd rfl hr

theorem Granted.statusReply (record : Option Record) (q : Request) (now : Double)
    (token : Option Str) : Granted record (statusReply record q now token) := by
  unfold L13.statusReply
  split
  · intro r code h hr
    cases h
    exact absurd rfl hr
  · rename_i d
    split
    · exact .raised _ _
    · split
      · intro r code h hr
        cases h
        exact absurd rfl hr
      · split
        · exact .map_plain _ _ _ _ _ fun _ => rfl
        · rename_i hsame
          cases hempty : q.operationId.isEmpty with
          | true => exact Granted.plain _ _ d q token
          | false =>
            refine .response _ ((Value.isStr_iff _ _).mp ?_)
            simpa [hempty] using hsame

theorem step_reply (callSid : Str) (nonce conference : ℕ → Str) (h : Inv nonce w)
    (action : Action) {result : Reply}
    (hreply : (step callSid nonce conference w action).2.reply = some result) :
    Granted (step callSid nonce conference w action).1.record result := by
  cases action with
  | claim r action contractorId operationId now later answer token =>
    revert hreply
    simp only [step]
    split
    · generalize (if action = .accept then conference r else []) = name
      split
      · rintro ⟨⟩
        exact .raised _ _
      · split
        · rintro ⟨⟩
          exact .raised _ _
        · split
          · rintro ⟨⟩
            exact .raised _ _
          · split
            · rename_i committed hlive hrecord
              split
              · rintro ⟨⟩
                exact .raised _ _
              · rename_i hmatch
                simp only [not_or, Bool.not_eq_false] at hmatch
                split
                · rintro ⟨⟩
                · rintro ⟨⟩
                  rw [move_record, hrecord]
                  exact .response _ ((Value.isStr_iff _ _).mp hmatch.1)
            · rintro ⟨⟩
              exact .raised _ _
    · rintro ⟨⟩
  | release r now later answer token =>
    revert hreply
    simp only [step]
    split
    · rintro ⟨⟩
      split
      · exact .map_plain _ _ _ _ _ fun _ => rfl
      · exact Granted.plain _ _ _ _ token
    · rintro ⟨⟩
  | finish r now later answer token =>
    revert hreply
    simp only [step]
    split
    · rename_i q committed sent hphase
      have hop := (h.owns r q committed (by rw [hphase]; rfl)).2.2
      rintro ⟨⟩
      generalize w.transact answer _ = w'
      split
      · rename_i final _ hfinal
        obtain ⟨hrecord, hshown⟩ := Option.filter_eq_some_iff.mp hfinal
        rw [move_record, hrecord]
        obtain ⟨d, hd, hop⟩ := sameClaim_str (k := "owner_operation_id") (by decide)
          (Bool.and_eq_true_iff.mp hshown).1 hop
        cases hd
        exact .response _ hop
      · exact Granted.plain _ _ _ _ token
    · rintro ⟨⟩
  | status r contractorId operationId now contains token =>
    revert hreply
    simp only [step]
    split
    · split
      · rintro ⟨⟩
        exact .raised _ _
      · split
        · rintro ⟨⟩
          exact .raised _ _
        · split
          · rintro ⟨⟩
          · rintro ⟨⟩
            exact Granted.statusReply _ _ _ _
    · rintro ⟨⟩
  | statusReread r now token =>
    revert hreply
    simp only [step]
    split
    · rintro ⟨⟩
      exact Granted.statusReply _ _ _ _
    · rintro ⟨⟩
  | timeout r contractorId now later answer =>
    intro r' code hanswered
    subst hanswered
    revert hreply
    simp only [step]
    split
    · split <;> rintro ⟨⟩
    · rintro ⟨⟩
  | ensureDeadline contractorId urgent deadline now later answer =>
    intro r' code hanswered
    subst hanswered
    revert hreply
    simp only [step]
    repeat' split
    all_goals rintro ⟨⟩
  | _ =>
    revert hreply
    simp only [step]
    repeat' split
    all_goals first | (rintro ⟨⟩; exact .raised _ _) | rintro ⟨⟩

/-! ## Every run -/

theorem starts_eq_some {action : Action} {r : ℕ}
    (h : starts? (eventOf callSid nonce conference w action) = some r) (hinv : Inv nonce w) :
    (∃ q c, w.phase r = .verified q c) ∧
      Locked (nonce r) (step callSid nonce conference w action).1.record := by
  unfold starts? at h
  split at h
  · rename_i r' now later answer hcall
    obtain rfl : action = .mark r' now later answer := hcall
    split at h
    · rename_i hwrote
      cases h
      rcases step_record callSid nonce conference w (.mark r now later answer) with
        ⟨hno, -⟩ | ⟨-, d', hwritten, hpost⟩
      · rw [Machine.event_resp, hno] at hwrote
        cases hwrote
      · cases hwritten with
        | @mark _ _ _ _ q c _ hphase h =>
          obtain ⟨hact, hclaim, -⟩ := hinv.owns r q c (by rw [hphase]; rfl)
          obtain ⟨hsame, haccepted, d, hd, hframe⟩ := markRedirectStarted_eq_some h
          obtain ⟨d₁, hd₁, hact'⟩ := sameClaim_str (k := "owner_action") (by decide) hsame hact
          obtain ⟨d₂, hd₂, hclaim'⟩ := sameClaim_str (k := "claim_nonce") (by decide) hsame hclaim
          cases hd.symm.trans hd₁
          cases hd.symm.trans hd₂
          exact ⟨⟨q, c, hphase⟩, d', hpost, by rwa [hframe _ (by decide) (by decide)],
            by rwa [hframe _ (by decide) (by decide)], haccepted⟩
    · cases h
  · cases h

theorem redirects_eq_some {action : Action} {r : ℕ}
    (h : redirects? (eventOf callSid nonce conference w action) = some r) :
    (∃ ok, action = .redirect r ok) ∧ (∃ q c, w.phase r = .started q c) ∧
      Past r (step callSid nonce conference w action).1 := by
  unfold redirects? at h
  split at h
  · rename_i r' ok hcall
    obtain rfl : action = .redirect r' ok := hcall
    split at h
    · rename_i q c hphase
      cases h
      refine ⟨⟨ok, rfl⟩, ⟨q, c, hphase⟩, .inl ⟨q, c, ok, ?_⟩⟩
      have hphase : w.phase r = .started q c := hphase
      simp only [step, hphase]
      rw [move_phase, if_pos rfl]
    · cases h
  · cases h

theorem releases_eq_some {action : Action} {r : ℕ}
    (h : releases? (eventOf callSid nonce conference w action) = some r) :
    (∃ q c, w.phase r = .failing q c) ∧
      (step callSid nonce conference w action).1.phase r = .ended := by
  unfold releases? at h
  split at h
  · rename_i r' now later answer token hcall
    obtain rfl : action = .release r' now later answer token := hcall
    split at h
    · rename_i hwrote
      cases h
      rcases step_record callSid nonce conference w (.release r now later answer token) with
        ⟨hno, -⟩ | ⟨-, d', hwritten, -⟩
      · rw [Machine.event_resp, hno] at hwrote
        cases hwrote
      · cases hwritten with
        | release hphase =>
          refine ⟨⟨_, _, hphase⟩, ?_⟩
          simp only [step, hphase]
          rw [move_phase, if_pos rfl]
    · cases h
  · cases h

/-- A request that is past its redirect neither starts, calls nor releases. -/
theorem Past.quiet {r : ℕ} (h : Past r w) (hinv : Inv nonce w) (action : Action) :
    starts? (eventOf callSid nonce conference w action) ≠ some r ∧
      redirects? (eventOf callSid nonce conference w action) ≠ some r ∧
      releases? (eventOf callSid nonce conference w action) ≠ some r := by
  refine ⟨fun heq => ?_, fun heq => ?_, fun heq => ?_⟩
  · obtain ⟨⟨q, c, hphase⟩, -⟩ := starts_eq_some heq hinv
    rcases h with ⟨_, _, _, h⟩ | h <;> rw [h] at hphase <;> cases hphase
  · obtain ⟨-, ⟨q, c, hphase⟩, -⟩ := redirects_eq_some heq
    rcases h with ⟨_, _, _, h⟩ | h <;> rw [h] at hphase <;> cases hphase
  · obtain ⟨⟨q, c, hphase⟩, -⟩ := releases_eq_some heq
    rcases h with ⟨_, _, _, h⟩ | h <;> rw [h] at hphase <;> cases hphase

/-- What a step keeps, from one event of a run to a later one. -/
theorem between {record : Option Record} {actions : List Action} {I : World → Prop}
    (hs : ∀ w action, I w → I (step callSid nonce conference w action).1)
    {l₁ l₂ l₃ : List LogEvent} {a f : LogEvent}
    (h : (step callSid nonce conference).log (World.start record) actions =
      l₁ ++ a :: l₂ ++ f :: l₃) (h0 : I a.post) : I f.pre :=
  (step callSid nonce conference).log_between (G := fun _ => True) (fun w action hi _ =>
    hs w action hi) h h0 fun _ _ => trivial

/-- Whatever the order of requests, their failures and their crashes: at most one pickup is
started on a call, it stays, and nobody else is told that it is theirs. -/
theorem arbitrated (callSid : Str) (nonce conference : ℕ → Str) (record : Option Record)
    (actions : List Action)
    (hnonce : ∀ a ∈ actions, ∀ b ∈ actions, ∀ r r', a.request = some r → b.request = some r' →
      nonce r = nonce r' → r = r') :
    Arbitrated nonce ((step callSid nonce conference).log (World.start record) actions) := by
  have hinv : ∀ e ∈ (step callSid nonce conference).log (World.start record) actions,
      Inv nonce e.pre ∧ Inv nonce e.post := fun e he =>
    (step callSid nonce conference).log_pre (.start record) (fun w action h => h.step action) he
  have hevent : ∀ e ∈ (step callSid nonce conference).log (World.start record) actions,
      e = eventOf callSid nonce conference e.pre e.call := by
    intro e he
    obtain ⟨_, _, _, -, rfl⟩ := (step callSid nonce conference).mem_log he
    rfl
  have hpast : ∀ e ∈ (step callSid nonce conference).log (World.start record) actions, ∀ r,
      redirects? e = some r → (∃ q c, e.pre.phase r = .started q c) ∧ Past r e.post ∧
        Locked (nonce r) e.pre.record ∧ Locked (nonce r) e.post.record ∧
        e.call.request = some r := by
    intro e he r hr
    rw [hevent e he] at hr
    obtain ⟨⟨ok, hcall⟩, ⟨q, c, hphase⟩, hpast⟩ := redirects_eq_some hr
    have hlocked := (hinv e he).1.locked r q c ok (.inl hphase)
    have hpost : e.post = (step callSid nonce conference e.pre e.call).1 :=
      ((step callSid nonce conference).eq_of_mem_log he).2
    exact ⟨⟨q, c, hphase⟩, hpost ▸ hpast, hlocked, hpost ▸ (hlocked.step e.call).1,
      by rw [hcall]; rfl⟩
  have hlocks : ∀ e ∈ (step callSid nonce conference).log (World.start record) actions, ∀ r,
      starts? e = some r → Locked (nonce r) e.post.record := by
    intro e he r hr
    rw [hevent e he] at hr
    rw [((step callSid nonce conference).eq_of_mem_log he).2]
    exact (starts_eq_some hr (hinv e he).1).2
  constructor
  case once =>
    intro l₁ a l₂ f l₃ hlog ha
    have hain : a ∈ (step callSid nonce conference).log (World.start record) actions := by
      simp [hlog]
    have hfin : f ∈ (step callSid nonce conference).log (World.start record) actions := by
      simp [hlog]
    obtain ⟨r, hr⟩ := Option.ne_none_iff_exists'.mp ha
    obtain ⟨-, hpasta, -, hlockeda, hra⟩ := hpast a hain r hr
    obtain ⟨⟨d, hd, -, hclaim, -⟩, hpastf⟩ := between
      (I := fun w => Locked (nonce r) w.record ∧ Past r w)
      (fun w action h => ⟨(h.1.step action).1, h.2.step action⟩) hlog ⟨hlockeda, hpasta⟩
    cases hf : redirects? f with
    | none => rfl
    | some r' =>
      obtain ⟨⟨q, c, hphase⟩, -, ⟨d', hd', -, hclaim', -⟩, -, hrf⟩ := hpast f hfin r' hf
      cases hd.symm.trans hd'
      obtain rfl : r = r' :=
        hnonce _ ((step callSid nonce conference).call_mem_of_mem_log hain) _
          ((step callSid nonce conference).call_mem_of_mem_log hfin) r r' hra hrf
          (Value.str.inj (hclaim.symm.trans hclaim'))
      rcases hpastf with ⟨_, _, _, h⟩ | h <;> rw [h] at hphase <;> cases hphase
  case locked =>
    intro l₁ a l₂ f l₃ r hlog ha
    have hain : a ∈ (step callSid nonce conference).log (World.start record) actions := by
      simp [hlog]
    have hfin : f ∈ (step callSid nonce conference).log (World.start record) actions := by
      simp [hlog]
    have hlocked := between (I := fun w => Locked (nonce r) w.record)
      (fun w action h => (h.step action).1) hlog (hlocks a hain r ha)
    have hstep : Locked (nonce r) (step callSid nonce conference f.pre f.call).1.record ∧
        wins? (eventOf callSid nonce conference f.pre f.call) = none ∧
        releases? (eventOf callSid nonce conference f.pre f.call) = none := hlocked.step f.call
    rw [← hevent f hfin, ← ((step callSid nonce conference).eq_of_mem_log hfin).2] at hstep
    exact ⟨hstep.2.1, hstep.2.2, hstep.1⟩
  case released =>
    intro f hf r hr e he
    obtain ⟨l₁, l₂, hlog⟩ := List.append_of_mem hf
    have hr' := hr
    rw [hevent f hf] at hr'
    obtain ⟨⟨q, c, hphase⟩, hended⟩ := releases_eq_some hr'
    rw [hlog] at he
    rcases List.mem_append.mp he with hbefore | hafter
    · obtain ⟨k₁, k₂, rfl⟩ := List.append_of_mem hbefore
      have hein : e ∈ (step callSid nonce conference).log (World.start record) actions := by
        simp [hlog]
      constructor
      · intro hs
        have hlocked := between (I := fun w => Locked (nonce r) w.record)
          (fun w action h => (h.step action).1) hlog (hlocks e hein r hs)
        have hstep : releases? (eventOf callSid nonce conference f.pre f.call) = none :=
          (hlocked.step f.call).2.2
        rw [hr'] at hstep
        cases hstep
      · intro hs
        have hpastf := between (fun w action h => h.step action) hlog (hpast e hein r hs).2.1
        exact (hpastf.quiet (hinv f hf).1 f.call).2.2 hr'
    · rcases List.mem_cons.mp hafter with rfl | hafter
      · constructor
        · intro hs
          rw [hevent e hf] at hs
          obtain ⟨⟨q', c', hphase'⟩, -⟩ := starts_eq_some hs (hinv e hf).1
          cases hphase.symm.trans hphase'
        · intro hs
          obtain ⟨⟨q', c', hphase'⟩, -⟩ := hpast e hf r hs
          cases hphase.symm.trans hphase'
      · obtain ⟨k₁, k₂, rfl⟩ := List.append_of_mem hafter
        have hein : e ∈ (step callSid nonce conference).log (World.start record) actions := by
          simp [hlog]
        have hended' : Past r f.post := by
          rw [((step callSid nonce conference).eq_of_mem_log hf).2]
          exact .inr hended
        have hcut : (step callSid nonce conference).log (World.start record) actions =
            l₁ ++ f :: k₁ ++ e :: k₂ := by
          rw [hlog]
          simp
        have hpaste := between (fun w action h => h.step action) hcut hended'
        rw [hevent e hein]
        exact ⟨(hpaste.quiet (hinv e hein).1 e.call).1, (hpaste.quiet (hinv e hein).1 e.call).2.1⟩
  case declined =>
    intro l₁ a l₂ hlog ha e he
    obtain ⟨k₁, k₂, rfl⟩ := List.append_of_mem he
    have hain : a ∈ (step callSid nonce conference).log (World.start record) actions := by
      simp [hlog]
    have hein : e ∈ (step callSid nonce conference).log (World.start record) actions := by
      simp [hlog]
    have hcut : (step callSid nonce conference).log (World.start record) actions =
        l₁ ++ a :: k₁ ++ e :: k₂ := by
      rw [hlog]
      simp
    obtain ⟨hdeclined, hinve⟩ := between (I := fun w => Declined w.record ∧ Inv nonce w)
      (fun w action h => ⟨(h.1.step h.2 action).1, h.2.step action⟩) hcut ⟨ha, (hinv a hain).2⟩
    rw [hevent e hein]
    exact (hdeclined.step hinve e.call).2
  case credentials =>
    intro e he r code hreply hr
    have heq := (step callSid nonce conference).eq_of_mem_log he
    rw [heq.1] at hreply
    rw [heq.2]
    exact step_reply callSid nonce conference (hinv e he).1 e.call hreply r code rfl hr
  case rejected =>
    intro e he hno
    have heq := (step callSid nonce conference).eq_of_mem_log he
    rw [heq.1] at hno
    rw [heq.2]
    rcases step_record callSid nonce conference e.pre e.call with ⟨-, hsame⟩ | ⟨hyes, -⟩
    · exact hsame
    · rw [hno] at hyes
      cases hyes

def exampleRecord : Record :=
  [("contractor_id", .text "contractor-1"), ("state", .text "screening"),
    ("state_updated_at", .int 900)]

def exampleNonce (r : ℕ) : Str := List.replicate 31 (digit 0) ++ [digit r]

/-- An owner accepts on one device and declines on another. -/
def exampleRequests : List Action :=
  [.claim 0 .accept (py "contractor-1") none (.ofRat 1000) (.ofRat 1000) .answered none,
    .claim 1 .decline (py "contractor-1") none (.ofRat 1000) (.ofRat 1000) .answered none,
    .prepare 0 true, .readBack 0 (.ofRat 1000) true,
    .mark 0 (.ofRat 1001) (.ofRat 1001) .answered, .redirect 0 true,
    .finish 0 (.ofRat 1002) (.ofRat 1002) .answered (some (py "jwt"))]

theorem arbitrated_exampleRequests :
    Arbitrated exampleNonce
      ((step (py "CA1") exampleNonce fun r => py "pickup-" ++ exampleNonce r).log
        (World.start (some exampleRecord)) exampleRequests) := by
  refine arbitrated _ _ _ _ _ fun a ha b hb r r' hr hr' heq => ?_
  have hdevice : ∀ a ∈ exampleRequests, ∀ r, a.request = some r → r = 0 ∨ r = 1 := by
    intro a ha r hr
    simp only [exampleRequests, List.mem_cons, List.not_mem_nil, or_false] at ha
    rcases ha with rfl | rfl | rfl | rfl | rfl | rfl | rfl <;> cases hr <;> simp
  rcases hdevice a ha r hr with rfl | rfl <;> rcases hdevice b hb r' hr' with rfl | rfl
  · rfl
  · revert heq
    decide
  · revert heq
    decide
  · rfl

end HeyKevin.L13
