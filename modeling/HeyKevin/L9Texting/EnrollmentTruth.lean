import HeyKevin.L9Texting.SenderEnrollment
/-!
# What an enrollment says is true

Whatever Twilio, Firestore, the clock and the canceller do, the result of
`ensure_sms_sender_membership` says the truth about the membership.

* `matches_valid`: a number that matches the frozen routing is valid itself.
* `send_spec`: what one request can do.
* `Before`, `After`: what is known before the one create, and after it; each step
  of the function has a `Triple` over them.
* `ensure_truthful`: **at most one create, behind two validations, and a result
  that never hides or invents a change**.
-/
namespace HeyKevin.L9.Enrollment

open HeyKevin.Core L1 L1.Text

abbrev Event := Σ q : Ask, q.Answer

/-! ## Events -/

/-- What was answered to a request that was sent, if the task still waited. -/
def Job.exchange? {α : Type} : Job α → Option (Exchange α)
  | .cancelled _ => none
  | .ran guard exchange => if (checkSyncGuard guard).isNone then some exchange else none

/-- The request was sent. -/
def Job.sent {α : Type} : Job α → Bool
  | .cancelled sent => sent
  | .ran guard _ => (checkSyncGuard guard).isNone

def isCreate (e : Event) : Bool :=
  match e with
  | ⟨.send (.createMembership _ _), job⟩ => Job.sent (α := Unit) job
  | _ => false

def isMembershipRead (e : Event) : Bool :=
  match e with
  | ⟨.send (.fetchMembership _ _), job⟩ => Job.sent (α := Resource) job
  | _ => false

/-- The request was sent and answered so. -/
def Got (request : Request) (a : request.Result) (e : Event) : Prop :=
  ∃ job : Job request.Result, e = ⟨.send request, job⟩ ∧ job.exchange? = some (.answered a)

/-- The request was sent and raised so. -/
def Raised (request : Request) (status : ℤ) (code : Option ℤ) (e : Event) : Prop :=
  ∃ job : Job request.Result, e = ⟨.send request, job⟩ ∧
    job.exchange? = some (.twilioRestException status code)

variable (P : Python) (c : Context)

def ServiceValid (e : Event) : Prop :=
  ∃ service, Got (.fetchService c.serviceSid) service e ∧ serviceVerified c service = true

/-- The campaign is the pinned one, and so is its digest. -/
def CampaignValid (e : Event) : Prop :=
  ∃ campaign, Got (.fetchCampaign c.serviceSid c.campaignSid) campaign e ∧
    campaignVerified c campaign = true ∧ digestVerified P c campaign = true

def AssignmentValid (e : Event) : Prop :=
  ∃ doc : Doc, Got (.queryAssignment c.canonicalNumber) [doc] e ∧
    (validateAssignmentRecord c doc).toBool = true

def RoutingFrozen (frozen : FrozenRoutingSnapshot) (e : Event) : Prop :=
  ∃ incoming : Resource, Got (.queryIncoming c.canonicalNumber) [incoming] e ∧
    validateIncomingResource c incoming = .ok frozen

/-- The routing is valid again, and equal to the frozen one. -/
def RoutingKept (frozen : FrozenRoutingSnapshot) (e : Event) : Prop :=
  ∃ incoming : Resource, Got (.queryIncoming c.canonicalNumber) [incoming] e ∧
    frozen.matches incoming = true ∧ (validateIncomingResource c incoming).toBool = true

def Absent (frozen : FrozenRoutingSnapshot) (e : Event) : Prop :=
  Raised (.fetchMembership c.serviceSid frozen.sid) 404 (some 20404) e

/-- Everything is validated, the membership is absent, and everything is validated again. -/
def validatedTwice (frozen : FrozenRoutingSnapshot) : List (Event → Prop) :=
  [ServiceValid c, CampaignValid P c, AssignmentValid c, RoutingFrozen c frozen, Absent c frozen,
    AssignmentValid c, RoutingKept c frozen, ServiceValid c, CampaignValid P c]

/-- The last membership read was valid for this service, account and number. -/
def LastReadValid (trace : List Event) : Prop :=
  ∃ l₁ pnSid membership e l₂, trace = l₁ ++ e :: l₂ ∧
    Got (.fetchMembership c.serviceSid pnSid) membership e ∧
    validateMembershipResource P c pnSid membership = true ∧
    ∀ f ∈ l₂, isMembershipRead f = false

def Conflict (e : Event) : Prop :=
  ∃ serviceSid pnSid status, Raised (.createMembership serviceSid pnSid) status (some 21712) e

def Created (e : Event) : Prop :=
  ∃ serviceSid pnSid, Got (.createMembership serviceSid pnSid) () e

/-- What `mutated` says is true. -/
structure Honest (mutated : Option Bool) (trace : List Event) : Prop where
  unchanged : mutated = some false → ∀ e ∈ trace, isCreate e = true → Conflict e
  changed : mutated = some true → ∃ e ∈ trace, Created e

/-- **What the function says of the membership is true.** -/
structure Truthful (out : Except Exit SmsSenderEnrollmentResult) (trace : List Event) : Prop where
  creates : trace.countP isCreate ≤ 1
  validated : ∀ l₁ e l₂, trace = l₁ ++ e :: l₂ → isCreate e = true →
    ∃ frozen, InOrder (validatedTwice P c frozen) l₁
  mutated : ∀ result, out = .ok result → Honest result.mutated trace
  enrolled : ∀ result, out = .ok result → result.enrolled = true → LastReadValid P c trace
  escapes : ∀ exit, out = .error exit → exit = .taskCancelled

/-! ## The frozen routing -/

theorem truthy_of_eq {v w : Value} (h : v.eq w = true) : v.truthy = w.truthy := by
  unfold Value.eq at h
  split at h
  · rfl
  · rw [eq_of_beq h]
  · simp only [Value.truthy, eq_of_beq h]
    split <;> simp_all
  · simp only [Value.truthy, eq_of_beq h]
    split <;> simp_all
  · rw [Value.truthy, Value.truthy, eq_of_beq h]
  · rfl
  · rfl
  · rw [of_decide_eq_true h]
  · rfl
  · rename_i xs ys
    cases xs <;> cases ys <;> first | rfl | cases h
  · rename_i d e
    cases d <;> cases e <;> first | rfl | cases h
  · cases h

theorem isStr_of_eq {v w : Value} {s : Str} (h : v.eq w = true) (hw : w.isStr s = true) :
    v.isStr s = true := by
  rw [(Value.isStr_iff w s).mp hw] at h
  rw [Value.eq_str h, Value.isStr_str]
  exact decide_eq_true rfl

theorem getattr_of_str {r : Resource} {name : String} {s : Str} (default : Value)
    (h : getattr r name .none = .str s) : getattr r name default = .str s := by
  unfold getattr at h ⊢
  cases hfind : Entries.find? r name with
  | none =>
    rw [hfind] at h
    cases h
  | some v =>
    rw [hfind] at h
    exact h

section

variable {ε α : Type} {p : Prop} [Decidable p] {e : ε} {x : Except ε α}

theorem refuse_eq_ok {a : α} : (if p then .error e else x) = .ok a ↔ ¬ p ∧ x = .ok a := by
  split
  · rename_i h
    exact ⟨fun heq => (by cases heq), fun hand => absurd h hand.1⟩
  · rename_i h
    exact ⟨fun heq => ⟨h, heq⟩, fun hand => hand.2⟩

theorem refuse_toBool : (if p then .error e else x).toBool = true ↔ ¬ p ∧ x.toBool = true := by
  split
  · rename_i h
    exact ⟨fun heq => (by cases heq), fun hand => absurd h hand.1⟩
  · rename_i h
    exact ⟨fun heq => ⟨h, heq⟩, fun hand => hand.2⟩

end

/-- **A number that matches the frozen routing is valid itself.** -/
theorem matches_valid {frozen : FrozenRoutingSnapshot} {incoming other : Resource}
    (hvalid : validateIncomingResource c incoming = .ok frozen)
    (hmatches : frozen.matches other = true) :
    (validateIncomingResource c other).toBool = true := by
  unfold validateIncomingResource at hvalid
  rw [refuse_eq_ok, refuse_eq_ok] at hvalid
  obtain ⟨-, -, hvalid⟩ := hvalid
  split at hvalid
  · simp only [refuse_eq_ok, Bool.not_eq_true', Bool.not_eq_false, Bool.or_eq_true, not_or,
      Bool.not_eq_true] at hvalid
    obtain ⟨hsid, horigin, htype, hcaps, hurls, hsids, hfallbacks, hfrozen⟩ := hvalid
    cases hfrozen
    simp only [FrozenRoutingSnapshot.matches, Bool.and_eq_true, decide_eq_true_eq] at hmatches
    obtain ⟨⟨⟨⟨⟨⟨⟨⟨⟨⟨⟨⟨⟨⟨⟨⟨⟨⟨msid, mphone⟩, maccount⟩, morigin⟩, mtype⟩, mvoiceUrl⟩, mvoiceMethod⟩,
      mvoiceFallback⟩, -⟩, mstatusUrl⟩, mstatusMethod⟩, msmsUrl⟩, msmsMethod⟩, msmsFallback⟩, -⟩,
      mvoiceApp⟩, msmsApp⟩, mtrunk⟩, mcaps⟩ := hmatches
    unfold validateIncomingResource
    rw [refuse_toBool, refuse_toBool, getattr_of_str _ ((Value.isStr_iff _ _).mp msid)]
    simp only [refuse_toBool, Bool.not_eq_true', Bool.not_eq_false, Bool.or_eq_true, not_or,
      Bool.not_eq_true]
    obtain ⟨⟨⟨⟨⟨hvoiceUrl, hvoiceMethod⟩, hstatusUrl⟩, hstatusMethod⟩, hsmsUrl⟩, hsmsMethod⟩ :=
      hurls
    obtain ⟨⟨hvoiceApp, hsmsApp⟩, htrunk⟩ := hsids
    rw [mcaps]
    refine ⟨isStr_of_eq mphone (by simp), isStr_of_eq maccount (by simp), hsid,
      isStr_of_eq morigin horigin, isStr_of_eq mtype htype, hcaps, ?_, ?_, ?_, rfl⟩
    · exact ⟨⟨⟨⟨⟨isStr_of_eq mvoiceUrl hvoiceUrl, isStr_of_eq mvoiceMethod hvoiceMethod⟩,
        isStr_of_eq mstatusUrl hstatusUrl⟩, isStr_of_eq mstatusMethod hstatusMethod⟩,
        isStr_of_eq msmsUrl hsmsUrl⟩, isStr_of_eq msmsMethod hsmsMethod⟩
    · exact ⟨⟨(truthy_of_eq mvoiceApp).trans hvoiceApp, (truthy_of_eq msmsApp).trans hsmsApp⟩,
        (truthy_of_eq mtrunk).trans htrunk⟩
    · exact ⟨(truthy_of_eq mvoiceFallback).trans hfallbacks.1,
        (truthy_of_eq msmsFallback).trans hfallbacks.2⟩
  · cases hvalid

/-! ## One request -/

/-- How a request fails. -/
inductive Failed {α : Type} (job : Job α) : Exit → Prop
  | cancelled (sent : Bool) (h : job = .cancelled sent) : Failed job .taskCancelled
  | budget (h : job.sent = false) : Failed job .budgetExceeded
  | operation (h : job.sent = false) : Failed job .operationCancelled
  | twilio (status : ℤ) (code : Option ℤ)
      (h : job.exchange? = some (.twilioRestException status code)) :
      Failed job (.twilioRestException status code)
  | raised (h : job.exchange? = some .raised) : Failed job .exception

variable {P c} {Pre : Session Ask.Answer Locals → Prop}

theorem runInExecutor_spec {α : Type} (job : Job α) :
    Triple Pre (runInExecutor job) (fun a s => Pre s ∧ job.exchange? = some (.answered a))
      fun e s => Pre s ∧ Failed job e := by
  cases job with
  | cancelled sent => exact .raise fun s hs => ⟨hs, .cancelled sent rfl⟩
  | ran guard exchange =>
    cases hguard : checkSyncGuard guard with
    | some exit =>
      simp only [runInExecutor, hguard]
      have hsent : (Job.ran guard exchange).sent = false := by rw [Job.sent, hguard]; rfl
      refine .raise fun s hs => ⟨hs, ?_⟩
      unfold checkSyncGuard at hguard
      split at hguard
      · cases hguard
        exact .operation hsent
      · split at hguard
        · cases hguard
          exact .budget hsent
        · cases hguard
    | none =>
      have hexchange : (Job.ran guard exchange).exchange? = some exchange := by
        rw [Job.exchange?, hguard]
        rfl
      simp only [runInExecutor, hguard]
      cases exchange with
      | answered a => exact .ret fun s hs => ⟨hs, hexchange⟩
      | twilioRestException status code => exact .raise fun s hs => ⟨hs, .twilio _ _ hexchange⟩
      | raised => exact .raise fun s hs => ⟨hs, .raised hexchange⟩

/-- **One request** is asked, and it is answered or fails. -/
theorem send_spec (request : Request) :
    Triple Pre (send request)
      (fun a s => ∃ s₀ job, Pre s₀ ∧ s = s₀.push ⟨.send request, job⟩ ∧
        Job.exchange? (α := request.Result) job = some (.answered a))
      fun e s => ∃ s₀ job, Pre s₀ ∧ s = s₀.push ⟨.send request, job⟩ ∧
        Failed (α := request.Result) job e := by
  refine Triple.bind (M := fun job s => ∃ s₀, Pre s₀ ∧ s = s₀.push ⟨.send request, job⟩)
    (.ask fun s job hs => ⟨s, hs, rfl⟩) fun job => ?_
  refine (runInExecutor_spec job).weaken (fun s hs => hs) ?_ ?_
  · rintro a s ⟨⟨s₀, hs₀, rfl⟩, hexchange⟩
    exact ⟨s₀, job, hs₀, rfl, hexchange⟩
  · rintro e s ⟨⟨s₀, hs₀, rfl⟩, hfailed⟩
    exact ⟨s₀, job, hs₀, rfl, hfailed⟩

/-! ## Before the create -/

/-- No create is sent, and the requests so far were answered as they should be. -/
structure Before (kinds : List (Event → Prop)) (s : Session Ask.Answer Locals) : Prop where
  locals : s.locals = ⟨false, false, some false⟩
  creates : ∀ e ∈ s.trace, isCreate e = false
  inOrder : InOrder kinds s.trace

/-- There is no create, or the one create is behind two validations. -/
def Once (P : Python) (c : Context) (trace : List Event) : Prop :=
  (∀ e ∈ trace, isCreate e = false) ∨
    ∃ l₁ e l₂ frozen, trace = l₁ ++ e :: l₂ ∧ (∀ f ∈ l₁, isCreate f = false) ∧
      (∀ f ∈ l₂, isCreate f = false) ∧ InOrder (validatedTwice P c frozen) l₁

/-- What is known where the block of the function is left. -/
structure Told (P : Python) (c : Context) (exit : Exit) (s : Session Ask.Answer Locals) : Prop where
  once : Once P c s.trace
  returned : ∀ result, exit = .returned result → Honest result.mutated s.trace ∧
    (result.enrolled = true → LastReadValid P c s.trace)
  raised : (∀ result, exit ≠ .returned result) → exit ≠ .taskCancelled →
    Honest (if s.locals.createAttempted then s.locals.mutatedState else some false) s.trace

theorem honest_unsent {trace : List Event} (h : ∀ e ∈ trace, isCreate e = false) :
    Honest (some false) trace := by
  refine ⟨fun _ e he hcreate => ?_, fun heq => by cases heq⟩
  rw [h e he] at hcreate
  cases hcreate

theorem honest_unknown (trace : List Event) : Honest none trace :=
  ⟨fun h => (by cases h), fun h => (by cases h)⟩

section

variable {kinds : List (Event → Prop)} {s : Session Ask.Answer Locals}

theorem Before.push (h : Before kinds s) {e : Event} (he : isCreate e = false) :
    Before kinds (s.push e) := by
  refine ⟨h.locals, fun f hf => ?_, h.inOrder.append_right [e]⟩
  rcases List.mem_append.mp hf with hf | hf
  · exact h.creates f hf
  · rw [List.mem_singleton.mp hf]
    exact he

theorem Before.pushed (h : Before kinds s) {e : Event} (he : isCreate e = false)
    {kind : Event → Prop} (hkind : kind e) : Before (kinds ++ [kind]) (s.push e) :=
  ⟨h.locals, (h.push he).creates, h.inOrder.snoc hkind⟩

theorem Before.imp {kinds' : List (Event → Prop)} (h : Before kinds s)
    (himp : List.Forall₂ (fun kind kind' => ∀ e, kind e → kind' e) kinds kinds') :
    Before kinds' s :=
  ⟨h.locals, h.creates, h.inOrder.imp himp⟩

theorem Before.last {kind kind' : Event → Prop} (h : Before (kinds ++ [kind]) s)
    (himp : ∀ e, kind e → kind' e) : Before (kinds ++ [kind']) s :=
  h.imp (List.rel_append (List.forall₂_same.mpr fun _ _ _ he => he) (.cons himp .nil))

theorem Before.told (h : Before kinds s) {exit : Exit}
    (hexit : ∀ result, exit = .returned result → result.mutated = some false ∧
      (result.enrolled = true → LastReadValid P c s.trace)) : Told P c exit s := by
  refine ⟨.inl h.creates, fun result heq => ?_, fun _ _ => ?_⟩
  · obtain ⟨hmutated, henrolled⟩ := hexit result heq
    rw [hmutated]
    exact ⟨honest_unsent h.creates, henrolled⟩
  · rw [h.locals]
    exact honest_unsent h.creates

theorem Before.refused (h : Before kinds s) (status : EnrollmentStatus)
    (reason : EnrollmentReason) : Told P c (refused status reason) s :=
  h.told fun result heq => by
    cases heq
    exact ⟨rfl, fun henrolled => by cases henrolled⟩

theorem Failed.told {α : Type} {job : Job α} {exit : Exit} (hfailed : Failed job exit)
    (h : Before kinds s) : Told P c exit s :=
  h.told fun result heq => by
    subst heq
    cases hfailed

/-- The function returns, and what it says is true. -/
def Left (P : Python) (c : Context) (exit : Exit) (s : Session Ask.Answer Locals) : Prop :=
  Told P c exit s ∧ ∃ result, exit = .returned result

theorem check_left (b : Bool) (status : EnrollmentStatus) (reason : EnrollmentReason) :
    Triple (Before kinds) (.check b (refused status reason)) (fun _ s => Before kinds s ∧ b = true)
      (Left P c) :=
  .check fun _ hs _ => ⟨hs.refused status reason, _, rfl⟩

theorem checkAsyncGuard_left :
    Triple (Before kinds) (checkAsyncGuard (some false)) (fun _ => Before kinds) (Left P c) := by
  refine Triple.bind (M := fun _ => Before kinds) (.ask fun s reading hs => hs.push rfl)
    fun reading => ?_
  refine (check_left _ _ _).bind fun _ => .given fun _ => ?_
  exact (check_left _ _ _).weaken (fun s hs => hs) (fun _ _ hs => hs.1) fun e s he => he

theorem check_before (b : Bool) (status : EnrollmentStatus) (reason : EnrollmentReason) :
    Triple (Before kinds) (.check b (refused status reason)) (fun _ s => Before kinds s ∧ b = true)
      (Told P c) :=
  (check_left b status reason).weaken (fun _ hs => hs) (fun _ _ hs => hs) fun _ _ he => he.1

theorem checkAsyncGuard_before :
    Triple (Before kinds) (checkAsyncGuard (some false)) (fun _ => Before kinds) (Told P c) :=
  checkAsyncGuard_left.weaken (fun _ hs => hs) (fun _ _ hs => hs) fun _ _ he => he.1

theorem send_before (request : Request)
    (hrequest : ∀ job, isCreate ⟨.send request, job⟩ = false) :
    Triple (Before kinds) (send request) (fun a => Before (kinds ++ [Got request a]))
      (Told P c) := by
  refine (send_spec request).weaken (fun s hs => hs) ?_ ?_
  · rintro a s ⟨s₀, job, hs₀, rfl, hexchange⟩
    exact hs₀.pushed (hrequest job) ⟨job, rfl, hexchange⟩
  · rintro e s ⟨s₀, job, hs₀, rfl, hfailed⟩
    exact hfailed.told (hs₀.push (hrequest job))

theorem verifyService_spec : Triple (Before []) (verifyService P c)
    (fun _ => Before [ServiceValid c, CampaignValid P c]) (Told P c) := by
  refine checkAsyncGuard_before.bind fun _ => ?_
  refine (send_before _ fun _ => rfl).bind fun service => ?_
  refine checkAsyncGuard_before.bind fun _ => ?_
  refine (send_before _ fun _ => rfl).bind fun campaign => ?_
  refine (check_before _ _ _).bind fun _ => .given fun hservice => ?_
  refine (check_before _ _ _).bind fun _ => .given fun hcampaign => ?_
  refine (check_before _ _ _).weaken (fun s hs => hs) (fun _ _ hs => ?_) fun e s he => he
  refine hs.1.imp (.cons (fun e he => ?_) (.cons (fun e he => ?_) .nil))
  · exact ⟨service, he, hservice⟩
  · exact ⟨campaign, he, hcampaign, hs.2⟩

theorem verifyAssignment_spec : Triple (Before kinds) (verifyAssignment c)
    (fun _ => Before (kinds ++ [AssignmentValid c])) (Told P c) := by
  refine checkAsyncGuard_before.bind fun _ => ?_
  refine (send_before _ fun _ => rfl).bind fun (docs : List Doc) => ?_
  cases docs with
  | nil => exact .raise fun s hs => hs.refused _ _
  | cons doc docs =>
    cases docs with
    | nil =>
      simp only
      cases hdoc : validateAssignmentRecord c doc with
      | ok _ => exact .ret fun s hs => hs.last fun e he => ⟨doc, he, by rw [hdoc]; rfl⟩
      | error reason => exact .raise fun s hs => hs.refused _ _
    | cons _ _ => exact .raise fun s hs => hs.refused _ _

theorem freezeRouting_spec : Triple (Before kinds) (freezeRouting c)
    (fun frozen s => Before (kinds ++ [RoutingFrozen c frozen]) s ∧
      ∃ incoming, validateIncomingResource c incoming = .ok frozen) (Told P c) := by
  refine checkAsyncGuard_before.bind fun _ => ?_
  refine (send_before _ fun _ => rfl).bind fun (numbers : List Resource) => ?_
  cases numbers with
  | nil => exact .raise fun s hs => hs.refused _ _
  | cons incoming numbers =>
    cases numbers with
    | nil =>
      simp only
      cases hincoming : validateIncomingResource c incoming with
      | ok frozen =>
        exact .ret fun s hs => ⟨hs.last fun e he => ⟨incoming, he, hincoming⟩, incoming, hincoming⟩
      | error reason => exact .raise fun s hs => hs.refused _ _
    | cons _ _ => exact .raise fun s hs => hs.refused _ _

theorem only?_eq_some {α : Type} {xs : List α} {x : α} (h : only? xs = some x) : xs = [x] := by
  unfold only? at h
  split at h
  · rw [Option.some.inj h]
  · cases h

theorem recheck_spec {incoming : Resource} {frozen : FrozenRoutingSnapshot}
    (hvalid : validateIncomingResource c incoming = .ok frozen) :
    Triple (Before kinds) (recheck P c frozen)
      (fun _ => Before (kinds ++ [AssignmentValid c, RoutingKept c frozen, ServiceValid c,
        CampaignValid P c])) (Told P c) := by
  refine checkAsyncGuard_before.bind fun _ => ?_
  refine (send_before _ fun _ => rfl).bind fun (docs : List Doc) => ?_
  refine (Triple.need fun s hs _ => hs.refused _ _).bind fun doc => .given fun hdocs => ?_
  refine (check_before _ _ _).bind fun _ => .given fun hdoc => ?_
  refine (send_before _ fun _ => rfl).bind fun (numbers : List Resource) => ?_
  refine (Triple.need fun s hs _ => hs.refused _ _).bind fun other => .given fun hnumbers => ?_
  refine (check_before _ _ _).bind fun _ => .given fun hmatches => ?_
  refine (send_before _ fun _ => rfl).bind fun (service : Resource) => ?_
  refine (send_before _ fun _ => rfl).bind fun (campaign : Resource) => ?_
  refine (check_before _ _ _).bind fun _ => .given fun hverified => ?_
  refine (check_before _ _ _).weaken (fun s hs => hs) (fun _ _ hs => ?_) fun e s he => he
  rw [Bool.and_eq_true] at hverified
  rw [only?_eq_some hdocs, only?_eq_some hnumbers] at hs
  have hkinds := hs.1
  simp only [List.append_assoc, List.cons_append, List.nil_append] at hkinds
  refine hkinds.imp (List.rel_append (List.forall₂_same.mpr fun kind _ e he => he)
    (.cons (fun e he => ?_) (.cons (fun e he => ?_) (.cons (fun e he => ?_)
      (.cons (fun e he => ?_) .nil)))))
  · exact ⟨doc, he, hdoc⟩
  · exact ⟨other, he, hmatches, matches_valid c hvalid hmatches⟩
  · exact ⟨service, he, hverified.1⟩
  · exact ⟨campaign, he, hverified.2, hs.2⟩

theorem lastReadValid_push {trace : List Event} {pnSid : Str} {membership : Resource} {e : Event}
    (he : Got (.fetchMembership c.serviceSid pnSid) membership e)
    (hvalid : validateMembershipResource P c pnSid membership = true) :
    LastReadValid P c (trace ++ [e]) :=
  ⟨trace, pnSid, membership, e, [], rfl, he, hvalid, List.forall_mem_nil _⟩

theorem requireAbsent_spec {frozen : FrozenRoutingSnapshot} :
    Triple (Before kinds) (requireAbsent P c frozen.sid)
      (fun _ => Before (kinds ++ [Absent c frozen])) (Told P c) := by
  refine checkAsyncGuard_before.bind fun _ => ?_
  refine Triple.bind (M := fun membership s =>
    (membership = none ∧ Before (kinds ++ [Absent c frozen]) s) ∨
      ∃ m s₀ e, membership = some m ∧ Before kinds s₀ ∧ s = s₀.push e ∧ isCreate e = false ∧
        Got (.fetchMembership c.serviceSid frozen.sid) m e) ?_ fun membership => ?_
  · refine Triple.handle (((send_spec _).bind fun (m : Resource) => .ret ?_)) fun exit => ?_
    · rintro s ⟨s₀, job, hs₀, rfl, hexchange⟩
      exact .inr ⟨m, s₀, _, rfl, hs₀, rfl, rfl, job, rfl, hexchange⟩
    · cases exit with
      | twilioRestException status code =>
        simp only
        split
        · rename_i habsent
          obtain ⟨rfl, rfl⟩ := habsent
          refine .ret ?_
          rintro s ⟨s₀, job, hs₀, rfl, hfailed⟩
          cases hfailed with
          | twilio _ _ hexchange => exact .inl ⟨rfl, hs₀.pushed rfl ⟨job, rfl, hexchange⟩⟩
        · refine .raise ?_
          rintro s ⟨s₀, job, hs₀, rfl, -⟩
          exact (hs₀.push rfl).refused _ _
      | exception =>
        refine .raise ?_
        rintro s ⟨s₀, job, hs₀, rfl, -⟩
        exact (hs₀.push rfl).refused _ _
      | _ =>
        refine .raise ?_
        rintro s ⟨s₀, job, hs₀, rfl, hfailed⟩
        exact hfailed.told (hs₀.push rfl)
  · cases membership with
    | none =>
      refine .ret ?_
      rintro s (⟨-, hs⟩ | ⟨m, -, -, hnone, -⟩)
      · exact hs
      · cases hnone
    | some membership =>
      refine Triple.bind (M := fun _ => Before kinds) ?_ fun _ => .raise fun s hs =>
        hs.refused _ _
      refine (Triple.check ?_).weaken (fun s hs => hs) ?_ fun e s he => he
      · rintro s (⟨hnone, -⟩ | ⟨m, s₀, e, heq, hs₀, rfl, hcreate, hgot⟩) hvalid
        · cases hnone
        · cases heq
          rw [Bool.not_eq_false'] at hvalid
          refine (hs₀.push hcreate).told fun result hresult => ?_
          cases hresult
          exact ⟨rfl, fun _ => lastReadValid_push hgot hvalid⟩
      · rintro _ s ⟨⟨hnone, -⟩ | ⟨m, s₀, e, -, hs₀, rfl, hcreate, -⟩, -⟩
        · cases hnone
        · exact hs₀.push hcreate

end

/-! ## The create and what follows -/

/-- The create was sent, and the variables say what is known of it. -/
structure After (P : Python) (c : Context) (s : Session Ask.Answer Locals) : Prop where
  attempted : s.locals.createAttempted = true
  once : Once P c s.trace
  mutated : Honest s.locals.mutatedState s.trace
  cleanly : s.locals.createSucceededCleanly = true → ∃ e ∈ s.trace, Created e

section

variable {s : Session Ask.Answer Locals}

theorem Once.push {trace : List Event} (h : Once P c trace) {e : Event} (he : isCreate e = false) :
    Once P c (trace ++ [e]) := by
  rcases h with h | ⟨l₁, create, l₂, frozen, rfl, h₁, h₂, horder⟩
  · refine .inl fun f hf => ?_
    rcases List.mem_append.mp hf with hf | hf
    · exact h f hf
    · rw [List.mem_singleton.mp hf]
      exact he
  · refine .inr ⟨l₁, create, l₂ ++ [e], frozen, by simp, h₁, fun f hf => ?_, horder⟩
    rcases List.mem_append.mp hf with hf | hf
    · exact h₂ f hf
    · rw [List.mem_singleton.mp hf]
      exact he

theorem Honest.push {mutated : Option Bool} {trace : List Event} (h : Honest mutated trace)
    {e : Event} (he : isCreate e = false) : Honest mutated (trace ++ [e]) := by
  refine ⟨fun hfalse f hf hcreate => ?_, fun htrue => ?_⟩
  · rcases List.mem_append.mp hf with hf | hf
    · exact h.unchanged hfalse f hf hcreate
    · rw [List.mem_singleton.mp hf, he] at hcreate
      cases hcreate
  · obtain ⟨f, hf, hcreated⟩ := h.changed htrue
    exact ⟨f, List.mem_append_left _ hf, hcreated⟩

theorem After.push (h : After P c s) {e : Event} (he : isCreate e = false) :
    After P c (s.push e) := by
  refine ⟨h.attempted, h.once.push he, h.mutated.push he, fun hcleanly => ?_⟩
  obtain ⟨f, hf, hcreated⟩ := h.cleanly hcleanly
  exact ⟨f, List.mem_append_left _ hf, hcreated⟩

/-- The one create, at the end of the trace. -/
theorem once_created {frozen : FrozenRoutingSnapshot} (h : Before (validatedTwice P c frozen) s)
    (e : Event) : Once P c (s.trace ++ [e]) :=
  .inr ⟨s.trace, e, [], frozen, rfl, h.creates, List.forall_mem_nil _, h.inOrder⟩

/-- A create that is answered as a conflict changes nothing. -/
theorem honest_conflict {frozen : FrozenRoutingSnapshot}
    (h : Before (validatedTwice P c frozen) s) {e : Event} (he : Conflict e) :
    Honest (some false) (s.trace ++ [e]) := by
  refine ⟨fun _ f hf hcreate => ?_, fun heq => by cases heq⟩
  rcases List.mem_append.mp hf with hf | hf
  · rw [h.creates f hf] at hcreate
    cases hcreate
  · rw [List.mem_singleton.mp hf]
    exact he

theorem create_spec {frozen : FrozenRoutingSnapshot} :
    Triple (Before (validatedTwice P c frozen)) (create c frozen.sid) (fun _ => After P c)
      (Told P c) := by
  refine checkAsyncGuard_before.bind fun _ => ?_
  refine Triple.bind (M := fun _ s => ∃ s₀ : Session Ask.Answer Locals,
    Before (validatedTwice P c frozen) s₀ ∧ s = { s₀ with locals := ⟨true, false, some false⟩ })
    (.assign fun s hs => ⟨s, hs, by rw [hs.locals]⟩) fun _ => ?_
  refine Triple.handle (((send_spec _).bind fun _ => .assign ?_)) fun exit => ?_
  · rintro s ⟨s₀, job, ⟨s₁, hs₁, rfl⟩, rfl, hexchange⟩
    have hcreated : Created ⟨.send (.createMembership c.serviceSid frozen.sid), job⟩ :=
      ⟨_, _, job, rfl, hexchange⟩
    have hin : ∃ e ∈ s₁.trace ++ [⟨Ask.send (.createMembership c.serviceSid frozen.sid), job⟩],
        Created e := ⟨_, List.mem_append_right _ (List.mem_singleton.mpr rfl), hcreated⟩
    exact ⟨rfl, once_created hs₁ _, ⟨fun h => (by cases h), fun _ => hin⟩, fun _ => hin⟩
  · cases exit with
    | twilioRestException status code =>
      simp only
      split
      · rename_i hcode
        refine Triple.bind (M := fun _ s => ∃ s₁ : Session Ask.Answer Locals, ∃ e,
          Before (validatedTwice P c frozen) s₁ ∧ s.trace = s₁.trace ++ [e] ∧ Conflict e)
          (.assign ?_) fun _ => .raise ?_
        · rintro s ⟨s₀, job, ⟨s₁, hs₁, rfl⟩, rfl, hfailed⟩
          cases hfailed with
          | twilio _ _ hexchange =>
            exact ⟨s₁, _, hs₁, rfl, _, _, status, job, rfl, hcode ▸ hexchange⟩
        · rintro s ⟨s₁, e, hs₁, htrace, hconflict⟩
          refine ⟨htrace ▸ once_created hs₁ e, fun result heq => ?_,
            fun hnot _ => absurd rfl (hnot _)⟩
          cases heq
          exact ⟨htrace ▸ honest_conflict hs₁ hconflict, fun henrolled => by cases henrolled⟩
      · refine .assign ?_
        rintro s ⟨s₀, job, ⟨s₁, hs₁, rfl⟩, rfl, -⟩
        exact ⟨rfl, once_created hs₁ _, honest_unknown _, fun h => by cases h⟩
    | exception =>
      refine .assign ?_
      rintro s ⟨s₀, job, ⟨s₁, hs₁, rfl⟩, rfl, -⟩
      exact ⟨rfl, once_created hs₁ _, honest_unknown _, fun h => by cases h⟩
    | taskCancelled =>
      refine .raise ?_
      rintro s ⟨s₀, job, ⟨s₁, hs₁, rfl⟩, rfl, -⟩
      exact ⟨once_created hs₁ _, fun _ heq => (by cases heq), fun _ hnot => absurd rfl hnot⟩
    | returned result =>
      refine .raise ?_
      rintro s ⟨s₀, job, -, -, hfailed⟩
      cases hfailed
    | budgetExceeded =>
      -- the guard of the thread has tripped, and the create was not sent
      refine .raise ?_
      rintro s ⟨s₀, job, ⟨s₁, hs₁, rfl⟩, rfl, hfailed⟩
      cases hfailed with
      | budget hunsent =>
        exact ⟨once_created hs₁ _, fun _ heq => (by cases heq),
          fun _ _ => honest_unsent (hs₁.push (e := ⟨_, job⟩) hunsent).creates⟩
    | operationCancelled =>
      refine .raise ?_
      rintro s ⟨s₀, job, ⟨s₁, hs₁, rfl⟩, rfl, hfailed⟩
      cases hfailed with
      | operation hunsent =>
        exact ⟨once_created hs₁ _, fun _ heq => (by cases heq),
          fun _ _ => honest_unsent (hs₁.push (e := ⟨_, job⟩) hunsent).creates⟩

/-! ### Reading back -/

variable {Held : Session Ask.Answer Locals → Prop}

/-- What holds after the create and is kept by the reads of the assignment and the routing. -/
structure Kept (P : Python) (c : Context) (mutated : Option Bool)
    (Held : Session Ask.Answer Locals → Prop) : Prop where
  after : ∀ s, Held s → After P c s ∧ s.locals.mutatedState = mutated
  push : ∀ s e, Held s → isCreate e = false → isMembershipRead e = false → Held (s.push e)

variable {mutated : Option Bool}

theorem After.refused (h : After P c s) (hmutated : s.locals.mutatedState = mutated)
    (status : EnrollmentStatus) (reason : EnrollmentReason) :
    Told P c (refused status reason mutated) s := by
  refine ⟨h.once, fun result heq => ?_, fun hnot _ => absurd rfl (hnot _)⟩
  cases heq
  exact ⟨hmutated ▸ h.mutated, fun henrolled => by cases henrolled⟩

theorem Failed.told_after {α : Type} {job : Job α} {exit : Exit} (hfailed : Failed job exit)
    (h : After P c s) : Told P c exit s := by
  refine ⟨h.once, fun result heq => ?_, fun _ _ => ?_⟩
  · subst heq
    cases hfailed
  · rw [h.attempted]
    exact h.mutated

theorem check_after (hkept : Kept P c mutated Held) (b : Bool) (status : EnrollmentStatus)
    (reason : EnrollmentReason) : Triple Held (.check b (refused status reason mutated))
      (fun _ s => Held s ∧ b = true) (Told P c) :=
  .check fun s hs _ => (hkept.after s hs).1.refused (hkept.after s hs).2 status reason

theorem checkAsyncGuard_after (hkept : Kept P c mutated Held) :
    Triple Held (checkAsyncGuard mutated) (fun _ => Held) (Told P c) := by
  refine Triple.bind (M := fun _ => Held) (.ask fun s reading hs => hkept.push s _ hs rfl rfl)
    fun reading => ?_
  refine (check_after hkept _ _ _).bind fun _ => .given fun _ => ?_
  exact (check_after hkept _ _ _).weaken (fun s hs => hs) (fun _ _ hs => hs.1) fun e s he => he

theorem send_after (hkept : Kept P c mutated Held) (request : Request)
    (hcreate : ∀ job, isCreate ⟨.send request, job⟩ = false)
    (hread : ∀ job, isMembershipRead ⟨.send request, job⟩ = false) :
    Triple Held (send request) (fun _ => Held) (Told P c) := by
  refine (send_spec request).weaken (fun s hs => hs) ?_ ?_
  · rintro a s ⟨s₀, job, hs₀, rfl, -⟩
    exact hkept.push s₀ _ hs₀ (hcreate job) (hread job)
  · rintro e s ⟨s₀, job, hs₀, rfl, hfailed⟩
    exact hfailed.told_after ((hkept.after s₀ hs₀).1.push (hcreate job))

theorem kept_after (mutated : Option Bool) :
    Kept P c mutated fun s => After P c s ∧ s.locals.mutatedState = mutated :=
  ⟨fun _ hs => hs, fun _ _ hs hcreate _ => ⟨hs.1.push hcreate, hs.2⟩⟩

theorem LastReadValid.push {trace : List Event} (h : LastReadValid P c trace) {e : Event}
    (he : isMembershipRead e = false) : LastReadValid P c (trace ++ [e]) := by
  obtain ⟨l₁, pnSid, membership, f, l₂, rfl, hgot, hvalid, hl₂⟩ := h
  refine ⟨l₁, pnSid, membership, f, l₂ ++ [e], by simp, hgot, hvalid, fun g hg => ?_⟩
  rcases List.mem_append.mp hg with hg | hg
  · exact hl₂ g hg
  · rw [List.mem_singleton.mp hg]
    exact he

theorem kept_read (mutated : Option Bool) :
    Kept P c mutated fun s => (After P c s ∧ s.locals.mutatedState = mutated) ∧
      LastReadValid P c s.trace :=
  ⟨fun _ hs => hs.1, fun _ _ hs hcreate hread => ⟨⟨hs.1.1.push hcreate, hs.1.2⟩, hs.2.push hread⟩⟩

theorem readBack_spec {frozen : FrozenRoutingSnapshot} :
    Triple (After P c) (readBack P c frozen) (fun _ _ => False) (Told P c) := by
  refine Triple.bind (M := fun mutated s => After P c s ∧ s.locals.mutatedState = mutated)
    (.look fun s hs => ⟨hs, rfl⟩) fun mutated => ?_
  refine (checkAsyncGuard_after (kept_after mutated)).bind fun _ => ?_
  refine Triple.bind (M := fun readback s =>
    (After P c s ∧ s.locals.mutatedState = mutated) ∧ ∀ m, readback.resource = some m →
      validateMembershipResource P c frozen.sid m = true → LastReadValid P c s.trace) ?_
    fun readback => ?_
  · refine Triple.handle (((send_spec _).bind fun (m : Resource) => .ret ?_)) fun exit => ?_
    · rintro s ⟨s₀, job, hs₀, rfl, hexchange⟩
      refine ⟨⟨hs₀.1.push rfl, hs₀.2⟩, fun m' heq hvalid => ?_⟩
      cases heq
      exact lastReadValid_push ⟨job, rfl, hexchange⟩ hvalid
    · cases exit with
      | twilioRestException status code =>
        refine .ret ?_
        rintro s ⟨s₀, job, hs₀, rfl, -⟩
        exact ⟨⟨hs₀.1.push rfl, hs₀.2⟩, fun m heq => by cases heq⟩
      | exception =>
        refine .ret ?_
        rintro s ⟨s₀, job, hs₀, rfl, -⟩
        exact ⟨⟨hs₀.1.push rfl, hs₀.2⟩, fun m heq => by cases heq⟩
      | _ =>
        refine .raise ?_
        rintro s ⟨s₀, job, hs₀, rfl, hfailed⟩
        exact hfailed.told_after (hs₀.1.push rfl)
  · refine (Triple.need fun s hs _ => hs.1.1.refused hs.1.2 _ _).bind fun membership =>
      .given fun hmembership => ?_
    refine (Triple.check fun s hs _ => hs.1.1.refused hs.1.2 _ _).bind fun _ =>
      .given fun hvalid => ?_
    refine Triple.pre (P := fun s => (After P c s ∧ s.locals.mutatedState = mutated) ∧
      LastReadValid P c s.trace) ?_ fun s hs => ⟨hs.1, hs.2 membership hmembership hvalid⟩
    refine (send_after (kept_read mutated) _ (fun _ => rfl) fun _ => rfl).bind fun _ => ?_
    refine (Triple.need fun s hs _ => hs.1.1.refused hs.1.2 _ _).bind fun doc => .given fun _ => ?_
    refine (check_after (kept_read mutated) _ _ _).bind fun _ => .given fun _ => ?_
    refine (send_after (kept_read mutated) _ (fun _ => rfl) fun _ => rfl).bind fun _ => ?_
    refine (Triple.need fun s hs _ => hs.1.1.refused hs.1.2 _ _).bind fun other =>
      .given fun _ => ?_
    refine (check_after (kept_read mutated) _ _ _).bind fun _ => .given fun _ => ?_
    refine Triple.bind (M := fun cleanly s => (After P c s ∧ LastReadValid P c s.trace) ∧
      s.locals.createSucceededCleanly = cleanly) (.look fun s hs => ⟨⟨hs.1.1, hs.2⟩, rfl⟩)
      fun cleanly => .raise ?_
    rintro s ⟨⟨hs, hread⟩, hcleanly⟩
    refine ⟨hs.once, fun result heq => ?_, fun hnot _ => absurd rfl (hnot _)⟩
    cases heq
    refine ⟨?_, fun _ => hread⟩
    cases cleanly with
    | true => exact ⟨fun h => (by cases h), fun _ => hs.cleanly hcleanly⟩
    | false => exact honest_unknown _

/-! ## The whole function -/

theorem enroll_spec : Triple (Before []) (enroll P c) (fun _ _ => False) (Told P c) := by
  refine verifyService_spec.bind fun _ => verifyAssignment_spec.bind fun _ => ?_
  refine freezeRouting_spec.bind fun frozen => .given fun ⟨incoming, hincoming⟩ => ?_
  refine requireAbsent_spec.bind fun _ => (recheck_spec hincoming).bind fun _ => ?_
  exact create_spec.bind fun _ => readBack_spec

/-- What is known where the function is left. -/
def Final (P : Python) (c : Context) (exit : Exit) (s : Session Ask.Answer Locals) : Prop :=
  Told P c exit s ∧ ((∃ result, exit = .returned result) ∨ exit = .taskCancelled)

theorem report_spec (exit : Exit) :
    Triple (Told P c exit) (report exit) (fun _ _ => False) (Final P c) := by
  refine Triple.bind (M := fun locals s => Told P c exit s ∧ s.locals = locals)
    (.look fun s hs => ⟨hs, rfl⟩) fun locals => ?_
  have hrefused : ∀ status reason, (∀ result, exit ≠ .returned result) → exit ≠ .taskCancelled →
      Triple (fun s => Told P c exit s ∧ s.locals = locals)
        (.raise (refused status reason
          (if locals.createAttempted then locals.mutatedState else some false)) :
            Enroll SmsSenderEnrollmentResult) (fun _ _ => False) (Final P c) := by
    refine fun status reason hnot hcancelled => .raise ?_
    rintro s ⟨hs, rfl⟩
    refine ⟨⟨hs.once, fun result heq => ?_, fun h _ => absurd rfl (h _)⟩, .inl ⟨_, rfl⟩⟩
    cases heq
    exact ⟨hs.raised hnot hcancelled, fun henrolled => by cases henrolled⟩
  cases exit with
  | returned result => exact .raise fun s hs => ⟨hs.1, .inl ⟨result, rfl⟩⟩
  | taskCancelled => exact .raise fun s hs => ⟨hs.1, .inr rfl⟩
  | _ => exact hrefused _ _ (fun _ h => by cases h) fun h => by cases h

theorem gates_spec (N : Numbers) (settings : Settings) (contractorId number : Value) :
    Triple (Before []) (gates P c N settings contractorId number) (fun _ => Before [])
      (Left P c) := by
  iterate 9 refine (check_left _ _ _).bind fun _ => .given fun _ => ?_
  exact (check_left _ _ _).weaken (fun s hs => hs) (fun _ _ hs => hs.1) fun e s he => he

theorem bindClients_spec : Triple (Before []) (bindClients c) (fun _ => Before []) (Left P c) := by
  refine Triple.bind (M := fun _ => Before []) (.ask fun s client hs => hs.push rfl)
    fun (client : Option ClientIdentity) => ?_
  cases client with
  | none => exact .raise fun s hs => ⟨hs.refused _ _, _, rfl⟩
  | some client =>
    refine (check_left _ _ _).bind fun _ => .given fun _ => ?_
    refine Triple.bind (M := fun _ => Before []) (.ask fun s project hs => hs.push rfl)
      fun (project : Option Value) => ?_
    cases project with
    | none => exact .raise fun s hs => ⟨hs.refused _ _, _, rfl⟩
    | some project =>
      exact (check_left _ _ _).weaken (fun s hs => hs) (fun _ _ hs => hs.1) fun e s he => he

theorem ensureSmsSenderMembership_spec (N : Numbers) (settings : Settings)
    (contractorId number : Value) :
    Triple (Before []) (ensureSmsSenderMembership P N settings contractorId number)
      (fun result => Told P (contextOf settings contractorId number) (.returned result))
      fun exit s => Told P (contextOf settings contractorId number) exit s ∧
        exit = .taskCancelled := by
  refine Triple.handle (H := Final P (contextOf settings contractorId number)) ?_ fun exit => ?_
  · have hleft : ∀ exit s, Left P (contextOf settings contractorId number) exit s →
        Final P (contextOf settings contractorId number) exit s := fun _ _ h => ⟨h.1, .inl h.2⟩
    refine ((gates_spec N settings contractorId number).weaken (fun _ hs => hs) (fun _ _ hs => hs)
      hleft).bind fun _ => ?_
    refine (checkAsyncGuard_left.weaken (fun _ hs => hs) (fun _ _ hs => hs) hleft).bind fun _ => ?_
    refine (bindClients_spec.weaken (fun _ hs => hs) (fun _ _ hs => hs) hleft).bind fun _ => ?_
    exact (Triple.handle enroll_spec report_spec).weaken (fun _ hs => hs)
      (fun _ _ hs => hs.elim) fun _ _ hs => hs
  · cases exit with
    | returned result => exact .ret fun s hs => hs.1
    | _ =>
      refine .raise fun s hs => ⟨hs.1, ?_⟩
      rcases hs.2 with ⟨result, heq⟩ | heq
      · cases heq
      · exact heq

theorem Once.creates {trace : List Event} (h : Once P c trace) : trace.countP isCreate ≤ 1 := by
  rcases h with h | ⟨l₁, e, l₂, frozen, rfl, h₁, h₂, -⟩
  · rw [List.countP_eq_zero.mpr fun e he => by rw [h e he]; exact Bool.false_ne_true]
    exact Nat.zero_le 1
  · rw [List.countP_append, List.countP_cons,
      List.countP_eq_zero.mpr fun e he => by rw [h₁ e he]; exact Bool.false_ne_true,
      List.countP_eq_zero.mpr fun e he => by rw [h₂ e he]; exact Bool.false_ne_true]
    split <;> omega

theorem Once.validated {trace : List Event} (h : Once P c trace) {l₁ l₂ : List Event} {e : Event}
    (htrace : trace = l₁ ++ e :: l₂) (he : isCreate e = true) :
    ∃ frozen, InOrder (validatedTwice P c frozen) l₁ := by
  rcases h with h | ⟨l₁', e', l₂', frozen, rfl, h₁, h₂, horder⟩
  · rw [h e (by rw [htrace]; simp)] at he
    cases he
  · refine ⟨frozen, ?_⟩
    -- the two cuts are at the same place, as the events beside the one cut are no creates
    rcases List.append_eq_append_iff.mp htrace with ⟨m, rfl, hrest⟩ | ⟨m, rfl, hrest⟩
    · exact horder.append_right m
    · cases m with
      | nil => simpa using horder
      | cons f m =>
        rw [List.cons_append, List.cons.injEq] at hrest
        rw [h₁ e (by rw [hrest.1]; simp)] at he
        cases he

/-- **Whatever is answered, raised or cancelled**, the function creates at most once, behind two
validations, and what it returns of the membership is true. -/
theorem ensure_truthful (P : Python) (N : Numbers) (settings : Settings)
    (contractorId number : Value) (env : Environment Ask.Answer) :
    Truthful P (contextOf settings contractorId number)
      (ensureSmsSenderMembership P N settings contractorId number env
        ⟨⟨false, false, some false⟩, []⟩).1
      (ensureSmsSenderMembership P N settings contractorId number env
        ⟨⟨false, false, some false⟩, []⟩).2.trace := by
  have hrun := ensureSmsSenderMembership_spec (P := P) N settings contractorId number env
    ⟨⟨false, false, some false⟩, []⟩ ⟨rfl, List.forall_mem_nil _, .nil _⟩
  generalize ensureSmsSenderMembership P N settings contractorId number env _ = out at hrun ⊢
  obtain ⟨exit | result, s⟩ := out
  · have hcreates := hrun.1.once
    refine ⟨hcreates.creates, fun _ _ _ => hcreates.validated, fun _ h => (by cases h),
      fun _ h => (by cases h), fun exit' heq => ?_⟩
    cases heq
    exact hrun.2
  · have hcreates := hrun.once
    refine ⟨hcreates.creates, fun _ _ _ => hcreates.validated, fun result' heq => ?_,
      fun result' heq => ?_, fun _ h => by cases h⟩
    · cases heq
      exact (hrun.returned _ rfl).1
    · cases heq
      exact (hrun.returned _ rfl).2

end

end HeyKevin.L9.Enrollment
