import HeyKevin.L5Voice.IntakeSurvival
/-!
# The dialogue planner

mirrors app/services/dialogue_planner.py: the next action of the receptionist,
from the intake state alone. The constructor of an action refuses a slot that
is both allowed and forbidden, and a question without a slot.

A conversation plans, marks the slot of a question as asked, and observes the
caller, in any order.

* `planNextAction_fine`: the planner always has an action, and asks for one slot
  at most, an askable one that is not forbidden.
* `dialogue_planned`: **what holds of a whole conversation**: no slot is asked
  for twice, but for the confirmation of a new callback number; so the questions
  come to an end.

Line numbers without a file are those of app/services/dialogue_planner.py.
-/
namespace HeyKevin.L5.Intake

open HeyKevin.Core Binary64 L1 L1.Text

/-! ## Slots -/

def askableSlots : List String :=
  ["caller_name", "service_action", "service_object", "callback_number", "callback_confirmation",
    "callback_preference", "service_address", "job_complexity", "urgency", "safety_location"]

def askable : Finset Str := (askableSlots.map py).toFinset

/-- `_KNOWN_FACT_SLOT_ALIASES.get(slot, slot)` -/
def aliasOf (slot : Str) : Str :=
  if slot = py "callback_intent" then py "callback_preference" else slot

def slotOfFact (fact : Str) : Option Str :=
  match fact.dropWhile (fun c => c.val != 0x3a) with
  | [] => none
  | _ :: value =>
    if strip value = [] then none
    else some (aliasOf (strip (fact.takeWhile fun c => c.val != 0x3a)))

/-- mirrors app/services/receptionist_state.py:636-645 -/
def IntakeState.knownAskableSlots (s : IntakeState) : Finset Str :=
  (s.knownFacts.filterMap slotOfFact).toFinset.filter (· ∈ askable)

/-! ## Actions -/

inductive ActionName
  | answerDirectQuestion | askName | askOneClarifyingQuestion | confirmKnownProperty | askUrgency
  | offerPhotoLinkAfterCall | offerCallbackOrScheduling | confirmCallbackLastFour
  | askCallbackNumber | takeMessage | tryLiveOwnerTransfer | wrapUp | declineOutOfScope
  | safetyGuidance
deriving DecidableEq

def questionActionNames : List ActionName :=
  [.askName, .askOneClarifyingQuestion, .confirmKnownProperty, .askUrgency,
    .offerPhotoLinkAfterCall, .offerCallbackOrScheduling, .confirmCallbackLastFour,
    .askCallbackNumber]

structure NextAction where
  name : ActionName
  reason : Str
  allowedSlots : List Str
  forbiddenSlots : List Str
  memoryFactsSafeToUse : List Str
  maxSpokenShape : String
  toolCallsAllowed : Bool
  questionRequired : Bool
deriving DecidableEq

/-- mirrors 62-90 (`NextAction.__post_init__`), of the types it
declares -/
def NextAction.construct (a : NextAction) : Except String NextAction :=
  if a.allowedSlots.any (fun slot => decide (slot ∈ a.forbiddenSlots)) then
    .error "slots cannot be both allowed and forbidden"
  else if a.questionRequired && a.allowedSlots.isEmpty then
    .error "question requires an allowed slot"
  else if !a.allowedSlots.isEmpty && !a.questionRequired then
    .error "allowed slots require a question contract"
  else if decide (a.name ∈ questionActionNames) && !a.questionRequired then
    .error "question-producing action requires a question contract"
  else .ok a

/-! ## Planning -/

/-- mirrors 360-364 -/
def safeMemoryFacts (s : IntakeState) : List Str :=
  if s.callerIdentity.name ≠ [] ∧ rnd (8 / 10) ≤ s.callerIdentity.confidence.val then
    [py "caller_identity:" ++ s.callerIdentity.name]
  else []

/-- `forbidden.add(slot)`, where the condition holds -/
def addWhen (c : Bool) (slot : String) (forbidden : Finset Str) : Finset Str :=
  if c then insert (py slot) forbidden else forbidden

/-- mirrors 306-337 -/
def forbiddenSlots (s : IntakeState) : Finset Str :=
  let forbidden := s.askedSlots ∪ s.knownAskableSlots
  let forbidden := addWhen (decide (s.serviceAction ≠ .unknown)) "service_action" forbidden
  let forbidden := addWhen (decide (s.serviceObject ≠ [])) "service_object" forbidden
  let forbidden := addWhen (decide (s.urgency ≠ .unknown)) "urgency" forbidden
  let forbidden := addWhen (decide (s.callerIdentity.name ≠ [] ∧
    rnd (8 / 10) ≤ s.callerIdentity.confidence.val)) "caller_name" forbidden
  let forbidden := addWhen (decide (s.callbackIntent ∈ [.none, .declined, .offered]))
    "callback_number" forbidden
  let confirmed := decide (s.callbackConfirmation = .confirmed)
  let forbidden := addWhen confirmed "callback_confirmation" forbidden
  let forbidden := addWhen confirmed "callback_number" forbidden
  let forbidden := addWhen (decide (s.callbackPhoneLastFour ≠ [])) "callback_number" forbidden
  addWhen (decide (s.addressNeed ∈ [.none, .maybeLater, .alreadyKnown, .confirmed]))
    "service_address" forbidden

/-- mirrors 340-341 -/
def allowedSlots (candidates : List String) (forbidden : Finset Str) : List Str :=
  (candidates.map py).filter (· ∉ forbidden)

/-- An action that asks for what is in `slots`, if anything is. -/
def asking (name : ActionName) (reason : Str) (slots : List Str) (forbidden : Finset Str)
    (memoryFacts : List Str) (asks silent : String) : Except String NextAction :=
  NextAction.construct
    { name := name
      reason := reason
      allowedSlots := slots
      forbiddenSlots := sorted forbidden
      memoryFactsSafeToUse := memoryFacts
      maxSpokenShape := if slots.isEmpty then silent else asks
      toolCallsAllowed := false
      questionRequired := !slots.isEmpty }

def question (name : ActionName) (reason : Str) (slot : String) (forbidden : Finset Str)
    (memoryFacts : List Str) (shape : String) : Except String NextAction :=
  NextAction.construct
    { name := name
      reason := reason
      allowedSlots := [py slot]
      forbiddenSlots := sorted forbidden
      memoryFactsSafeToUse := memoryFacts
      maxSpokenShape := shape
      toolCallsAllowed := false
      questionRequired := true }

def statement (name : ActionName) (reason : String) (forbidden : Finset Str)
    (memoryFacts : List Str) (shape : String) : Except String NextAction :=
  NextAction.construct
    { name := name
      reason := py reason
      allowedSlots := []
      forbiddenSlots := sorted forbidden
      memoryFactsSafeToUse := memoryFacts
      maxSpokenShape := shape
      toolCallsAllowed := false
      questionRequired := false }

/-- mirrors 344-357 -/
def takeCallbackMessage (reason : String) (forbidden : Finset Str) (memoryFacts : List Str) :
    Except String NextAction :=
  statement .takeMessage reason
    (forbidden ∪ {py "callback_confirmation", py "callback_number"}) memoryFacts
    "briefly take a message without asking another callback question"

/-- The callback of a caller who wants one. mirrors 142-206 -/
def planCallback (s : IntakeState) (forbidden : Finset Str) (memoryFacts : List Str) :
    Except String NextAction :=
  if s.callbackPhoneLastFour ≠ [] then
    if py "callback_confirmation" ∈ forbidden then
      takeCallbackMessage
        "replacement callback confirmation was requested once but remains unavailable"
        forbidden memoryFacts
    else
      question .confirmCallbackLastFour
        (py "replacement callback number ending " ++ s.callbackPhoneLastFour ++ py " is available")
        "callback_confirmation" (forbidden.erase (py "callback_confirmation")) memoryFacts
        "confirm the replacement callback number last four in one short question"
  else if s.callbackConfirmation = .rejected ∨ s.callerPhoneLastFour = [] then
    if py "callback_number" ∈ forbidden then
      takeCallbackMessage "callback number was requested once but remains unavailable"
        forbidden memoryFacts
    else
      question .askCallbackNumber
        (if s.callbackConfirmation = .rejected then
          py "caller rejected the caller ID callback number"
        else py "callback intent exists and caller ID is missing")
        "callback_number" (forbidden.erase (py "callback_number")) memoryFacts
        "ask for the best callback number in one short question"
  else if py "callback_confirmation" ∈ forbidden then
    takeCallbackMessage
      "caller ID callback confirmation was requested once but remains unavailable"
      forbidden memoryFacts
  else
    question .confirmCallbackLastFour
      (py "callback intent exists; caller ID ending " ++ s.callerPhoneLastFour ++
        py " is available")
      "callback_confirmation" forbidden memoryFacts
      "confirm the caller ID last four in one short question"

/-- The address of a job. mirrors 208-228 -/
def planAddress (forbidden : Finset Str) (memoryFacts : List Str) : Except String NextAction :=
  if py "service_address" ∈ forbidden then
    statement .takeMessage "service address was requested once but remains unavailable"
      (insert (py "service_address") forbidden) memoryFacts
      "continue without asking for the service address again"
  else
    question .askOneClarifyingQuestion
      (py "address is required for the current scheduling or dispatch action")
      "service_address" (forbidden.erase (py "service_address")) memoryFacts
      "ask one concise service-address question"

/-- The service, and what else there is to ask. mirrors 247-303 -/
def planIntake (s : IntakeState) (forbidden : Finset Str) (memoryFacts : List Str) :
    Except String NextAction :=
  if s.serviceAction = .unknown ∧ py "service_action" ∉ forbidden then
    question .askOneClarifyingQuestion (py "service action is still unknown")
      "service_action" forbidden memoryFacts
      "ask only whether this is repair, replacement, installation, or inspection"
  else if s.serviceObject = [] ∧ py "service_object" ∉ forbidden then
    question .askOneClarifyingQuestion (py "service object is still unknown")
      "service_object" forbidden memoryFacts
      "ask one question about the fixture, appliance, or system"
  else if (allowedSlots ["job_complexity", "urgency"] forbidden).take 1 ≠ [] then
    asking .askOneClarifyingQuestion (py "continue intake with one relevant detail")
      ((allowedSlots ["job_complexity", "urgency"] forbidden).take 1) forbidden memoryFacts
      "ask one useful next question" ""
  else if s.callbackIntent = .none ∧ py "callback_preference" ∉ forbidden then
    question .offerCallbackOrScheduling
      (py "supported intake details are complete; offer a follow-up option")
      "callback_preference" forbidden memoryFacts
      "offer callback or scheduling in one short question"
  else
    statement .wrapUp "supported intake and follow-up questions are complete" forbidden memoryFacts
      "close briefly without another question"

/-- mirrors 93-303 -/
def planNextAction (s : IntakeState) : Except String NextAction :=
  let forbidden := forbiddenSlots s
  let memoryFacts := safeMemoryFacts s
  if s.urgency = .emergency ∨ s.intent = .emergency then
    asking .safetyGuidance (py "emergency intent detected")
      (allowedSlots ["safety_location"] forbidden) forbidden memoryFacts
      "give immediate safety guidance, then ask one relevant safety question"
      "give immediate safety guidance without another question"
  else if s.businessScope = .outOfScope then
    statement .declineOutOfScope "caller request is outside the reviewed business scope"
      forbidden memoryFacts
      ("briefly decline without claiming unsupported services " ++ "or asking another question")
  else if s.callbackIntent = .accepted ∧ s.callbackConfirmation = .confirmed ∧
      s.serviceAction ≠ .unknown ∧ s.serviceObject ≠ [] then
    statement .wrapUp "callback number and service request are confirmed" forbidden memoryFacts
      "briefly confirm the callback and close without another question"
  else if s.callbackIntent ∈ [.requested, .accepted] ∧ s.callbackConfirmation ≠ .confirmed then
    planCallback s forbidden memoryFacts
  else if s.addressNeed = .requiredNow then planAddress forbidden memoryFacts
  else if s.intent = .pricingQuestion then
    asking .answerDirectQuestion (py "caller asked a direct pricing or scope question")
      ((allowedSlots ["job_complexity", "urgency"] forbidden).take 1) forbidden memoryFacts
      "answer briefly, then ask one useful next question"
      "answer briefly without another question"
  else planIntake s forbidden memoryFacts

/-! ## What it plans -/

def Fine (s : IntakeState) (r : Except String NextAction) : Prop :=
  ∃ a, r = .ok a ∧
    ((a.questionRequired = true ∧ ∃ slot ∈ askableSlots, a.allowedSlots = [py slot] ∧
      py slot ∉ forbiddenSlots s ∧ py slot ∉ a.forbiddenSlots) ∨
    (a.questionRequired = false ∧ a.allowedSlots = []))

section

variable {s : IntakeState} {name : ActionName} {forbidden : Finset Str} {memoryFacts : List Str}

theorem mem_sorted {slot : Str} : slot ∈ sorted forbidden ↔ slot ∈ forbidden := Finset.mem_sort _

theorem fine_question {reason : Str} {slot shape : String} (hslot : slot ∈ askableSlots)
    (hopen : py slot ∉ forbiddenSlots s) (hforbidden : py slot ∉ forbidden) :
    Fine s (question name reason slot forbidden memoryFacts shape) := by
  have hout : py slot ∉ sorted forbidden := fun h => hforbidden (mem_sorted.mp h)
  unfold question NextAction.construct
  simp only [List.any_cons, List.any_nil, Bool.or_false, decide_eq_true_eq, if_neg hout,
    List.isEmpty_cons, Bool.and_false, Bool.not_true, Bool.false_eq_true, if_false]
  exact ⟨_, rfl, .inl ⟨rfl, slot, hslot, rfl, hopen, hout⟩⟩

theorem fine_statement {reason shape : String} (hname : name ∉ questionActionNames) :
    Fine s (statement name reason forbidden memoryFacts shape) := by
  unfold statement NextAction.construct
  simp only [List.any_nil, Bool.false_eq_true, if_false, Bool.false_and, List.isEmpty_nil,
    Bool.not_true, decide_eq_false hname]
  exact ⟨_, rfl, .inr ⟨rfl, rfl⟩⟩

theorem take_allowedSlots (candidates : List String) :
    (allowedSlots candidates forbidden).take 1 = [] ∨ ∃ slot ∈ candidates,
      (allowedSlots candidates forbidden).take 1 = [py slot] ∧ py slot ∉ forbidden := by
  cases hslots : allowedSlots candidates forbidden with
  | nil => exact .inl rfl
  | cons slot slots =>
    have hmem : slot ∈ allowedSlots candidates forbidden := by
      rw [hslots]
      exact List.mem_cons_self
    obtain ⟨hcandidate, hout⟩ := List.mem_filter.mp hmem
    obtain ⟨text, htext, rfl⟩ := List.mem_map.mp hcandidate
    exact .inr ⟨text, htext, rfl, of_decide_eq_true hout⟩

theorem fine_asking {reason : Str} {slots : List Str} {asks silent : String}
    (h : slots = [] ∧ name ∉ questionActionNames ∨ ∃ slot ∈ askableSlots, slots = [py slot] ∧
      py slot ∉ forbiddenSlots s ∧ py slot ∉ forbidden) :
    Fine s (asking name reason slots forbidden memoryFacts asks silent) := by
  rcases h with ⟨rfl, hname⟩ | ⟨slot, hslot, rfl, hopen, hforbidden⟩
  · unfold asking NextAction.construct
    simp only [List.any_nil, Bool.false_eq_true, if_false, Bool.false_and, List.isEmpty_nil,
      Bool.not_true, decide_eq_false hname]
    exact ⟨_, rfl, .inr ⟨rfl, rfl⟩⟩
  · exact fine_question hslot hopen hforbidden

theorem fine_takeCallbackMessage {reason : String} :
    Fine s (takeCallbackMessage reason forbidden memoryFacts) := fine_statement (by decide)

end

theorem planCallback_fine (s : IntakeState) (memoryFacts : List Str) :
    Fine s (planCallback s (forbiddenSlots s) memoryFacts) := by
  unfold planCallback
  split
  · split
    · exact fine_takeCallbackMessage
    · rename_i hopen
      exact fine_question (by decide) hopen (Finset.notMem_erase _ _)
  · split
    · split
      · exact fine_takeCallbackMessage
      · rename_i hopen
        exact fine_question (by decide) hopen (Finset.notMem_erase _ _)
    · split
      · exact fine_takeCallbackMessage
      · rename_i hopen
        exact fine_question (by decide) hopen hopen

theorem planAddress_fine (s : IntakeState) (memoryFacts : List Str) :
    Fine s (planAddress (forbiddenSlots s) memoryFacts) := by
  unfold planAddress
  split
  · exact fine_statement (by decide)
  · rename_i hopen
    exact fine_question (by decide) hopen (Finset.notMem_erase _ _)

theorem planIntake_fine (s : IntakeState) (memoryFacts : List Str) :
    Fine s (planIntake s (forbiddenSlots s) memoryFacts) := by
  unfold planIntake
  split
  · rename_i hopen
    exact fine_question (by decide) hopen.2 hopen.2
  split
  · rename_i hopen
    exact fine_question (by decide) hopen.2 hopen.2
  split
  · rename_i hslots
    obtain ⟨slot, hslot, htake, hout⟩ :=
      (take_allowedSlots ["job_complexity", "urgency"]).resolve_left hslots
    have hknown : ∀ slot ∈ ["job_complexity", "urgency"], slot ∈ askableSlots := by decide
    exact fine_asking (.inr ⟨slot, hknown slot hslot, htake, hout, hout⟩)
  split
  · rename_i hopen
    exact fine_question (by decide) hopen.2 hopen.2
  · exact fine_statement (by decide)

/-- **The planner always has an action**, whatever the state. -/
theorem planNextAction_fine (s : IntakeState) : Fine s (planNextAction s) := by
  unfold planNextAction
  simp only
  split
  · refine fine_asking ?_
    by_cases hout : py "safety_location" ∈ forbiddenSlots s
    · refine .inl ⟨?_, by decide⟩
      rw [allowedSlots, List.map_cons, List.map_nil, List.filter_cons_of_neg (by simpa using hout),
        List.filter_nil]
    · refine .inr ⟨"safety_location", by decide, ?_, hout, hout⟩
      rw [allowedSlots, List.map_cons, List.map_nil, List.filter_cons_of_pos (by simpa using hout),
        List.filter_nil]
  split
  · exact fine_statement (by decide)
  split
  · exact fine_statement (by decide)
  split
  · exact planCallback_fine s _
  split
  · exact planAddress_fine s _
  split
  · have hknown : ∀ slot ∈ ["job_complexity", "urgency"], slot ∈ askableSlots := by decide
    rcases @take_allowedSlots (forbiddenSlots s) ["job_complexity", "urgency"] with
      hnone | ⟨slot, hslot, htake, hout⟩
    · exact fine_asking (.inl ⟨hnone, by decide⟩)
    · exact fine_asking (.inr ⟨slot, hknown slot hslot, htake, hout, hout⟩)
  · exact planIntake_fine s _

/-! ## Conversations -/

variable (T : Tables)

inductive Turn
  | plan
  | observe (o : Observation T)

inductive Answer
  | action (a : NextAction)
  | observed
  | raised (error : String)

def markAction (a : NextAction) (s : IntakeState) : Except String IntakeState :=
  if a.questionRequired then a.allowedSlots.foldlM (fun s slot => markSlotAsked T slot s) s
  else .ok s

def dialogue : Machine IntakeState (Turn T) Answer := fun s turn =>
  match turn with
  | .plan =>
    match planNextAction s with
    | .error e => (s, .raised e)
    | .ok a =>
      match markAction T a s with
      | .ok s' => (s', .action a)
      | .error e => (s, .raised e)
  | .observe o =>
    match applyCallerObservation T o.val s with
    | .ok s' => (s', .observed)
    | .error e => (s, .raised e)

abbrev Step := Event IntakeState (Turn T) Answer

variable {T}

def Asks (e : Step T) (slot : Str) : Prop :=
  ∃ a, e.resp = .action a ∧ a.questionRequired = true ∧ slot ∈ a.allowedSlots

def asksSomething (e : Step T) : Bool :=
  match e.resp with
  | .action a => a.questionRequired
  | _ => false

def givesNumber (e : Step T) : Bool :=
  match e.call with
  | .observe o => o.val.callbackPhoneLastFour.isSome
  | .plan => false

variable (T)

/-- What should hold of the conversation that these turns make, from the state `s₀`. -/
structure Planned (s₀ : IntakeState) (turns : List (Turn T)) : Prop where
  /-- Every plan is an action, and every observation is applied. -/
  total : ∀ e ∈ (dialogue T).log s₀ turns,
    (e.call = .plan → ∃ a, e.resp = .action a) ∧ ∀ o, e.call = .observe o → e.resp = .observed
  /-- A question is for one askable slot, not forbidden in the action and of no known fact. -/
  question : ∀ e ∈ (dialogue T).log s₀ turns, ∀ a, e.resp = .action a →
    a.questionRequired = true → ∃ slot ∈ askableSlots, a.allowedSlots = [py slot] ∧
      py slot ∉ a.forbiddenSlots ∧ py slot ∉ e.pre.knownAskableSlots
  /-- No slot is asked for twice, but for the confirmation of a callback number given between. -/
  once : ∀ l₁ e l₂ f l₃, (dialogue T).log s₀ turns = l₁ ++ e :: l₂ ++ f :: l₃ →
    ∀ slot, Asks e slot → Asks f slot →
      slot = py "callback_confirmation" ∧ ∃ g ∈ l₂, givesNumber g = true
  bounded : ((dialogue T).log s₀ turns).countP asksSomething ≤
    askableSlots.length + ((dialogue T).log s₀ turns).countP givesNumber
  /-- Once there is no question, every further plan without observations is the same. -/
  settled : ∀ l₁ e l₂ f l₃, (dialogue T).log s₀ turns = l₁ ++ e :: l₂ ++ f :: l₃ →
    e.call = .plan → asksSomething e = false → (∀ g ∈ l₂, g.call = .plan) → f.call = .plan →
      f.resp = e.resp

section

variable {T} {s : IntakeState}

/-! ## One turn -/

theorem mark_askable (hT : T.Ascii) {slot : String} (hslot : slot ∈ askableSlots) :
    markSlotAsked T (py slot) s = .ok (s.withAsked (insert (py slot) s.askedSlots)) := by
  have hwording : ∀ slot ∈ askableSlots, (isWording (py slot) && decide (strip (py slot) = py slot) &&
      decide ((py slot).length ≤ 80) && decide (py slot ≠ [])) = true := by decide
  have h := hwording slot hslot
  simp only [Bool.and_eq_true, decide_eq_true_eq] at h
  obtain ⟨⟨⟨hword, hstrip⟩, hlength⟩, hne⟩ := h
  rw [markSlotAsked, if_neg hne, normalize_wording hT hword hstrip hlength]
  rfl

/-- Planning: a question for a slot that is not forbidden, which is then asked; or a statement, and
nothing changes. -/
theorem plan_cases (hT : T.Ascii) (s : IntakeState) :
    ∃ a, planNextAction s = .ok a ∧
      ((a.questionRequired = true ∧ ∃ slot ∈ askableSlots, a.allowedSlots = [py slot] ∧
        py slot ∉ forbiddenSlots s ∧ py slot ∉ a.forbiddenSlots ∧
        dialogue T s .plan = (s.withAsked (insert (py slot) s.askedSlots), .action a)) ∨
      (a.questionRequired = false ∧ a.allowedSlots = [] ∧ dialogue T s .plan = (s, .action a))) := by
  obtain ⟨a, hplan, ⟨hquestion, slot, hslot, hallowed, hopen, hout⟩ | ⟨hquestion, hallowed⟩⟩ :=
    planNextAction_fine s
  · refine ⟨a, hplan, .inl ⟨hquestion, slot, hslot, hallowed, hopen, hout, ?_⟩⟩
    have hmark : markAction T a s = .ok (s.withAsked (insert (py slot) s.askedSlots)) := by
      rw [markAction, if_pos hquestion, hallowed, List.foldlM_cons, mark_askable hT hslot]
      rfl
    simp only [dialogue, hplan, hmark]
  · refine ⟨a, hplan, .inr ⟨hquestion, hallowed, ?_⟩⟩
    have hmark : markAction T a s = .ok s := by
      rw [markAction, if_neg (by rw [hquestion]; exact Bool.false_ne_true)]
    simp only [dialogue, hplan, hmark]

theorem dialogue_observe (hT : T.Ascii) (h : s.Sound T) (o : Observation T) :
    dialogue T s (.observe o) = (applied o.val s, .observed) := by
  obtain ⟨given, hgiven⟩ := o.property
  simp only [dialogue, applyCallerObservation_eq hT (construct_sound hgiven) h.facts]

theorem dialogue_sound (hT : T.Ascii) (turn : Turn T) (h : s.Sound T) :
    (dialogue T s turn).1.Sound T := by
  cases turn with
  | observe o =>
    obtain ⟨given, hgiven⟩ := o.property
    rw [dialogue_observe hT h]
    exact applied_sound hT (construct_sound hgiven) h
  | plan =>
    obtain ⟨a, -, ⟨-, slot, hslot, -, -, -, hstep⟩ | ⟨-, -, hstep⟩⟩ := plan_cases hT s
    · rw [hstep]
      refine { h with asked := fun v hv => ?_ }
      rcases Finset.mem_insert.mp hv with rfl | hv
      · obtain ⟨asked, heq, hasked⟩ := mark_eq (T := T) s (py slot)
        have hin : py slot ∈ asked := by
          have hsame : (intake T s (.markAsked (py slot))).1 =
              s.withAsked (insert (py slot) s.askedSlots) := by
            simp only [intake, mark_askable hT hslot]
          rw [hsame] at heq
          have hset : insert (py slot) s.askedSlots = asked := congrArg IntakeState.askedSlots heq
          rw [← hset]
          exact Finset.mem_insert_self _ _
        rcases (hasked (py slot)).mp hin with hin | ⟨-, hsafe⟩
        · exact h.asked _ hin
        · exact hsafe
      · exact h.asked v hv
    · rw [hstep]
      exact h

theorem dialogue_asked (hT : T.Ascii) (turn : Turn T) (h : s.Sound T) {slot : Str}
    (hslot : slot ∈ s.askedSlots) :
    slot ∈ (dialogue T s turn).1.askedSlots ∨
      slot = py "callback_confirmation" ∧ givesNumber ((dialogue T).event s turn) = true := by
  cases turn with
  | observe o =>
    rw [dialogue_observe hT h]
    change slot ∈ o.val.callbackPhoneLastFour.elim s.askedSlots (fun _ => s.askedSlots.erase _) ∨
      slot = _ ∧ o.val.callbackPhoneLastFour.isSome = true
    cases o.val.callbackPhoneLastFour with
    | none => exact .inl hslot
    | some lastFour =>
      by_cases hconfirmation : slot = py "callback_confirmation"
      · exact .inr ⟨hconfirmation, rfl⟩
      · exact .inl (Finset.mem_erase.mpr ⟨hconfirmation, hslot⟩)
  | plan =>
    left
    obtain ⟨a, -, ⟨-, slot', -, -, -, -, hstep⟩ | ⟨-, -, hstep⟩⟩ := plan_cases hT s
    · rw [hstep]
      exact Finset.mem_insert_of_mem hslot
    · rw [hstep]
      exact hslot

theorem asked_forbidden {slot : Str} (h : slot ∈ s.askedSlots ∨ slot ∈ s.knownAskableSlots) :
    slot ∈ forbiddenSlots s := by
  have hadd : ∀ (c : Bool) (name : String) (forbidden : Finset Str), slot ∈ forbidden →
      slot ∈ addWhen c name forbidden := by
    intro c name forbidden hin
    cases c with
    | true => exact Finset.mem_insert_of_mem hin
    | false => exact hin
  unfold forbiddenSlots
  simp only
  iterate 9 apply hadd
  exact Finset.mem_union.mpr h

theorem asks_event (hT : T.Ascii) {turn : Turn T} {slot : Str}
    (h : Asks ((dialogue T).event s turn) slot) (hsound : s.Sound T) :
    slot ∉ s.askedSlots ∧ slot ∈ (dialogue T s turn).1.askedSlots := by
  obtain ⟨a, hresp, hquestion, hslot⟩ := h
  rw [Machine.event_resp] at hresp
  cases turn with
  | observe o =>
    rw [dialogue_observe hT hsound] at hresp
    cases hresp
  | plan =>
    obtain ⟨a', -, ⟨-, slot', -, hallowed, hopen, -, hstep⟩ | ⟨hno, -, hstep⟩⟩ := plan_cases hT s
    · rw [hstep] at hresp ⊢
      cases hresp
      rw [hallowed, List.mem_singleton] at hslot
      rw [hslot]
      exact ⟨fun hin => hopen (asked_forbidden (.inl hin)), Finset.mem_insert_self _ _⟩
    · rw [hstep] at hresp
      cases hresp
      rw [hno] at hquestion
      cases hquestion

theorem asksSomething_event (hT : T.Ascii) {turn : Turn T}
    (h : asksSomething ((dialogue T).event s turn) = true) (hsound : s.Sound T) :
    ∃ slot ∈ askable, Asks ((dialogue T).event s turn) slot := by
  cases turn with
  | observe o =>
    rw [asksSomething, Machine.event_resp, dialogue_observe hT hsound] at h
    cases h
  | plan =>
    obtain ⟨a, -, ⟨hquestion, slot, hslot, hallowed, -, -, hstep⟩ | ⟨hno, -, hstep⟩⟩ :=
      plan_cases hT s
    · refine ⟨py slot, List.mem_toFinset.mpr (List.mem_map_of_mem hslot), a, ?_, hquestion, ?_⟩
      · rw [Machine.event_resp, hstep]
      · rw [hallowed]
        exact List.mem_cons_self
    · rw [asksSomething, Machine.event_resp, hstep] at h
      change a.questionRequired = true at h
      rw [hno] at h
      cases h

theorem left_le (hT : T.Ascii) (turn : Turn T) (h : s.Sound T) :
    (asksSomething ((dialogue T).event s turn)).toNat +
        (askable \ (dialogue T s turn).1.askedSlots).card ≤
      (askable \ s.askedSlots).card + (givesNumber ((dialogue T).event s turn)).toNat := by
  have hleft : ∀ slot ∈ askable \ (dialogue T s turn).1.askedSlots,
      slot ∈ askable \ s.askedSlots ∨
        slot = py "callback_confirmation" ∧ givesNumber ((dialogue T).event s turn) = true := by
    intro slot hslot
    obtain ⟨haskable, hout⟩ := Finset.mem_sdiff.mp hslot
    by_cases hin : slot ∈ s.askedSlots
    · exact .inr ((dialogue_asked hT turn h hin).resolve_left hout)
    · exact .inl (Finset.mem_sdiff.mpr ⟨haskable, hin⟩)
  cases hgives : givesNumber ((dialogue T).event s turn) with
  | true =>
    have hno : asksSomething ((dialogue T).event s turn) = false := by
      cases turn with
      | plan => cases hgives
      | observe o => rw [asksSomething, Machine.event_resp, dialogue_observe hT h]
    have hsub : askable \ (dialogue T s turn).1.askedSlots ⊆
        insert (py "callback_confirmation") (askable \ s.askedSlots) := by
      intro slot hslot
      rcases hleft slot hslot with hin | ⟨rfl, -⟩
      · exact Finset.mem_insert_of_mem hin
      · exact Finset.mem_insert_self _ _
    rw [hno]
    have hcard := (Finset.card_le_card hsub).trans (Finset.card_insert_le _ _)
    simpa using hcard
  | false =>
    have hsub : askable \ (dialogue T s turn).1.askedSlots ⊆ askable \ s.askedSlots := by
      intro slot hslot
      rcases hleft slot hslot with hin | ⟨-, hgave⟩
      · exact hin
      · rw [hgives] at hgave
        cases hgave
    cases hasks : asksSomething ((dialogue T).event s turn) with
    | false => simpa using Finset.card_le_card hsub
    | true =>
      obtain ⟨slot, hslot, hevent⟩ := asksSomething_event hT hasks h
      obtain ⟨hnew, hasked⟩ := asks_event hT hevent h
      have hlt := Finset.card_lt_card (Finset.ssubset_iff_subset_ne.mpr ⟨hsub, fun heq => by
        have hin : slot ∈ askable \ s.askedSlots := Finset.mem_sdiff.mpr ⟨hslot, hnew⟩
        rw [← heq] at hin
        exact (Finset.mem_sdiff.mp hin).2 hasked⟩)
      rw [Bool.toNat_true, Bool.toNat_false]
      omega

theorem plan_again (hT : T.Ascii) {e : Step T} (he : e = (dialogue T).event e.pre e.call)
    (hplan : e.call = .plan) (hsilent : asksSomething e = false) : e.post = e.pre := by
  rw [he, hplan, asksSomething, Machine.event_resp] at hsilent
  rw [he, hplan, Machine.event_post]
  obtain ⟨a, -, ⟨hquestion, slot, -, -, -, -, hstep⟩ | ⟨-, -, hstep⟩⟩ := plan_cases hT e.pre
  · rw [hstep] at hsilent
    change a.questionRequired = false at hsilent
    rw [hquestion] at hsilent
    cases hsilent
  · rw [hstep]
    rfl

end

/-! ## Whole conversations -/

section

variable {T} {s₀ : IntakeState}

theorem countP_asks_le (hT : T.Ascii) (h : s₀.Sound T) (turns : List (Turn T)) :
    ((dialogue T).log s₀ turns).countP asksSomething +
        (askable \ ((dialogue T).run s₀ turns).askedSlots).card ≤
      (askable \ s₀.askedSlots).card + ((dialogue T).log s₀ turns).countP givesNumber := by
  induction turns generalizing s₀ with
  | nil => simp
  | cons turn turns ih =>
    have hstep := left_le hT turn h
    have hrest := ih (dialogue_sound hT turn h)
    rw [Machine.log_cons, Machine.run_cons, List.countP_cons, List.countP_cons]
    have hnat : ∀ b : Bool, (if b = true then 1 else 0) = b.toNat := by decide
    rw [hnat, hnat]
    omega

/-- **The planner does not repeat or contradict itself** in any conversation from a new call's
state on. -/
theorem dialogue_planned (hT : T.Ascii) {callSid callerPhone callerName callerSource : Str}
    {callerConfidence : Double} {memoryRefs : List Str}
    (hnew : IntakeState.new T callSid callerPhone callerName callerSource callerConfidence
      memoryRefs = .ok s₀) (turns : List (Turn T)) : Planned T s₀ turns := by
  have hsound₀ : s₀.Sound T := new_sound hnew
  have hsound : ∀ e ∈ (dialogue T).log s₀ turns, e.pre.Sound T ∧ e.post.Sound T := fun e he =>
    (dialogue T).log_pre hsound₀ (fun _ turn h => dialogue_sound hT turn h) he
  have hevent : ∀ e ∈ (dialogue T).log s₀ turns, e = (dialogue T).event e.pre e.call := by
    intro e he
    obtain ⟨-, turn, -, -, rfl⟩ := (dialogue T).mem_log he
    rfl
  constructor
  · intro e he
    constructor
    · intro hplan
      rw [hevent e he, hplan, Machine.event_resp]
      obtain ⟨a, -, ⟨-, slot, -, -, -, -, hstep⟩ | ⟨-, -, hstep⟩⟩ := plan_cases hT e.pre
      · exact ⟨a, by rw [hstep]⟩
      · exact ⟨a, by rw [hstep]⟩
    · intro o ho
      rw [hevent e he, ho, Machine.event_resp, dialogue_observe hT (hsound e he).1]
  · intro e he a hresp hquestion
    rw [hevent e he, Machine.event_resp] at hresp
    cases hcall : e.call with
    | observe o =>
      rw [hcall, dialogue_observe hT (hsound e he).1] at hresp
      cases hresp
    | plan =>
      rw [hcall] at hresp
      obtain ⟨a', -, ⟨-, slot, hslot, hallowed, hopen, hout, hstep⟩ | ⟨hno, -, hstep⟩⟩ :=
        plan_cases hT e.pre
      · rw [hstep] at hresp
        cases hresp
        exact ⟨slot, hslot, hallowed, hout, fun hin => hopen (asked_forbidden (.inr hin))⟩
      · rw [hstep] at hresp
        cases hresp
        rw [hno] at hquestion
        cases hquestion
  · intro l₁ e l₂ f l₃ hlog slot hfirst hsecond
    have he : e ∈ (dialogue T).log s₀ turns := by rw [hlog]; simp
    have hf : f ∈ (dialogue T).log s₀ turns := by rw [hlog]; simp
    rw [hevent e he] at hfirst
    rw [hevent f hf] at hsecond
    have hasked : slot ∈ e.post.askedSlots := by
      rw [hevent e he]
      exact (asks_event hT hfirst (hsound e he).1).2
    have hnot : slot ∉ f.pre.askedSlots := (asks_event hT hsecond (hsound f hf).1).1
    by_contra hnone
    refine hnot ((dialogue T).log_between
      (G := fun g => ¬ (slot = py "callback_confirmation" ∧ givesNumber g = true))
      (I := fun s => slot ∈ s.askedSlots ∧ s.Sound T) ?_ hlog ⟨hasked, (hsound e he).2⟩ ?_).1
    · intro s turn h hkept
      exact ⟨(dialogue_asked hT turn h.2 h.1).resolve_right hkept, dialogue_sound hT turn h.2⟩
    · exact fun g hg hgave => hnone ⟨hgave.1, g, hg, hgave.2⟩
  · have hcount := countP_asks_le hT hsound₀ turns
    have hcard : (askable \ s₀.askedSlots).card ≤ askableSlots.length :=
      (Finset.card_le_card Finset.sdiff_subset).trans
        ((List.toFinset_card_le _).trans (List.length_map _).le)
    omega
  · intro l₁ e l₂ f l₃ hlog hplan hsilent hplans hagain
    have he : e ∈ (dialogue T).log s₀ turns := by rw [hlog]; simp
    have hf : f ∈ (dialogue T).log s₀ turns := by rw [hlog]; simp
    have hsilent' : asksSomething ((dialogue T).event e.pre .plan) = false := by
      rw [hevent e he, hplan] at hsilent
      exact hsilent
    have hkeep : ((dialogue T).event e.pre .plan).post = e.pre :=
      plan_again hT rfl rfl hsilent'
    have hpost : e.post = e.pre := plan_again hT (hevent e he) hplan hsilent
    have hpre : f.pre = e.pre := by
      refine (dialogue T).log_between (G := fun g => g.call = .plan) (I := fun s => s = e.pre)
        ?_ hlog hpost hplans
      intro s turn hs hturn
      rw [Machine.event_call] at hturn
      subst hs hturn
      exact hkeep
    rw [hevent f hf, hevent e he, hplan, hagain, hpre]

/-- A caller who leaves a number after the first question. -/
theorem dialogue_planned_boiler : ∃ s₀, IntakeState.new asciiTables lettersSid [] [] [] (.ofRat 0)
    [] = .ok s₀ ∧
      Planned asciiTables s₀ [.plan, .observe ⟨boilerRepair, boilerRepair, rfl⟩, .plan, .plan] := by
  cases hnew : IntakeState.new asciiTables lettersSid [] [] [] (.ofRat 0) [] with
  | error e =>
    have hok : (IntakeState.new asciiTables lettersSid [] [] [] (.ofRat 0) []).toBool = true := by
      decide +kernel
    rw [hnew] at hok
    cases hok
  | ok s₀ => exact ⟨s₀, rfl, dialogue_planned asciiTables_ascii hnew _⟩

end

end HeyKevin.L5.Intake
