import HeyKevin.Core.OnePerKey
import HeyKevin.L1Encoding.Sha256
import HeyKevin.L5Voice.IntakeStorage
/-!
# What survives of a call's intake state

A run observes turns of the caller and marks slots as asked. The known facts
are a flat list with at most one entry per slot (`Core.OnePerKey`).

* `applyCallerObservation_eq`: an observation in normal form is never refused,
  and does what `applied` says.
* `Coherent`: for each slot the facts are the field's text, and nothing where it is empty.
* `applied_idem`: applying an observation again changes nothing.
* `newCall_survives_iff`: **a call's state survives a run exactly when** its SID has
  no nine digits in a row, and the confirmation of the callback number is not
  marked asked after the last observation where that gives a number.
-/
namespace HeyKevin.L5.Intake

open HeyKevin.Core OnePerKey Binary64 L1 L1.Text

variable (T : Tables)

/-! ## Slots with known facts -/

inductive KnownSlot
  | serviceObject | serviceAction | urgency | callbackIntent | callbackConfirmation
deriving DecidableEq

namespace KnownSlot

def name : KnownSlot → String
  | serviceObject => "service_object"
  | serviceAction => "service_action"
  | urgency => "urgency"
  | callbackIntent => "callback_intent"
  | callbackConfirmation => "callback_confirmation"

def all : List KnownSlot :=
  [serviceObject, serviceAction, urgency, callbackIntent, callbackConfirmation]

theorem mem_all (k : KnownSlot) : k ∈ all := by
  cases k <;> decide

theorem nodup_all : all.Nodup := by decide

theorem label_prefix (k k' : KnownSlot) (h : (label k.name).isPrefixOf (label k'.name) = true) :
    k = k' := by
  revert h
  cases k <;> cases k' <;> decide

end KnownSlot

/-- A fact is of a slot where it starts with the slot's label; an empty value makes none. -/
def facts : Keyed Str KnownSlot Str where
  isOf k f := (label k.name).isPrefixOf f
  entry k v := if v = [] then none else some (label k.name ++ v)

theorem facts_lawful : facts.Lawful where
  own k v a ha := by
    change (if v = [] then none else some (label k.name ++ v)) = some a at ha
    split at ha
    · cases ha
    · cases ha
      exact List.isPrefixOf_iff_prefix.mpr (List.prefix_append _ _)
  one k k' a h h' := by
    have h := List.isPrefixOf_iff_prefix.mp h
    have h' := List.isPrefixOf_iff_prefix.mp h'
    rcases List.prefix_or_prefix_of_prefix h h' with hpre | hpre
    · exact KnownSlot.label_prefix k k' (List.isPrefixOf_iff_prefix.mpr hpre)
    · exact (KnownSlot.label_prefix k' k (List.isPrefixOf_iff_prefix.mpr hpre)).symm

/-- What the field behind a slot says, empty where it says nothing. -/
def IntakeState.valueOf (s : IntakeState) : KnownSlot → Str
  | .serviceObject => s.serviceObject
  | .serviceAction => s.serviceAction.fact
  | .urgency => s.urgency.fact
  | .callbackIntent => s.callbackIntent.fact
  | .callbackConfirmation => s.callbackConfirmation.fact

def Coherent (s : IntakeState) : Prop :=
  ∀ k : KnownSlot, s.knownFacts.filter (fun f => (label k.name).isPrefixOf f) =
    if s.valueOf k = [] then [] else [label k.name ++ s.valueOf k]

/-! ## What an observation does -/

/-- The new text of a slot, where an observation has one. -/
def CallerObservation.valueOf (o : CallerObservation) : KnownSlot → Option Str
  | .serviceObject => o.serviceObject
  | .serviceAction => o.serviceAction.map ServiceAction.fact
  | .urgency => o.urgency.map Urgency.fact
  | .callbackIntent => o.callbackIntent.map CallbackIntent.fact
  | .callbackConfirmation =>
    (o.callbackConfirmation.map CallbackConfirmation.fact).or
      (o.callbackPhoneLastFour.map fun _ => [])

/-- The state after `applyDetails` -/
def detailed (o : CallerObservation) (s : IntakeState) : IntakeState :=
  { s with
    phase := .understandRequest
    callerIdentity :=
      { s.callerIdentity with
        confirmed := o.identityConfirmed.getD s.callerIdentity.confirmed }
    language := o.language.getD s.language
    businessScope := o.businessScope.getD s.businessScope
    businessScopeReason := o.businessScopeReason.getD s.businessScopeReason
    intent := o.intent.getD s.intent
    addressNeed := o.addressNeed.getD s.addressNeed }

/-- The state after `applyService` -/
def serviced (o : CallerObservation) (s : IntakeState) : IntakeState :=
  { s with
    serviceObject := o.serviceObject.getD s.serviceObject
    serviceAction := o.serviceAction.getD s.serviceAction
    urgency := o.urgency.getD s.urgency
    knownFacts :=
      facts.updateEach o.valueOf [.serviceObject, .serviceAction, .urgency] s.knownFacts }

/-- The state after `applyCallback` -/
def calledBack (o : CallerObservation) (s : IntakeState) : IntakeState :=
  { s with
    callbackIntent := o.callbackIntent.getD s.callbackIntent
    callbackPhoneLastFour := o.callbackPhoneLastFour.getD s.callbackPhoneLastFour
    callbackConfirmation := o.callbackConfirmation.getD
      (o.callbackPhoneLastFour.elim s.callbackConfirmation fun _ => .unknown)
    askedSlots := o.callbackPhoneLastFour.elim s.askedSlots fun _ =>
      s.askedSlots.erase (py "callback_confirmation")
    knownFacts := facts.updateEach o.valueOf [.callbackIntent, .callbackConfirmation] s.knownFacts }

def applied (o : CallerObservation) (s : IntakeState) : IntakeState :=
  calledBack o (serviced o (detailed o s))

def IntakeState.withAsked (s : IntakeState) (asked : Finset Str) : IntakeState :=
  { s with askedSlots := asked }

structure CallerObservation.Sound (o : CallerObservation) : Prop where
  language : ∀ v ∈ o.language, normalizeLanguageCode T v = .ok v
  reason : ∀ v ∈ o.businessScopeReason,
    normalizeSafeText T "business_scope_reason" 160 v = .ok v
  serviceObject : ∀ v ∈ o.serviceObject, normalizeSafeText T "service_object" 80 v = .ok v
  callbackPhone : ∀ v ∈ o.callbackPhoneLastFour,
    normalizePhoneLastFour T "callback_phone_last_four" v = .ok v

section

variable {T} {P : Python} {s : IntakeState} {o : CallerObservation}

theorem ifGiven_sound {normalize : Str → Except String Str} {given v : Option Str}
    (hidem : ∀ a b, normalize a = .ok b → normalize b = .ok b)
    (h : ifGiven normalize given = .ok v) : ∀ a ∈ v, normalize a = .ok a := by
  cases given with
  | none =>
    cases h
    exact fun a ha => by cases ha
  | some b =>
    obtain ⟨c, hc, h⟩ := bind_eq_ok.mp h
    cases h
    intro a ha
    cases ha
    exact hidem b c hc

theorem construct_sound {given : CallerObservation}
    (h : CallerObservation.construct T given = .ok o) : o.Sound T := by
  unfold CallerObservation.construct at h
  obtain ⟨language, hlanguage, h⟩ := bind_eq_ok.mp h
  obtain ⟨object, hobject, h⟩ := bind_eq_ok.mp h
  obtain ⟨reason, hreason, h⟩ := bind_eq_ok.mp h
  obtain ⟨lastFour, hlastFour, h⟩ := bind_eq_ok.mp h
  cases h
  exact {
    language := ifGiven_sound (fun _ _ h => (normalizeLanguageCode_idem h).1) hlanguage
    reason := ifGiven_sound (fun _ _ h => normalizeSafeText_idem h) hreason
    serviceObject := ifGiven_sound (fun _ _ h => normalizeSafeText_idem h) hobject
    callbackPhone := ifGiven_sound (fun _ _ h => normalizePhoneLastFour_idem h _) hlastFour }

/-! ## Facts are safe -/

/-- A text that a list of known facts takes as it is. -/
def SafeFact (T : Tables) (f : Str) : Prop := normalizeSafeText T "known_facts" 160 f = .ok f

def SafeValue (T : Tables) (k : KnownSlot) (v : Str) : Prop := ∀ f ∈ facts.entry k v, SafeFact T f

theorem label_wording (k : KnownSlot) : isWording (label k.name) = true := by
  cases k <;> decide

theorem label_length (k : KnownSlot) : (label k.name).length ≤ 22 := by
  cases k <;> decide

theorem safeValue_of_safe (hT : T.Ascii) {fieldName : String} (k : KnownSlot) {v : Str}
    (h : normalizeSafeText T fieldName 80 v = .ok v) : SafeValue T k v := by
  intro f hf
  change (if v = [] then none else some (label k.name ++ v)) = some f at hf
  split at hf
  · cases hf
  rename_i hne
  cases hf
  obtain ⟨hstrip, hlength, hcontrol, hphone⟩ := normalizeSafeText_eq_ok.mp h
  rw [← hstrip] at hlength hcontrol hphone
  have hwording := wording_plain hT (label_wording k)
  have hstripped : strip (label k.name ++ v) = label k.name ++ v := by
    cases hlabel : label k.name with
    | nil =>
      cases k <;> cases hlabel
    | cons c rest =>
      refine strip_of_ends ?_ ?_
      · have hfirst : ((label k.name).head?.map isSpace) = some false := by cases k <;> decide
        rw [hlabel] at hfirst
        exact Option.some.inj hfirst
      · have hlast : (c :: (rest ++ v)).getLast (List.cons_ne_nil _ _) = v.getLast hne := by
          rw [List.getLast_cons (List.append_ne_nil_of_right_ne_nil _ hne),
            List.getLast_append_of_ne_nil _ hne]
        exact (congrArg isSpace hlast).trans (getLast_of_strip hstrip.symm hne)
  rw [SafeFact, normalizeSafeText_eq_ok, hstripped]
  refine ⟨rfl, ?_, ?_, ?_⟩
  · have hlabel := label_length k
    rw [List.length_append]
    omega
  · intro c hc
    rcases List.mem_append.mp hc with hc | hc
    · exact (hwording c hc).2
    · exact hcontrol c hc
  · rw [fullPhone_append fun c hc => (hwording c hc).1]
    exact hphone

theorem safeValue_nil (k : KnownSlot) : SafeValue T k [] := fun f hf => by cases hf

theorem safeValue_fact (hT : T.Ascii) {α : Type} [DecidableEq α] {members : Members α}
    {empty a : α} (k : KnownSlot)
    (hwording : isWording (py (valueIn members a)) = true)
    (hstrip : strip (py (valueIn members a)) = py (valueIn members a))
    (hlength : (py (valueIn members a)).length ≤ 80) :
    SafeValue T k (factValue members empty a) := by
  unfold factValue
  split
  · exact safeValue_nil k
  · have hsafe : normalizeSafeText T "" 80 (py (valueIn members a)) = .ok (py (valueIn members a)) :=
      normalize_wording hT hwording hstrip hlength
    exact safeValue_of_safe hT k hsafe

theorem safeValue_action (hT : T.Ascii) (a : ServiceAction) : SafeValue T .serviceAction a.fact := by
  cases a <;> exact safeValue_fact hT _ (by decide) (by decide) (by decide)

theorem safeValue_urgency (hT : T.Ascii) (u : Urgency) : SafeValue T .urgency u.fact := by
  cases u <;> exact safeValue_fact hT _ (by decide) (by decide) (by decide)

theorem safeValue_intent (hT : T.Ascii) (i : CallbackIntent) :
    SafeValue T .callbackIntent i.fact := by
  cases i <;> exact safeValue_fact hT _ (by decide) (by decide) (by decide)

theorem safeValue_confirmation (hT : T.Ascii) (c : CallbackConfirmation) :
    SafeValue T .callbackConfirmation c.fact := by
  cases c <;> exact safeValue_fact hT _ (by decide) (by decide) (by decide)

theorem valueOf_safe (hT : T.Ascii) (ho : o.Sound T) (k : KnownSlot) :
    ∀ v ∈ o.valueOf k, SafeValue T k v := by
  intro v hv
  cases k with
  | serviceObject => exact safeValue_of_safe hT _ (ho.serviceObject v hv)
  | serviceAction =>
    obtain ⟨a, -, rfl⟩ := Option.map_eq_some_iff.mp hv
    exact safeValue_action hT a
  | urgency =>
    obtain ⟨u, -, rfl⟩ := Option.map_eq_some_iff.mp hv
    exact safeValue_urgency hT u
  | callbackIntent =>
    obtain ⟨i, -, rfl⟩ := Option.map_eq_some_iff.mp hv
    exact safeValue_intent hT i
  | callbackConfirmation =>
    rcases Option.or_eq_some_iff.mp hv with hv | ⟨-, hv⟩
    · obtain ⟨c, -, rfl⟩ := Option.map_eq_some_iff.mp hv
      exact safeValue_confirmation hT c
    · obtain ⟨-, -, rfl⟩ := Option.map_eq_some_iff.mp hv
      exact safeValue_nil _

/-! ## An observation is applied -/

theorem replaceKnownSlot_eq {k : KnownSlot} {v : Str} (hfacts : ∀ f ∈ s.knownFacts, SafeFact T f)
    (hv : SafeValue T k v) :
    replaceKnownSlot T k.name v s = .ok { s with knownFacts := facts.update k v s.knownFacts } := by
  have hkept : normalizeSafeTextCollection T "known_facts" 160
      (s.knownFacts.filter fun f => !(label k.name).isPrefixOf f) =
        .ok (s.knownFacts.filter fun f => !(label k.name).isPrefixOf f) :=
    normalizeCollection_self fun f hf => hfacts f (List.mem_of_mem_filter hf)
  rw [replaceKnownSlot, hkept, ok_bind]
  by_cases hnil : v = []
  · rw [if_pos hnil, hnil]
    change _ = Except.ok { s with knownFacts := s.knownFacts.filter _ ++ [] }
    rw [List.append_nil]
    rfl
  · have hfact : normalizeSafeText T "known_facts" 160 (label k.name ++ v) =
        .ok (label k.name ++ v) := hv _ (if_neg hnil)
    have hentry : facts.entry k v = some (label k.name ++ v) := if_neg hnil
    rw [if_neg hnil, hfact, ok_bind, Keyed.update, hentry]
    rfl

theorem safe_updateSome {k : KnownSlot} {v : Option Str} {l : List Str}
    (hl : ∀ f ∈ l, SafeFact T f) (hv : ∀ a ∈ v, SafeValue T k a) :
    ∀ f ∈ facts.updateSome k v l, SafeFact T f := by
  intro f hf
  cases v with
  | none => exact hl f hf
  | some v =>
    rcases Keyed.mem_update hf with hf | hf
    · exact hl f hf
    · exact hv v rfl f hf

theorem assign_field {α : Type} {value : Option α}
    {set : α → IntakeState → Except String IntakeState} (store : α → IntakeState → IntakeState)
    (field : IntakeState → α) (hkeep : store (field s) s = s)
    (hset : ∀ a ∈ value, set a s = .ok (store a s)) :
    assign value set s = .ok (store (value.getD (field s)) s) := by
  cases value with
  | none => exact congrArg Except.ok hkeep.symm
  | some a => exact hset a rfl

theorem assign_slot {α : Type} {value : Option α}
    {set : α → IntakeState → Except String IntakeState} (store : α → IntakeState → IntakeState)
    (field : IntakeState → α) (k : KnownSlot) (fact : α → Str) (hkeep : store (field s) s = s)
    (hfacts : ∀ f ∈ s.knownFacts, SafeFact T f) (hstore : ∀ a, (store a s).knownFacts = s.knownFacts)
    (hv : ∀ v ∈ value.map fact, SafeValue T k v)
    (hset : ∀ a ∈ value, set a s = replaceKnownSlot T k.name (fact a) (store a s)) :
    assign value set s = .ok { store (value.getD (field s)) s with
      knownFacts := facts.updateSome k (value.map fact) s.knownFacts } := by
  cases value with
  | none =>
    refine congrArg Except.ok ?_
    change s = { store (field s) s with knownFacts := s.knownFacts }
    rw [hkeep]
  | some a =>
    change set a s = _
    rw [hset a rfl, replaceKnownSlot_eq (by rw [hstore]; exact hfacts) (hv _ rfl), hstore]
    rfl

theorem applyDetails_eq (ho : o.Sound T) : applyDetails T o s = .ok (detailed o s) := by
  unfold applyDetails
  simp only
  rw [assign_field (fun b s => { s with callerIdentity := { s.callerIdentity with confirmed := b } })
    (fun s => s.callerIdentity.confirmed) rfl fun _ _ => rfl, ok_bind]
  rw [assign_field (fun language s => { s with language := language }) IntakeState.language rfl
    (fun v hv => by
      obtain ⟨-, hne, hstrip⟩ := normalizeLanguageCode_idem (ho.language v hv)
      rw [hstrip, if_neg hne, ho.language v hv]
      rfl), ok_bind]
  rw [assign_field (fun scope s => { s with businessScope := scope }) IntakeState.businessScope rfl
    fun _ _ => rfl, ok_bind]
  rw [assign_field (fun reason s => { s with businessScopeReason := reason })
    IntakeState.businessScopeReason rfl (fun v hv => by
      have hreason := ho.reason v hv
      rw [← (normalizeSafeText_eq_ok.mp hreason).1, hreason]
      rfl), ok_bind]
  rw [assign_field (fun intent s => { s with intent := intent }) IntakeState.intent rfl
    fun _ _ => rfl, ok_bind]
  exact assign_field (fun need s => { s with addressNeed := need }) IntakeState.addressNeed rfl
    fun _ _ => rfl

theorem applyService_eq (hT : T.Ascii) (ho : o.Sound T)
    (hfacts : ∀ f ∈ s.knownFacts, SafeFact T f) : applyService T o s = .ok (serviced o s) := by
  have hsafe := valueOf_safe hT ho
  have hobject := safe_updateSome hfacts (hsafe .serviceObject)
  have haction := safe_updateSome hobject (hsafe .serviceAction)
  have hgiven : ∀ v ∈ o.serviceObject.map id, SafeValue T .serviceObject v := by
    rw [Option.map_id]
    exact hsafe .serviceObject
  unfold applyService
  rw [assign_slot (fun object s => { s with serviceObject := object }) IntakeState.serviceObject
    .serviceObject id rfl hfacts (fun _ => rfl) hgiven
    (fun v hv => by
      have hv := ho.serviceObject v hv
      rw [← (normalizeSafeText_eq_ok.mp hv).1, hv]
      rfl), ok_bind, Option.map_id]
  rw [assign_slot (fun action s => { s with serviceAction := action }) IntakeState.serviceAction
    .serviceAction ServiceAction.fact rfl hobject (fun _ => rfl) (hsafe .serviceAction)
    (fun _ _ => rfl), ok_bind]
  exact assign_slot (fun urgency s => { s with urgency := urgency }) IntakeState.urgency
    .urgency Urgency.fact rfl haction (fun _ => rfl) (hsafe .urgency) (fun _ _ => rfl)

theorem assign_phone (ho : o.Sound T) (hfacts : ∀ f ∈ s.knownFacts, SafeFact T f) :
    assign o.callbackPhoneLastFour (fun lastFour s => do
        let lastFour ← normalizePhoneLastFourOrEmpty T "callback_phone_last_four" lastFour
        replaceKnownSlot T "callback_confirmation" []
          { s with
            callbackPhoneLastFour := lastFour, callbackConfirmation := .unknown,
            askedSlots := s.askedSlots.erase (py "callback_confirmation") }) s =
      .ok { s with
        callbackPhoneLastFour := o.callbackPhoneLastFour.getD s.callbackPhoneLastFour
        callbackConfirmation :=
          o.callbackPhoneLastFour.elim s.callbackConfirmation fun _ => .unknown
        askedSlots := o.callbackPhoneLastFour.elim s.askedSlots fun _ =>
          s.askedSlots.erase (py "callback_confirmation")
        knownFacts := facts.updateSome .callbackConfirmation
          (o.callbackPhoneLastFour.map fun _ => []) s.knownFacts } := by
  cases hphone : o.callbackPhoneLastFour with
  | none => rfl
  | some lastFour =>
    have hnormal := ho.callbackPhone lastFour hphone
    have hne := normalizePhoneLastFour_ne_nil hnormal
    change (normalizePhoneLastFourOrEmpty T "callback_phone_last_four" lastFour >>= _) = _
    rw [normalizePhoneLastFourOrEmpty, if_neg hne, hnormal, ok_bind]
    exact replaceKnownSlot_eq (k := .callbackConfirmation)
      (s := { s with
        callbackPhoneLastFour := lastFour, callbackConfirmation := .unknown,
        askedSlots := s.askedSlots.erase (py "callback_confirmation") })
      hfacts (safeValue_nil _)

theorem applyCallback_eq (hT : T.Ascii) (ho : o.Sound T)
    (hfacts : ∀ f ∈ s.knownFacts, SafeFact T f) : applyCallback T o s = .ok (calledBack o s) := by
  have hintent := safe_updateSome hfacts (valueOf_safe hT ho .callbackIntent)
  have hphone : ∀ f ∈ facts.updateSome .callbackConfirmation
      (o.callbackPhoneLastFour.map fun _ => [])
      (facts.updateSome .callbackIntent (o.valueOf .callbackIntent) s.knownFacts), SafeFact T f := by
    refine safe_updateSome hintent fun v hv => ?_
    obtain ⟨-, -, rfl⟩ := Option.map_eq_some_iff.mp hv
    exact safeValue_nil _
  have hconfirmation : ∀ v ∈ o.callbackConfirmation.map CallbackConfirmation.fact,
      SafeValue T .callbackConfirmation v := by
    intro v hv
    obtain ⟨c, -, rfl⟩ := Option.map_eq_some_iff.mp hv
    exact safeValue_confirmation hT c
  -- The slot of the confirmation is replaced twice; the later one counts.
  have htwice : facts.updateEach o.valueOf [.callbackIntent, .callbackConfirmation] s.knownFacts =
      facts.updateSome .callbackConfirmation (o.callbackConfirmation.map CallbackConfirmation.fact)
        (facts.updateSome .callbackConfirmation (o.callbackPhoneLastFour.map fun _ => [])
          (facts.updateSome .callbackIntent (o.callbackIntent.map CallbackIntent.fact)
            s.knownFacts)) := by
    rw [Keyed.updateSome_updateSome facts_lawful]
    rfl
  unfold applyCallback
  rw [assign_slot (fun intent s => { s with callbackIntent := intent }) IntakeState.callbackIntent
    .callbackIntent CallbackIntent.fact rfl hfacts (fun _ => rfl)
    (valueOf_safe hT ho .callbackIntent) (fun _ _ => rfl), ok_bind,
    assign_phone ho hintent, ok_bind, calledBack, htwice]
  exact assign_slot (fun confirmation s => { s with callbackConfirmation := confirmation })
    IntakeState.callbackConfirmation .callbackConfirmation CallbackConfirmation.fact rfl hphone
    (fun _ => rfl) hconfirmation (fun _ _ => rfl)

theorem safe_updateEach (hT : T.Ascii) (ho : o.Sound T) {slots : List KnownSlot} {l : List Str}
    (hl : ∀ f ∈ l, SafeFact T f) : ∀ f ∈ facts.updateEach o.valueOf slots l, SafeFact T f := by
  intro f hf
  rcases Keyed.mem_updateEach hf with hf | ⟨k, v, hv, hentry⟩
  · exact hl f hf
  · exact valueOf_safe hT ho k v hv f hentry

/-- **An observation in normal form is applied**, whatever is known already. -/
theorem applyCallerObservation_eq (hT : T.Ascii) (ho : o.Sound T)
    (hfacts : ∀ f ∈ s.knownFacts, SafeFact T f) :
    applyCallerObservation T o s = .ok (applied o s) := by
  have hserviced : ∀ f ∈ (serviced o (detailed o s)).knownFacts, SafeFact T f :=
    safe_updateEach hT ho hfacts
  rw [applyCallerObservation, applyDetails_eq ho, ok_bind,
    applyService_eq hT ho (s := detailed o s) hfacts, ok_bind, applyCallback_eq hT ho hserviced]
  rfl

theorem applied_facts (o : CallerObservation) (s : IntakeState) :
    (applied o s).knownFacts = facts.updateEach o.valueOf KnownSlot.all s.knownFacts := rfl

theorem applied_valueOf (o : CallerObservation) (s : IntakeState) (k : KnownSlot) :
    (applied o s).valueOf k = (o.valueOf k).getD (s.valueOf k) := by
  cases k with
  | serviceObject => rfl
  | serviceAction => exact Option.getD_map ServiceAction.fact s.serviceAction o.serviceAction |>.symm
  | urgency => exact Option.getD_map Urgency.fact s.urgency o.urgency |>.symm
  | callbackIntent =>
    exact Option.getD_map CallbackIntent.fact s.callbackIntent o.callbackIntent |>.symm
  | callbackConfirmation =>
    change (o.callbackConfirmation.getD _).fact =
      ((o.callbackConfirmation.map CallbackConfirmation.fact).or _).getD _
    cases o.callbackConfirmation with
    | some c => rfl
    | none =>
      cases o.callbackPhoneLastFour with
      | some lastFour => rfl
      | none => rfl

theorem applied_coherent (o : CallerObservation) (h : Coherent s) : Coherent (applied o s) := by
  intro k
  have hslot : facts.ofKey k (facts.updateEach o.valueOf KnownSlot.all s.knownFacts) =
      (o.valueOf k).elim (facts.ofKey k s.knownFacts) fun v => (facts.entry k v).toList :=
    Keyed.ofKey_updateEach facts_lawful KnownSlot.nodup_all k.mem_all s.knownFacts
  rw [applied_facts, applied_valueOf]
  refine Eq.trans hslot ?_
  cases o.valueOf k with
  | none => exact h k
  | some v =>
    change (if v = [] then none else some (label k.name ++ v)).toList =
      if v = [] then [] else [label k.name ++ v]
    split <;> rfl

theorem applied_sound (hT : T.Ascii) (ho : o.Sound T) (h : s.Sound T) : (applied o s).Sound T where
  callSid := h.callSid
  identity := ⟨h.identity.name, h.identity.confidence, h.identity.source⟩
  callerPhone := h.callerPhone
  callbackPhone := by
    change normalizePhoneLastFourOrEmpty T _ (o.callbackPhoneLastFour.getD s.callbackPhoneLastFour) =
      .ok (o.callbackPhoneLastFour.getD s.callbackPhoneLastFour)
    cases hphone : o.callbackPhoneLastFour with
    | none => exact h.callbackPhone
    | some lastFour =>
      have hnormal := ho.callbackPhone lastFour hphone
      rw [Option.getD_some, normalizePhoneLastFourOrEmpty,
        if_neg (normalizePhoneLastFour_ne_nil hnormal), hnormal]
  reason := by
    change normalizeSafeText T _ _ (o.businessScopeReason.getD s.businessScopeReason) =
      .ok (o.businessScopeReason.getD s.businessScopeReason)
    cases hreason : o.businessScopeReason with
    | none => exact h.reason
    | some reason => exact ho.reason reason hreason
  serviceObject := by
    change normalizeSafeText T _ _ (o.serviceObject.getD s.serviceObject) =
      .ok (o.serviceObject.getD s.serviceObject)
    cases hobject : o.serviceObject with
    | none => exact h.serviceObject
    | some object => exact ho.serviceObject object hobject
  facts := by
    rw [applied_facts]
    exact safe_updateEach hT ho h.facts
  asked := by
    intro v hv
    change v ∈ o.callbackPhoneLastFour.elim s.askedSlots fun _ => s.askedSlots.erase _ at hv
    cases hphone : o.callbackPhoneLastFour with
    | none =>
      rw [hphone] at hv
      exact h.asked v hv
    | some lastFour =>
      rw [hphone] at hv
      exact h.asked v (Finset.mem_of_mem_erase hv)
  refs := h.refs
  language := by
    change normalizeLanguageCode T (o.language.getD s.language) = .ok (o.language.getD s.language)
    cases hlanguage : o.language with
    | none => exact h.language
    | some language => exact ho.language language hlanguage

/-- **Applying an observation again** changes nothing but the marks of the asked slots. -/
theorem applied_idem (o : CallerObservation) (s : IntakeState) (asked : Finset Str) :
    applied o ((applied o s).withAsked asked) =
      (applied o s).withAsked (o.callbackPhoneLastFour.elim asked fun _ =>
        asked.erase (py "callback_confirmation")) := by
  have hfacts : (applied o ((applied o s).withAsked asked)).knownFacts =
      (applied o s).knownFacts :=
    Keyed.updateEach_idem facts_lawful KnownSlot.nodup_all s.knownFacts
  have htwice : ∀ {α : Type} (v : Option α) (a : α), v.getD (v.getD a) = v.getD a := by
    intro α v a
    cases v <;> rfl
  have hconfirmation : o.callbackConfirmation.getD (o.callbackPhoneLastFour.elim
      (o.callbackConfirmation.getD (o.callbackPhoneLastFour.elim s.callbackConfirmation
        fun _ => .unknown)) fun _ => .unknown) =
      o.callbackConfirmation.getD (o.callbackPhoneLastFour.elim s.callbackConfirmation
        fun _ => .unknown) := by
    cases o.callbackConfirmation <;> cases o.callbackPhoneLastFour <;> rfl
  unfold IntakeState.withAsked applied calledBack serviced detailed at hfacts ⊢
  simp only at hfacts ⊢
  simp only [htwice, hconfirmation, hfacts]

end

/-! ## Runs -/

abbrev Observation :=
  { o : CallerObservation // ∃ given, CallerObservation.construct T given = .ok o }

inductive Op
  | observe (o : Observation T)
  | markAsked (slot : Str)

/-- An operation on the state of a call, which an exception leaves alone. -/
def intake : Machine IntakeState (Op T) (Except String Unit) := fun s op =>
  let result := match op with
    | .observe o => applyCallerObservation T o.val s
    | .markAsked slot => markSlotAsked T slot s
  match result with
  | .ok s' => (s', .ok ())
  | .error e => (s, .error e)

def OnlyMarks (ops : List (Op T)) : Prop := ∀ op ∈ ops, ∃ slot, op = .markAsked slot

/-- What has to hold of a run from the state `s₀`. -/
structure SurvivesFrom (P : Python) (s₀ : IntakeState) (ops : List (Op T)) : Prop where
  /-- No observation is refused. -/
  applied : ∀ e ∈ (intake T).log s₀ ops, ∀ o, e.call = .observe o → e.resp = .ok ()
  /-- The state is read back from the dictionary it is stored as. -/
  stored : IntakeState.fromDict P T ((intake T).run s₀ ops).toDict = .ok ((intake T).run s₀ ops)
  /-- The facts are what the fields say. -/
  coherent : Coherent ((intake T).run s₀ ops)
  /-- A changed callback number is unconfirmed, unless the observation says otherwise. -/
  reset : ∀ e ∈ (intake T).log s₀ ops, ∀ o, e.call = .observe o →
    e.post.callbackPhoneLastFour ≠ e.pre.callbackPhoneLastFour →
      o.val.callbackConfirmation = none → e.post.callbackConfirmation = .unknown
  /-- The last observation, applied again, changes nothing. -/
  repeated : ∀ before o after, ops = before ++ .observe o :: after → OnlyMarks T after →
    applyCallerObservation T o.val ((intake T).run s₀ ops) = .ok ((intake T).run s₀ ops)

/-- A call of which nothing but its SID is known is set up, and its state survives the run. -/
def Survives (P : Python) (sid : Str) (ops : List (Op T)) : Prop :=
  ∃ s₀, IntakeState.new T sid [] [] [] (.ofRat 0) [] = .ok s₀ ∧ SurvivesFrom T P s₀ ops

/-- `CA` and 32 lowercase hexadecimal digits -/
def IsCallSid (sid : Str) : Prop :=
  ∃ hex, sid = py "CA" ++ hex ∧ hex.length = 32 ∧ ∀ c ∈ hex, Python.isLowerHex c = true

def NineDigits (s : Str) : Prop :=
  ∃ run, run <:+: s ∧ run.length = 9 ∧ ∀ c ∈ run, 48 ≤ c.val ∧ c.val < 58

/-- The last observation gives a callback number, and the confirmation of that is marked asked
afterwards. -/
def AskedSince (ops : List (Op T)) : Prop :=
  ∃ before o after slot, ops = before ++ .observe o :: after ∧ OnlyMarks T after ∧
    o.val.callbackPhoneLastFour ≠ none ∧ .markAsked slot ∈ after ∧
      strip slot = py "callback_confirmation"

section

variable {T} {P : Python} {s : IntakeState} {sid : Str}

theorem observe_eq (hT : T.Ascii) (h : s.Sound T) (o : Observation T) :
    intake T s (.observe o) = (applied o.val s, .ok ()) := by
  obtain ⟨given, hgiven⟩ := o.property
  simp only [intake, applyCallerObservation_eq hT (construct_sound hgiven) h.facts]

theorem mark_eq (s : IntakeState) (slot : Str) :
    ∃ asked, (intake T s (.markAsked slot)).1 = s.withAsked asked ∧
      ∀ v, v ∈ asked ↔ v ∈ s.askedSlots ∨
        slot ≠ [] ∧ normalizeSafeText T "asked_slots" 80 slot = .ok v := by
  unfold intake markSlotAsked
  simp only
  by_cases hnil : slot = []
  · refine ⟨s.askedSlots, ?_, fun v => ?_⟩
    · rw [if_pos hnil]
      rfl
    · exact ⟨.inl, fun h => h.elim id fun h => absurd hnil h.1⟩
  rw [if_neg hnil]
  cases hsafe : normalizeSafeText T "asked_slots" 80 slot with
  | error e =>
    refine ⟨s.askedSlots, rfl, fun v => ⟨.inl, fun h => h.elim id fun h => ?_⟩⟩
    cases h.2
  | ok r =>
    refine ⟨insert r s.askedSlots, rfl, fun v => ?_⟩
    rw [Finset.mem_insert, Except.ok.injEq]
    constructor
    · rintro (rfl | hv)
      · exact .inr ⟨hnil, rfl⟩
      · exact .inl hv
    · rintro (hv | ⟨-, rfl⟩)
      · exact .inr hv
      · exact .inl rfl

theorem intake_step (hT : T.Ascii) (op : Op T) (h : s.Sound T ∧ Coherent s) :
    (intake T s op).1.Sound T ∧ Coherent (intake T s op).1 := by
  cases op with
  | observe o =>
    obtain ⟨given, hgiven⟩ := o.property
    rw [observe_eq hT h.1]
    exact ⟨applied_sound hT (construct_sound hgiven) h.1, applied_coherent o.val h.2⟩
  | markAsked slot =>
    obtain ⟨asked, heq, hasked⟩ := mark_eq (T := T) s slot
    rw [heq]
    refine ⟨{ h.1 with asked := fun v hv => ?_ }, h.2⟩
    rcases (hasked v).mp hv with hv | ⟨-, hv⟩
    · exact h.1.asked v hv
    · exact normalizeSafeText_idem hv

theorem intake_run (hT : T.Ascii) (ops : List (Op T)) (h : s.Sound T ∧ Coherent s) :
    ((intake T).run s ops).Sound T ∧ Coherent ((intake T).run s ops) :=
  (intake T).reachable_inv (I := fun s => s.Sound T ∧ Coherent s) h
    (fun _ op h => intake_step hT op h) ⟨ops, rfl⟩

theorem confirmation_marked (hT : T.Ascii) (slot : Str) :
    slot ≠ [] ∧ normalizeSafeText T "asked_slots" 80 slot = .ok (py "callback_confirmation") ↔
      strip slot = py "callback_confirmation" := by
  have hsafe : normalizeSafeText T "asked_slots" 80 (py "callback_confirmation") =
      .ok (py "callback_confirmation") :=
    normalize_wording hT (by decide) (by decide) (by decide)
  obtain ⟨hstrip, hrest⟩ := normalizeSafeText_eq_ok.mp hsafe
  rw [← hstrip] at hrest
  constructor
  · rintro ⟨-, h⟩
    exact (normalizeSafeText_eq_ok.mp h).1.symm
  · intro h
    refine ⟨fun hnil => ?_, ?_⟩
    · rw [hnil] at h
      exact absurd h (by decide)
    · rw [normalizeSafeText_eq_ok, h]
      exact ⟨rfl, hrest⟩

/-- Marks change nothing but the set of the asked slots, and the confirmation is in it where it
was or is marked. -/
theorem run_marks (hT : T.Ascii) {ops : List (Op T)} (hops : OnlyMarks T ops) (s : IntakeState) :
    ∃ asked, (intake T).run s ops = s.withAsked asked ∧
      (py "callback_confirmation" ∈ asked ↔ py "callback_confirmation" ∈ s.askedSlots ∨
        ∃ slot, .markAsked slot ∈ ops ∧ strip slot = py "callback_confirmation") := by
  induction ops generalizing s with
  | nil =>
    refine ⟨s.askedSlots, rfl, .inl, ?_⟩
    rintro (hin | ⟨slot, hslot, -⟩)
    · exact hin
    · cases hslot
  | cons op ops ih =>
    obtain ⟨slot, rfl⟩ := hops op List.mem_cons_self
    obtain ⟨first, hfirst, hmem⟩ := mark_eq (T := T) s slot
    obtain ⟨asked, heq, hasked⟩ :=
      ih (fun op hop => hops op (List.mem_cons_of_mem _ hop)) (s.withAsked first)
    refine ⟨asked, ?_, ?_⟩
    · rw [Machine.run_cons, hfirst, heq]
      rfl
    · rw [hasked]
      change py "callback_confirmation" ∈ first ∨ _ ↔ _
      rw [ hmem, confirmation_marked hT]
      constructor
      · rintro ((hin | hnow) | ⟨later, hlater, hstrip⟩)
        · exact .inl hin
        · exact .inr ⟨slot, List.mem_cons_self, hnow⟩
        · exact .inr ⟨later, List.mem_cons_of_mem _ hlater, hstrip⟩
      · rintro (hin | ⟨later, hlater, hstrip⟩)
        · exact .inl (.inl hin)
        · rcases List.mem_cons.mp hlater with heq | hlater
          · cases heq
            exact .inl (.inr hstrip)
          · exact .inr ⟨later, hlater, hstrip⟩

/-- **The last observation again**: it changes something exactly where the confirmation of its
number was marked since. -/
theorem repeated_iff (hT : T.Ascii) (h : s.Sound T) (o : Observation T) {after : List (Op T)}
    (hafter : OnlyMarks T after) :
    applyCallerObservation T o.val ((intake T).run (applied o.val s) after) =
        .ok ((intake T).run (applied o.val s) after) ↔
      (o.val.callbackPhoneLastFour ≠ none →
        ∀ slot, .markAsked slot ∈ after → strip slot ≠ py "callback_confirmation") := by
  obtain ⟨given, hgiven⟩ := o.property
  have hsound := construct_sound hgiven
  obtain ⟨asked, heq, hasked⟩ := run_marks hT hafter (applied o.val s)
  have hfacts : ∀ f ∈ ((applied o.val s).withAsked asked).knownFacts, SafeFact T f :=
    (applied_sound hT hsound h).facts
  rw [heq, applyCallerObservation_eq hT hsound hfacts, applied_idem, Except.ok.injEq]
  cases hphone : o.val.callbackPhoneLastFour with
  | none => exact iff_of_true rfl fun hne => absurd rfl hne
  | some lastFour =>
    have hgone : py "callback_confirmation" ∉ (applied o.val s).askedSlots := by
      change _ ∉ o.val.callbackPhoneLastFour.elim s.askedSlots fun _ => s.askedSlots.erase _
      rw [hphone]
      exact Finset.notMem_erase _ _
    constructor
    · intro hsame _ slot hslot hstrip
      have herase : asked.erase (py "callback_confirmation") = asked :=
        congrArg IntakeState.askedSlots hsame
      have hin := hasked.mpr (.inr ⟨slot, hslot, hstrip⟩)
      rw [← herase] at hin
      exact Finset.notMem_erase _ _ hin
    · intro hunmarked
      have hout : py "callback_confirmation" ∉ asked := by
        intro hin
        rcases hasked.mp hin with hin | ⟨slot, hslot, hstrip⟩
        · exact hgone hin
        · exact hunmarked (Option.some_ne_none _) slot hslot hstrip
      change (applied o.val s).withAsked (asked.erase (py "callback_confirmation")) = _
      rw [Finset.erase_eq_of_notMem hout]

/-! ## The call SID -/

theorem callSid_sparse (hT : T.Ascii) (hsid : IsCallSid sid) :
    T.Sparse sid ∧ (∀ c ∈ sid, 32 ≤ c.val ∧ c.val < 128 ∧ isSpace c = false) ∧ sid.length = 34 := by
  obtain ⟨hex, rfl, hlength, hhex⟩ := hsid
  -- `C`, `A` and the digits are the characters there are.
  have hchars : ∀ c ∈ py "CA" ++ hex, (65 ≤ c.val ∧ c.val < 68) ∨ (48 ≤ c.val ∧ c.val < 58) ∨
      (97 ≤ c.val ∧ c.val < 103) := by
    intro c hc
    rcases List.mem_append.mp hc with hc | hc
    · have hletters : (py "CA").all (fun c => decide (65 ≤ c.val) && decide (c.val < 68)) = true := by
        decide
      have hrange := List.all_eq_true.mp hletters c hc
      rw [Bool.and_eq_true, decide_eq_true_eq, decide_eq_true_eq] at hrange
      exact .inl hrange
    · have hrange := hhex c hc
      simp only [Python.isLowerHex, Bool.or_eq_true, Bool.and_eq_true, decide_eq_true_eq] at hrange
      exact .inr hrange
  refine ⟨fun c hc => ?_, fun c hc => ?_, ?_⟩
  · have hrange := hchars c hc
    refine ⟨fun hin => ?_, by omega⟩
    rw [hT.decimal c (by omega), decide_eq_true_eq]
    simp only [inPhone, hT.decimal c (by omega), Bool.or_eq_true, decide_eq_true_eq,
      beq_iff_eq] at hin
    omega
  · have hrange := hchars c hc
    refine ⟨by omega, by omega, ?_⟩
    simp only [isSpace, Bool.or_eq_false_iff, Bool.and_eq_false_iff, decide_eq_false_iff_not,
      beq_eq_false_iff_ne]
    omega
  · rw [List.length_append, hlength]
    rfl

theorem callSid_stripped (hT : T.Ascii) (hsid : IsCallSid sid) : strip sid = sid := by
  obtain ⟨-, hchars, hlength⟩ := callSid_sparse hT hsid
  cases sid with
  | nil => cases hlength
  | cons c rest =>
    exact strip_of_ends (hchars c List.mem_cons_self).2.2 (hchars _ (List.getLast_mem _)).2.2

theorem callSid_accepted (hT : T.Ascii) (hsid : IsCallSid sid) :
    normalizeSafeText T "call_sid" 128 sid = .ok sid ↔ ¬ NineDigits sid := by
  obtain ⟨hsparse, hchars, hlength⟩ := callSid_sparse hT hsid
  have hdigits : fullPhone T sid = true ↔ NineDigits sid := by
    rw [fullPhone_iff_nineDigits hsparse]
    refine exists_congr fun run => and_congr_right fun hrun => and_congr_right fun _ =>
      forall₂_congr fun c hc => ?_
    rw [hT.decimal c (hchars c (hrun.subset hc)).2.1, decide_eq_true_eq]
  rw [normalizeSafeText_eq_ok, callSid_stripped hT hsid, ← hdigits, Bool.not_eq_true]
  constructor
  · exact fun h => h.2.2.2
  · exact fun h => ⟨rfl, by omega, fun c hc => (hchars c hc).1, h⟩

/-! ## Survival -/

/-- From a state in normal form whose facts agree with it, a run goes wrong only where the
confirmation was marked since the last observation. -/
theorem survivesFrom_iff (hT : T.Ascii) (ops : List (Op T)) (h : s.Sound T ∧ Coherent s) :
    SurvivesFrom T P s ops ↔ ¬ AskedSince T ops := by
  have hmiddle : ∀ before o after, ops = before ++ .observe o :: after →
      ((intake T).run s before).Sound T ∧
        (intake T).run s ops = (intake T).run (applied o.val ((intake T).run s before)) after := by
    intro before o after hops
    have hsound := (intake_run hT before h).1
    refine ⟨hsound, ?_⟩
    rw [hops, Machine.run_append, Machine.run_cons, observe_eq hT hsound]
  constructor
  · rintro hsurvives ⟨before, o, after, slot, hops, hafter, hphone, hslot, hstrip⟩
    obtain ⟨hsound, hrun⟩ := hmiddle before o after hops
    have hrepeated := hsurvives.repeated before o after hops hafter
    rw [hrun, repeated_iff hT hsound o hafter] at hrepeated
    exact hrepeated hphone slot hslot hstrip
  · intro hasked
    obtain ⟨hfinal, hcoherent⟩ := intake_run hT ops h
    refine ⟨?_, fromDict_toDict hfinal, hcoherent, ?_, ?_⟩
    · intro e he o hcall
      obtain ⟨before, op, -, -, rfl⟩ := (intake T).mem_log he
      obtain rfl : op = .observe o := hcall
      rw [Machine.event_resp, observe_eq hT (intake_run hT before h).1]
    · intro e he o hcall hchanged hnone
      obtain ⟨before, op, -, -, rfl⟩ := (intake T).mem_log he
      obtain rfl : op = .observe o := hcall
      rw [Machine.event_post, Machine.event_pre, observe_eq hT (intake_run hT before h).1]
        at hchanged
      rw [Machine.event_post, observe_eq hT (intake_run hT before h).1]
      -- Only an observation with a number changes it.
      have hphone : o.val.callbackPhoneLastFour ≠ none := by
        intro hphone
        refine hchanged ?_
        change o.val.callbackPhoneLastFour.getD _ = _
        rw [hphone]
        rfl
      obtain ⟨lastFour, hlastFour⟩ := Option.ne_none_iff_exists'.mp hphone
      change o.val.callbackConfirmation.getD (o.val.callbackPhoneLastFour.elim _ _) = _
      rw [hnone, hlastFour]
      rfl
    · intro before o after hops hafter
      obtain ⟨hsound, hrun⟩ := hmiddle before o after hops
      rw [hrun, repeated_iff hT hsound o hafter]
      exact fun hphone slot hslot hstrip =>
        hasked ⟨before, o, after, slot, hops, hafter, hphone, hslot, hstrip⟩

/-- **A call's intake state survives a run exactly when** its SID has no nine digits in a row, and
the last observation of a callback number is not followed by a mark of its confirmation. -/
theorem newCall_survives_iff (P : Python) (hT : T.Ascii) (hsid : IsCallSid sid)
    (ops : List (Op T)) :
    Survives T P sid ops ↔ ¬ NineDigits sid ∧ ¬ AskedSince T ops := by
  have hnew := new_eq hT (callSid_stripped hT hsid)
  constructor
  · rintro ⟨s₀, hs₀, hsurvives⟩
    rw [hnew] at hs₀
    obtain ⟨callSid, hok, hblank⟩ := bind_eq_ok.mp hs₀
    cases hblank
    have hsame : callSid = sid :=
      (normalizeSafeText_eq_ok.mp hok).1.trans (callSid_stripped hT hsid)
    rw [hsame] at hok hsurvives
    have hstart : (IntakeState.blank sid noIdentity).Sound T ∧
        Coherent (IntakeState.blank sid noIdentity) :=
      ⟨blank_sound hT hok, fun k => by cases k <;> rfl⟩
    exact ⟨(callSid_accepted hT hsid).mp hok, (survivesFrom_iff hT ops hstart).mp hsurvives⟩
  · rintro ⟨hdigits, hasked⟩
    have hok := (callSid_accepted hT hsid).mpr hdigits
    have hstart : (IntakeState.blank sid noIdentity).Sound T ∧
        Coherent (IntakeState.blank sid noIdentity) :=
      ⟨blank_sound hT hok, fun k => by cases k <;> rfl⟩
    refine ⟨IntakeState.blank sid noIdentity, ?_, (survivesFrom_iff hT ops hstart).mpr hasked⟩
    rw [hnew, hok]
    rfl

end

/-! ## Two calls -/

def asciiTables : Tables where
  isDecimal c := decide (48 ≤ c.val ∧ c.val < 58)
  isDigit c := decide (48 ≤ c.val ∧ c.val < 58)
  isAlnum c := decide (48 ≤ c.val ∧ c.val < 58) || decide (97 ≤ c.val ∧ c.val < 123)

theorem asciiTables_ascii : asciiTables.Ascii where
  decimal _ _ := rfl
  alnum c hc := by
    simp only [asciiTables, Bool.or_eq_true, decide_eq_true_eq]
    exact .inr hc

def digitsSid : Str := py "CA123456789abcdefabcdefabcdefabcde"

/-- Its call has no intake state at all. -/
theorem digitsSid_refused :
    IsCallSid digitsSid ∧ ¬ Survives asciiTables asciiPython digitsSid [] := by
  refine ⟨⟨py "123456789abcdefabcdefabcdefabcde", rfl, rfl, ?_⟩, ?_⟩
  · exact List.all_eq_true.mp (by decide)
  · rintro ⟨s₀, hs₀, -⟩
    have hrefused :
        (IntakeState.new asciiTables digitsSid [] [] [] (.ofRat 0) []).toBool = false := by
      decide +kernel
    rw [hs₀] at hrefused
    cases hrefused

def lettersSid : Str := py "CAabcdefabcdefabcdefabcdefabcdefab"

/-- A caller who wants a boiler repaired and leaves a number. -/
def boilerRepair : CallerObservation where
  language := none
  identityConfirmed := none
  businessScope := some .inScope
  businessScopeReason := none
  intent := some .serviceRequest
  serviceObject := some (py "boiler")
  serviceAction := some .repair
  urgency := none
  callbackIntent := none
  callbackConfirmation := none
  callbackPhoneLastFour := some (py "0123")
  addressNeed := none

def boilerCall : List (Op asciiTables) :=
  [.observe ⟨boilerRepair, boilerRepair, rfl⟩, .markAsked (py "urgency")]

theorem boilerCall_survives : Survives asciiTables asciiPython lettersSid boilerCall := by
  have hsid : IsCallSid lettersSid :=
    ⟨py "abcdefabcdefabcdefabcdefabcdefab", rfl, rfl, List.all_eq_true.mp (by decide)⟩
  refine (newCall_survives_iff asciiPython asciiTables_ascii hsid boilerCall).mpr ⟨?_, ?_⟩
  · rintro ⟨run, hrun, hlength, hdigits⟩
    have hletters : lettersSid.all (fun c => decide (58 ≤ c.val)) = true := by decide
    obtain ⟨c, hc⟩ := List.exists_mem_of_length_pos (l := run) (by omega)
    have hletter := of_decide_eq_true (List.all_eq_true.mp hletters c (hrun.subset hc))
    have hdigit := hdigits c hc
    omega
  · rintro ⟨before, o, after, slot, hops, -, -, hslot, hstrip⟩
    have hmem : Op.markAsked slot ∈ boilerCall := by
      rw [hops]
      exact List.mem_append_right _ (List.mem_cons_of_mem _ hslot)
    rcases List.mem_cons.mp hmem with heq | hmem
    · cases heq
    · rw [List.mem_singleton] at hmem
      cases hmem
      exact absurd hstrip (by decide)

end HeyKevin.L5.Intake
