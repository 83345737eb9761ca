import HeyKevin.L5Voice.IntakeState
/-!
# Intake state: normal forms and storage

* `Sound`: every text of the state is what its normalizer made of it.
* `construct_eq_self`: the constructor takes such a state as it is.
* `fromDict_toDict`: **the round trip** through the stored dictionary.
* `new_sound`, `new_eq`: the state that a new call starts with.
-/
namespace HeyKevin.L5.Intake

open HeyKevin.Core Binary64 L1 L1.Text

/-! ## Enumerations -/

/-- Every member is found by its value, which is not empty. -/
def Complete {α : Type} [DecidableEq α] (members : Members α) (a : α) : Bool :=
  decide (valueIn members a ≠ "") &&
    decide ((members.find? fun m => valueIn members a = m.2).map Prod.fst = some a)

/-- The value of a member is read back as that member. -/
theorem readEnum_valueIn {α : Type} [DecidableEq α] {members : Members α} {a : α}
    (h : Complete members a = true) (fallback : α) :
    readEnum members fallback (.text (valueIn members a)) = .ok a := by
  obtain ⟨hne, hfind⟩ := Bool.and_eq_true_iff.mp h
  have htruthy : (Value.text (valueIn members a)).truthy = true := by
    have hpy : py (valueIn members a) ≠ [] := fun hnil =>
      of_decide_eq_true hne ((py_inj _ "").mp hnil)
    simpa [Value.text, Value.truthy] using hpy
  obtain ⟨m, hm, rfl⟩ := Option.map_eq_some_iff.mp (of_decide_eq_true hfind)
  have hfound :
      members.find? (fun e => (Value.text (valueIn members m.1)).isStr (py e.2)) = some m := by
    simp only [Value.isStr_text]
    exact hm
  rw [readEnum, if_pos htruthy, parseIn, hfound]

theorem IntakePhase.complete (p : IntakePhase) : Complete members p = true := by
  cases p <;> decide

theorem BusinessScope.complete (s : BusinessScope) : Complete members s = true := by
  cases s <;> decide

theorem Intent.complete (i : Intent) : Complete members i = true := by
  cases i <;> decide

theorem ServiceAction.complete (a : ServiceAction) : Complete members a = true := by
  cases a <;> decide

theorem Urgency.complete (u : Urgency) : Complete members u = true := by
  cases u <;> decide

theorem CallbackIntent.complete (i : CallbackIntent) : Complete members i = true := by
  cases i <;> decide

theorem CallbackConfirmation.complete (c : CallbackConfirmation) : Complete members c = true := by
  cases c <;> decide

theorem AddressNeed.complete (n : AddressNeed) : Complete members n = true := by
  cases n <;> decide

/-! ## Normal forms -/

variable (T : Tables)

/-- The caller's identity as its constructor leaves it. -/
structure CallerIdentity.Sound (i : CallerIdentity) : Prop where
  name : normalizeSafeText T "caller_identity.name" 160 i.name = .ok i.name
  confidence : 0 ≤ i.confidence.val ∧ i.confidence.val ≤ 1
  source : normalizeSafeText T "caller_identity.source" 160 i.source = .ok i.source

/-- Every field of the state is what its normalizer makes of it. -/
structure IntakeState.Sound (s : IntakeState) : Prop where
  callSid : normalizeSafeText T "call_sid" 128 s.callSid = .ok s.callSid
  identity : s.callerIdentity.Sound T
  callerPhone : normalizePhoneLastFourOrEmpty T "caller_phone_last_four" s.callerPhoneLastFour =
    .ok s.callerPhoneLastFour
  callbackPhone : normalizePhoneLastFourOrEmpty T "callback_phone_last_four"
    s.callbackPhoneLastFour = .ok s.callbackPhoneLastFour
  reason : normalizeSafeText T "business_scope_reason" 160 s.businessScopeReason =
    .ok s.businessScopeReason
  serviceObject : normalizeSafeText T "service_object" 80 s.serviceObject = .ok s.serviceObject
  facts : ∀ f ∈ s.knownFacts, normalizeSafeText T "known_facts" 160 f = .ok f
  asked : ∀ v ∈ s.askedSlots, normalizeSafeText T "asked_slots" 80 v = .ok v
  refs : ∀ v ∈ s.memoryRefsUsed, normalizeSafeText T "memory_refs_used" 160 v = .ok v
  language : normalizeLanguageCode T s.language = .ok s.language

section

variable {T} {P : Python} {s : IntakeState} {fieldName : String} {maxLength : ℕ}

theorem normalizeCollection_self {values : List Str}
    (h : ∀ v ∈ values, normalizeSafeText T fieldName maxLength v = .ok v) :
    normalizeSafeTextCollection T fieldName maxLength values = .ok values :=
  mapM_eq_self.mpr h

theorem normalizeSet_sorted {values : Finset Str}
    (h : ∀ v ∈ values, normalizeSafeText T fieldName maxLength v = .ok v) :
    normalizeSet T fieldName maxLength (sorted values) = .ok values := by
  have hsame : normalizeSafeTextCollection T fieldName maxLength (sorted values) =
      .ok (sorted values) :=
    normalizeCollection_self fun v hv => h v ((Finset.mem_sort _).mp hv)
  rw [normalizeSet, hsame, ok_bind]
  unfold sorted
  rw [Finset.sort_toFinset]

/-- The constructor takes a state in normal form as it is. -/
theorem construct_eq_self (h : s.Sound T) : IntakeState.construct T s = .ok s := by
  unfold IntakeState.construct
  rw [h.callSid, ok_bind, h.callerPhone, ok_bind, h.callbackPhone, ok_bind, h.reason, ok_bind,
    h.serviceObject, ok_bind, normalizeCollection_self h.facts, ok_bind,
    normalizeSet_sorted h.asked, ok_bind, normalizeSet_sorted h.refs, ok_bind, h.language, ok_bind]

/-! ## The round trip -/

theorem strOrEmpty_str (P : Python) (v : Str) : P.strOrEmpty (.str v) = v := by
  unfold Python.strOrEmpty
  cases v <;> rfl

theorem normalizeConfidence_self {c : Double} (h : 0 ≤ c.val ∧ c.val ≤ 1) :
    normalizeConfidence (.number (.float c)) = .ok c := by
  have hin : ¬ ((Number.float c).val < 0 ∨ 1 < (Number.float c).val) :=
    not_or.mpr ⟨not_lt.mpr h.1, not_lt.mpr h.2⟩
  rw [normalizeConfidence, if_neg hin]
  obtain ⟨q, hq⟩ := c
  have hround : (Number.float ⟨q, hq⟩).toFloat = ⟨q, hq⟩ := by
    simp only [Number.toFloat, Number.val, Double.ofRat, hq]
  rw [hround]

theorem identity_fromDict_toDict {i : CallerIdentity} (h : i.Sound T) :
    CallerIdentity.fromDict P T (.dict i.toDict) = .ok i := by
  change CallerIdentity.construct T (P.strOrEmpty (.str i.name)) (.number (.float i.confidence))
    (P.strOrEmpty (.str i.source)) i.confirmed = .ok i
  rw [strOrEmpty_str, strOrEmpty_str, CallerIdentity.construct, h.name, ok_bind,
    normalizeConfidence_self h.confidence, ok_bind, h.source, ok_bind]

theorem restorePhone_self {data : Dict} {v : Str} (hget : data.get fieldName = .str v)
    (h : normalizePhoneLastFourOrEmpty T fieldName v = .ok v) :
    restorePhoneLastFour T data fieldName = .ok v := by
  rw [restorePhoneLastFour, hget]
  cases v with
  | nil => rfl
  | cons c v => exact h

theorem restoreCollection_self {data : Dict} {values : List Str}
    (hget : data.get fieldName = .list (values.map .str))
    (h : ∀ v ∈ values, normalizeSafeText T fieldName maxLength v = .ok v) :
    restoreCollection T data fieldName maxLength = .ok values := by
  have hstrings : restoreStrings fieldName (.list (values.map .str)) = .ok values := by
    rw [restoreStrings, mapM_eq_ok, List.forall₂_map_left_iff, List.forall₂_same]
    exact fun v _ => rfl
  rw [restoreCollection, hget, hstrings, ok_bind, normalizeCollection_self h]

/-- **The round trip**: a state in normal form is read back from the dictionary it is stored as. -/
theorem fromDict_toDict (h : s.Sound T) : IntakeState.fromDict P T s.toDict = .ok s := by
  have hlanguage : s.language ≠ [] := (normalizeLanguageCode_idem h.language).2.1
  have hflag : readFlag s.toDict "side_effects_allowed" = .ok s.sideEffectsAllowed := rfl
  have hcaller : restorePhoneLastFour T s.toDict "caller_phone_last_four" =
      .ok s.callerPhoneLastFour := restorePhone_self rfl h.callerPhone
  have hcallback : restorePhoneLastFour T s.toDict "callback_phone_last_four" =
      .ok s.callbackPhoneLastFour := restorePhone_self rfl h.callbackPhone
  have hfacts : restoreCollection T s.toDict "known_facts" 160 = .ok s.knownFacts :=
    restoreCollection_self rfl h.facts
  have hasked : restoreCollection T s.toDict "asked_slots" 80 = .ok (sorted s.askedSlots) :=
    restoreCollection_self rfl fun v hv => h.asked v ((Finset.mem_sort _).mp hv)
  have hrefs : restoreCollection T s.toDict "memory_refs_used" 160 =
      .ok (sorted s.memoryRefsUsed) :=
    restoreCollection_self rfl fun v hv => h.refs v ((Finset.mem_sort _).mp hv)
  have hspoken : (if (s.toDict.get "language").truthy then P.strOrEmpty (s.toDict.get "language")
      else py "unknown") = s.language := by
    change (if (Value.str s.language).truthy then P.strOrEmpty (.str s.language) else _) = _
    rw [strOrEmpty_str, if_pos]
    simpa [Value.truthy] using hlanguage
  have hsid : P.strOrEmpty (s.toDict.get "call_sid") = s.callSid := strOrEmpty_str P s.callSid
  have hreason : P.strOrEmpty (s.toDict.get "business_scope_reason") = s.businessScopeReason :=
    strOrEmpty_str P s.businessScopeReason
  have hobject : P.strOrEmpty (s.toDict.get "service_object") = s.serviceObject :=
    strOrEmpty_str P s.serviceObject
  have hidentity : CallerIdentity.fromDict P T (s.toDict.get "caller_identity") =
      .ok s.callerIdentity := identity_fromDict_toDict h.identity
  have hphase : readEnum IntakePhase.members .greeting (s.toDict.get "phase") = .ok s.phase :=
    readEnum_valueIn s.phase.complete _
  have hscope : readEnum BusinessScope.members .unclear (s.toDict.get "business_scope") =
      .ok s.businessScope := readEnum_valueIn s.businessScope.complete _
  have hintent : readEnum Intent.members .unknown (s.toDict.get "intent") = .ok s.intent :=
    readEnum_valueIn s.intent.complete _
  have haction : readEnum ServiceAction.members .unknown (s.toDict.get "service_action") =
      .ok s.serviceAction := readEnum_valueIn s.serviceAction.complete _
  have hurgency : readEnum Urgency.members .unknown (s.toDict.get "urgency") = .ok s.urgency :=
    readEnum_valueIn s.urgency.complete _
  have hwanted : readEnum CallbackIntent.members .none (s.toDict.get "callback_intent") =
      .ok s.callbackIntent := readEnum_valueIn s.callbackIntent.complete _
  have hconfirmation : readEnum CallbackConfirmation.members .unknown
      (s.toDict.get "callback_confirmation") = .ok s.callbackConfirmation :=
    readEnum_valueIn s.callbackConfirmation.complete _
  have hneed : readEnum AddressNeed.members .none (s.toDict.get "address_need") =
      .ok s.addressNeed := readEnum_valueIn s.addressNeed.complete _
  unfold IntakeState.fromDict
  rw [hflag, ok_bind, hphase, ok_bind, hidentity, ok_bind, hcaller, ok_bind, hcallback, ok_bind,
    hscope, ok_bind, hintent, ok_bind, haction, ok_bind, hurgency, ok_bind, hfacts, ok_bind,
    hasked, ok_bind, hwanted, ok_bind, hconfirmation, ok_bind, hneed, ok_bind, hrefs, ok_bind,
    hspoken, hsid, hreason, hobject]
  unfold sorted
  rw [Finset.sort_toFinset, Finset.sort_toFinset]
  exact construct_eq_self h

/-! ## What a constructor returns -/

theorem normalizePhoneOrEmpty_idem {value v : Str}
    (h : normalizePhoneLastFourOrEmpty T fieldName value = .ok v) :
    normalizePhoneLastFourOrEmpty T fieldName v = .ok v := by
  unfold normalizePhoneLastFourOrEmpty at h ⊢
  split at h
  · cases h
    rfl
  · rw [if_neg (normalizePhoneLastFour_ne_nil h), normalizePhoneLastFour_idem h]

theorem normalizeCollection_safe {values safe : List Str}
    (h : normalizeSafeTextCollection T fieldName maxLength values = .ok safe) :
    ∀ v ∈ safe, normalizeSafeText T fieldName maxLength v = .ok v := by
  intro v hv
  obtain ⟨value, -, hvalue⟩ := exists_of_mem_mapM h hv
  exact normalizeSafeText_idem hvalue

theorem normalizeSet_safe {values : List Str} {safe : Finset Str}
    (h : normalizeSet T fieldName maxLength values = .ok safe) :
    ∀ v ∈ safe, normalizeSafeText T fieldName maxLength v = .ok v := by
  obtain ⟨normalized, hnormalized, h⟩ := bind_eq_ok.mp h
  cases h
  exact fun v hv => normalizeCollection_safe hnormalized v (List.mem_toFinset.mp hv)

theorem identity_construct_sound {name source : Str} {c : Double} {confirmed : Bool}
    {i : CallerIdentity}
    (h : CallerIdentity.construct T name (.number (.float c)) source confirmed = .ok i) :
    i.Sound T := by
  obtain ⟨name, hname, h⟩ := bind_eq_ok.mp h
  obtain ⟨confidence, hconfidence, h⟩ := bind_eq_ok.mp h
  obtain ⟨source, hsource, h⟩ := bind_eq_ok.mp h
  cases h
  have hrange : 0 ≤ c.val ∧ c.val ≤ 1 := by
    unfold normalizeConfidence at hconfidence
    simp only at hconfidence
    split at hconfidence
    · cases hconfidence
    · rename_i hin
      obtain ⟨hlow, hhigh⟩ := not_or.mp hin
      exact ⟨not_lt.mp hlow, not_lt.mp hhigh⟩
  rw [normalizeConfidence_self hrange] at hconfidence
  cases hconfidence
  exact ⟨normalizeSafeText_idem hname, hrange, normalizeSafeText_idem hsource⟩

theorem state_construct_sound {given : IntakeState} (hidentity : given.callerIdentity.Sound T)
    (h : IntakeState.construct T given = .ok s) : s.Sound T := by
  obtain ⟨callSid, hsid, h⟩ := bind_eq_ok.mp h
  obtain ⟨callerPhone, hcaller, h⟩ := bind_eq_ok.mp h
  obtain ⟨callbackPhone, hcallback, h⟩ := bind_eq_ok.mp h
  obtain ⟨reason, hreason, h⟩ := bind_eq_ok.mp h
  obtain ⟨serviceObject, hobject, h⟩ := bind_eq_ok.mp h
  obtain ⟨knownFacts, hfacts, h⟩ := bind_eq_ok.mp h
  obtain ⟨askedSlots, hasked, h⟩ := bind_eq_ok.mp h
  obtain ⟨memoryRefs, hrefs, h⟩ := bind_eq_ok.mp h
  obtain ⟨language, hlanguage, h⟩ := bind_eq_ok.mp h
  cases h
  exact {
    callSid := normalizeSafeText_idem hsid
    identity := hidentity
    callerPhone := normalizePhoneOrEmpty_idem hcaller
    callbackPhone := normalizePhoneOrEmpty_idem hcallback
    reason := normalizeSafeText_idem hreason
    serviceObject := normalizeSafeText_idem hobject
    facts := normalizeCollection_safe hfacts
    asked := normalizeSet_safe hasked
    refs := normalizeSet_safe hrefs
    language := (normalizeLanguageCode_idem hlanguage).1 }

/-! ## A new call -/

/-- The state of a new call is in normal form. -/
theorem new_sound {callSid callerPhone callerName callerSource : Str} {callerConfidence : Double}
    {memoryRefs : List Str}
    (h : IntakeState.new T callSid callerPhone callerName callerSource callerConfidence
      memoryRefs = .ok s) : s.Sound T := by
  obtain ⟨identity, hidentity, h⟩ := bind_eq_ok.mp h
  obtain ⟨refs, -, h⟩ := bind_eq_ok.mp h
  exact state_construct_sound (identity_construct_sound hidentity) h

/-- The identity of a caller of whom nothing is known. -/
def noIdentity : CallerIdentity := ⟨[], .ofRat 0, [], false⟩

theorem noIdentity_sound : noIdentity.Sound T := by
  have hempty : ∀ fieldName, normalizeSafeText T fieldName 160 [] = .ok [] := fun fieldName =>
    normalizeSafeText_eq_ok.mpr ⟨rfl, Nat.zero_le _, List.forall_mem_nil _, rfl⟩
  refine ⟨hempty _, ?_, hempty _⟩
  simp [noIdentity]

/-- Lowercase letters, underscores and colons: what slots and values of enumerations consist of. -/
def isWording (s : Str) : Bool :=
  s.all fun c => (decide (97 ≤ c.val) && decide (c.val < 123)) || c.val == 0x5f || c.val == 0x3a

theorem wording_plain (hT : T.Ascii) {v : Str} (h : isWording v = true) :
    ∀ c ∈ v, T.Plain c ∧ 32 ≤ c.val := by
  intro c hc
  have hword := List.all_eq_true.mp h c hc
  simp only [Bool.or_eq_true, Bool.and_eq_true, decide_eq_true_eq, beq_iff_eq] at hword
  refine ⟨⟨?_, by omega⟩, by omega⟩
  rw [hT.decimal c (by omega)]
  exact decide_eq_false (by omega)

theorem normalize_wording (hT : T.Ascii) {v : Str} (h : isWording v = true) (hstrip : strip v = v)
    (hlength : v.length ≤ maxLength) : normalizeSafeText T fieldName maxLength v = .ok v := by
  rw [normalizeSafeText_eq_ok, hstrip]
  exact ⟨rfl, hlength, fun c hc => (wording_plain hT h c hc).2,
    fullPhone_of_plain fun c hc => (wording_plain hT h c hc).1⟩

theorem unknown_language (hT : T.Ascii) :
    normalizeLanguageCode T (py "unknown") = .ok (py "unknown") := by
  have hsafe : normalizeSafeText T "language" 35 (py "unknown") = .ok (py "unknown") :=
    normalize_wording hT (by decide) (by decide) (by decide)
  have hletters : (py "unknown").all (fun c => decide (97 ≤ c.val) && decide (c.val < 123)) =
      true := by decide
  have hparts : (py "unknown").splitOn 0x2d = [py "unknown"] := by decide
  have hall : (py "unknown").all T.isAlnum = true := by
    rw [List.all_eq_true]
    intro c hc
    have hrange := List.all_eq_true.mp hletters c hc
    rw [Bool.and_eq_true, decide_eq_true_eq, decide_eq_true_eq] at hrange
    exact hT.alnum c hrange
  rw [normalizeLanguageCode, hsafe, ok_bind, hparts, if_neg]
  simp only [List.any_cons, List.any_nil, hall]
  decide

theorem blank_sound (hT : T.Ascii) {sid : Str}
    (hsid : normalizeSafeText T "call_sid" 128 sid = .ok sid) :
    (IntakeState.blank sid noIdentity).Sound T := by
  have hempty : ∀ fieldName maxLength, normalizeSafeText T fieldName maxLength [] = .ok [] :=
    fun fieldName maxLength =>
      normalizeSafeText_eq_ok.mpr ⟨rfl, Nat.zero_le _, List.forall_mem_nil _, rfl⟩
  exact {
    callSid := hsid
    identity := noIdentity_sound
    callerPhone := rfl
    callbackPhone := rfl
    reason := hempty _ _
    serviceObject := hempty _ _
    facts := List.forall_mem_nil _
    asked := fun v hv => absurd hv (Finset.notMem_empty v)
    refs := fun v hv => absurd hv (Finset.notMem_empty v)
    language := unknown_language hT }

/-- A call of which nothing is known but a SID in normal form starts blank, unless the SID is
refused. -/
theorem new_eq (hT : T.Ascii) {sid : Str} (hstrip : strip sid = sid) :
    IntakeState.new T sid [] [] [] (.ofRat 0) [] =
      (normalizeSafeText T "call_sid" 128 sid >>= fun callSid =>
        .ok (IntakeState.blank callSid noIdentity)) := by
  have hconfidence : normalizeConfidence (.number (.float (.ofRat 0))) = .ok (.ofRat 0) :=
    normalizeConfidence_self (noIdentity_sound (T := T)).confidence
  have hidentity : CallerIdentity.construct T [] (.number (.float (.ofRat 0))) [] false =
      .ok noIdentity := by
    have hname : normalizeSafeText T "caller_identity.name" 160 [] = .ok [] :=
      noIdentity_sound.name
    have hsource : normalizeSafeText T "caller_identity.source" 160 [] = .ok [] :=
      noIdentity_sound.source
    rw [CallerIdentity.construct, hname, ok_bind, hconfidence, ok_bind, hsource]
    rfl
  have hrefs : normalizeSet T "memory_refs_used" 160 [] = .ok ∅ := rfl
  change (CallerIdentity.construct T [] (.number (.float (.ofRat 0))) [] false >>= _) = _
  rw [hidentity, ok_bind, hrefs, ok_bind]
  cases hsid : normalizeSafeText T "call_sid" 128 sid with
  | error e =>
    change (normalizeSafeText T "call_sid" 128 sid >>= _) = _
    rw [hsid]
    rfl
  | ok callSid =>
    obtain rfl : callSid = sid := (normalizeSafeText_eq_ok.mp hsid).1.trans hstrip
    exact construct_eq_self (blank_sound hT hsid)

end

end HeyKevin.L5.Intake
