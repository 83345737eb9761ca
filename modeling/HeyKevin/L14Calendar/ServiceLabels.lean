import HeyKevin.Core.Fallible
import HeyKevin.L1Encoding.JsonReader
import HeyKevin.L1Encoding.Python
import HeyKevin.L1Encoding.Sha256
/-!
# The services of an appointment as one metadata value

mirrors `_service_metadata_value` of app/services/google_calendar_request_provider.py:
the services of a request and one that is added are packed into a JSON text of
at most 1024 bytes, which `set_appointment_service_metadata` of
app/services/calendar.py checks again before it writes it.

* `serviceLabel_spec`: what a label is, and that it is its own label.
* `Packed.fold`: what holds of the labels packed so far, by each step of the loop.
* `serviceMetadataValue_append`: the value does not change once the service is
  recorded.
* `serviceMetadata_iff`: **the value is well-formed**, exactly where the loop
  comes to no lone surrogate.
-/
namespace HeyKevin.L14

open HeyKevin.Core L1 L1.Text

def MAX_SERVICE_LABEL_LENGTH : ℕ := 120
def MAX_PROVIDER_SERVICES : ℕ := 20
def MAX_PRIVATE_PROPERTY_VALUE_BYTES : ℕ := 1024

/-- A lone surrogate in `s.encode("utf-8")` -/
inductive EncodeError
  | unicodeEncodeError
deriving DecidableEq

/-! ## Labels -/

/-- `[\x00-\x1f\x7f]` -/
def isControl (c : CodePoint) : Bool := c.val < 0x20 || c.val == 0x7f

/-- `re.sub(r"[\x00-\x1f\x7f]+", " ", s)`; the flag says that a run has begun. -/
def blankControls : Bool → Str → Str
  | _, [] => []
  | inRun, c :: s =>
    if isControl c then
      if inRun then blankControls true s else space :: blankControls true s
    else c :: blankControls false s

/-- mirrors app/services/google_calendar_request_provider.py:320-326 -/
def serviceLabel (value : Value) : Option Str :=
  match value with
  | .str value =>
    let normalized := joinSpace (split (blankControls false value))
    if normalized = [] then none else some (strip (normalized.take MAX_SERVICE_LABEL_LENGTH))
  | _ => none

/-! ## The value -/

/-- `json.dumps({"v": 1, "services": labels}, ensure_ascii=False, separators=(",", ":"))` -/
def encoded (labels : List Str) : Str :=
  Json.dumps (.obj [("v", .int 1), ("services", .arr (labels.map .str))])

/-- `len(encoded.encode("utf-8")) <= MAX_PROVIDER_METADATA_VALUE_BYTES` -/
def fits (labels : List Str) : Except EncodeError Bool :=
  match encodeUtf8 (encoded labels) with
  | none => .error .unicodeEncodeError
  | some bytes => .ok (decide (bytes.length ≤ MAX_PRIVATE_PROPERTY_VALUE_BYTES))

/-- `labels` and `seen` of the loop -/
structure Packing where
  labels : List Str
  seen : List Str

variable (P : Python)

def pack (addition : Str) (p : Packing) (value : Value) : Except EncodeError Packing :=
  match serviceLabel value with
  | none => .ok p
  | some label =>
    let key := P.casefold label
    if key = P.casefold addition ∨ key ∈ p.seen then .ok p
    else if MAX_PROVIDER_SERVICES - 1 ≤ p.labels.length then .ok p
    else do
      if ← fits (p.labels ++ [label, addition]) then .ok ⟨p.labels ++ [label], p.seen ++ [key]⟩
      else .ok p

/-- mirrors app/services/google_calendar_request_provider.py:329-378 -/
def serviceMetadataValue (requestServices service : Value) : Except EncodeError (Option Str) :=
  match serviceLabel service, requestServices with
  | some addition, .list values => do
    let p ← values.foldlM (pack P addition) ⟨[], []⟩
    let labels := p.labels ++ [addition]
    if ← fits labels then .ok (some (encoded labels)) else .ok none
  | _, _ => .ok none

/-- The check of `set_appointment_service_metadata`. mirrors app/services/calendar.py:2260-2265 -/
def validMetadataValue (metadataValue : Str) : Except EncodeError Bool :=
  if metadataValue = [] then .ok false
  else
    match encodeUtf8 metadataValue with
    | none => .error .unicodeEncodeError
    | some bytes =>
      .ok (!decide (MAX_PRIVATE_PROPERTY_VALUE_BYTES < bytes.length) &&
        !metadataValue.any fun c => decide (c.val < 32))

/-! ## What a label is -/

/-- Words joined by single spaces are left as they are. -/
def Spaced (s : Str) : Prop := ∃ ws, (∀ w ∈ ws, IsWord w) ∧ s = joinSpace ws

theorem Spaced.joinSpace_split {s : Str} (h : Spaced s) : joinSpace (split s) = s := by
  obtain ⟨ws, hws, rfl⟩ := h
  rw [split_joinSpace ws hws]

theorem rdropWhile_word {w : Str} (h : ∀ c ∈ w, isSpace c = false) : w.rdropWhile isSpace = w := by
  rw [List.rdropWhile_eq_self_iff]
  intro hne
  rw [h _ (List.getLast_mem hne)]
  decide

theorem rdropWhile_append (s t : Str) : (s ++ t).rdropWhile isSpace =
    if t.rdropWhile isSpace = [] then s.rdropWhile isSpace else s ++ t.rdropWhile isSpace := by
  have hempty : (t.reverse.dropWhile isSpace).isEmpty = true ↔ t.rdropWhile isSpace = [] := by
    rw [List.isEmpty_iff, List.rdropWhile, List.reverse_eq_nil_iff]
  rw [List.rdropWhile, List.reverse_append, List.dropWhile_append]
  split
  · rename_i h
    rw [if_pos (hempty.mp h), List.rdropWhile]
  · rename_i h
    rw [if_neg (fun hnil => h (hempty.mpr hnil)), List.reverse_append, List.reverse_reverse,
      List.rdropWhile]

theorem spaced_word_take {w : Str} (h : IsWord w) (n : ℕ) :
    Spaced ((w.take n).rdropWhile isSpace) := by
  have hspaces : ∀ c ∈ w.take n, isSpace c = false := fun c hc => h.2 c (List.mem_of_mem_take hc)
  rw [rdropWhile_word hspaces]
  by_cases hnil : w.take n = []
  · exact ⟨[], List.forall_mem_nil _, hnil⟩
  · refine ⟨[w.take n], fun v hv => ?_, rfl⟩
    rw [List.mem_singleton] at hv
    rw [hv]
    exact ⟨hnil, hspaces⟩

/-- A text that is cut short is still words joined by single spaces, up to what is behind the last
of them. -/
theorem spaced_take : ∀ ws : List Str, (∀ w ∈ ws, IsWord w) → ∀ n,
    Spaced (((joinSpace ws).take n).rdropWhile isSpace)
  | [], _, n => ⟨[], List.forall_mem_nil _, by simp [joinSpace]⟩
  | [w], hws, n => spaced_word_take (hws w List.mem_cons_self) n
  | w :: v :: ws, hws, n => by
    have hw := hws w List.mem_cons_self
    have htext : joinSpace (w :: v :: ws) = w ++ space :: joinSpace (v :: ws) := rfl
    rw [htext]
    by_cases hn : n ≤ w.length
    · rw [List.take_append_of_le_length hn]
      exact spaced_word_take hw n
    · obtain ⟨m, rfl⟩ : ∃ m, n = w.length + (m + 1) := ⟨n - w.length - 1, by omega⟩
      obtain ⟨rest, hrest, hjoin⟩ := spaced_take (v :: ws)
        (fun x hx => hws x (List.mem_cons_of_mem _ hx)) m
      have hcut : (w ++ space :: joinSpace (v :: ws)).take (w.length + (m + 1)) =
          w ++ ([space] ++ (joinSpace (v :: ws)).take m) := by
        rw [List.take_length_add_append, List.take_succ_cons]
        rfl
      have hspace : [space].rdropWhile isSpace = [] := by decide
      rw [hcut, rdropWhile_append, rdropWhile_append, hspace, rdropWhile_word hw.2, hjoin]
      by_cases hnil : joinSpace rest = []
      · rw [if_pos hnil, if_pos rfl]
        refine ⟨[w], fun x hx => ?_, rfl⟩
        rw [List.mem_singleton] at hx
        rw [hx]
        exact hw
      · rw [if_neg hnil, if_neg (by simp)]
        cases rest with
        | nil => exact absurd rfl hnil
        | cons x xs => exact ⟨w :: x :: xs, List.forall_mem_cons.mpr ⟨hw, hrest⟩, rfl⟩

theorem blankControls_eq {s : Str} (h : ∀ c ∈ s, isControl c = false) (inRun : Bool) :
    blankControls inRun s = s := by
  induction s generalizing inRun with
  | nil => rfl
  | cons c s ih =>
    obtain ⟨hc, hs⟩ := List.forall_mem_cons.mp h
    rw [blankControls, if_neg (by rw [hc]; decide), ih hs]

theorem isControl_blankControls (s : Str) (inRun : Bool) :
    ∀ c ∈ blankControls inRun s, isControl c = false := by
  induction s generalizing inRun with
  | nil => exact List.forall_mem_nil _
  | cons c s ih =>
    rw [blankControls]
    split
    · split
      · exact ih true
      · exact List.forall_mem_cons.mpr ⟨by decide, ih true⟩
    · rename_i hc
      exact List.forall_mem_cons.mpr ⟨Bool.eq_false_iff.mpr hc, ih false⟩

theorem mem_joinSpace {ws : List Str} {c : CodePoint} (h : c ∈ joinSpace ws) :
    c = space ∨ ∃ w ∈ ws, c ∈ w := by
  induction ws with
  | nil => cases h
  | cons w ws ih =>
    cases ws with
    | nil => exact .inr ⟨w, List.mem_cons_self, h⟩
    | cons v ws =>
      rcases List.mem_append.mp h with h | h
      · exact .inr ⟨w, List.mem_cons_self, h⟩
      · rcases List.mem_cons.mp h with h | h
        · exact .inl h
        · exact (ih h).imp_right fun ⟨x, hx, hc⟩ => ⟨x, List.mem_cons_of_mem _ hx, hc⟩

def Blank (s : Str) : Prop := ∀ c ∈ s, isControl c = true ∨ isSpace c = true

theorem split_eq_nil {s : Str} : split s = [] ↔ ∀ c ∈ s, isSpace c = true := by
  induction s with
  | nil => exact iff_of_true rfl (List.forall_mem_nil _)
  | cons c s ih =>
    rw [split, List.forall_mem_cons]
    split
    · rename_i hc
      rw [ih]
      exact ⟨fun h => ⟨hc, h⟩, fun h => h.2⟩
    · rename_i hc
      refine iff_of_false ?_ fun h => hc h.1
      unfold push
      split
      · split
        · exact List.cons_ne_nil _ _
        · exact List.cons_ne_nil _ _
      · exact List.cons_ne_nil _ _

theorem joinSpace_split_eq_nil {s : Str} :
    joinSpace (split s) = [] ↔ ∀ c ∈ s, isSpace c = true := by
  rw [← split_eq_nil]
  constructor
  · intro h
    cases hsplit : split s with
    | nil => rfl
    | cons w ws =>
      have hword : IsWord w := isWord_of_mem_split (by rw [hsplit]; exact List.mem_cons_self)
      rw [hsplit] at h
      cases ws with
      | nil => exact absurd h hword.1
      | cons v ws => exact absurd (List.append_eq_nil_iff.mp h).1 hword.1
  · intro h
    rw [h]
    rfl

theorem blankControls_blank {s : Str} (inRun : Bool) :
    (∀ c ∈ blankControls inRun s, isSpace c = true) ↔ Blank s := by
  unfold Blank
  induction s generalizing inRun with
  | nil => exact iff_of_true (List.forall_mem_nil _) (List.forall_mem_nil _)
  | cons c s ih =>
    rw [blankControls, List.forall_mem_cons]
    split
    · rename_i hc
      split
      · rw [ih]
        exact ⟨fun h => ⟨.inl hc, h⟩, fun h => h.2⟩
      · rw [List.forall_mem_cons, ih]
        exact ⟨fun h => ⟨.inl hc, h.2⟩, fun h => ⟨by decide, h.2⟩⟩
    · rename_i hc
      rw [List.forall_mem_cons, ih]
      exact ⟨fun h => ⟨.inr h.1, h.2⟩, fun h => ⟨h.1.resolve_left hc, h.2⟩⟩

theorem serviceLabel_eq_none {s : Str} : serviceLabel (.str s) = none ↔ Blank s := by
  rw [← blankControls_blank false, ← joinSpace_split_eq_nil]
  simp only [serviceLabel]
  split
  · rename_i h
    exact iff_of_true rfl h
  · rename_i h
    exact iff_of_false (Option.some_ne_none _) h

/-- **A label is its own label**, and not empty. -/
theorem serviceLabel_spec {value : Value} {label : Str} (h : serviceLabel value = some label) :
    label ≠ [] ∧ serviceLabel (.str label) = some label := by
  cases value with
  | str s =>
    simp only [serviceLabel] at h
    split at h
    · cases h
    · rename_i hne
      have hlabel : strip ((joinSpace (split (blankControls false s))).take
          MAX_SERVICE_LABEL_LENGTH) = label := Option.some.inj h
      obtain ⟨w, ws, hsplit⟩ : ∃ w ws, split (blankControls false s) = w :: ws := by
        refine List.exists_cons_of_ne_nil fun hnil => hne ?_
        rw [hnil]
        rfl
      have hwords : ∀ v ∈ split (blankControls false s), IsWord v :=
        fun v hv => isWord_of_mem_split hv
      obtain ⟨c, t, htext, hc⟩ : ∃ c t, joinSpace (split (blankControls false s)) = c :: t ∧
          isSpace c = false := by
        have hw := hwords w (by rw [hsplit]; exact List.mem_cons_self)
        obtain ⟨c, v, rfl⟩ := List.exists_cons_of_ne_nil hw.1
        rw [hsplit]
        cases ws with
        | nil => exact ⟨c, v, rfl, hw.2 c List.mem_cons_self⟩
        | cons x xs => exact ⟨c, _, rfl, hw.2 c List.mem_cons_self⟩
      have hcut : strip ((joinSpace (split (blankControls false s))).take
          MAX_SERVICE_LABEL_LENGTH) = ((joinSpace (split (blankControls false s))).take
            MAX_SERVICE_LABEL_LENGTH).rdropWhile isSpace := by
        rw [strip, htext, MAX_SERVICE_LABEL_LENGTH, List.take_succ_cons,
          List.dropWhile_cons_of_neg (by rw [hc]; decide)]
      have hspaced : Spaced label := by
        rw [← hlabel, hcut]
        exact spaced_take _ hwords _
      have hnonempty : label ≠ [] := by
        rw [← hlabel, hcut, Ne, List.rdropWhile_eq_nil_iff]
        intro hall
        have hfirst := hall c (by
          rw [htext, MAX_SERVICE_LABEL_LENGTH, List.take_succ_cons]
          exact List.mem_cons_self)
        rw [hc] at hfirst
        cases hfirst
      have hsub : label <+: (joinSpace (split (blankControls false s))).take
          MAX_SERVICE_LABEL_LENGTH := by
        rw [← hlabel, hcut]
        exact List.rdropWhile_prefix _ _
      have hcontrols : ∀ d ∈ label, isControl d = false := by
        intro d hd
        rcases mem_joinSpace (List.mem_of_mem_take (hsub.subset hd)) with rfl | ⟨v, hv, hdv⟩
        · decide
        · exact isControl_blankControls s false d ((infix_of_mem_split hv).subset hdv)
      have hshort : label.length ≤ MAX_SERVICE_LABEL_LENGTH :=
        hsub.length_le.trans (List.length_take_le _ _)
      refine ⟨hnonempty, ?_⟩
      simp only [serviceLabel]
      rw [blankControls_eq hcontrols, hspaced.joinSpace_split, if_neg hnonempty,
        List.take_of_length_le hshort, ← hlabel, strip_strip]
  | _ => cases h

/-! ## What fits -/

theorem encodable_encoded (labels : List Str) :
    Encodable (encoded labels) ↔ ∀ label ∈ labels, Encodable label := by
  have hitems : ∀ s, s ∈ Json.stringsItems (labels.map .str) ↔ s ∈ labels := by
    intro s
    induction labels with
    | nil => exact Iff.rfl
    | cons label labels ih =>
      rw [List.map_cons, Json.stringsItems, Json.strings, List.singleton_append, List.mem_cons, ih,
        List.mem_cons]
  rw [encoded, Json.encodable_dumps]
  simp only [Json.strings, Json.stringsEntries, List.append_nil, List.singleton_append,
    List.forall_mem_cons, encodable_py, true_and, hitems]

theorem fits_cases (labels : List Str) :
    (fits labels = .error .unicodeEncodeError ∧ ∃ label ∈ labels, ¬ Encodable label) ∨
      ((∃ b, fits labels = .ok b) ∧ ∀ label ∈ labels, Encodable label) := by
  unfold fits
  cases hbytes : encodeUtf8 (encoded labels) with
  | none =>
    refine .inl ⟨rfl, ?_⟩
    have hnot : ¬ Encodable (encoded labels) := by
      rw [← encodeUtf8_isSome_iff, hbytes]
      exact Bool.false_ne_true
    rw [encodable_encoded] at hnot
    push Not at hnot
    exact hnot
  | some bytes =>
    refine .inr ⟨⟨_, rfl⟩, ?_⟩
    rw [← encodable_encoded, ← encodeUtf8_isSome_iff, hbytes]
    rfl

theorem valid_of_fits {labels : List Str} (h : fits labels = .ok true) :
    validMetadataValue (encoded labels) = .ok true := by
  unfold fits at h
  unfold validMetadataValue
  split at h
  · cases h
  · rename_i bytes hbytes
    have hlength : bytes.length ≤ MAX_PRIVATE_PROPERTY_VALUE_BYTES :=
      of_decide_eq_true (Except.ok.inj h)
    have hne : encoded labels ≠ [] := by
      change 0x7b :: _ ≠ []
      exact List.cons_ne_nil _ _
    have hprintable : ((encoded labels).any fun c => decide (c.val < 32)) = false := by
      rw [List.any_eq_false]
      intro c hc
      have hge := Json.printable_dumps _ c hc
      rw [decide_eq_true_eq]
      omega
    rw [if_neg hne, hprintable, decide_eq_false (not_lt.mpr hlength)]
    rfl

/-! ## The loop -/

section

variable {P} {addition : Str}

structure Packed (P : Python) (addition : Str) (values : List Value) (p : Packing) : Prop where
  few : p.labels.length ≤ MAX_PROVIDER_SERVICES - 1
  seen : p.seen = p.labels.map P.casefold
  distinct : ((p.labels ++ [addition]).map P.casefold).Nodup
  sublist : p.labels.Sublist (values.filterMap serviceLabel)
  fit : p.labels ≠ [] → fits (p.labels ++ [addition]) = .ok true

/-- The loop is about to try the label of this value. -/
def Tried (P : Python) (addition : Str) (p : Packing) (label : Str) : Prop :=
  P.casefold label ≠ P.casefold addition ∧ P.casefold label ∉ p.seen ∧
    p.labels.length < MAX_PROVIDER_SERVICES - 1

theorem Packed.step (before : List Value) (value : Value) (p q : Packing)
    (hp : Packed P addition before p) (h : pack P addition p value = .ok q) :
    Packed P addition (before ++ [value]) q := by
  have hsame : Packed P addition (before ++ [value]) p := by
    refine ⟨hp.few, hp.seen, hp.distinct, ?_, hp.fit⟩
    rw [List.filterMap_append]
    exact hp.sublist.trans (List.sublist_append_left _ _)
  unfold pack at h
  split at h
  · cases h
    exact hsame
  · rename_i label hlabel
    simp only at h
    split at h
    · cases h
      exact hsame
    · rename_i hnew
      split at h
      · cases h
        exact hsame
      · rename_i hroom
        obtain ⟨b, hfits, h⟩ := bind_eq_ok.mp h
        cases b with
        | false =>
          cases h
          exact hsame
        | true =>
          cases h
          push Not at hnew hroom
          have hlist : p.labels ++ [label] ++ [addition] = p.labels ++ [label, addition] := by simp
          refine ⟨?_, ?_, ?_, ?_, fun _ => ?_⟩
          · rw [List.length_append, List.length_singleton]
            omega
          · rw [List.map_append, hp.seen]
            rfl
          · rw [List.map_append, List.map_append, List.append_assoc, List.map_singleton,
              List.map_singleton, List.singleton_append]
            have hold := hp.distinct
            rw [List.map_append, List.map_singleton] at hold
            rw [hp.seen] at hnew
            refine List.nodup_append.mpr ⟨(List.nodup_append.mp hold).1, ?_, ?_⟩
            · exact List.nodup_cons.mpr ⟨by rw [List.mem_singleton]; exact hnew.1,
                List.nodup_singleton _⟩
            · rintro key hkey _ hin rfl
              rcases List.mem_cons.mp hin with rfl | hin
              · exact hnew.2 hkey
              · exact (List.nodup_append.mp hold).2.2 key hkey key hin rfl
          · rw [List.filterMap_append, List.filterMap_cons_some hlabel, List.filterMap_nil]
            exact hp.sublist.append (List.Sublist.refl _)
          · rw [hlist]
            exact hfits

theorem packed_start (P : Python) (addition : Str) : Packed P addition [] ⟨[], []⟩ :=
  ⟨Nat.zero_le _, rfl, List.nodup_singleton _, List.nil_sublist _, fun h => absurd rfl h⟩

theorem Packed.fold {values : List Value} {p : Packing}
    (h : values.foldlM (pack P addition) ⟨[], []⟩ = .ok p) : Packed P addition values p :=
  foldlM_invariant (R := Packed P addition) Packed.step (packed_start P addition) h

theorem pack_error (haddition : Encodable addition) {values : List Value} {p : Packing}
    (hp : Packed P addition values p) {value : Value} {e : EncodeError} :
    pack P addition p value = .error e ↔ ∃ label, serviceLabel value = some label ∧
      Tried P addition p label ∧ ¬ Encodable label := by
  have hpacked : ∀ label ∈ p.labels, Encodable label := by
    by_cases hnil : p.labels = []
    · rw [hnil]
      exact List.forall_mem_nil _
    · rcases fits_cases (p.labels ++ [addition]) with ⟨herror, -⟩ | ⟨-, hall⟩
      · rw [hp.fit hnil] at herror
        cases herror
      · exact fun label hlabel => hall label (List.mem_append_left _ hlabel)
  unfold pack Tried
  cases hlabel : serviceLabel value with
  | none =>
    refine iff_of_false (fun h => by cases h) ?_
    rintro ⟨label, h, -⟩
    cases h
  | some label =>
    simp only
    have hsimple : (∃ l, some label = some l ∧ (P.casefold l ≠ P.casefold addition ∧
        P.casefold l ∉ p.seen ∧ p.labels.length < MAX_PROVIDER_SERVICES - 1) ∧ ¬ Encodable l) ↔
        (P.casefold label ≠ P.casefold addition ∧ P.casefold label ∉ p.seen ∧
          p.labels.length < MAX_PROVIDER_SERVICES - 1) ∧ ¬ Encodable label := by
      constructor
      · rintro ⟨l, hl, h⟩
        cases hl
        exact h
      · exact fun h => ⟨label, rfl, h⟩
    rw [hsimple]
    split
    · rename_i hold
      refine iff_of_false (fun h => by cases h) ?_
      rintro ⟨⟨hkey, hseen, -⟩, -⟩
      exact hold.elim hkey hseen
    · rename_i hnew
      push Not at hnew
      split
      · rename_i hfull
        refine iff_of_false (fun h => by cases h) ?_
        rintro ⟨⟨-, -, hroom⟩, -⟩
        omega
      · rename_i hroom
        rcases fits_cases (p.labels ++ [label, addition]) with ⟨herror, hsome⟩ | ⟨⟨b, hb⟩, hall⟩
        · rw [herror]
          refine iff_of_true (by cases e; rfl) ⟨⟨hnew.1, hnew.2, by omega⟩, fun hencodable => ?_⟩
          obtain ⟨l, hl, hnot⟩ := hsome
          rcases List.mem_append.mp hl with hl | hl
          · exact hnot (hpacked l hl)
          · rcases List.mem_cons.mp hl with rfl | hl
            · exact hnot hencodable
            · rw [List.mem_singleton] at hl
              rw [hl] at hnot
              exact hnot haddition
        · rw [hb]
          refine iff_of_false ?_ fun h => h.2 (hall label (by simp))
          cases b <;> exact fun h => by cases h

/-- **Once the service is recorded** the value stays as it was. -/
theorem serviceMetadataValue_append {services : List Value} {service recorded : Value}
    (h : serviceLabel recorded = serviceLabel service) :
    serviceMetadataValue P (.list (services ++ [recorded])) service =
      serviceMetadataValue P (.list services) service := by
  unfold serviceMetadataValue
  cases hlabel : serviceLabel service with
  | none => rfl
  | some addition =>
    have hskip : ∀ p, [recorded].foldlM (pack P addition) p = .ok p := by
      intro p
      rw [List.foldlM_cons, pack, h, hlabel]
      simp only [true_or, if_pos]
      rfl
    simp only
    rw [List.foldlM_append]
    cases services.foldlM (pack P addition) ⟨[], []⟩ with
    | error e => rfl
    | ok p =>
      simp only [ok_bind]
      rw [hskip, ok_bind]

end

/-! ## The value is well-formed -/

/-- A value that describes these services and the addition. -/
structure Describes (services : List Value) (addition metadataValue : Str) : Prop where
  accepted : validMetadataValue metadataValue = .ok true
  document : ∃ labels, Json.loads metadataValue = some (.obj [("v", .int 1),
      ("services", .arr ((labels ++ [addition]).map .str))]) ∧
    (labels ++ [addition]).length ≤ MAX_PROVIDER_SERVICES ∧
    (∀ label ∈ labels ++ [addition], label ≠ [] ∧ serviceLabel (.str label) = some label) ∧
    ((labels ++ [addition]).map P.casefold).Nodup ∧
    labels.Sublist (services.filterMap serviceLabel)

/-- What should hold of the value of a service that is added. -/
structure Expected (services : List Value) (service : Value) : Prop where
  returns : ∃ r, serviceMetadataValue P (.list services) service = .ok r
  describes : ∀ v, serviceMetadataValue P (.list services) service = .ok (some v) →
    ∃ addition, serviceLabel service = some addition ∧ Describes P services addition v
  missing : serviceMetadataValue P (.list services) service = .ok none →
    (∀ s, service ≠ .str s) ∨ (∃ s, service = .str s ∧ Blank s) ∨
      ∃ addition, serviceLabel service = some addition ∧ fits [addition] = .ok false
  stable : ∀ recorded, serviceLabel recorded = serviceLabel service →
    serviceMetadataValue P (.list (services ++ [recorded])) service =
      serviceMetadataValue P (.list services) service

/-- The label that is added has a lone surrogate, or the loop comes to a service whose label has one
while there is room for it and its folding is new. -/
def MeetsSurrogate (services : List Value) (service : Value) : Prop :=
  ∃ addition, serviceLabel service = some addition ∧ (¬ Encodable addition ∨
    ∃ before value after p label, services = before ++ value :: after ∧
      before.foldlM (pack P addition) ⟨[], []⟩ = .ok p ∧ serviceLabel value = some label ∧
      Tried P addition p label ∧ ¬ Encodable label)

section

variable {P} {services : List Value} {service : Value}

theorem describes_of_ok {v : Str}
    (h : serviceMetadataValue P (.list services) service = .ok (some v)) :
    ∃ addition, serviceLabel service = some addition ∧ Describes P services addition v := by
  unfold serviceMetadataValue at h
  split at h
  · rename_i addition values haddition hlist
    cases hlist
    refine ⟨addition, haddition, ?_⟩
    obtain ⟨p, hfold, h⟩ := bind_eq_ok.mp h
    obtain ⟨b, hfits, h⟩ := bind_eq_ok.mp h
    have hp := Packed.fold hfold
    cases b with
    | false => cases h
    | true =>
      cases h
      refine ⟨valid_of_fits hfits, p.labels, Json.loads_dumps _, ?_, ?_, hp.distinct, hp.sublist⟩
      · have hfew := hp.few
        rw [List.length_append, List.length_singleton]
        rw [MAX_PROVIDER_SERVICES] at hfew ⊢
        omega
      · intro label hlabel
        rcases List.mem_append.mp hlabel with hin | hin
        · obtain ⟨value, -, hvalue⟩ := List.mem_filterMap.mp (hp.sublist.subset hin)
          exact serviceLabel_spec hvalue
        · rw [List.mem_singleton] at hin
          rw [hin]
          exact serviceLabel_spec haddition
  · cases h

theorem missing_of_ok (h : serviceMetadataValue P (.list services) service = .ok none) :
    (∀ s, service ≠ .str s) ∨ (∃ s, service = .str s ∧ Blank s) ∨
      ∃ addition, serviceLabel service = some addition ∧ fits [addition] = .ok false := by
  unfold serviceMetadataValue at h
  split at h
  · rename_i addition values haddition hlist
    cases hlist
    obtain ⟨p, hfold, h⟩ := bind_eq_ok.mp h
    obtain ⟨b, hfits, h⟩ := bind_eq_ok.mp h
    have hp := Packed.fold hfold
    cases b with
    | true => cases h
    | false =>
      refine .inr (.inr ⟨addition, haddition, ?_⟩)
      by_cases hnil : p.labels = []
      · rwa [hnil, List.nil_append] at hfits
      · rw [hp.fit hnil] at hfits
        cases hfits
  · rename_i hnot
    cases service with
    | str s =>
      cases hlabel : serviceLabel (.str s) with
      | none => exact .inr (.inl ⟨s, rfl, serviceLabel_eq_none.mp hlabel⟩)
      | some addition => exact absurd rfl (hnot addition services hlabel)
    | _ => exact .inl fun s hs => by cases hs

theorem returns_iff : (∃ r, serviceMetadataValue P (.list services) service = .ok r) ↔
    ¬ MeetsSurrogate P services service := by
  unfold serviceMetadataValue MeetsSurrogate
  cases hlabel : serviceLabel service with
  | none =>
    refine iff_of_true ⟨none, rfl⟩ ?_
    rintro ⟨addition, h, -⟩
    cases h
  | some addition =>
    simp only
    have hfold := @foldlM_eq_error _ _ _ (pack P addition) services ⟨[], []⟩
      .unicodeEncodeError
    constructor
    · rintro ⟨r, hr⟩ ⟨addition', haddition, hmeets⟩
      cases haddition
      obtain ⟨p, hp, hr⟩ := bind_eq_ok.mp hr
      obtain ⟨b, hfits, -⟩ := bind_eq_ok.mp hr
      have haddition : Encodable addition := by
        rcases fits_cases (p.labels ++ [addition]) with ⟨herror, -⟩ | ⟨-, hall⟩
        · rw [hfits] at herror
          cases herror
        · exact hall addition (by simp)
      rcases hmeets with hnot | ⟨before, value, after, q, label, rfl, hq, hvalue, htried, hnot⟩
      · exact hnot haddition
      · have herror := hfold.mpr ⟨before, value, after, q, rfl, hq,
          (pack_error haddition (Packed.fold hq)).mpr ⟨label, hvalue, htried, hnot⟩⟩
        rw [hp] at herror
        cases herror
    · intro hmeets
      have haddition : Encodable addition := by
        by_contra hnot
        exact hmeets ⟨addition, rfl, .inl hnot⟩
      cases hp : services.foldlM (pack P addition) ⟨[], []⟩ with
      | error e =>
        cases e
        obtain ⟨before, value, after, q, heq, hq, herror⟩ := hfold.mp hp
        obtain ⟨label, hvalue, htried, hnot⟩ :=
          (pack_error haddition (Packed.fold hq)).mp herror
        exact absurd ⟨addition, rfl, .inr ⟨before, value, after, q, label, heq, hq, hvalue, htried,
          hnot⟩⟩ hmeets
      | ok p =>
        rw [ok_bind]
        rcases fits_cases (p.labels ++ [addition]) with ⟨herror, hnot⟩ | ⟨⟨b, hb⟩, -⟩
        · have hpacked := Packed.fold hp
          by_cases hnil : p.labels = []
          · rw [hnil, List.nil_append] at hnot
            obtain ⟨label, hin, hnot⟩ := hnot
            rw [List.mem_singleton] at hin
            rw [hin] at hnot
            exact absurd haddition hnot
          · rw [hpacked.fit hnil] at herror
            cases herror
        · rw [hb, ok_bind]
          cases b with
          | false => exact ⟨none, rfl⟩
          | true => exact ⟨_, rfl⟩

end

/-- **The metadata value is well-formed** and does not change once the service is recorded, exactly
where the labels meet no lone surrogate. -/
theorem serviceMetadata_iff (services : List Value) (service : Value) :
    Expected P services service ↔ ¬ MeetsSurrogate P services service :=
  ⟨fun h => returns_iff.mp h.returns, fun h => ⟨returns_iff.mpr h, fun _ => describes_of_ok,
    missing_of_ok, fun _ => serviceMetadataValue_append⟩⟩

/-- **A lone surrogate** in a service is not skipped but raises. -/
theorem surrogate_raises :
    ¬ Expected asciiPython [.str [chr 0xd800]] (.str (py "Drain cleaning")) := by
  intro h
  obtain ⟨r, hr⟩ := h.returns
  have hraises : serviceMetadataValue asciiPython (.list [.str [chr 0xd800]])
      (.str (py "Drain cleaning")) = .error .unicodeEncodeError := rfl
  rw [hraises] at hr
  cases hr

end HeyKevin.L14
