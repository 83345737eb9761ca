import HeyKevin.L8Triage.Steps
/-!
# The evidence of a case

Seen from outside, the assets of a case are a short list of roles and
validations, and a pending action is a kind and a status. `Fits` says which
lists, media statuses and actions belong together: the symptom video comes
first; a rating plate follows a validated video, a recapture a rejected one;
and an asset waits for its validation exactly while the media status says so.

* `Fits.startVideo` to `Fits.abort`: the moves that handlers make keep it.
* `Fits.giveUp`: so does ending the case at any moment.
* `shape_upload`, `shape_withValidation`, `shape_finalizedAssets`: the moves as
  the handlers make them.
-/
namespace HeyKevin.L8.Triage

open HeyKevin.Core L1 L1.Text L1.Datetime
open Aggregate (InFlight)

/-- The roles and validations of the assets, oldest first. -/
abbrev Shape := List (MediaRole × MediaValidation)

/-- The kind and status of the pending action. -/
abbrev Turn := Option (ActionKind × ActionStatus)

/-- Some symptom video or recapture is validated. -/
def Evidence (shape : Shape) : Prop :=
  (.symptomVideo, .validated) ∈ shape ∨ (.targetedRecapture, .validated) ∈ shape

instance (shape : Shape) : Decidable (Evidence shape) := inferInstanceAs (Decidable (_ ∨ _))

/-- No media action is under way: nothing is pending, or a question is. -/
def Idle (turn : Turn) : Prop := turn = none ∨ turn = some (.diagnosticQuestion, .issued)

/-- Assets, media status and pending action that belong together. -/
inductive Fits : Shape → MediaStatus → Turn → Prop
  | unasked : Fits [] .none none
  | required : Fits [] .awaitingRequired none
  | uploading : Fits [(.symptomVideo, .pending)] .uploadPending none
  | quarantined : Fits [(.symptomVideo, .pending)] .uploadedQuarantined none
  | judged (v : MediaValidation) (m : MediaStatus) (turn : Turn) (hm : mediaState v = .ok m)
      (hturn : Idle turn ∨ turn = some (.ratingPlate, .issued) ∧ v = .validated ∨
        turn = some (.targetedRecapture, .issued) ∧ v = .rejected) :
      Fits [(.symptomVideo, v)] m turn
  | plateUploading : Fits [(.symptomVideo, .validated), (.ratingPlate, .pending)] .uploadPending
      (some (.ratingPlate, .uploading))
  | plateQuarantined : Fits [(.symptomVideo, .validated), (.ratingPlate, .pending)]
      .uploadedQuarantined (some (.ratingPlate, .submitted))
  | plateJudged (v : MediaValidation) (turn : Turn) (hv : v ≠ .pending)
      (hturn : Idle turn ∨ turn = some (.ratingPlate, .submitted)) :
      Fits [(.symptomVideo, .validated), (.ratingPlate, v)] .validated turn
  | recaptureUploading : Fits [(.symptomVideo, .rejected), (.targetedRecapture, .pending)]
      .uploadPending (some (.targetedRecapture, .uploading))
  | recaptureQuarantined : Fits [(.symptomVideo, .rejected), (.targetedRecapture, .pending)]
      .uploadedQuarantined (some (.targetedRecapture, .submitted))
  | recaptureJudged (v : MediaValidation) (m : MediaStatus) (turn : Turn) (hv : v ≠ .pending)
      (hm : m = .validated ∧ v = .validated ∨ (m = .rejected ∨ m = .unavailable) ∧ v ≠ .validated)
      (hturn : Idle turn ∨ turn = some (.targetedRecapture, .submitted)) :
      Fits [(.symptomVideo, .rejected), (.targetedRecapture, v)] m turn

theorem split_one {α : Type} {l₁ l₂ : List α} {x y : α} (h : l₁ ++ x :: l₂ = [y]) :
    l₁ = [] ∧ x = y ∧ l₂ = [] := by
  cases l₁ with
  | nil => simpa using h
  | cons a l₁ => simp at h

theorem split_two {α : Type} {l₁ l₂ : List α} {x y z : α} (h : l₁ ++ x :: l₂ = [y, z]) :
    l₁ = [] ∧ x = y ∧ l₂ = [z] ∨ l₁ = [y] ∧ x = z ∧ l₂ = [] := by
  cases l₁ with
  | nil => exact .inl (by simpa using h)
  | cons a l₁ =>
    simp only [List.cons_append, List.cons.injEq] at h
    obtain ⟨rfl, h⟩ := h
    obtain ⟨rfl, rfl, rfl⟩ := split_one h
    exact .inr ⟨rfl, rfl, rfl⟩

/-- A verdict keeps the roles. -/
theorem role_of_verdict {l₁ l₂ : Shape} {role role' : MediaRole} {v v' w : MediaValidation}
    (h : (role', w) ∈ l₁ ++ (role, v') :: l₂) : ∃ w, (role', w) ∈ l₁ ++ (role, v) :: l₂ := by
  simp only [List.mem_append, List.mem_cons, Prod.mk.injEq] at h ⊢
  obtain h | ⟨rfl, -⟩ | h := h
  · exact ⟨w, .inl h⟩
  · exact ⟨v, .inr (.inl ⟨rfl, rfl⟩)⟩
  · exact ⟨w, .inr (.inr h)⟩

namespace Fits

variable {shape shape' : Shape} {media : MediaStatus} {turn : Turn}

/-- Validated media means evidence. -/
theorem evidence (h : Fits shape .validated turn) : Evidence shape := by
  cases h with
  | judged v m turn hm =>
    cases v <;> cases hm
    exact .inl List.mem_cons_self
  | plateJudged => exact .inl List.mem_cons_self
  | recaptureJudged v m turn hv hm =>
    obtain ⟨-, rfl⟩ | ⟨h | h, -⟩ := hm
    · exact .inr (List.mem_cons_of_mem _ List.mem_cons_self)
    · cases h
    · cases h

theorem validated_of_idle (h : Fits shape media turn) (hidle : ¬ InFlight media)
    (he : Evidence shape) : media = .validated := by
  cases h with
  | judged v m turn hm => cases v <;> cases hm <;> simp_all [Evidence]
  | plateJudged => rfl
  | recaptureJudged v m turn hv hm =>
    obtain ⟨rfl, -⟩ | ⟨-, hne⟩ := hm
    · rfl
    · simp_all [Evidence]
  | _ => simp_all [Evidence, InFlight]

theorem settled (h : Fits shape media turn) (hidle : ¬ InFlight media) :
    ∀ e ∈ shape, e.2 ≠ .pending := by
  cases h with
  | judged v m turn hm => cases v <;> cases hm <;> simp
  | plateJudged v turn hv => simpa using hv
  | recaptureJudged v m turn hv => simpa using hv
  | _ => simp_all [InFlight]

theorem length_le (h : Fits shape media turn) : shape.length ≤ 2 := by
  cases h <;> simp

/-! ## Moves -/

theorem startVideo (h : Fits shape .awaitingRequired none) :
    Fits (shape ++ [(.symptomVideo, .pending)]) .uploadPending none := by
  cases h with
  | required => exact .uploading
  | judged v m turn hm => cases v <;> cases hm
  | recaptureJudged v m turn hv hm => simp at hm

theorem startUpload {kind : ActionKind} {role : MediaRole} (h : Fits shape media (some (kind, .issued)))
    (hrole : roleForAction kind = .ok role) :
    Fits (shape ++ [(role, .pending)]) .uploadPending (some (kind, .uploading)) := by
  cases h with
  | judged v m turn hm hturn =>
    obtain (hq | hq) | ⟨hq, rfl⟩ | ⟨hq, rfl⟩ := hturn <;> cases hq <;> cases hrole
    · exact .plateUploading
    · exact .recaptureUploading
  | plateJudged v turn hv hturn =>
    obtain (hq | hq) | hq := hturn <;> cases hq
    cases hrole
  | recaptureJudged v m turn hv hm hturn =>
    obtain (hq | hq) | hq := hturn <;> cases hq
    cases hrole

theorem finalizeVideo (h : Fits shape .uploadPending none) :
    Fits shape .uploadedQuarantined none := by
  cases h with
  | uploading => exact .quarantined
  | judged v m turn hm => cases v <;> cases hm
  | recaptureJudged v m turn hv hm => simp at hm

theorem finalizeUpload {kind : ActionKind} (h : Fits shape .uploadPending (some (kind, .uploading))) :
    Fits shape .uploadedQuarantined (some (kind, .submitted)) := by
  cases h with
  | plateUploading => exact .plateQuarantined
  | recaptureUploading => exact .recaptureQuarantined
  | judged v m turn hm => cases v <;> cases hm
  | recaptureJudged v m turn hv hm => simp at hm

/-- The asset under validation gets its verdict. -/
theorem validate {l₁ l₂ : Shape} {role : MediaRole} {v : MediaValidation} {final : MediaStatus}
    (h : Fits (l₁ ++ (role, .pending) :: l₂) .uploadedQuarantined turn)
    (hv : mediaState v = .ok final) :
    Fits (l₁ ++ (role, v) :: l₂)
      (if role ≠ .symptomVideo ∧ Evidence (l₁ ++ (role, v) :: l₂) then .validated else final)
      turn := by
  generalize hs : l₁ ++ (role, MediaValidation.pending) :: l₂ = s at h
  cases h with
  | quarantined =>
    obtain ⟨rfl, hx, rfl⟩ := split_one hs
    cases hx
    simpa using Fits.judged v final none hv (.inl (.inl rfl))
  | judged w m turn hm => cases w <;> cases hm
  | plateQuarantined =>
    obtain ⟨-, hx, -⟩ | ⟨rfl, hx, rfl⟩ := split_two hs
    · cases hx
    · cases hx
      rw [if_pos ⟨by decide, .inl List.mem_cons_self⟩]
      exact .plateJudged v _ (by rintro rfl; cases hv) (.inr rfl)
  | recaptureQuarantined =>
    obtain ⟨-, hx, -⟩ | ⟨rfl, hx, rfl⟩ := split_two hs
    · cases hx
    · cases hx
      refine .recaptureJudged v _ _ (by rintro rfl; cases hv) ?_ (.inr rfl)
      cases v <;> cases hv <;> simp [Evidence]
  | recaptureJudged w m turn hw hm => simp at hm

theorem askQuestion (h : Fits shape media none)
    (hm : media = .validated ∨ media = .rejected ∨ media = .unavailable) :
    Fits shape media (some (.diagnosticQuestion, .issued)) := by
  cases h with
  | judged v m turn hv => exact .judged v media _ hv (.inl (.inr rfl))
  | plateJudged v turn hv => exact .plateJudged v _ hv (.inl (.inr rfl))
  | recaptureJudged v m turn hv hm => exact .recaptureJudged v media _ hv hm (.inl (.inr rfl))
  | _ => simp at hm

theorem askPlate (h : Fits shape .validated none) (hvideo : (.symptomVideo, .validated) ∈ shape)
    (hfirst : ∀ v, (.ratingPlate, v) ∉ shape) :
    Fits shape .validated (some (.ratingPlate, .issued)) := by
  cases h with
  | judged v m turn hv =>
    cases v <;> cases hv
    exact .judged .validated _ _ rfl (.inr (.inl ⟨rfl, rfl⟩))
  | plateJudged v turn hv => exact absurd (List.mem_cons_of_mem _ List.mem_cons_self) (hfirst v)
  | recaptureJudged v m turn hv hm => simp at hvideo

theorem askRecapture (h : Fits shape .rejected none)
    (hfirst : ∀ v, (.targetedRecapture, v) ∉ shape) :
    Fits shape .rejected (some (.targetedRecapture, .issued)) := by
  cases h with
  | judged v m turn hv =>
    cases v <;> cases hv
    exact .judged .rejected _ _ rfl (.inr (.inr ⟨rfl, rfl⟩))
  | recaptureJudged v m turn hv hm =>
    exact absurd (List.mem_cons_of_mem _ List.mem_cons_self) (hfirst v)

theorem require (h : Fits shape .none turn) : Fits shape .awaitingRequired none := by
  cases h with
  | unasked => exact .required
  | judged v m turn hv => cases v <;> cases hv
  | recaptureJudged v m turn hv hm => simp at hm

theorem judged_of_idle {t : ActionKind × ActionStatus} (h : Fits shape media (some t))
    (hidle : ¬ InFlight media) :
    media = .validated ∨ media = .rejected ∨ media = .unavailable := by
  cases h with
  | judged v m turn hv => cases v <;> cases hv <;> simp
  | plateJudged => simp
  | recaptureJudged v m turn hv hm =>
    obtain ⟨rfl, -⟩ | ⟨rfl | rfl, -⟩ := hm <;> simp
  | _ => simp [InFlight] at hidle

theorem idle_of_question {status : ActionStatus}
    (h : Fits shape media (some (.diagnosticQuestion, status))) : ¬ InFlight media := by
  cases h with
  | judged v m turn hv => cases v <;> cases hv <;> simp [InFlight]
  | plateJudged => simp [InFlight]
  | recaptureJudged v m turn hv hm =>
    obtain ⟨rfl, -⟩ | ⟨rfl | rfl, -⟩ := hm <;> simp [InFlight]

theorem submitted_of_quarantined {kind : ActionKind} {status : ActionStatus}
    (h : Fits shape .uploadedQuarantined (some (kind, status))) :
    kind ≠ .diagnosticQuestion ∧ status = .submitted := by
  cases h with
  | judged v m turn hv => cases v <;> cases hv
  | plateQuarantined => simp
  | recaptureQuarantined => simp
  | recaptureJudged v m turn hv hm => simp at hm

theorem drop (h : Fits shape media turn) (hidle : ¬ InFlight media) : Fits shape media none := by
  cases h with
  | unasked => exact .unasked
  | required => exact .required
  | judged v m turn hv => exact .judged v media _ hv (.inl (.inl rfl))
  | plateJudged v turn hv => exact .plateJudged v _ hv (.inl (.inl rfl))
  | recaptureJudged v m turn hv hm => exact .recaptureJudged v media _ hv hm (.inl (.inl rfl))
  | _ => simp [InFlight] at hidle

theorem idle_of_settled {kind : ActionKind} {status : ActionStatus} {role : MediaRole}
    {v : MediaValidation} (h : Fits shape media (some (kind, status)))
    (hrole : roleForAction kind = .ok role)
    (hsettled : status = .issued ∨ status = .submitted ∧ (role, v) ∈ shape ∧ v ≠ .pending) :
    ¬ InFlight media := by
  cases h with
  | judged w m turn hw => cases w <;> cases hw <;> simp [InFlight]
  | plateJudged => simp [InFlight]
  | recaptureJudged w m turn hw hm => obtain ⟨rfl, -⟩ | ⟨rfl | rfl, -⟩ := hm <;> simp [InFlight]
  | plateQuarantined =>
    cases hrole
    simp at hsettled
  | recaptureQuarantined =>
    cases hrole
    simp at hsettled
  | _ => simp at hsettled

theorem evidence_of_fulfilled {kind : ActionKind} {role : MediaRole}
    (h : Fits shape media (some (kind, .submitted))) (hrole : roleForAction kind = .ok role)
    (hv : (role, .validated) ∈ shape) : Evidence shape := by
  cases h with
  | judged w m turn hw hturn => simp [Idle] at hturn
  | plateJudged => exact .inl List.mem_cons_self
  | plateQuarantined => exact .inl List.mem_cons_self
  | recaptureQuarantined =>
    cases hrole
    exact .inr hv
  | recaptureJudged w m turn hw hm hturn =>
    obtain (hq | hq) | hq := hturn <;> cases hq
    cases hrole
    exact .inr hv

theorem abort {l₁ l₂ : Shape} {kind : ActionKind} {status : ActionStatus} {role : MediaRole}
    {v : MediaValidation} (h : Fits (l₁ ++ (role, v) :: l₂) media (some (kind, status)))
    (hrole : roleForAction kind = .ok role)
    (hpending : status = .submitted ∧ v = .pending ∨ status = .uploading) :
    InFlight media ∧ Fits (l₁ ++ (role, .unavailable) :: l₂)
      (if Evidence (l₁ ++ (role, .unavailable) :: l₂) then .validated else .rejected) none := by
  generalize hs : l₁ ++ (role, v) :: l₂ = s at h
  cases h with
  | judged w m turn hw hturn =>
    obtain (hq | hq) | ⟨hq, -⟩ | ⟨hq, -⟩ := hturn <;> cases hq <;> simp at hpending
  | plateUploading =>
    obtain ⟨-, hx, -⟩ | ⟨rfl, hx, rfl⟩ := split_two hs <;> cases hx
    · cases hrole
    · exact ⟨.inl rfl, .plateJudged .unavailable _ (by decide) (.inl (.inl rfl))⟩
  | plateQuarantined =>
    obtain ⟨-, hx, -⟩ | ⟨rfl, hx, rfl⟩ := split_two hs <;> cases hx
    · cases hrole
    · exact ⟨.inr rfl, .plateJudged .unavailable _ (by decide) (.inl (.inl rfl))⟩
  | plateJudged w turn hw hturn =>
    obtain (hq | hq) | hq := hturn <;> cases hq
    · cases hrole
    · obtain ⟨-, hx, -⟩ | ⟨rfl, hx, rfl⟩ := split_two hs <;> cases hx
      · cases hrole
      · simp [hw] at hpending
  | recaptureUploading =>
    obtain ⟨-, hx, -⟩ | ⟨rfl, hx, rfl⟩ := split_two hs <;> cases hx
    · cases hrole
    · exact ⟨.inl rfl, .recaptureJudged .unavailable _ _ (by decide) (by decide) (.inl (.inl rfl))⟩
  | recaptureQuarantined =>
    obtain ⟨-, hx, -⟩ | ⟨rfl, hx, rfl⟩ := split_two hs <;> cases hx
    · cases hrole
    · exact ⟨.inr rfl, .recaptureJudged .unavailable _ _ (by decide) (by decide) (.inl (.inl rfl))⟩
  | recaptureJudged w m turn hw hm hturn =>
    obtain (hq | hq) | hq := hturn <;> cases hq
    · cases hrole
    · obtain ⟨-, hx, -⟩ | ⟨rfl, hx, rfl⟩ := split_two hs <;> cases hx
      · cases hrole
      · simp [hw] at hpending

/-- Ending the case gives up whatever is in flight. -/
theorem giveUp (h : Fits shape media turn) (hflight : InFlight media) :
    Fits (shape.map fun e => (e.1, if e.2 = .pending then .unavailable else e.2))
      (if Evidence (shape.map fun e => (e.1, if e.2 = .pending then .unavailable else e.2))
        then .validated else .unavailable) none := by
  cases h with
  | uploading => exact .judged .unavailable _ _ rfl (.inl (.inl rfl))
  | quarantined => exact .judged .unavailable _ _ rfl (.inl (.inl rfl))
  | plateUploading => exact .plateJudged .unavailable _ (by decide) (.inl (.inl rfl))
  | plateQuarantined => exact .plateJudged .unavailable _ (by decide) (.inl (.inl rfl))
  | recaptureUploading =>
    exact .recaptureJudged .unavailable _ _ (by decide) (by decide) (.inl (.inl rfl))
  | recaptureQuarantined =>
    exact .recaptureJudged .unavailable _ _ (by decide) (by decide) (.inl (.inl rfl))
  | judged v m turn hv => cases v <;> cases hv <;> simp [InFlight] at hflight
  | recaptureJudged v m turn hv hm =>
    obtain ⟨rfl, -⟩ | ⟨rfl | rfl, -⟩ := hm <;> simp [InFlight] at hflight
  | _ => simp [InFlight] at hflight

end Fits

/-! ## The moves of the handlers -/

/-- The roles and validations of the assets, in the order of their uploads. -/
def shapeOf (assets : Entries Str MediaAsset) : Shape :=
  assets.map fun e => (e.2.role, e.2.validation)

namespace Aggregate

variable (agg : Aggregate)

def turn : Turn := agg.pending.map fun action => (action.kind, action.status)

variable {agg}

theorem mem_shape_of_find? {assetId : Str} {asset : MediaAsset}
    (h : Entries.find? agg.mediaAssets assetId = some asset) :
    (asset.role, asset.validation) ∈ shapeOf agg.mediaAssets :=
  List.mem_map_of_mem (Entries.mem_of_find? h)

theorem hasValidatedRole_iff {role : MediaRole} :
    agg.hasValidatedRole role = true ↔ (role, .validated) ∈ shapeOf agg.mediaAssets := by
  simp only [hasValidatedRole, List.any_eq_true, Bool.and_eq_true, decide_eq_true_eq, shapeOf,
    List.mem_map, Prod.mk.injEq]

theorem hasValidatedSymptomEvidence_iff :
    agg.hasValidatedSymptomEvidence = true ↔ Evidence (shapeOf agg.mediaAssets) := by
  rw [hasValidatedSymptomEvidence, Bool.or_eq_true, hasValidatedRole_iff, hasValidatedRole_iff,
    Evidence]

/-- A new asset goes to the end. -/
theorem shape_upload {asset : MediaAsset}
    (h : Entries.find? agg.mediaAssets asset.assetId.val = none) :
    shapeOf (Entries.set agg.mediaAssets asset.assetId.val asset) =
      shapeOf agg.mediaAssets ++ [(asset.role, asset.validation)] := by
  rw [Entries.set_of_find?_none h, shapeOf, List.map_append, List.map_singleton, shapeOf]

theorem shape_withValidation {asset : MediaAsset}
    (h : Entries.find? agg.mediaAssets asset.assetId.val = some asset) :
    ∃ l₁ l₂, shapeOf agg.mediaAssets = l₁ ++ (asset.role, asset.validation) :: l₂ ∧ ∀ v,
      shapeOf (agg.withValidation asset v) = l₁ ++ (asset.role, v) :: l₂ := by
  obtain ⟨d₁, d₂, hd, hset⟩ := Entries.exists_set_of_find? h
  refine ⟨shapeOf d₁, shapeOf d₂, ?_, fun v => ?_⟩
  · rw [hd, shapeOf, List.map_append, List.map_cons, shapeOf, shapeOf]
  · rw [withValidation, hset, shapeOf, List.map_append, List.map_cons, shapeOf, shapeOf]

theorem shape_finalizedAssets :
    shapeOf (finalizedAssets agg.mediaAssets) = (shapeOf agg.mediaAssets).map fun e => (e.1, if e.2 = .pending then .unavailable else e.2) := by
  simp only [finalizedAssets, shapeOf, List.map_map]
  refine List.map_congr_left fun e _ => ?_
  simp only [Function.comp_apply]
  split <;> simp_all

theorem finalized_state :
    agg.finalized.state = { agg.state with media := agg.finalized.state.media } := by
  unfold finalized
  split <;> rfl

theorem finalized_eq (agg : Aggregate) : ∃ media assets, agg.finalized = { agg with
      pending := none, mediaAssets := assets, state := { agg.state with media } } ∧
    (media = agg.state.media ∨ media = .validated ∨ media = .unavailable) := by
  unfold finalized
  split
  · refine ⟨_, _, rfl, .inr ?_⟩
    split <;> simp
  · exact ⟨_, _, rfl, .inl rfl⟩

theorem find?_finalizedAssets {assets : Entries Str MediaAsset} {k : Str} {asset : MediaAsset}
    (h : Entries.find? (finalizedAssets assets) k = some asset) :
    ∃ before, Entries.find? assets k = some before ∧ before.assetId = asset.assetId := by
  induction assets with
  | nil => cases h
  | cons e assets ih =>
    obtain ⟨a, w⟩ := e
    simp only [finalizedAssets, List.map_cons] at h
    rw [Entries.find?_cons]
    by_cases ha : a = k
    · rw [if_pos ha]
      split at h <;> rw [Entries.find?_cons, if_pos ha] at h <;> cases h <;> exact ⟨_, rfl, rfl⟩
    · rw [if_neg ha]
      split at h <;> rw [Entries.find?_cons, if_neg ha] at h <;> exact ih h

/-- Ending the case keeps assets, media status and pending action together, and leaves
nothing in flight. -/
theorem finalized_spec (h : Fits (shapeOf agg.mediaAssets) agg.state.media agg.turn) :
    ∃ media assets, agg.finalized = { agg with
        pending := none, mediaAssets := assets, state := { agg.state with media } } ∧
      Fits (shapeOf assets) media none ∧ ¬ InFlight media ∧
      (agg.state.media = .validated ∨ agg.state.media = .none → media = agg.state.media) ∧
      (∀ k asset, Entries.find? assets k = some asset →
        ∃ before, Entries.find? agg.mediaAssets k = some before ∧
          before.assetId = asset.assetId) ∧
      ∀ role v, (role, v) ∈ shapeOf assets → ∃ v, (role, v) ∈ shapeOf agg.mediaAssets := by
  by_cases hflight : InFlight agg.state.media
  · have hfits := h.giveUp hflight
    rw [← shape_finalizedAssets] at hfits
    refine ⟨_, finalizedAssets agg.mediaAssets, if_pos hflight, ?_, ?_, fun hm => ?_,
      fun k asset => find?_finalizedAssets, fun role v hv => ?_⟩
    · simpa only [hasValidatedSymptomEvidence_iff] using hfits
    · split <;> simp [InFlight]
    · obtain hm | hm := hm <;> simp [InFlight, hm] at hflight
    · rw [shape_finalizedAssets] at hv
      obtain ⟨e, he, heq⟩ := List.mem_map.mp hv
      obtain ⟨rfl, -⟩ := Prod.mk.inj heq
      exact ⟨e.2, he⟩
  · exact ⟨agg.state.media, agg.mediaAssets, if_neg hflight, h.drop hflight, hflight, fun _ => rfl,
      fun k asset ha => ⟨asset, ha, rfl⟩, fun role v hv => ⟨v, hv⟩⟩

end Aggregate

end HeyKevin.L8.Triage
