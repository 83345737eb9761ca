import HeyKevin.L6Billing.AccessGate
/-!
# What a number release has seen

A number goes back once its account has been quiet for a whole window
(`is_safe_to_release_number`, `is_safe_to_release_lapsed_number`). Each guard
is `now - stamp < window` on whatever the field holds, and lets pass what does
not compare.

* `quiet_iff`: a stamp that its guard lets pass is quiet, but where the guard
  misjudges it.
* `release_iff`: the same of both releases.
-/
namespace HeyKevin.L6.AccessGate

open HeyKevin.Core Binary64 L1 L1.Text

/-- A real number, at least the window before now. -/
def Quiet (now : PyFloat) (window : ℤ) : Value → Prop
  | .number n =>
    match now with
    | .finite m => n.val + window ≤ m.val
    | .nonFinite .inf => True
    | .nonFinite _ => False
  | _ => False

/-- Why a comparison may let a stamp pass that is not quiet. -/
inductive Misjudged (now : PyFloat) (window : ℤ) : Value → Prop
  | notReal {f} : Misjudged now window (.nonFinite f)
  | noClock {v} (h : now = .nonFinite .nan) : Misjudged now window v
  /-- The age is below the window, and rounds up to it. -/
  | rounded {m n} (h : now = .finite m) (hexact : m.val - n.val < window)
      (hrounded : window ≤ rnd (m.val - n.toFloat.val)) : Misjudged now window (.number n)

theorem quiet_iff {now : PyFloat} {x : Numeric} {window : ℤ}
    (h : within now x.toFloat window = false) :
    Quiet now window x.value ↔ ¬ Misjudged now window x.value := by
  cases x with
  | nonFinite f => exact ⟨fun hq => hq.elim, fun hm => hm .notReal⟩
  | finite n =>
    cases now with
    | finite m =>
      have hround : (window : ℚ) ≤ rnd (m.val - n.toFloat.val) := not_lt.mp (of_decide_eq_false h)
      constructor
      · intro hquiet hm
        have hquiet : n.val + window ≤ m.val := hquiet
        cases hm with
        | noClock h => cases h
        | rounded h hexact => cases h; linarith
      · intro hm
        by_contra hquiet
        have hquiet : ¬ (n.val + window ≤ m.val) := hquiet
        exact hm (.rounded rfl (by linarith) hround)
    | nonFinite f =>
      cases f with
      | nan => exact ⟨fun hq => hq.elim, fun hm => hm (.noClock rfl)⟩
      | inf =>
        refine ⟨fun _ hm => ?_, fun _ => trivial⟩
        cases hm with
        | noClock h => cases h
        | rounded h => cases h
      | negInf => cases h

theorem readableTimestamp_inv {v : Value} {t : PyFloat} (h : readableTimestamp v = some t) :
    ∃ x : Numeric, v = x.value ∧ t = x.toFloat := by
  unfold readableTimestamp at h
  split at h
  · cases h
  · rename_i hbool
    split at h
    · rename_i n hn
      split at h
      · cases h
      · cases h
        refine ⟨n, ?_, rfl⟩
        cases v with
        | number m => cases hn; rfl
        | nonFinite f => cases hn; rfl
        | bool b => exact absurd rfl (hbool b)
        | _ => cases hn
    · cases h

theorem readable_of_stampBlocks {v : Value} {now : PyFloat} {window : ℤ} (hv : v ≠ .none)
    (h : stampBlocks v now window = false) :
    ∃ t, readableTimestamp v = some t ∧ within now t window = false := by
  unfold stampBlocks at h
  split at h
  · exact absurd rfl hv
  · split at h
    · rename_i t ht
      exact ⟨t, ht, h⟩
    · cases h

theorem stamp_quiet_iff {v : Value} {now : PyFloat} {window : ℤ} (hv : v ≠ .none)
    (h : stampBlocks v now window = false) :
    Quiet now window v ↔ ¬ Misjudged now window v := by
  obtain ⟨t, ht, hwithin⟩ := readable_of_stampBlocks hv h
  obtain ⟨x, rfl, rfl⟩ := readableTimestamp_inv ht
  exact quiet_iff hwithin

theorem stampBlocks_of_readable {v : Value} {t : PyFloat} (hv : v ≠ .none)
    (ht : readableTimestamp v = some t) (now : PyFloat) (window : ℤ) :
    stampBlocks v now window = within now t window := by
  unfold stampBlocks
  split
  · exact absurd rfl hv
  · rw [ht]

/-! ## Releases -/

/-- What a release looks at, past the date that starts it. -/
def seen (d : Dict) : List Value := [d.get "forwarding_last_seen_at", d.get "last_inbound_call_at"]

theorem filter_of_get {d : Dict} {key : String} (h : d.get key ≠ .none) :
    (some d).filter (fun d : Dict => !d.isEmpty) = some d := by
  cases d with
  | nil => exact absurd rfl h
  | cons => rfl

def QuietOrAbsent (now : PyFloat) (window : ℤ) (v : Value) : Prop := v ≠ .none → Quiet now window v

/-- No guard blocks the release of the number of a deleted app. -/
def DeletedPasses (d : Dict) (now : PyFloat) : Prop :=
  d.get "deleted_app_detected_at" ≠ .none ∧
    ∀ v ∈ d.get "deleted_app_detected_at" :: seen d,
      stampBlocks v now numberReleaseQuiet = false

theorem isSafeToReleaseNumber_iff (contractor : Option Dict) (now : PyFloat) :
    isSafeToReleaseNumber contractor now = true ↔
      ∃ d, contractor = some d ∧ DeletedPasses d now := by
  constructor
  · intro h
    unfold isSafeToReleaseNumber at h
    split at h
    · cases h
    · rename_i d hd
      refine ⟨d, (Option.filter_eq_some_iff.mp hd).1, ?_⟩
      split at h
      · cases h
      · rename_i t ht
        have hpresent : d.get "deleted_app_detected_at" ≠ .none := by
          intro hnone
          rw [hnone] at ht
          cases ht
        split at h
        · cases h
        · rename_i hwithin
          split at h
          · cases h
          · rename_i hforward
            split at h
            · cases h
            · rename_i hinbound
              have hdeleted := stampBlocks_of_readable hpresent ht now numberReleaseQuiet
              refine ⟨hpresent, ?_⟩
              simp only [Bool.not_eq_true] at hwithin hforward hinbound
              simp [seen, hdeleted, hwithin, hforward, hinbound]
  · rintro ⟨d, rfl, hpresent, hpasses⟩
    simp only [seen, List.forall_mem_cons, List.not_mem_nil, false_implies, implies_true,
      and_true] at hpasses
    obtain ⟨hdeleted, hforward, hinbound⟩ := hpasses
    obtain ⟨t, ht, hwithin⟩ := readable_of_stampBlocks hpresent hdeleted
    unfold isSafeToReleaseNumber
    rw [filter_of_get hpresent]
    dsimp only
    rw [ht]
    dsimp only
    rw [hwithin, hforward, hinbound]
    rfl

variable (P : Python)

/-- No guard blocks the release of the number of a lapsed account. -/
def LapsedPasses (d : Dict) (now : PyFloat) (lastCallAt : Value) : Prop :=
  statusOf P d = py "expired" ∧ textOf P d "twilio_number" ≠ [] ∧
    (trialExpiresAt d).numeric.truthy = true ∧
    within now (trialExpiresAt d) lapsedNumberRelease = false ∧
    ∀ v ∈ lastCallAt :: seen d, stampBlocks v now lapsedNumberRelease = false

theorem isSafeToReleaseLapsedNumber_iff (contractor : Option Dict) (now : PyFloat)
    (lastCallAt : Value) :
    isSafeToReleaseLapsedNumber P contractor now lastCallAt = true ↔
      ∃ d, contractor = some d ∧ LapsedPasses P d now lastCallAt := by
  constructor
  · intro h
    unfold isSafeToReleaseLapsedNumber at h
    split at h
    · cases h
    · rename_i d hd
      refine ⟨d, (Option.filter_eq_some_iff.mp hd).1, ?_⟩
      split at h
      · cases h
      · rename_i hstatus
        split at h
        · cases h
        · rename_i hnumber
          split at h
          · cases h
          · rename_i hterm
            split at h
            · cases h
            · rename_i hwithin
              split at h
              · cases h
              · rename_i hforward
                split at h
                · cases h
                · rename_i hinbound
                  split at h
                  · cases h
                  · rename_i hcall
                    refine ⟨not_not.mp hstatus, hnumber, by simpa using hterm, by simpa using hwithin,
                      ?_⟩
                    simp only [Bool.not_eq_true] at hforward hinbound hcall
                    simp [seen, hcall, hforward, hinbound]
  · rintro ⟨d, rfl, hstatus, hnumber, hterm, hwithin, hpasses⟩
    simp only [seen, List.forall_mem_cons, List.not_mem_nil, false_implies, implies_true,
      and_true] at hpasses
    obtain ⟨hcall, hforward, hinbound⟩ := hpasses
    have hfilter : (some d).filter (fun d : Dict => !d.isEmpty) = some d := by
      cases d with
      | nil => simp [trialExpiresAt, usable, Value.numeric?] at hterm
      | cons => rfl
    unfold isSafeToReleaseLapsedNumber
    rw [hfilter]
    dsimp only
    rw [if_neg (not_not.mpr hstatus), if_neg hnumber, hterm, hwithin, hforward, hinbound, hcall]
    rfl

/-- A number that goes back was quiet for the whole window by every date on record, but where a
guard that blocks nothing has misjudged one of them. -/
theorem release_iff (contractor : Option Dict) (now : PyFloat) (lastCallAt : Value) :
    ((isSafeToReleaseNumber contractor now = true → ∃ d, contractor = some d ∧
        Quiet now numberReleaseQuiet (d.get "deleted_app_detected_at") ∧
        ∀ v ∈ seen d, QuietOrAbsent now numberReleaseQuiet v) ∧
      (isSafeToReleaseLapsedNumber P contractor now lastCallAt = true → ∃ d, contractor = some d ∧
        Quiet now lapsedNumberRelease (trialExpiresAt d).numeric.value ∧
        ∀ v ∈ lastCallAt :: seen d, QuietOrAbsent now lapsedNumberRelease v)) ↔
      ∀ d, contractor = some d →
        (DeletedPasses d now → ∀ v ∈ d.get "deleted_app_detected_at" :: seen d, v ≠ .none →
          ¬ Misjudged now numberReleaseQuiet v) ∧
        (LapsedPasses P d now lastCallAt →
          ∀ v ∈ (trialExpiresAt d).numeric.value :: lastCallAt :: seen d, v ≠ .none →
            ¬ Misjudged now lapsedNumberRelease v) := by
  rw [isSafeToReleaseNumber_iff, isSafeToReleaseLapsedNumber_iff]
  constructor
  · rintro ⟨hdeleted, hlapsed⟩ d rfl
    constructor
    · intro hpasses v hv hpresent
      obtain ⟨_, heq, hquiet, hothers⟩ := hdeleted ⟨d, rfl, hpasses⟩
      cases heq
      rw [← stamp_quiet_iff hpresent (hpasses.2 v hv)]
      rcases List.mem_cons.mp hv with rfl | hv
      · exact hquiet
      · exact hothers v hv hpresent
    · intro hpasses v hv hpresent
      obtain ⟨_, heq, hquiet, hothers⟩ := hlapsed ⟨d, rfl, hpasses⟩
      cases heq
      obtain ⟨-, -, -, hwithin, hstamps⟩ := hpasses
      rcases List.mem_cons.mp hv with rfl | hv
      · rwa [← quiet_iff (by simpa using hwithin)]
      · rw [← stamp_quiet_iff hpresent (hstamps v hv)]
        exact hothers v hv hpresent
  · intro hjudged
    constructor
    · rintro ⟨d, rfl, hpasses⟩
      have hnot := (hjudged d rfl).1 hpasses
      refine ⟨d, rfl, ?_, fun v hv hpresent => ?_⟩
      · have hfirst := List.mem_cons_self (a := d.get "deleted_app_detected_at") (l := seen d)
        exact (stamp_quiet_iff hpasses.1 (hpasses.2 _ hfirst)).mpr (hnot _ hfirst hpasses.1)
      · have hmem := List.mem_cons_of_mem (d.get "deleted_app_detected_at") hv
        exact (stamp_quiet_iff hpresent (hpasses.2 v hmem)).mpr (hnot v hmem hpresent)
    · rintro ⟨d, rfl, hpasses⟩
      have hnot := (hjudged d rfl).2 hpasses
      obtain ⟨-, -, -, hwithin, hstamps⟩ := hpasses
      refine ⟨d, rfl, ?_, fun v hv hpresent => ?_⟩
      · refine (quiet_iff (by simpa using hwithin)).mpr (hnot _ List.mem_cons_self ?_)
        cases trialExpiresAt d <;> exact fun h => nomatch h
      · exact (stamp_quiet_iff hpresent (hstamps v hv)).mpr
          (hnot v (List.mem_cons_of_mem _ hv) hpresent)

def exampleDeleted : Dict := [("deleted_app_detected_at", .nonFinite .nan)]

/-- Its number may go at once. -/
theorem exampleDeleted_released :
    ¬ (isSafeToReleaseNumber (some exampleDeleted) (.finite (.ofRat 1700000000)) = true →
      Quiet (.finite (.ofRat 1700000000)) numberReleaseQuiet
        (exampleDeleted.get "deleted_app_detected_at")) := by
  intro h
  exact h rfl

end HeyKevin.L6.AccessGate
