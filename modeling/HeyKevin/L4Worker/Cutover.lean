import HeyKevin.L4Worker.BackgroundJobs
/-!
# The cutover never lets both sides own a loop

Runs in which every `BackgroundJobStore` was constructed with an external
generation. The embedded side owns the loops from the moment
`begin_embedded` returns `True`; an external worker owns one while its row is
running.

`Turn` is the protocol without its data: who may move the control record
where, and what the rows must look like first. `step_turn` is the refinement:
every call takes one turn, named by its kind and its result. What holds of
runs follows from the turns alone.

* `EmbeddedIdle`: while the control record is embedded no row is running.
* `handoff_before_admission`: between an embedded turn and the next admission
  lie a preparation and, after it, an activation.
* `cutover_excludes_both` is the contract.
-/
namespace HeyKevin.L4.BackgroundJobs

open HeyKevin.Core L1 L1.Text

/-- No `admit` by a store without an external generation. -/
def Call.isExternal : Call → Bool
  | .admitJob none .. => false
  | _ => true

abbrev ExternalCall := { c : Call // c.isExternal = true }

def externalStep : Machine Ledger ExternalCall Resp := fun s c => step s c.1

/-- What a call achieved. -/
inductive Label
  | prepare
  | activate
  | embed
  | admitJob
  | finish
  | other
deriving DecidableEq, Repr

def label : Call → Resp → Label
  | .prepareExternal .., .done => .prepare
  | .activateExternal .., .bool true => .activate
  | .beginEmbedded, .bool true => .embed
  | .admitJob .., .admission (.admitted ..) => .admitJob
  | .finish .., .bool true => .finish
  | _, _ => .other

abbrev ExternalEvent := Event Ledger ExternalCall Resp

def achieved (e : ExternalEvent) : Label := label e.call.1 e.resp

/-- The protocol: which turns a ledger allows and what they leave. -/
inductive Turn (s : Ledger) : Label → Ledger → Prop
  | prepare (h : s.stateIs "embedded" = true) (d : Dict)
      (hd : fieldIs d "state" "external_requested" = true) : Turn s .prepare (s.setControl d)
  | activate (h : s.stateIs "external_requested" = true) (d : Dict)
      (hd : fieldIs d "state" "external_active" = true) : Turn s .activate (s.setControl d)
  | reactivate (h : s.stateIs "external_active" = true) : Turn s .activate s
  | drain (d : Dict) (hd : fieldIs d "state" "external_draining" = true) :
      Turn s .other (s.setControl d)
  | embed (h : ∀ job, settledJobSnapshot job (s.row job) = true) (s' : Ledger)
      (hrow : s'.row = s.row) (hs : s'.stateIs "embedded" = true) : Turn s .embed s'
  | admitJob (h : s.stateIs "external_active" = true) (job : Job) (d : Dict) :
      Turn s .admitJob (s.setRow job d)
  | finish (job : Job) (d : Dict) (hd : fieldIs d "status" "running" = false) :
      Turn s .finish (s.setRow job d)
  | refuse : Turn s .other s

theorem fieldIs_of_get {d : Dict} {key name : String} (h : d.get key = .text name) :
    fieldIs d key name = true := by
  rw [fieldIs_some, h, Value.isStr_text]
  exact decide_eq_true rfl

/-- **Refinement.** Every call takes the turn its result names. -/
theorem step_turn (s : Ledger) (c : ExternalCall) :
    Turn s (achieved (externalStep.event s c)) (externalStep s c).1 := by
  obtain ⟨c, hc⟩ := c
  simp only [achieved, Machine.event_call, Machine.event_resp, externalStep]
  cases c with
  | prepareExternal g lease drained verified clock =>
    simp only [step]
    rcases prepareExternal_cases g lease drained verified clock s with ⟨_, he⟩ | ⟨hs, d, hd, he⟩
    · rw [he]; exact .refuse
    · rw [he]; exact .prepare hs d (fieldIs_of_get hd)
  | activateExternal g clock =>
    simp only [step]
    rcases activateExternal_cases g clock s with ⟨r, he, hr⟩ | ⟨hs, d, hd, he⟩
    · rw [he]
      by_cases h : r = .bool true
      · rw [h]; exact .reactivate (hr h)
      · rw [show label (.activateExternal g clock) r = .other by
          cases r with
          | bool b => cases b <;> simp_all [label]
          | _ => rfl]
        exact .refuse
    · rw [he]; exact .activate hs d (fieldIs_of_get hd)
  | beginEmbedded =>
    simp only [step]
    rcases beginEmbedded_cases s with ⟨d, hd, he⟩ | he | ⟨hsettled, s', hrow, hs, he⟩
    · rw [he]; exact .drain d (fieldIs_of_get hd)
    · rw [he]; exact .refuse
    · rw [he]; exact .embed hsettled s' hrow hs
  | admitJob generation job nonce clock =>
    simp only [step]
    rcases admit_cases generation job nonce clock s with ⟨r, he, hr⟩ | ⟨now, cont, -, -, hact, he⟩
    · rw [he]
      rw [show label (.admitJob generation job nonce clock) r = .other by
        cases r with
        | admission a => cases a <;> simp_all [label, Resp.isAdmitted]
        | _ => rfl]
      exact .refuse
    · rw [he]
      cases generation with
      | none => cases hc
      | some generation => exact .admitJob (hact rfl) job _
  | finish job nonce completed continuation clock =>
    simp only [step]
    rcases finish_cases job nonce completed continuation clock s with
      ⟨r, he, hr⟩ | ⟨data, -, -, -, he⟩
    · rw [he]
      rw [show label (.finish job nonce completed continuation clock) r = .other by
        cases r with
        | bool b => cases b <;> simp_all [label]
        | _ => rfl]
      exact .refuse
    · rw [he]
      refine .finish job _ ?_
      rw [fieldIs_some, finishUpdates_status, Value.isStr_text]
      cases completed <;> decide

/-! ## The invariant -/

/-- While the control record is embedded, no job row is running. -/
def EmbeddedIdle (s : Ledger) : Prop :=
  s.stateIs "embedded" = true → ∀ job, s.statusIs job "running" = false

theorem statusIs_of_settled {s : Ledger} {job : Job} {name : String}
    (h : settledJobSnapshot job (s.row job) = true) (hne : name ≠ "completed") :
    s.statusIs job name = false := by
  unfold Ledger.statusIs
  cases hrow : s.row job with
  | none => rfl
  | some data =>
    rw [hrow] at h
    unfold settledJobSnapshot at h
    simp only at h
    split at h
    · cases h
    · rename_i hc
      exact fieldIs_unique (a := "completed") (by simpa [fieldIs] using hc) hne.symm

theorem Turn.embeddedIdle {s s' : Ledger} {l : Label} (t : Turn s l s') (h : EmbeddedIdle s) :
    EmbeddedIdle s' := by
  intro hs job
  have moved : ∀ {d : Dict} {name}, fieldIs d "state" name = true → name ≠ "embedded" →
      (s.setControl d).stateIs "embedded" = true → False := by
    intro d name hd hne hs
    have := fieldIs_unique hd hne
    rw [Ledger.stateIs, Ledger.setControl_control, this] at hs
    cases hs
  cases t with
  | prepare _ d hd => exact (moved hd (by decide) hs).elim
  | activate _ d hd => exact (moved hd (by decide) hs).elim
  | reactivate _ => exact h hs job
  | drain d hd => exact (moved hd (by decide) hs).elim
  | embed hsettled _ hrow _ =>
    rw [Ledger.statusIs, hrow]
    exact statusIs_of_settled (hsettled job) (by decide)
  | admitJob hact j d =>
    have := fieldIs_unique hact (show "external_active" ≠ "embedded" by decide)
    rw [Ledger.stateIs, Ledger.setRow_control, this] at hs
    cases hs
  | finish j d hd =>
    by_cases hj : job = j
    · subst hj; rw [Ledger.statusIs, Ledger.setRow_row_self, hd]
    · rw [Ledger.statusIs, Ledger.setRow_row_ne _ _ hj]
      exact h hs job
  | refuse => exact h hs job

theorem embeddedIdle_run {s : Ledger} (h : EmbeddedIdle s) (cs : List ExternalCall) :
    EmbeddedIdle (externalStep.run s cs) :=
  externalStep.reachable_inv (I := EmbeddedIdle) h
    (fun s c hi => (step_turn s c).embeddedIdle hi) ⟨cs, rfl⟩

/-! ## Handing over again -/

theorem Turn.inactive {s s' : Ledger} {l : Label} (t : Turn s l s') (hl : l ≠ .activate)
    (h : s.stateIs "external_active" = false) : s'.stateIs "external_active" = false := by
  cases t with
  | prepare _ d hd => exact fieldIs_unique hd (by decide)
  | activate | reactivate => exact absurd rfl hl
  | drain d hd => exact fieldIs_unique hd (by decide)
  | embed _ _ _ hs => exact fieldIs_unique hs (by decide)
  | admitJob | finish | refuse => exact h

/-- Neither requested nor active: no activation can succeed. -/
def Idle (s : Ledger) : Prop :=
  s.stateIs "external_requested" = false ∧ s.stateIs "external_active" = false

theorem Turn.idle {s s' : Ledger} {l : Label} (t : Turn s l s') (hl : l ≠ .prepare)
    (h : Idle s) : Idle s' := by
  cases t with
  | prepare => exact absurd rfl hl
  | activate hs => rw [h.1] at hs; cases hs
  | drain d hd => exact ⟨fieldIs_unique hd (by decide), fieldIs_unique hd (by decide)⟩
  | embed _ _ _ hs => exact ⟨fieldIs_unique hs (by decide), fieldIs_unique hs (by decide)⟩
  | reactivate | admitJob | finish | refuse => exact h

theorem Turn.admitJob_active {s s' : Ledger} (t : Turn s .admitJob s') :
    s.stateIs "external_active" = true := by
  cases t; assumption

theorem Turn.activate_not_idle {s s' : Ledger} (t : Turn s .activate s') : ¬ Idle s := by
  rintro ⟨h1, h2⟩
  cases t with
  | activate h => rw [h1] at h; cases h
  | reactivate h => rw [h2] at h; cases h

/-- From a record that is neither requested nor active, an admission is
preceded by a preparation and, after that, an activation. -/
theorem handoff_before_admission {s : Ledger} (hs : Idle s) {cs : List ExternalCall}
    {l₁ l₂ : List ExternalEvent} {a : ExternalEvent} (h : externalStep.log s cs = l₁ ++ a :: l₂)
    (ha : achieved a = .admitJob) :
    ∃ m₁ p m₂ q m₃, l₁ = m₁ ++ p :: m₂ ++ q :: m₃ ∧ achieved p = .prepare ∧
      achieved q = .activate := by
  obtain ⟨q, hq, hqa⟩ := externalStep.unless_log
    (P := fun s => s.stateIs "external_active" = false)
    (Q := fun e => achieved e = .activate) (R := fun e => achieved e = .admitJob)
    (fun s c hp hn => (step_turn s c).inactive hn hp)
    (fun s c hp he => by
      have t := step_turn s c
      rw [he] at t
      rw [t.admitJob_active] at hp
      cases hp)
    hs.2 h ha
  obtain ⟨n₁, m₃, rfl⟩ := List.append_of_mem hq
  have hcut : externalStep.log s cs = n₁ ++ q :: (m₃ ++ a :: l₂) := by rw [h]; simp
  obtain ⟨p, hp, hpp⟩ := externalStep.unless_log (P := Idle)
    (Q := fun e => achieved e = .prepare) (R := fun e => achieved e = .activate)
    (fun s c hp hn => (step_turn s c).idle hn hp)
    (fun s c hp he => by
      have t := step_turn s c
      rw [he] at t
      exact t.activate_not_idle hp)
    hs hcut hqa
  obtain ⟨m₁, m₂, rfl⟩ := List.append_of_mem hp
  exact ⟨m₁, p, m₂, q, m₃, rfl, hpp, hqa⟩

/-- **The cutover contract.** In every run of the five calls by an operator,
the API and external workers, from any ledger: when `begin_embedded` returns
`True` every row is absent or settled, so none is running or needs attention;
between that moment and a later admission a preparation and then an
activation succeed; and if the first ledger is idle while embedded, so is
every ledger reached. -/
theorem cutover_excludes_both (s : Ledger) (cs : List ExternalCall) :
    (∀ e ∈ externalStep.log s cs, achieved e = .embed → ∀ job,
      settledJobSnapshot job (e.post.row job) = true ∧
      e.post.statusIs job "running" = false ∧ e.post.statusIs job "needs_attention" = false) ∧
    (∀ l₁ e l₂ a l₃, externalStep.log s cs = l₁ ++ e :: l₂ ++ a :: l₃ → achieved e = .embed →
      achieved a = .admitJob → ∃ m₁ p m₂ q m₃, l₂ = m₁ ++ p :: m₂ ++ q :: m₃ ∧
        achieved p = .prepare ∧ achieved q = .activate) ∧
    (EmbeddedIdle s → EmbeddedIdle (externalStep.run s cs)) := by
  refine ⟨?_, ?_, fun hs => embeddedIdle_run hs cs⟩
  · intro e he hembed job
    obtain ⟨cs₁, c, -, -, rfl⟩ := externalStep.mem_log he
    have t := step_turn (externalStep.run s cs₁) c
    rw [hembed] at t
    have hsettled : settledJobSnapshot job ((externalStep (externalStep.run s cs₁) c).1.row job)
        = true := by
      cases t with
      | embed h _ hrow _ => rw [hrow]; exact h job
    exact ⟨hsettled, statusIs_of_settled hsettled (by decide),
      statusIs_of_settled hsettled (by decide)⟩
  · intro l₁ e l₂ a l₃ h hembed ha
    rw [List.append_assoc, List.cons_append] at h
    obtain ⟨cs₁, c, cs₂, -, -, rfl, hl⟩ := externalStep.log_eq_append_cons h
    have t := step_turn (externalStep.run s cs₁) c
    rw [hembed] at t
    have hidle : Idle (externalStep (externalStep.run s cs₁) c).1 := by
      cases t with
      | embed _ _ _ hs => exact ⟨fieldIs_unique hs (by decide), fieldIs_unique hs (by decide)⟩
    exact handoff_before_admission hidle hl.symm ha

def exampleGeneration : Generation := ⟨py "staging-worker-0001", by decide⟩

def exampleCutover : List ExternalCall :=
  [⟨.beginEmbedded, rfl⟩,
    ⟨.prepareExternal exampleGeneration.text 600 true true (.int 1000), rfl⟩,
    ⟨.activateExternal exampleGeneration.text (.int 1010), rfl⟩,
    ⟨.admitJob (some exampleGeneration) .estimates (py "n1") (.int 1020), rfl⟩,
    ⟨.beginEmbedded, rfl⟩,
    ⟨.finish .estimates (py "n1") true .none (.int 1030), rfl⟩,
    ⟨.beginEmbedded, rfl⟩]

theorem cutover_excludes_both_exampleCutover :
    (externalStep.log emptyLedger exampleCutover).map achieved =
      [.embed, .prepare, .activate, .admitJob, .other, .finish, .embed] ∧
    EmbeddedIdle (externalStep.run emptyLedger exampleCutover) :=
  ⟨by decide +kernel, (cutover_excludes_both emptyLedger exampleCutover).2.2 fun h => by cases h⟩

end HeyKevin.L4.BackgroundJobs
