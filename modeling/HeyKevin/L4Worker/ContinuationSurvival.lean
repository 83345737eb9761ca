import HeyKevin.L4Worker.WorkerProtocol
/-!
# Continuations across the process boundary

* `loads_completion`: what a completion frame reads as.
* `runChild_main`: what the parent takes from a child that ran its job.
* `takes_emitted_iff`: a frame is taken for a completion only when a child
  writes it, unless it is spelled otherwise or repeats a key.
* `continuation_survives_iff`: the two together.
-/
namespace HeyKevin.L4.WorkerProtocol

open HeyKevin.Core L1 L1.Text L1.PyJson L4.BackgroundJobs

variable {J : JsonBytes} {job : Job}

/-! ## The stream -/

theorem bytesOf_length (s : Str) : (bytesOf s).length = s.length := List.length_map _

theorem take_append_drop_length {α : Type} (k : ℕ) (l : List α) :
    l.take k ++ l.drop (l.take k).length = l := by
  rw [List.length_take]
  rcases Nat.le_total k l.length with h | h
  · rw [Nat.min_eq_left h, List.take_append_drop]
  · rw [Nat.min_eq_right h, List.drop_length, List.append_nil, List.take_of_length_le h]

/-- However the stream comes in parts, its first bytes are read, one more than the limit. -/
theorem readStream_eq (sizes : ℕ → ℕ) (n i : ℕ) (raw stream : List Byte)
    (hraw : raw.length ≤ MAX_PROTOCOL_BYTES + 1) (hn : stream.length < n) :
    readStream sizes n i raw stream = (raw ++ stream).take (MAX_PROTOCOL_BYTES + 1) := by
  induction n generalizing i raw stream with
  | zero => cases hn
  | succ n ih =>
    unfold readStream
    split
    · rename_i hover
      rw [List.take_append_of_le_length (by omega), List.take_of_length_le hraw]
    · rename_i hroom
      have hpart : (stream.take (min (MAX_PROTOCOL_BYTES + 1 - raw.length) (sizes i + 1))).length =
          min (min (MAX_PROTOCOL_BYTES + 1 - raw.length) (sizes i + 1)) stream.length :=
        List.length_take
      simp only
      split
      · rename_i hempty
        rw [hempty] at hpart
        have hstream : stream = [] := by
          rw [List.length_nil] at hpart
          rw [← List.length_eq_zero_iff]
          omega
        rw [hstream, List.append_nil, List.take_of_length_le (by omega)]
      · rename_i hsome
        have hpos := List.length_pos_iff.mpr hsome
        rw [ih _ _ _ (by rw [List.length_append]; omega) (by rw [List.length_drop]; omega),
          List.append_assoc]
        rw [take_append_drop_length]

/-! ## What is built of the pairs -/

theorem update_of_nodup {α : Type} (e d : Entries Str α)
    (h : (Entries.keys (d ++ e)).Nodup) : Entries.update d e = d ++ e := by
  induction e generalizing d with
  | nil => rw [Entries.update_nil, List.append_nil]
  | cons kv e ih =>
    obtain ⟨k, v⟩ := kv
    have hsplit : Entries.keys (d ++ (k, v) :: e) = Entries.keys d ++ k :: Entries.keys e := by
      simp [Entries.keys]
    have hfree : Entries.find? d k = none := by
      cases hfound : Entries.find? d k with
      | none => rfl
      | some w =>
        rw [hsplit, List.nodup_append] at h
        refine absurd rfl (h.2.2 k ?_ k List.mem_cons_self)
        rw [Entries.mem_keys, hfound]
        rfl
    rw [Entries.update_cons, Entries.set_of_find?_none hfree]
    have hassoc : d ++ (k, v) :: e = (d ++ [(k, v)]) ++ e := by simp
    rw [hassoc] at h ⊢
    exact ih _ h

theorem keys_builtPairs : ∀ kvs : List (Str × Doc),
    (builtPairs kvs).map Prod.fst = kvs.map Prod.fst
  | [] => rfl
  | (k, v) :: kvs => by rw [builtPairs, List.map_cons, keys_builtPairs kvs, List.map_cons]

mutual

/-- A document that repeats no key is what is built of it. -/
theorem built_of_not_repeats : ∀ doc : Doc, repeats doc = false → built doc = doc
  | .null, _ => rfl
  | .bool _, _ => rfl
  | .number _, _ => rfl
  | .str _, _ => rfl
  | .arr xs, h => by rw [built, builtItems_of_not_repeats xs h]
  | .obj kvs, h => by
    rw [repeats, Bool.or_eq_false_iff, Bool.not_eq_false', decide_eq_true_eq] at h
    rw [built, builtPairs_of_not_repeats kvs h.2, update_of_nodup kvs [] h.1, List.nil_append]

theorem builtItems_of_not_repeats : ∀ xs : List Doc, repeatsItems xs = false →
    builtItems xs = xs
  | [], _ => rfl
  | x :: xs, h => by
    rw [repeatsItems, Bool.or_eq_false_iff] at h
    rw [builtItems, built_of_not_repeats x h.1, builtItems_of_not_repeats xs h.2]

theorem builtPairs_of_not_repeats : ∀ kvs : List (Str × Doc), repeatsPairs kvs = false →
    builtPairs kvs = kvs
  | [], _ => rfl
  | (k, v) :: kvs, h => by
    rw [repeatsPairs, Bool.or_eq_false_iff] at h
    rw [builtPairs, built_of_not_repeats v h.1, builtPairs_of_not_repeats kvs h.2]

end

/-! ## Continuations -/

theorem validateContinuation_eq_ok {doc : Doc} {d : Dictionary} :
    validateContinuation job doc = .ok d ↔ doc = .obj d ∧
      (∀ k ∈ Entries.keys d, k ∈ (allowedCursors job).map py) ∧
      (∀ kv ∈ d, validCursor kv.2 = true) ∧
      (dumps (.obj d)).length ≤ MAX_CONTINUATION_BYTES := by
  cases doc with
  | obj e =>
    simp only [validateContinuation]
    split
    · rename_i hkeys
      simp only [Bool.not_eq_true', List.all_eq_false, decide_eq_true_eq] at hkeys
      obtain ⟨k, hk, hno⟩ := hkeys
      refine iff_of_false (fun h => by cases h) fun h => ?_
      cases h.1
      exact hno (h.2.1 k hk)
    · rename_i hkeys
      simp only [Bool.not_eq_true', Bool.not_eq_false, List.all_eq_true, decide_eq_true_eq] at hkeys
      split
      · rename_i hcursors
        simp only [Bool.not_eq_true', List.all_eq_false] at hcursors
        obtain ⟨kv, hkv, hno⟩ := hcursors
        refine iff_of_false (fun h => by cases h) fun h => ?_
        cases h.1
        exact hno (h.2.2.1 kv hkv)
      · rename_i hcursors
        simp only [Bool.not_eq_true', Bool.not_eq_false, List.all_eq_true] at hcursors
        split
        · rename_i hsize
          refine iff_of_false (fun h => by cases h) fun h => ?_
          cases h.1
          omega
        · rename_i hsize
          constructor
          · intro h
            cases h
            exact ⟨rfl, hkeys, hcursors, Nat.le_of_not_lt hsize⟩
          · rintro ⟨h, -⟩
            cases h
            rfl
  | null | bool | number | str | arr =>
    refine iff_of_false (fun h => by cases h) fun h => ?_
    cases h.1

/-- The name of a cursor is read back. -/
theorem joinPairs_name {k : Str} (h : k ∈ (allowedCursors job).map py) : joinPairs k = k := by
  obtain ⟨name, hname, rfl⟩ := List.mem_map.mp h
  have hall : ((allowedCursors job).all fun name => joinPairs (py name) = py name) = true := by
    cases job <;> decide
  exact of_decide_eq_true (List.all_eq_true.mp hall name hname)

theorem validCursor_cases {v : Doc} (h : validCursor v = true) :
    v = .null ∨ ∃ s, v = .str s ∧ s ≠ [] ∧ s.length ≤ 512 ∧
      ∀ c ∈ s, c.val ≠ 0x2f ∧ 32 ≤ c.val := by
  cases v with
  | null => exact .inl rfl
  | str s =>
    simp only [validCursor, Bool.and_eq_true, decide_eq_true_eq, List.all_eq_true, bne_iff_ne] at h
    exact .inr ⟨s, rfl, List.length_pos_iff.mp h.1.1, h.1.2, h.2⟩
  | bool | number | arr | obj => cases h

theorem validCursor_joined {v : Doc} (h : validCursor v = true) :
    validCursor (joined v) = true := by
  rcases validCursor_cases h with rfl | ⟨s, rfl, hne, hlength, hchars⟩
  · rfl
  · have hpos := List.length_pos_iff.mpr (joinPairs_ne_nil hne)
    have hshort := (joinPairs_length s).1
    simp only [joined, validCursor, Bool.and_eq_true, decide_eq_true_eq, List.all_eq_true,
      bne_iff_ne]
    refine ⟨⟨hpos, hshort.trans hlength⟩, forall_joinPairs (fun c hc => ⟨?_, ?_⟩) hchars⟩ <;> omega

theorem reads_cursor {v : Doc} (h : validCursor v = true) (depth : ℕ) : Reads depth 1 v := by
  rcases validCursor_cases h with rfl | ⟨s, rfl, -⟩
  · exact reads_null depth
  · exact reads_str depth s

theorem ascii_cursor {v : Doc} (h : validCursor v = true) : Ascii (dumps v) := by
  rcases validCursor_cases h with rfl | ⟨s, rfl, -⟩
  · exact ascii_py (by decide)
  · exact ascii_quotedAscii s

theorem joinedPairs_eq_map : ∀ kvs : List (Str × Doc),
    joinedPairs kvs = kvs.map fun kv => (joinPairs kv.1, joined kv.2)
  | [] => rfl
  | (k, v) :: kvs => by rw [joinedPairs, joinedPairs_eq_map kvs, List.map_cons]

namespace Continuation

variable (c : Continuation job)

theorem checks : (∀ k ∈ Entries.keys c.entries, k ∈ (allowedCursors job).map py) ∧
    (∀ kv ∈ c.entries, validCursor kv.2 = true) ∧
    (dumps (.obj c.entries)).length ≤ MAX_CONTINUATION_BYTES :=
  (validateContinuation_eq_ok.mp c.valid).2

theorem keys_joinedPairs : Entries.keys (joinedPairs c.entries) = Entries.keys c.entries := by
  rw [joinedPairs_eq_map, Entries.keys, Entries.keys, List.map_map]
  refine List.map_congr_left fun kv hkv => ?_
  exact joinPairs_name (c.checks.1 kv.1 (List.mem_map_of_mem hkv))

/-- What is read where the continuation was written. -/
def joined : Continuation job where
  entries := joinedPairs c.entries
  nodup := by
    rw [c.keys_joinedPairs]
    exact c.nodup
  valid := by
    have hsize : dumps (.obj (joinedPairs c.entries)) = dumps (.obj c.entries) :=
      dumps_joined (.obj c.entries)
    refine validateContinuation_eq_ok.mpr ⟨rfl, ?_, ?_, ?_⟩
    · rw [c.keys_joinedPairs]
      exact c.checks.1
    · rw [joinedPairs_eq_map, List.forall_mem_map]
      exact fun kv hkv => validCursor_joined (c.checks.2.1 kv hkv)
    · rw [hsize]
      exact c.checks.2.2

theorem ascii : Ascii (dumps (.obj c.entries)) :=
  ascii_obj fun kv hkv => ascii_cursor (c.checks.2.1 kv hkv)

theorem ascii_completion : Ascii (dumps (completion c.entries)) := by
  refine ascii_obj fun kv hkv => ?_
  rcases List.mem_cons.mp hkv with rfl | hkv
  · exact ascii_py (by decide)
  · obtain rfl := List.mem_singleton.mp hkv
    exact c.ascii

theorem reads (depth : ℕ) : Reads (depth + 1) (c.entries.length + 2) (.obj c.entries) :=
  (reads_obj fun kv hkv => reads_cursor (c.checks.2.1 kv hkv) depth).mono (by omega)

theorem reads_completion (depth : ℕ) :
    Reads (depth + 2) (c.entries.length + 5) (completion c.entries) := by
  have hall : ∀ kv ∈ [(py "completed", Doc.bool true), (py "continuation", .obj c.entries)],
      Reads (depth + 1) (c.entries.length + 2) kv.2 := by
    intro kv hkv
    rcases List.mem_cons.mp hkv with rfl | hkv
    · exact (reads_true _).mono (by omega)
    · obtain rfl := List.mem_singleton.mp hkv
      exact c.reads depth
  exact reads_obj hall

/-- The frame is this much longer than the continuation. -/
theorem completion_length :
    (dumps (completion c.entries)).length = (dumps (.obj c.entries)).length + 37 := by
  have hfront : dumps (completion c.entries) =
      py "\x7b\"completed\": true, \"continuation\": " ++ dumps (.obj c.entries) ++ py "\x7d" := by
    rfl
  rw [hfront, List.length_append, List.length_append]
  change 36 + _ + 1 = _
  omega

end Continuation

theorem JsonBytes.loads_ascii {doc : Doc} {fuel : ℕ} (hascii : Ascii (dumps doc))
    (hreads : Reads J.depth fuel doc) (hfuel : fuel ≤ (dumps doc).length + 1) :
    J.loads (bytesOf (dumps doc)) = some (PyJson.joined doc) := by
  rw [JsonBytes.loads, J.decode_ascii _ hascii, Option.bind_some, loads_dumps hreads hfuel]

variable (c : Continuation job)

theorem length_le_dumps : c.entries.length + 2 ≤ (dumps (.obj c.entries)).length := by
  have hpairs := length_le_dumpsPairs c.entries
  have hdumps : (dumps (.obj c.entries)).length = 1 + (dumpsPairs c.entries).length + 1 := by
    rw [dumps, List.length_append, List.length_append]
    rfl
  omega

/-- A continuation is read with its surrogate pairs joined. -/
theorem loads_continuation :
    J.loads (bytesOf (dumps (.obj c.entries))) = some (.obj c.joined.entries) := by
  obtain ⟨depth, hdepth⟩ : ∃ depth, J.depth = depth + 1 := ⟨J.depth - 1, by
    have hle := J.two_le_depth
    omega⟩
  have hreads := c.reads depth
  rw [← hdepth] at hreads
  exact JsonBytes.loads_ascii c.ascii hreads ((length_le_dumps c).trans (Nat.le_succ _))

/-- And so is the frame of a completion. -/
theorem loads_completion :
    J.loads (bytesOf (dumps (completion c.entries))) = some (completion c.joined.entries) := by
  obtain ⟨depth, hdepth⟩ : ∃ depth, J.depth = depth + 2 := ⟨J.depth - 2, by
    have hle := J.two_le_depth
    omega⟩
  have hreads := c.reads_completion depth
  rw [← hdepth] at hreads
  have hlength := length_le_dumps c
  have hframe := c.completion_length
  rw [JsonBytes.loads_ascii c.ascii_completion hreads (by omega)]
  rfl

theorem not_repeats_continuation : repeats (.obj c.entries) = false := by
  have hpairs : ∀ kvs : List (Str × Doc), (∀ kv ∈ kvs, validCursor kv.2 = true) →
      repeatsPairs kvs = false := by
    intro kvs hkvs
    induction kvs with
    | nil => rfl
    | cons kv kvs ih =>
      rw [List.forall_mem_cons] at hkvs
      rw [repeatsPairs, ih hkvs.2, Bool.or_false]
      rcases validCursor_cases hkvs.1 with hv | ⟨s, hv, -⟩ <;> rw [hv] <;> rfl
  have hnodup : (c.entries.map Prod.fst).Nodup := c.nodup
  rw [repeats, hpairs c.entries c.checks.2.1]
  simp [hnodup]

theorem not_repeats_completion : repeats (completion c.entries) = false := by
  have hnames : ([(py "completed", Doc.bool true),
      (py "continuation", .obj c.entries)].map Prod.fst).Nodup := by
    change [py "completed", py "continuation"].Nodup
    decide
  rw [completion, repeats, repeatsPairs, repeatsPairs, repeatsPairs, not_repeats_continuation]
  simp only [hnames, decide_true]
  rfl

/-! ## What is taken for a completion -/

/-- The document says that the job completed and goes on with `r`. -/
def SaysCompleted (job : Job) (doc : Doc) (r : Dictionary) : Prop :=
  ∃ d v, built doc = .obj d ∧ keysAre d ["completed", "continuation"] = true ∧
    field d "completed" = some (.bool true) ∧ field d "continuation" = some v ∧
    validateContinuation job v = .ok r

theorem completed_eq_ok {output : Doc} {rc : ℤ} {r : Dictionary} :
    completed job output rc = .ok r ↔ rc = 0 ∧ ∃ d v, output = .obj d ∧
      keysAre d ["completed", "continuation"] = true ∧ field d "completed" = some (.bool true) ∧
      field d "continuation" = some v ∧ validateContinuation job v = .ok r := by
  unfold completed
  split
  · rename_i hrc
    exact iff_of_false (fun h => by cases h) fun h => hrc h.1
  · rename_i hrc
    rw [not_not] at hrc
    split
    · rename_i d
      split
      · rename_i v hkeys hcompleted hcontinuation
        rw [mapError_eq_ok]
        constructor
        · exact fun h => ⟨hrc, d, v, rfl, hkeys, hcompleted, hcontinuation, h⟩
        · rintro ⟨-, d', v', hd, -, -, hv, h⟩
          cases hd
          rw [hcontinuation] at hv
          cases hv
          exact h
      · rename_i hno
        refine iff_of_false (fun h => by cases h) ?_
        rintro ⟨-, d', v', hd, hkeys, hcompleted, hv, -⟩
        cases hd
        exact hno v' hkeys hcompleted hv
    · rename_i hno
      refine iff_of_false (fun h => by cases h) ?_
      rintro ⟨-, d', v', hd, -⟩
      exact hno d' hd

theorem decodeCompletion_eq_ok {raw : List Byte} {rc : ℤ} {r : Dictionary} :
    decodeCompletion J job raw rc = .ok r ↔ raw.length ≤ MAX_PROTOCOL_BYTES ∧ rc = 0 ∧
      ∃ doc, J.loads raw = some doc ∧ SaysCompleted job doc r := by
  unfold decodeCompletion SaysCompleted
  split
  · rename_i hover
    exact iff_of_false (fun h => by cases h) fun h => absurd h.1 (by omega)
  rename_i hsize
  split
  · rename_i hexit
    exact iff_of_false (fun h => by cases h) fun h => hexit.2 h.2.1
  cases hloads : J.loads raw with
  | none =>
    refine iff_of_false (fun h => by cases h) ?_
    rintro ⟨-, -, doc, hdoc, -⟩
    cases hdoc
  | some doc =>
    have hsome : ∀ P : Doc → Prop, (∃ doc', some doc = some doc' ∧ P doc') ↔ P doc := by
      intro P
      simp
    have hdone : completed job (built doc) rc = .ok r ↔ raw.length ≤ MAX_PROTOCOL_BYTES ∧
        rc = 0 ∧ ∃ doc', some doc = some doc' ∧ SaysCompleted job doc' r := by
      rw [hsome, completed_eq_ok]
      exact ⟨fun h => ⟨by omega, h⟩, fun h => h.2⟩
    simp only
    split
    · rename_i d hd
      split
      · rename_i hfailed
        refine iff_of_false (fun h => by cases h) ?_
        rintro ⟨-, -, doc', hdoc, d', v, hd', -, hcompleted, -⟩
        cases hdoc
        rw [hd] at hd'
        cases hd'
        rw [hfailed] at hcompleted
        cases hcompleted
      · rw [← hd]
        exact hdone
    · exact hdone

theorem says_completion : SaysCompleted job (completion c.entries) c.entries := by
  refine ⟨_, .obj c.entries, built_of_not_repeats _ (not_repeats_completion c), rfl, rfl, rfl,
    c.valid⟩

/-! ## What the parent takes from its child -/

variable (d : Continuation job)

/-- The frame of a continuation, and the exit code that goes with it. -/
def emitted : List Byte × ℤ := (bytesOf (dumps (completion c.entries)), 0)

/-- The child that ran its job writes the frame of its continuation, if that has room. -/
theorem main_eq (henabled : jobEnabled job = true) {child : Child} (himports : child.imports = true)
    (hconfigured : child.configured = true)
    (hexecute : child.execute c.joined.entries = .ok (.obj d.entries)) :
    main J child job (bytesOf (dumps (.obj c.entries))) =
      if (dumps (.obj d.entries)).length + 37 ≤ MAX_PROTOCOL_BYTES then emitted d
      else (bytesOf (dumps (failureFrame "protocol" "output_invalid")), 1) := by
  have hread : (bytesOf (dumps (.obj c.entries))).take (MAX_PROTOCOL_BYTES + 1) =
      bytesOf (dumps (.obj c.entries)) := by
    refine List.take_of_length_le ?_
    rw [bytesOf_length]
    exact c.checks.2.2.trans (Nat.le_succ _)
  have hroom : (bytesOf (dumps (.obj c.entries))).length ≤ MAX_PROTOCOL_BYTES := by
    rw [bytesOf_length]
    exact c.checks.2.2
  have hrun : runJob J child job (bytesOf (dumps (.obj c.entries))) =
      if (dumps (.obj d.entries)).length + 37 ≤ MAX_PROTOCOL_BYTES then
        .ok (dumps (completion d.entries))
      else .error ("protocol", "output_invalid") := by
    unfold runJob
    rw [ensure_of _ himports, ensure_of _ hconfigured, ensure_of _ henabled]
    simp only [ok_bind, hread]
    rw [ensure_of _ hroom, loads_continuation]
    simp only [ok_bind, require, built_of_not_repeats _ (not_repeats_continuation c.joined),
      c.joined.valid, hexecute, d.valid, Except.mapError]
    rw [d.completion_length]
    unfold ensure
    split <;> rfl
  unfold main
  rw [hrun]
  by_cases hfits : (dumps (.obj d.entries)).length + 37 ≤ MAX_PROTOCOL_BYTES
  · rw [if_pos hfits, if_pos hfits]
    rfl
  · rw [if_neg hfits, if_neg hfits]

/-- A frame with an exit code of its own is no completion. -/
theorem decodeCompletion_nonzero {raw : List Byte} {rc : ℤ} (h : rc ≠ 0) (r : Dictionary) :
    decodeCompletion J job raw rc ≠ .ok r := fun hok => h (decodeCompletion_eq_ok.mp hok).2.1

/-- The parent decodes what it reads of the stream. -/
theorem runChild_eq_ok (henabled : jobEnabled job = true) {sizes : ℕ → ℕ}
    {process : List Byte → List Byte × ℤ} {r : Dictionary} {stdout : List Byte} {rc : ℤ}
    (hprocess : process (bytesOf (dumps (.obj c.entries))) = (stdout, rc)) :
    runChild J job (.obj c.entries) sizes process = .ok r ↔
      decodeCompletion J job stdout rc = .ok r := by
  unfold runChild
  rw [ensure_of _ henabled]
  simp only [ok_bind, c.valid, Except.mapError, hprocess]
  rw [readStream_eq sizes _ 0 [] stdout (Nat.zero_le _) (Nat.lt_succ_self _), List.nil_append]
  by_cases hsize : stdout.length ≤ MAX_PROTOCOL_BYTES
  · rw [List.take_of_length_le (hsize.trans (Nat.le_succ _)), ensure_of _ hsize]
    simp only [ok_bind]
    cases decodeCompletion J job stdout rc with
    | error e => exact iff_of_false (fun h => by cases h) fun h => by cases h
    | ok r' => exact ⟨fun h => by cases h; rfl, fun h => by cases h; rfl⟩
  · have hlong : ¬ (stdout.take (MAX_PROTOCOL_BYTES + 1)).length ≤ MAX_PROTOCOL_BYTES := by
      rw [List.length_take]
      omega
    refine iff_of_false (fun h => ?_) fun h => hsize (decodeCompletion_eq_ok.mp h).1
    rw [bind_eq_ok] at h
    obtain ⟨u, hu, -⟩ := h
    exact hlong (ensure_eq_ok.mp hu)

/-- **What the parent takes** from a child that ran its job: its continuation with the surrogate
pairs joined, if the frame has room. -/
theorem runChild_main (henabled : jobEnabled job = true) {child : Child}
    (himports : child.imports = true) (hconfigured : child.configured = true)
    (hexecute : child.execute c.joined.entries = .ok (.obj d.entries)) (sizes : ℕ → ℕ)
    (r : Dictionary) : runChild J job (.obj c.entries) sizes (main J child job) = .ok r ↔
      (dumps (.obj d.entries)).length + 37 ≤ MAX_PROTOCOL_BYTES ∧ r = d.joined.entries := by
  have hmain := main_eq (J := J) c d henabled himports hconfigured hexecute
  split at hmain
  · rename_i hroom
    rw [runChild_eq_ok c henabled hmain, decodeCompletion_eq_ok, loads_completion,
      bytesOf_length, d.completion_length]
    constructor
    · rintro ⟨-, -, doc, hdoc, hread⟩
      cases hdoc
      obtain ⟨e, v, he, hkeys, hcompleted, hv, hr⟩ := hread
      rw [built_of_not_repeats _ (not_repeats_completion d.joined)] at he
      cases he
      cases hv
      have hsame := (validateContinuation_eq_ok.mp hr).1
      cases hsame
      exact ⟨hroom, rfl⟩
    · rintro ⟨-, rfl⟩
      exact ⟨hroom, rfl, _, rfl, says_completion d.joined⟩
  · rename_i hroom
    rw [runChild_eq_ok c henabled hmain]
    exact iff_of_false (decodeCompletion_nonzero (by decide) r) fun h => hroom h.1

/-! ## Which frames are taken -/

/-- The bytes are spelled as `json.dumps` spells the document, repeat no key, and name `completed`
before `continuation`. -/
structure Written (raw : List Byte) (doc : Doc) : Prop where
  spelled : raw = bytesOf (dumps doc)
  distinct : repeats doc = false
  ordered : ∃ v kvs, doc = .obj ((py "completed", v) :: kvs)

theorem written_completion :
    Written (bytesOf (dumps (completion c.entries))) (completion c.joined.entries) where
  spelled := congrArg bytesOf (dumps_joined (completion c.entries)).symm
  distinct := not_repeats_completion c.joined
  ordered := ⟨_, _, rfl⟩

theorem eq_completion {raw : List Byte} {doc : Doc} {r : Dictionary} (hwritten : Written raw doc)
    (hread : SaysCompleted job doc r) : doc = completion r ∧ (Entries.keys r).Nodup := by
  obtain ⟨e, v, he, hkeys, hcompleted, hcontinuation, hvalid⟩ := hread
  obtain ⟨w, kvs, rfl⟩ := hwritten.ordered
  have hdistinct := hwritten.distinct
  rw [built_of_not_repeats _ hdistinct] at he
  cases he
  simp only [repeats, Bool.or_eq_false_iff, Bool.not_eq_false', decide_eq_true_eq, List.map_cons,
    List.nodup_cons] at hdistinct
  obtain ⟨⟨hfirst, hnodup⟩, hvalues⟩ := hdistinct
  obtain rfl := (validateContinuation_eq_ok.mp hvalid).1
  simp only [keysAre, Bool.and_eq_true, List.all_eq_true, decide_eq_true_eq] at hkeys
  have hrest : ∀ k ∈ kvs.map Prod.fst, k = py "continuation" := by
    intro k hk
    have hname := hkeys.1 k (List.mem_cons_of_mem _ hk)
    simp only [List.map_cons, List.map_nil, List.mem_cons, List.not_mem_nil, or_false] at hname
    exact hname.resolve_left fun heq => hfirst (heq ▸ hk)
  cases kvs with
  | nil => cases hcontinuation
  | cons kv rest =>
    obtain ⟨k, u⟩ := kv
    obtain rfl : k = py "continuation" := hrest k List.mem_cons_self
    cases rest with
    | cons kv' rest =>
      refine absurd hnodup ?_
      rw [List.map_cons, List.map_cons, List.nodup_cons, List.mem_cons,
        hrest kv'.1 (by simp)]
      exact fun h => h.1 (.inl rfl)
    | nil =>
      cases hcompleted
      cases hcontinuation
      simp only [repeatsPairs, repeats, Bool.or_eq_false_iff, Bool.not_eq_false',
        decide_eq_true_eq] at hvalues
      exact ⟨rfl, hvalues.2.1.1⟩

/-- **A frame is taken for a completion only when a child writes it**, unless it says so in another
spelling or repeats a key. -/
theorem takes_emitted_iff (raw : List Byte) (rc : ℤ) :
    (∀ r, decodeCompletion J job raw rc = .ok r →
        ∃ c : Continuation job, (raw, rc) = emitted c) ↔
      ∀ doc r, raw.length ≤ MAX_PROTOCOL_BYTES → rc = 0 → J.loads raw = some doc →
        SaysCompleted job doc r → Written raw doc := by
  constructor
  · intro h doc r hsize hrc hloads hread
    obtain ⟨c, hc⟩ := h r (decodeCompletion_eq_ok.mpr ⟨hsize, hrc, doc, hloads, hread⟩)
    obtain rfl : raw = bytesOf (dumps (completion c.entries)) := congrArg Prod.fst hc
    rw [loads_completion] at hloads
    cases hloads
    exact written_completion c
  · intro h r hdecode
    obtain ⟨hsize, hrc, doc, hloads, hread⟩ := decodeCompletion_eq_ok.mp hdecode
    have hwritten := h doc r hsize hrc hloads hread
    obtain ⟨rfl, hnodup⟩ := eq_completion hwritten hread
    obtain ⟨-, v, -, -, -, -, hvalid⟩ := hread
    have hr := (validateContinuation_eq_ok.mp hvalid).1
    rw [hr] at hvalid
    exact ⟨⟨r, hnodup, hvalid⟩, Prod.ext hwritten.spelled hrc⟩

/-! ## The round trip -/

/-- No cursor of the continuation has a pair of surrogates. -/
def Unpaired (c : Continuation job) : Prop :=
  ∀ kv ∈ c.entries, ∀ s, kv.2 = .str s → hasPair s = false

theorem joined_eq_iff : c.joined.entries = c.entries ↔ Unpaired c := by
  have hself := List.map_inj_left (l := c.entries)
    (f := fun kv : Str × Doc => (joinPairs kv.1, PyJson.joined kv.2)) (g := id)
  rw [List.map_id] at hself
  change joinedPairs c.entries = c.entries ↔ _
  rw [joinedPairs_eq_map, hself]
  refine forall₂_congr fun kv hkv => ?_
  rw [id, Prod.ext_iff]
  have hkey := joinPairs_name (c.checks.1 kv.1 (List.mem_map_of_mem hkv))
  rcases validCursor_cases (c.checks.2.1 kv hkv) with hv | ⟨s, hv, -⟩
  · rw [hv]
    exact iff_of_true ⟨hkey, rfl⟩ fun s hs => by cases hs
  · rw [hv]
    constructor
    · intro h t ht
      cases ht
      have hsame := h.2
      simp only [PyJson.joined, Doc.str.injEq] at hsame
      exact (joinPairs_eq_self_iff s).mp hsame
    · intro h
      refine ⟨hkey, ?_⟩
      simp only [PyJson.joined, Doc.str.injEq]
      exact (joinPairs_eq_self_iff s).mpr (h s rfl)

/-- The child's continuation reaches the parent as it is if its frame has room and it has no pair
of surrogates; and a frame is taken for a completion only when a child writes it, unless it says
so in another spelling or repeats a key. -/
theorem continuation_survives_iff (J : JsonBytes) (job : Job) :
    (∀ (child : Child) (sizes : ℕ → ℕ) (c d : Continuation job), jobEnabled job = true →
      child.imports = true → child.configured = true →
      child.execute c.joined.entries = .ok (.obj d.entries) →
      (runChild J job (.obj c.entries) sizes (main J child job) = .ok d.entries ↔
        (dumps (.obj d.entries)).length + 37 ≤ MAX_PROTOCOL_BYTES ∧ Unpaired d)) ∧
    ∀ (raw : List Byte) (rc : ℤ),
      ((∀ r, decodeCompletion J job raw rc = .ok r →
          ∃ c : Continuation job, (raw, rc) = emitted c) ↔
        ∀ doc r, raw.length ≤ MAX_PROTOCOL_BYTES → rc = 0 → J.loads raw = some doc →
          SaysCompleted job doc r → Written raw doc) := by
  refine ⟨fun child sizes c d henabled himports hconfigured hexecute => ?_, takes_emitted_iff⟩
  rw [runChild_main c d henabled himports hconfigured hexecute, eq_comm, joined_eq_iff]

/-- An interpreter that decodes ASCII only. -/
def asciiJson : JsonBytes where
  decode bs :=
    if bs.all fun b => 0 < b.val && b.val < 128 then some (bs.map fun b => chr b.val) else none
  decode_ascii := by
    intro s hs
    have hbyte : ∀ c ∈ s, (Fin.ofNat 256 c.val).val = c.val := fun c hc =>
      Nat.mod_eq_of_lt ((hs c hc).2.trans (by decide))
    rw [if_pos, bytesOf, List.map_map]
    · refine congrArg some ((List.map_congr_left fun c hc => ?_).trans (List.map_id s))
      rw [Function.comp, hbyte c hc, chr_val, id]
    · rw [bytesOf, List.all_map, List.all_eq_true]
      intro c hc
      rw [Function.comp, hbyte c hc]
      simpa only [Bool.and_eq_true, decide_eq_true_eq] using hs c hc
  depth := 1000
  two_le_depth := by decide

def exampleCursor : Str := List.replicate 340 (chr 0x1f600)

theorem exampleCursor_length :
    (dumps (.obj [(py "cursor", .str exampleCursor)])).length = 4094 := by
  have hchar : (Json.escapeAscii (chr 0x1f600)).length = 12 := by decide
  have hcursor : (Json.quotedAscii exampleCursor).length = 4082 := by
    rw [Json.quotedAscii, List.length_append, List.length_append, List.length_flatMap,
      exampleCursor, List.map_replicate, List.sum_replicate, hchar]
    rfl
  simp only [dumps, dumpsPairs, List.length_append, hcursor]
  rfl

def exampleContinuation : Continuation .lapsed_trials where
  entries := [(py "cursor", .str exampleCursor)]
  nodup := List.nodup_singleton _
  valid := by
    refine validateContinuation_eq_ok.mpr ⟨rfl, ?_, ?_, by rw [exampleCursor_length]; decide⟩
    · intro k hk
      exact hk
    · intro kv hkv
      obtain rfl := List.mem_singleton.mp hkv
      simp only [validCursor, exampleCursor, List.length_replicate, List.all_replicate]
      decide

def exampleChild : Child := ⟨true, true, fun _ => .ok (.obj exampleContinuation.entries)⟩

def exampleFrame : Doc :=
  .obj [(py "completed", .bool true), (py "completed", .bool true), (py "continuation", .obj [])]

theorem exampleFrame_taken :
    decodeCompletion asciiJson .lapsed_trials (bytesOf (dumps exampleFrame)) 0 = .ok [] := by
  have hnone : ∀ kv ∈ ([] : List (Str × Doc)), Reads 998 0 kv.2 := fun kv hkv => by cases hkv
  have hempty : Reads 999 1 (.obj []) := reads_obj hnone
  have hvalues : ∀ kv ∈ [(py "completed", Doc.bool true), (py "completed", .bool true),
      (py "continuation", .obj [])], Reads 999 2 kv.2 ∧ Ascii (dumps kv.2) := by
    intro kv hkv
    simp only [List.mem_cons, List.not_mem_nil, or_false] at hkv
    rcases hkv with rfl | rfl | rfl
    · exact ⟨(reads_true _).mono (by decide), ascii_py (by decide)⟩
    · exact ⟨(reads_true _).mono (by decide), ascii_py (by decide)⟩
    · exact ⟨hempty.mono (by decide), ascii_obj fun kv hkv => by cases hkv⟩
  have hloads : asciiJson.loads (bytesOf (dumps exampleFrame)) = some exampleFrame :=
    JsonBytes.loads_ascii (ascii_obj fun kv hkv => (hvalues kv hkv).2)
      (reads_obj fun kv hkv => (hvalues kv hkv).1) (by decide)
  refine decodeCompletion_eq_ok.mpr ⟨by decide, rfl, exampleFrame, hloads, ?_⟩
  exact ⟨[(py "completed", .bool true), (py "continuation", .obj [])], .obj [], rfl, rfl, rfl, rfl,
    rfl⟩

/-- A continuation in the last bytes does not reach the parent, and a frame that repeats a key is
taken for a completion. -/
theorem last_bytes_lost :
    (¬ ∀ (J : JsonBytes) (job : Job) (child : Child) (sizes : ℕ → ℕ) (c d : Continuation job),
      jobEnabled job = true → child.imports = true → child.configured = true →
      child.execute c.joined.entries = .ok (.obj d.entries) →
      runChild J job (.obj c.entries) sizes (main J child job) = .ok d.entries) ∧
    ¬ ∀ (J : JsonBytes) (job : Job) (raw : List Byte) (rc : ℤ) (r : Dictionary),
      decodeCompletion J job raw rc = .ok r → ∃ c : Continuation job, (raw, rc) = emitted c := by
  constructor
  · intro h
    have hrun := h asciiJson .lapsed_trials exampleChild (fun _ => 0) exampleContinuation
      exampleContinuation rfl rfl rfl rfl
    have hroom := ((runChild_main exampleContinuation exampleContinuation rfl rfl rfl rfl _ _).mp
      hrun).1
    have hlength : (dumps (.obj exampleContinuation.entries)).length = 4094 := exampleCursor_length
    rw [hlength] at hroom
    exact absurd hroom (by decide)
  · intro h
    obtain ⟨c, hc⟩ := h asciiJson .lapsed_trials _ _ _ exampleFrame_taken
    have hfront : (bytesOf (dumps exampleFrame)).take 24 =
        (bytesOf (dumps (completion c.entries))).take 24 :=
      congrArg (List.take 24) (congrArg Prod.fst hc)
    change _ = bytesOf (py "\x7b\"completed\": true, \"con") at hfront
    exact absurd hfront (by decide)

end HeyKevin.L4.WorkerProtocol
