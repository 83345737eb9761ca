import HeyKevin.L11Memory.Repositories
/-!
# What the operations do

* `rememberCustomer_spec`: a memory that the shared rule makes is bound to its
  customer and carries the command.
* `InMemory.remember_saved`, `InMemory.remember_new` and their like for forget:
  a command id with and without a receipt, in the first repository.
* `Counterpart`, `Firestore.remember_known`, `Firestore.remember_fresh`: the
  same in the second, whose receipt answers for that of the first.
-/
namespace HeyKevin.L11.Memory

open HeyKevin.Core L1 L1.Text

variable {P : Python} {C : Customer}

/-! ## The shared rule -/

theorem CustomerMemory.make_eq_ok {m : Fields} {r : CustomerMemory}
    (h : CustomerMemory.make m = .ok r) : r.val = m := by
  unfold CustomerMemory.make at h
  split at h
  · cases h
    rfl
  · cases h

theorem CustomerMemory.make_ok {m : Fields} (h : m.check = .ok ()) :
    CustomerMemory.make m = .ok ⟨m, h⟩ := by
  unfold CustomerMemory.make
  split
  · rfl
  · rename_i e he
    rw [h] at he
    cases he

theorem CustomerMemory.revision_pos (m : CustomerMemory) : 1 ≤ m.val.revision := by
  have h := m.property
  simp only [Fields.check, bind_eq_ok, exists_unit, ensure_eq_ok] at h
  exact h.2.2.1.1

theorem collapsed_collapsed (s : Str) : collapsed (collapsed s) = collapsed s := by
  rw [collapsed, collapsed, split_joinSpace _ fun w hw => isWord_of_mem_split hw]

theorem cleanName_eq_ok {s name : Str} :
    cleanName s = .ok name ↔ (collapsed s ≠ [] ∧ (collapsed s).length ≤ 80 ∧
      (collapsed s).any (fun c => c.val < 32) = false) ∧ name = collapsed s := by
  simp only [cleanName, bind_eq_ok, exists_unit, ensure_eq_ok, pure, Except.pure, Except.ok.injEq]
  exact and_congr_right fun _ => eq_comm

/-- Cleaning a name twice is cleaning it once. -/
theorem rememberCustomer_clean {existing : Option CustomerMemory} {c : Remember} {name : Str}
    (h : cleanName c.displayName = .ok name) :
    rememberCustomer P C existing { c with displayName := name } =
      rememberCustomer P C existing c := by
  obtain ⟨hname, rfl⟩ := cleanName_eq_ok.mp h
  have hagain : cleanName (collapsed c.displayName) = .ok (collapsed c.displayName) :=
    cleanName_eq_ok.mpr ⟨by rwa [collapsed_collapsed], (collapsed_collapsed _).symm⟩
  unfold rememberCustomer
  rw [h, hagain]
  rfl

theorem rememberCustomer_spec {existing : Option CustomerMemory} {c : Remember}
    {m : CustomerMemory} (h : rememberCustomer P C existing c = .ok m)
    (hnew : ∀ x ∈ existing, x.val.lastCommandId ≠ c.commandId) :
    m.val.lastCommandId = c.commandId ∧ Bound C m ∧ 0 ≤ c.expectedRevision := by
  simp only [rememberCustomer, bind_eq_ok, exists_unit, ensure_eq_ok] at h
  obtain ⟨-, name, -, hbound, h⟩ := h
  split at h
  · rename_i x hx
    have hmem := (Option.filter_eq_some_iff.mp hx).1
    rw [nextMemory, if_neg (hnew x hmem)] at h
    simp only [bind_eq_ok, exists_unit, ensure_eq_ok, require_eq_ok] at h
    obtain ⟨hrev, -, expiresAt, -, h⟩ := h
    have hval := CustomerMemory.make_eq_ok h
    have hpos := x.revision_pos
    refine ⟨by rw [hval], ?_, by omega⟩
    rw [Bound, hval]
    exact hbound x hmem
  · simp only [firstMemory, bind_eq_ok, exists_unit, ensure_eq_ok, require_eq_ok] at h
    obtain ⟨hrev, expiresAt, -, h⟩ := h
    have hval := CustomerMemory.make_eq_ok h
    refine ⟨by rw [hval], ?_, by omega⟩
    rw [Bound, hval]
    exact ⟨rfl, rfl⟩

/-! ## The first repository alone -/

namespace InMemory

variable {r : InMemory} {c : Remember} {f : Forget} {saved : Print} {result : Result}

/-- A saved fingerprint, as `remember` and `forget` leave it. -/
def Sound : Print → Prop
  | .remember expectedRevision name _ _ _ _ =>
    0 ≤ expectedRevision ∧ name ≠ [] ∧ name.length ≤ 80 ∧ name.any (fun c => c.val < 32) = false
  | .forget expectedRevision => 0 ≤ expectedRevision

theorem remember_saved (h : Entries.find? r.receipts c.commandId = some (saved, result)) :
    (r.remember P C c).1 = r ∧
      ∀ m, (r.remember P C c).2 = .ok m → saved = c.print ∧ result = .memory m := by
  unfold remember
  split
  · exact ⟨rfl, fun m hm => by cases hm⟩
  · split
    · exact ⟨rfl, fun m hm => by cases hm⟩
    · split
      · exact ⟨rfl, fun m hm => by cases hm⟩
      · rename_i name hname
        obtain ⟨-, rfl⟩ := cleanName_eq_ok.mp hname
        rw [h]
        simp only
        split
        · exact ⟨rfl, fun m hm => by cases hm⟩
        · rename_i hsame
          split
          · exact ⟨rfl, fun m hm => by cases hm; exact ⟨not_not.mp hsame, rfl⟩⟩
          · exact ⟨rfl, fun m hm => by cases hm⟩

/-- A retry gets the memory that was saved. -/
theorem remember_retry {m : CustomerMemory} (hid : c.commandId ≠ []) (hsound : Sound c.print)
    (h : Entries.find? r.receipts c.commandId = some (c.print, .memory m)) :
    r.remember P C c = (r, .ok m) := by
  obtain ⟨hrev, hname⟩ := hsound
  have hclean : cleanName c.displayName = .ok (collapsed c.displayName) :=
    cleanName_eq_ok.mpr ⟨hname, rfl⟩
  unfold remember
  rw [if_neg hid, if_neg (by omega), hclean]
  simp only [h]
  exact if_neg (not_not.mpr rfl)

/-- A new observation follows the shared rule. -/
theorem remember_new (h : Entries.find? r.receipts c.commandId = none) :
    (∃ m, c.commandId ≠ [] ∧ Sound c.print ∧ rememberCustomer P C r.record c = .ok m ∧
      r.remember P C c = (⟨some m, Entries.set r.receipts c.commandId (c.print, .memory m)⟩,
        .ok m)) ∨
    ((∃ e, r.remember P C c = (r, .error e)) ∧
      (c.commandId = [] ∨ c.expectedRevision < 0 ∨
        ∃ e, rememberCustomer P C r.record c = .error e)) := by
  unfold remember
  split
  · rename_i hid
    exact .inr ⟨⟨_, rfl⟩, .inl hid⟩
  · rename_i hid
    split
    · rename_i hrev
      exact .inr ⟨⟨_, rfl⟩, .inr (.inl hrev)⟩
    · rename_i hrev
      split
      · rename_i e hname
        refine .inr ⟨⟨_, rfl⟩, .inr (.inr ⟨e, ?_⟩)⟩
        simp [rememberCustomer, ensure, hid, hname]
      · rename_i name hname
        obtain ⟨hvalid, rfl⟩ := cleanName_eq_ok.mp hname
        simp only [h, rememberCustomer_clean hname]
        split
        · rename_i e hm
          exact .inr ⟨⟨_, rfl⟩, .inr (.inr ⟨e, hm⟩)⟩
        · rename_i m hm
          exact .inl ⟨m, hid, ⟨by omega, hvalid⟩, hm, rfl⟩

theorem forget_saved (h : Entries.find? r.receipts f.commandId = some (saved, result)) :
    (r.forget f).1 = r ∧
      ∀ b, (r.forget f).2 = .ok b → saved = f.print ∧ result = .forgotten b := by
  unfold forget
  split
  · exact ⟨rfl, fun m hm => by cases hm⟩
  · split
    · exact ⟨rfl, fun m hm => by cases hm⟩
    · rw [h]
      simp only
      split
      · exact ⟨rfl, fun m hm => by cases hm⟩
      · rename_i hsame
        split
        · exact ⟨rfl, fun m hm => by cases hm; exact ⟨not_not.mp hsame, rfl⟩⟩
        · exact ⟨rfl, fun m hm => by cases hm⟩

theorem forget_retry {b : Bool} (hid : f.commandId ≠ []) (hsound : Sound f.print)
    (h : Entries.find? r.receipts f.commandId = some (f.print, .forgotten b)) :
    r.forget f = (r, .ok b) := by
  have hrev : ¬ f.expectedRevision < 0 := by
    have : 0 ≤ f.expectedRevision := hsound
    omega
  unfold forget
  rw [if_neg hid, if_neg hrev, h]
  exact if_neg (not_not.mpr rfl)

/-- What a new forget leaves. -/
def forgotten (r : InMemory) (f : Forget) : InMemory :=
  ⟨none, Entries.set (r.receipts.map fun e => (e.1, (e.2.1, e.2.2.erase))) f.commandId
    (f.print, .forgotten r.record.isSome)⟩

theorem forget_new (h : Entries.find? r.receipts f.commandId = none) :
    (f.commandId ≠ [] ∧ Sound f.print ∧
      f.expectedRevision = r.record.elim 0 (fun m => m.val.revision) ∧
      r.forget f = (r.forgotten f, .ok r.record.isSome)) ∨
    ((∃ e, r.forget f = (r, .error e)) ∧
      (f.commandId = [] ∨ f.expectedRevision ≠ r.record.elim 0 fun m => m.val.revision)) := by
  have hpos : 0 ≤ r.record.elim 0 fun m => m.val.revision := by
    cases r.record with
    | none => exact le_rfl
    | some m =>
      have := m.revision_pos
      simp only [Option.elim_some]
      omega
  unfold forget
  split
  · rename_i hid
    exact .inr ⟨⟨_, rfl⟩, .inl hid⟩
  · rename_i hid
    split
    · rename_i hrev
      exact .inr ⟨⟨_, rfl⟩, .inr (by omega)⟩
    · rename_i hrev
      simp only [h]
      split
      · rename_i hne
        exact .inr ⟨⟨_, rfl⟩, .inr hne⟩
      · rename_i heq
        exact .inl ⟨hid, not_lt.mp hrev, not_not.mp heq, rfl⟩

theorem find?_erased (receipts : Entries Str (Print × Result)) (id : Str) :
    Entries.find? (receipts.map fun e => (e.1, (e.2.1, e.2.2.erase))) id =
      (Entries.find? receipts id).map fun e => (e.1, e.2.erase) :=
  Entries.find?_map (fun e : Print × Result => (e.1, e.2.erase)) receipts id

theorem remember_receipt (h : (r.remember P C c).2.toBool = true) :
    Entries.find? (r.remember P C c).1.receipts c.commandId ≠ none := by
  cases hfound : Entries.find? r.receipts c.commandId with
  | some e =>
    rw [(remember_saved hfound).1, hfound]
    exact Option.some_ne_none _
  | none =>
    rcases remember_new (P := P) (C := C) hfound with ⟨m, -, -, -, hanswer⟩ | ⟨⟨e, hanswer⟩, -⟩
    · rw [hanswer, Entries.find?_set, if_pos rfl]
      exact Option.some_ne_none _
    · rw [hanswer] at h
      cases h

/-- An observation leaves every receipt as it is. -/
theorem remember_keeps {id : Str} {e : Print × Result} (h : Entries.find? r.receipts id = some e) :
    Entries.find? (r.remember P C c).1.receipts id = some e := by
  cases hfound : Entries.find? r.receipts c.commandId with
  | some saved => rwa [(remember_saved hfound).1]
  | none =>
    rcases remember_new (P := P) (C := C) hfound with ⟨m, -, -, -, hanswer⟩ | ⟨⟨e, hanswer⟩, -⟩
    · have hne : c.commandId ≠ id := fun heq => by
        rw [heq, h] at hfound
        cases hfound
      rwa [hanswer, Entries.find?_set, if_neg hne]
    · rwa [hanswer]

theorem forget_keeps {id : Str} {e : Print × Result} (h : Entries.find? r.receipts id = some e) :
    Entries.find? (r.forget f).1.receipts id = some e ∨
      Entries.find? (r.forget f).1.receipts id = some (e.1, e.2.erase) := by
  cases hfound : Entries.find? r.receipts f.commandId with
  | some saved => exact .inl (by rwa [(forget_saved hfound).1])
  | none =>
    rcases forget_new hfound with ⟨-, -, -, hanswer⟩ | ⟨⟨e, hanswer⟩, -⟩
    · have hne : f.commandId ≠ id := fun heq => by
        rw [heq, h] at hfound
        cases hfound
      refine .inr ?_
      rw [hanswer, forgotten, Entries.find?_set, if_neg hne, find?_erased, h]
      rfl
    · exact .inl (by rwa [hanswer])

end InMemory

/-! ## The second repository -/

def Print.operation : Print → Operation
  | .remember .. => .remember
  | .forget _ => .forget

/-- What a receipt says of a saved result. -/
def Receipt.Answers (receipt : Receipt) (p : Print) : Result → Prop
  | .forgotten b => p.operation = .forget ∧ receipt.forgotten = some b
  | _ => p.operation = .remember

/-- The receipts of one command id in the two repositories. -/
inductive Counterpart (P : Python) : Option (Print × Result) → Option Receipt → Prop
  | absent : Counterpart P none none
  | present {p : Print} {result : Result} {receipt : Receipt}
      (schema : receipt.schemaVersion = receiptSchemaVersion)
      (operation : receipt.operation = p.operation)
      (digest : p.digest P = some receipt.fingerprint) (answers : receipt.Answers p result) :
      Counterpart P (some (p, result)) (some receipt)

/-- A command id without a document name, or data without a fingerprint. -/
def Unencoded (P : Python) (commandId : Str) (p : Print) : Prop :=
  (receiptKey P commandId).toBool = false ∨ p.digest P = none

theorem encoded_of_not {commandId : Str} {p : Print} (h : ¬ Unencoded P commandId p) :
    ∃ key fingerprint, receiptKey P commandId = .ok key ∧ p.digest P = some fingerprint := by
  obtain ⟨hkey, hdigest⟩ := not_or.mp h
  obtain ⟨key, hkey⟩ := exists_ok_of_toBool (Bool.not_eq_false _ ▸ hkey)
  obtain ⟨fingerprint, hdigest⟩ := Option.ne_none_iff_exists'.mp hdigest
  exact ⟨key, fingerprint, hkey, hdigest⟩

theorem ne_nil_of_receiptKey {commandId key : Str} (h : receiptKey P commandId = .ok key) :
    commandId ≠ [] := by
  rintro rfl
  cases h

theorem decodeMemory_of {document : Option CustomerMemory} (h : ∀ m ∈ document, Bound C m) :
    Firestore.decodeMemory C document = .ok document := if_pos h

namespace Firestore

variable {r : Firestore} {c : Remember} {f : Forget} {p q : Print} {result : Result}
  {snapshot : Option Receipt} {key fingerprint : Str}

/-- The receipt of the same data is found. -/
theorem validateReceipt_same (h : Counterpart P (some (p, result)) snapshot)
    (hp : p.digest P = some fingerprint) :
    ∃ receipt, validateReceipt snapshot p.operation fingerprint = .ok (some receipt) ∧
      receipt.Answers p result := by
  cases h with
  | @present _ _ receipt schema operation digest answers =>
    obtain rfl : receipt.fingerprint = fingerprint := Option.some.inj (digest ▸ hp)
    exact ⟨receipt, if_neg (by simp [schema, operation]), answers⟩

/-- The receipt of other data is a conflict. -/
theorem validateReceipt_other (h : Counterpart P (some (q, result)) snapshot)
    (hdigest : q.digest P ≠ some fingerprint) (operation : Operation) :
    ∃ e, validateReceipt snapshot operation fingerprint = .error e := by
  cases h with
  | @present _ _ receipt schema _ digest answers =>
    have hne : receipt.fingerprint ≠ fingerprint := fun heq => hdigest (heq ▸ digest)
    exact ⟨_, if_pos (.inr (.inr hne))⟩

theorem remember_unencoded (h : Unencoded P c.commandId c.print) :
    ∃ e, r.remember P C c = (r, .error e) := by
  unfold remember
  split
  · exact ⟨_, rfl⟩
  · rename_i key hkey
    split
    · exact ⟨_, rfl⟩
    · rename_i fingerprint hdigest
      rcases h with h | h
      · rw [hkey] at h
        cases h
      · rw [hdigest] at h
        cases h

theorem forget_unencoded (h : Unencoded P f.commandId f.print) :
    ∃ e, r.forget P C f = (r, .error e) := by
  unfold forget
  split
  · exact ⟨_, rfl⟩
  · rename_i key hkey
    split
    · exact ⟨_, rfl⟩
    · rename_i fingerprint hdigest
      rcases h with h | h
      · rw [hkey] at h
        cases h
      · rw [hdigest] at h
        cases h

theorem remember_encoded (hkey : receiptKey P c.commandId = .ok key)
    (hdigest : c.print.digest P = some fingerprint) :
    r.remember P C c = rememberTransaction P C r c key fingerprint := by
  rw [remember, hkey]
  simp only [hdigest]

theorem forget_encoded (hkey : receiptKey P f.commandId = .ok key)
    (hdigest : f.print.digest P = some fingerprint) :
    r.forget P C f = forgetTransaction C r f key fingerprint := by
  rw [forget, hkey]
  simp only [hdigest]

theorem rememberTransaction_known (h : Entries.find? r.receipts key ≠ none) :
    (r.rememberTransaction P C c key fingerprint).1 = r ∧
      ∀ m, (r.rememberTransaction P C c key fingerprint).2 = .ok m → r.document = some m := by
  unfold rememberTransaction
  split
  · exact ⟨rfl, fun m hm => by cases hm⟩
  · rename_i existing hexisting
    unfold decodeMemory at hexisting
    split at hexisting
    · cases hexisting
      split
      · exact ⟨rfl, fun m hm => by cases hm⟩
      · split
        · exact ⟨rfl, fun m hm => by cases hm⟩
        · rename_i m hm'
          exact ⟨rfl, fun m hm => by cases hm; exact hm'⟩
      · rename_i hnone
        unfold validateReceipt at hnone
        split at hnone
        · rename_i habsent
          exact absurd habsent h
        · split at hnone <;> cases hnone
    · cases hexisting

theorem remember_known (hkey : receiptKey P c.commandId = .ok key)
    (h : Entries.find? r.receipts key ≠ none) :
    (r.remember P C c).1 = r ∧ ∀ m, (r.remember P C c).2 = .ok m → r.document = some m := by
  by_cases hencoded : Unencoded P c.commandId c.print
  · obtain ⟨e, he⟩ := remember_unencoded (C := C) (r := r) hencoded
    rw [he]
    exact ⟨rfl, fun m hm => nomatch hm⟩
  · obtain ⟨key', fingerprint, hkey', hdigest⟩ := encoded_of_not hencoded
    obtain rfl : key = key' := Except.ok.inj (hkey.symm.trans hkey')
    rw [remember_encoded hkey hdigest]
    exact rememberTransaction_known h

/-- The receipt that an observation leaves. -/
def remembered (fingerprint : Str) (m : CustomerMemory) : Receipt :=
  ⟨receiptSchemaVersion, .remember, fingerprint, some m.val.revision, none, m.val.updatedAt,
    m.val.expiresAt⟩

/-- The receipt that a forget leaves. -/
def forgotten (r : Firestore) (f : Forget) (fingerprint : Str) : Receipt :=
  ⟨receiptSchemaVersion, .forget, fingerprint, none, some r.document.isSome, f.createdAt,
    f.expiresAt⟩

theorem rememberTransaction_fresh (fingerprint : Str)
    (hbound : ∀ m ∈ r.document, Bound C m)
    (h : Entries.find? r.receipts key = none) :
    (∃ m, rememberCustomer P C r.document c = .ok m ∧
      r.rememberTransaction P C c key fingerprint =
        (⟨some m, Entries.set r.receipts key (remembered fingerprint m)⟩, .ok m)) ∨
    ∃ e, rememberCustomer P C r.document c = .error e ∧
      r.rememberTransaction P C c key fingerprint = (r, .error e) := by
  unfold rememberTransaction
  rw [decodeMemory_of hbound, h]
  simp only [validateReceipt]
  split
  · rename_i e hm
    exact .inr ⟨e, hm, rfl⟩
  · rename_i m hm
    exact .inl ⟨m, hm, rfl⟩

/-- A retry gets the document, if there is one. -/
theorem rememberTransaction_same (hbound : ∀ m ∈ r.document, Bound C m)
    (h : Counterpart P (some (c.print, result)) (Entries.find? r.receipts key))
    (hdigest : c.print.digest P = some fingerprint) :
    (r.rememberTransaction P C c key fingerprint).2.toBool = r.document.isSome := by
  obtain ⟨receipt, hvalid, -⟩ := validateReceipt_same h hdigest
  have hoperation : c.print.operation = .remember := rfl
  rw [hoperation] at hvalid
  unfold rememberTransaction
  rw [decodeMemory_of hbound]
  simp only [hvalid]
  cases r.document <;> rfl

theorem rememberTransaction_other (hbound : ∀ m ∈ r.document, Bound C m)
    (h : Counterpart P (some (q, result)) (Entries.find? r.receipts key))
    (hdigest : q.digest P ≠ some fingerprint) :
    ∃ e, r.rememberTransaction P C c key fingerprint = (r, .error e) := by
  obtain ⟨e, he⟩ := validateReceipt_other h hdigest .remember
  unfold rememberTransaction
  rw [decodeMemory_of hbound]
  simp only [he]
  exact ⟨e, rfl⟩

theorem forgetTransaction_fresh (fingerprint : Str)
    (hbound : ∀ m ∈ r.document, Bound C m)
    (h : Entries.find? r.receipts key = none) :
    (f.expectedRevision = r.document.elim 0 (fun m => m.val.revision) ∧
      r.forgetTransaction C f key fingerprint =
        (⟨none, Entries.set r.receipts key (r.forgotten f fingerprint)⟩,
          .ok r.document.isSome)) ∨
    (f.expectedRevision ≠ r.document.elim 0 (fun m => m.val.revision) ∧
      ∃ e, r.forgetTransaction C f key fingerprint = (r, .error e)) := by
  unfold forgetTransaction
  rw [h, decodeMemory_of hbound]
  simp only [validateReceipt]
  split
  · rename_i hne
    exact .inr ⟨hne, _, rfl⟩
  · rename_i heq
    exact .inl ⟨not_not.mp heq, rfl⟩

/-- A retry of a forget gets what was saved. -/
theorem forgetTransaction_same
    (h : Counterpart P (some (f.print, result)) (Entries.find? r.receipts key))
    (hdigest : f.print.digest P = some fingerprint) :
    ∃ b, result = .forgotten b ∧ r.forgetTransaction C f key fingerprint = (r, .ok b) := by
  obtain ⟨receipt, hvalid, hanswers⟩ := validateReceipt_same h hdigest
  have hoperation : f.print.operation = .forget := rfl
  rw [hoperation] at hvalid
  unfold forgetTransaction
  rw [hvalid]
  cases result with
  | forgotten b => exact ⟨b, rfl, by simp only [hanswers.2]⟩
  | memory m => cases hanswers
  | erased => cases hanswers

theorem forgetTransaction_other
    (h : Counterpart P (some (q, result)) (Entries.find? r.receipts key))
    (hdigest : q.digest P ≠ some fingerprint) :
    ∃ e, r.forgetTransaction C f key fingerprint = (r, .error e) := by
  obtain ⟨e, he⟩ := validateReceipt_other h hdigest .forget
  unfold forgetTransaction
  rw [he]
  exact ⟨e, rfl⟩

theorem remember_receipt (h : (r.remember P C c).2.toBool = true) :
    ∃ key, receiptKey P c.commandId = .ok key ∧
      Entries.find? (r.remember P C c).1.receipts key ≠ none := by
  by_cases hencoded : Unencoded P c.commandId c.print
  · obtain ⟨e, he⟩ := remember_unencoded (C := C) (r := r) hencoded
    rw [he] at h
    cases h
  · obtain ⟨key, fingerprint, hkey, hdigest⟩ := encoded_of_not hencoded
    refine ⟨key, hkey, ?_⟩
    rw [remember_encoded hkey hdigest] at h ⊢
    by_cases hknown : Entries.find? r.receipts key = none
    · unfold rememberTransaction at h ⊢
      split at h
      · cases h
      · rename_i existing hexisting
        rw [hknown] at h ⊢
        simp only [validateReceipt] at h ⊢
        split at h
        · cases h
        · dsimp only
          rw [Entries.find?_set, if_pos rfl]
          exact Option.some_ne_none _
    · rwa [(rememberTransaction_known hknown).1]

/-- Receipts stay. -/
theorem remember_keeps (h : Entries.find? r.receipts key ≠ none) :
    Entries.find? (r.remember P C c).1.receipts key ≠ none := by
  by_cases hencoded : Unencoded P c.commandId c.print
  · obtain ⟨e, he⟩ := remember_unencoded (C := C) (r := r) hencoded
    rwa [he]
  · obtain ⟨key', fingerprint, hkey, hdigest⟩ := encoded_of_not hencoded
    rw [remember_encoded hkey hdigest]
    unfold rememberTransaction
    split
    · exact h
    · split
      · exact h
      · split <;> exact h
      · split
        · exact h
        · rw [Entries.find?_set]
          split
          · exact Option.some_ne_none _
          · exact h

theorem forget_keeps (h : Entries.find? r.receipts key ≠ none) :
    Entries.find? (r.forget P C f).1.receipts key ≠ none := by
  by_cases hencoded : Unencoded P f.commandId f.print
  · obtain ⟨e, he⟩ := forget_unencoded (C := C) (r := r) hencoded
    rwa [he]
  · obtain ⟨key', fingerprint, hkey, hdigest⟩ := encoded_of_not hencoded
    rw [forget_encoded hkey hdigest]
    unfold forgetTransaction
    split
    · exact h
    · split <;> exact h
    · split
      · exact h
      · dsimp only
        split
        · exact h
        · rw [Entries.find?_set]
          split
          · exact Option.some_ne_none _
          · exact h

theorem forget_document (h : (r.forget P C f).2.toBool = true)
    (hkey : receiptKey P f.commandId = .ok key) (hnone : Entries.find? r.receipts key = none) :
    (r.forget P C f).1.document = none := by
  unfold forget at h ⊢
  rw [hkey] at h ⊢
  dsimp only at h ⊢
  split
  · rename_i hdigest
    rw [hdigest] at h
    cases h
  · rename_i fingerprint hdigest
    rw [hdigest] at h
    dsimp only at h
    unfold forgetTransaction at h ⊢
    rw [hnone] at h ⊢
    simp only [validateReceipt] at h ⊢
    split
    · rename_i e he
      rw [he] at h
      cases h
    · rename_i memory hmemory
      rw [hmemory] at h
      dsimp only at h
      split
      · rename_i hne
        rw [if_pos hne] at h
        cases h
      · rfl

end Firestore

end HeyKevin.L11.Memory
