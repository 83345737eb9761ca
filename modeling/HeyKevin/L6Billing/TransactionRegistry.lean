import HeyKevin.L6Billing.DeliveryOrder
/-!
# The registry of Apple transactions

`apple_transactions` (app/db/apple_transactions.py) keeps who owns a receipt. Any
number of accounts claim any receipts, in any order, from any contents of the
collection: a run of `claimTransaction`, one transaction at a time.

* `Owned.step`: the owner of a bound receipt stays its owner.
* `one_owner_iff`: a receipt entitles one account exactly as long as no claim
  meets a document that names no owner. Such a claim is granted and its owner
  is not written, so the next claim of anyone is granted too.

Line numbers are those of app/db/apple_transactions.py.
-/
namespace HeyKevin.L6.Registry

open HeyKevin.Core Binary64 L1 L1.Text

/-- The documents of `apple_transactions`, by original transaction id. -/
abbrev Transactions := Entries Str Dict

/-- The arguments of `claim_transaction` and `time.time()` in its transaction. -/
structure Claim where
  now : Double
  originalTransactionId : Str
  contractorId : Str
  transactionId : Str
  productId : Str
  environment : Str

/-- `ok` and `existing_owner`. -/
structure Answer where
  ok : Bool
  owner : Value

/-- `if v: d[k] = v` -/
def named (k : String) (v : Str) : Dict := if v.isEmpty then [] else [(k, .str v)]

def Claim.filled (c : Claim) : Dict :=
  named "last_transaction_id" c.transactionId ++ named "product_id" c.productId ++
    named "environment" c.environment

/-- The document that the transaction writes, if any, and its answer.
mirrors 102-128 -/
def txn (c : Claim) : Option Dict → Option Dict × Answer
  | some data =>
    let existing := data.get "contractor_id"
    if existing.truthy && !existing.isStr c.contractorId then (none, ⟨false, existing⟩)
    else (some (data.update (("last_seen_at", .number (.float c.now)) :: c.filled)),
      ⟨true, .str c.contractorId⟩)
  | none =>
    (some (("contractor_id", .str c.contractorId) ::
        ("first_seen_at", .number (.float c.now)) ::
        ("last_seen_at", .number (.float c.now)) :: c.filled),
      ⟨true, .str c.contractorId⟩)

/-- mirrors 72-141 -/
def claimTransaction : Machine Transactions Claim Answer := fun r c =>
  if c.originalTransactionId.isEmpty || c.contractorId.isEmpty then (r, ⟨false, .none⟩)
  else
    let (written, answer) := txn c (Entries.find? r c.originalTransactionId)
    (written.elim r (Entries.set r c.originalTransactionId), answer)

/-- mirrors 59-69 -/
def getTransactionBinding (r : Transactions) (original : Str) : Option Dict :=
  if original.isEmpty then none
  else (Entries.find? r original).map fun data =>
    if data.has "original_transaction_id" then data
    else data.set "original_transaction_id" (.str original)

/-! ## Owners -/

/-- What `contractor_id` of the binding reads. -/
def owner (r : Transactions) (original : Str) : Value :=
  ((getTransactionBinding r original).getD []).get "contractor_id"

def bindingField (r : Transactions) (original : Str) (k : String) : Value :=
  ((getTransactionBinding r original).getD []).get k

abbrev LogEvent := Event Transactions Claim Answer

def Kept (log : List LogEvent) : Prop :=
  ∀ l₁ a l₂, log = l₁ ++ a :: l₂ → a.resp.ok = true → ∀ b ∈ a :: l₂,
    owner b.post a.call.originalTransactionId = .str a.call.contractorId

structure OneOwner (log : List LogEvent) : Prop where
  /-- All granted claims of a receipt are of one account. -/
  exclusive : ∀ a ∈ log, ∀ b ∈ log, a.resp.ok = true → b.resp.ok = true →
    a.call.originalTransactionId = b.call.originalTransactionId →
    a.call.contractorId = b.call.contractorId
  kept : Kept log
  /-- Nothing changes when a bound receipt was first seen. -/
  firstSeen : ∀ a ∈ log, ∀ k, (owner a.pre k).truthy = true →
    bindingField a.post k "first_seen_at" = bindingField a.pre k "first_seen_at"
  /-- Only its owner changes when it was last seen. -/
  lastSeen : ∀ a ∈ log, ∀ k, (owner a.pre k).truthy = true →
    bindingField a.post k "last_seen_at" = bindingField a.pre k "last_seen_at" ∨
      a.call.originalTransactionId = k ∧ owner a.pre k = .str a.call.contractorId

def Unowned (r : Transactions) (c : Claim) : Prop :=
  c.originalTransactionId ≠ [] ∧ c.contractorId ≠ [] ∧
    ∃ data, Entries.find? r c.originalTransactionId = some data ∧
      (data.get "contractor_id").truthy = false

/-! ## One claim -/

section Steps

variable {r : Transactions} {c : Claim} {k owner₁ : Str}

def Claim.refresh (c : Claim) : Dict := ("last_seen_at", .number (.float c.now)) :: c.filled

def Claim.first (c : Claim) : Dict :=
  ("contractor_id", .str c.contractorId) :: ("first_seen_at", .number (.float c.now)) :: c.refresh

inductive Answered (r : Transactions) (c : Claim) : Transactions × Answer → Prop
  | refused (answer : Answer) (hno : answer.ok = false) : Answered r c (r, answer)
  | refreshed (data : Dict) (hid : c.originalTransactionId ≠ []) (hcontractor : c.contractorId ≠ [])
      (hfind : Entries.find? r c.originalTransactionId = some data)
      (howner : data.get "contractor_id" = .str c.contractorId ∨
        (data.get "contractor_id").truthy = false) :
      Answered r c (Entries.set r c.originalTransactionId (data.update c.refresh),
        ⟨true, .str c.contractorId⟩)
  | created (hid : c.originalTransactionId ≠ []) (hcontractor : c.contractorId ≠ [])
      (hfind : Entries.find? r c.originalTransactionId = none) :
      Answered r c (Entries.set r c.originalTransactionId c.first, ⟨true, .str c.contractorId⟩)

theorem claimTransaction_answered (r : Transactions) (c : Claim) :
    Answered r c (claimTransaction r c) := by
  unfold claimTransaction
  split
  · exact .refused _ rfl
  · rename_i hids
    simp only [Bool.or_eq_true, List.isEmpty_iff, not_or] at hids
    cases hfind : Entries.find? r c.originalTransactionId with
    | none => exact .created hids.1 hids.2 hfind
    | some data =>
      simp only [txn]
      split
      · exact .refused _ rfl
      · rename_i hno
        refine .refreshed data hids.1 hids.2 hfind ?_
        simp only [Bool.and_eq_true, Bool.not_eq_true', not_and, Bool.not_eq_false,
          Value.isStr_iff] at hno
        by_cases ht : (data.get "contractor_id").truthy = true
        · exact .inl (hno ht)
        · exact .inr (Bool.not_eq_true _ ▸ ht)

theorem named_keys {f : String} {v : Str} {j : String} (h : j ∈ Dict.keys (named f v)) : j = f := by
  unfold named at h
  split at h
  · cases h
  · simpa [Dict.keys, Entries.keys] using h

theorem refresh_keys {j : String} (h : j ∈ Dict.keys c.refresh) :
    j ∈ ["last_seen_at", "last_transaction_id", "product_id", "environment"] := by
  simp only [Claim.refresh, Claim.filled, Dict.keys, Entries.keys, List.map_cons, List.map_append,
    List.mem_cons, List.mem_append] at h
  rcases h with rfl | (h | h) | h
  · simp
  all_goals
    obtain rfl := named_keys h
    simp

theorem get_refresh {data : Dict} {f : String}
    (hf : f ∉ ["last_seen_at", "last_transaction_id", "product_id", "environment"]) :
    (data.update c.refresh).get f = data.get f :=
  Dict.get_update_of_not_mem data c.refresh fun h => hf (refresh_keys h)

theorem bindingField_eq {f : String} (hf : f ≠ "original_transaction_id") (hk : k ≠ []) :
    bindingField r k f = ((Entries.find? r k).getD []).get f := by
  rw [bindingField, getTransactionBinding, if_neg (by simpa using hk)]
  cases Entries.find? r k with
  | none => rfl
  | some data =>
    simp only [Option.map_some, Option.getD_some]
    split
    · rfl
    · simp [Ne.symm hf]

structure Owned (r : Transactions) (k account : Str) : Prop where
  receipt : k ≠ []
  named : account ≠ []
  bound : ∃ data, Entries.find? r k = some data ∧ data.get "contractor_id" = .str account

theorem Owned.owner_eq (h : Owned r k owner₁) : owner r k = .str owner₁ := by
  obtain ⟨data, hfind, hget⟩ := h.bound
  rw [owner, ← bindingField, bindingField_eq (by decide) h.receipt, hfind]
  exact hget

theorem owned_of_owner {v : Str} (h : owner r k = .str v) (hv : v ≠ []) : Owned r k v := by
  have hk : k ≠ [] := by
    rintro rfl
    cases h
  rw [owner, ← bindingField, bindingField_eq (by decide) hk] at h
  cases hfind : Entries.find? r k with
  | none =>
    rw [hfind] at h
    cases h
  | some data => exact ⟨hk, hv, data, hfind, by simpa [hfind] using h⟩

/-- **The owner of a bound receipt stays its owner.** -/
theorem Owned.step (h : Owned r k owner₁) (c : Claim) : Owned (claimTransaction r c).1 k owner₁ := by
  obtain ⟨data, hfind, hget⟩ := h.bound
  have hstep := claimTransaction_answered r c
  generalize claimTransaction r c = out at hstep ⊢
  cases hstep with
  | refused => exact h
  | refreshed data' hid hcontractor hfind' howner =>
    refine ⟨h.receipt, h.named, ?_⟩
    simp only [Entries.find?_set]
    split
    · rename_i heq
      subst heq
      obtain rfl : data' = data := Option.some.inj (hfind'.symm.trans hfind)
      exact ⟨_, rfl, (get_refresh (by decide)).trans hget⟩
    · exact ⟨data, hfind, hget⟩
  | created hid hcontractor hnone =>
    refine ⟨h.receipt, h.named, data, ?_, hget⟩
    simp only [Entries.find?_set]
    split
    · rename_i heq
      rw [heq, hfind] at hnone
      cases hnone
    · exact hfind

theorem owned_of_ok (hok : (claimTransaction r c).2.ok = true) (hno : ¬ Unowned r c) :
    Owned (claimTransaction r c).1 c.originalTransactionId c.contractorId := by
  have hstep := claimTransaction_answered r c
  generalize claimTransaction r c = out at hstep hok ⊢
  cases hstep with
  | refused answer hrefused =>
    rw [hrefused] at hok
    cases hok
  | refreshed data hid hcontractor hfind howner =>
    refine ⟨hid, hcontractor, _, (Entries.find?_set ..).trans (if_pos rfl), ?_⟩
    rw [get_refresh (by decide)]
    exact howner.resolve_right fun hf => hno ⟨hid, hcontractor, data, hfind, hf⟩
  | created hid hcontractor hnone =>
    exact ⟨hid, hcontractor, _, (Entries.find?_set ..).trans (if_pos rfl), rfl⟩

theorem Unowned.granted (h : Unowned r c) : (claimTransaction r c).2.ok = true ∧
    owner (claimTransaction r c).1 c.originalTransactionId ≠ .str c.contractorId := by
  obtain ⟨hid, hcontractor, data, hfind, hfalsy⟩ := h
  have hrun : claimTransaction r c = (Entries.set r c.originalTransactionId
      (data.update c.refresh), ⟨true, .str c.contractorId⟩) := by
    unfold claimTransaction
    rw [if_neg (by simp [hid, hcontractor]), hfind]
    simp only [txn, hfalsy, Bool.false_and, Bool.false_eq_true, if_false]
    rfl
  rw [hrun]
  refine ⟨rfl, fun howner => ?_⟩
  obtain ⟨-, -, data', hfind', hget⟩ := owned_of_owner howner hcontractor
  simp only [Entries.find?_set, if_true, Option.some.injEq] at hfind'
  rw [← hfind', get_refresh (by decide)] at hget
  rw [hget] at hfalsy
  exact hcontractor (by simpa [Value.truthy] using hfalsy)

/-- What a claim does to the times of a bound receipt: nothing, or it is its owner's
and moves the last one. -/
theorem times_step (hbound : (owner r k).truthy = true) (c : Claim) :
    (∀ f, f ≠ "original_transaction_id" →
      bindingField (claimTransaction r c).1 k f = bindingField r k f) ∨
    bindingField (claimTransaction r c).1 k "first_seen_at" = bindingField r k "first_seen_at" ∧
      c.originalTransactionId = k ∧ owner r k = .str c.contractorId := by
  have hk : k ≠ [] := by
    rintro rfl
    cases hbound
  have hread : owner r k = ((Entries.find? r k).getD []).get "contractor_id" :=
    bindingField_eq (by decide) hk
  have hstep := claimTransaction_answered r c
  generalize claimTransaction r c = out at hstep ⊢
  cases hstep with
  | refused => exact .inl fun f hf => rfl
  | refreshed data hid hcontractor hfind howner =>
    by_cases heq : c.originalTransactionId = k
    · subst heq
      rw [hfind, Option.getD_some] at hread
      refine .inr ⟨?_, rfl, ?_⟩
      · rw [bindingField_eq (by decide) hk, bindingField_eq (by decide) hk, hfind]
        simp only [Entries.find?_set, if_true, Option.getD_some]
        exact get_refresh (by decide)
      · rw [hread]
        refine howner.resolve_right fun hf => ?_
        rw [hread, hf] at hbound
        cases hbound
    · refine .inl fun f hf => ?_
      rw [bindingField_eq hf hk, bindingField_eq hf hk]
      simp only [Entries.find?_set, heq, if_false]
  | created hid hcontractor hnone =>
    refine .inl fun f hf => ?_
    rw [bindingField_eq hf hk, bindingField_eq hf hk]
    simp only [Entries.find?_set]
    split
    · rename_i heq
      rw [heq] at hnone
      rw [hread, hnone] at hbound
      cases hbound
    · rfl

end Steps

/-! ## Runs -/

theorem owned_run {r : Transactions} {k account : Str} (h : Owned r k account)
    (claims : List Claim) : Owned (claimTransaction.run r claims) k account :=
  Machine.run_inv claimTransaction (G := fun _ => True) (I := fun r => Owned r k account) h
    (fun _ c h _ => h.step c) claims fun _ _ => trivial

theorem exclusive_of_kept {log : List LogEvent} (h : Kept log) {a b : LogEvent} (ha : a ∈ log)
    (hb : b ∈ log) (hoka : a.resp.ok = true) (hokb : b.resp.ok = true)
    (hsame : a.call.originalTransactionId = b.call.originalTransactionId) :
    a.call.contractorId = b.call.contractorId := by
  have later : ∀ {a b : LogEvent} {l₁ l₂ : List LogEvent}, log = l₁ ++ a :: l₂ → b ∈ l₂ →
      a.resp.ok = true → b.resp.ok = true →
      a.call.originalTransactionId = b.call.originalTransactionId →
      a.call.contractorId = b.call.contractorId := by
    intro a b l₁ l₂ hlog hb hoka hokb hsame
    obtain ⟨m₁, m₂, rfl⟩ := List.append_of_mem hb
    have h₁ := h l₁ a _ hlog hoka b (by simp)
    have h₂ := h (l₁ ++ a :: m₁) b m₂ (by simpa using hlog) hokb b List.mem_cons_self
    rw [hsame] at h₁
    exact Value.str.inj (h₁.symm.trans h₂)
  obtain ⟨l₁, l₂, hlog⟩ := List.append_of_mem ha
  rw [hlog] at hb
  rcases List.mem_append.mp hb with hb | hb
  · obtain ⟨m₁, m₂, rfl⟩ := List.append_of_mem hb
    exact (later (by simpa using hlog) (by simp) hokb hoka hsame.symm).symm
  · rcases List.mem_cons.mp hb with rfl | hb
    · rfl
    · exact later hlog hb hoka hokb hsame

/-- **When a receipt entitles one account.** Whatever the collection holds and whoever claims,
in any order: exactly when no claim meets a document that names no owner. -/
theorem one_owner_iff (r : Transactions) (claims : List Claim) :
    OneOwner (claimTransaction.log r claims) ↔
      ∀ a ∈ claimTransaction.log r claims, ¬ Unowned a.pre a.call := by
  constructor
  · intro h a ha hunowned
    obtain ⟨cs₁, c, cs₂, -, hevent⟩ := claimTransaction.mem_log ha
    obtain ⟨l₁, l₂, hlog⟩ := List.append_of_mem ha
    rw [hevent] at hunowned
    obtain ⟨hok, howner⟩ := hunowned.granted
    have hkept := h.kept l₁ a l₂ hlog (by rw [hevent]; exact hok) a List.mem_cons_self
    rw [hevent] at hkept
    exact howner hkept
  · intro hg
    have hkept : Kept (claimTransaction.log r claims) := by
      intro l₁ a l₂ hlog hok b hb
      have hno := hg a (by rw [hlog]; simp)
      obtain ⟨cs₁, c, cs₂, -, -, rfl, rfl⟩ := claimTransaction.log_eq_append_cons hlog
      have howned := owned_of_ok hok hno
      rcases List.mem_cons.mp hb with rfl | hb
      · exact howned.owner_eq
      · obtain ⟨cs₃, d, cs₄, -, rfl⟩ := claimTransaction.mem_log hb
        exact ((owned_run howned cs₃).step d).owner_eq
    refine ⟨fun a ha b hb => exclusive_of_kept hkept ha hb, hkept, fun a ha k hbound => ?_,
      fun a ha k hbound => ?_⟩
    · obtain ⟨cs₁, c, cs₂, -, rfl⟩ := claimTransaction.mem_log ha
      rcases times_step hbound c with hsame | ⟨hfirst, -⟩
      · exact hsame _ (by decide)
      · exact hfirst
    · obtain ⟨cs₁, c, cs₂, -, rfl⟩ := claimTransaction.mem_log ha
      rcases times_step hbound c with hsame | ⟨-, hid, howner⟩
      · exact .inl (hsame _ (by decide))
      · exact .inr ⟨hid, howner⟩

def exampleClaim (contractorId : Str) : Claim :=
  ⟨.ofRat 0, py "2000000123", contractorId, [], [], []⟩

/-- A document without an owner is granted to one account and then to another. -/
theorem unowned_receipt_claimed_twice :
    ¬ OneOwner (claimTransaction.log [(py "2000000123", [])]
      [exampleClaim (py "u1"), exampleClaim (py "u2")]) := by
  intro h
  have hsame := h.exclusive _ List.mem_cons_self _ (List.mem_cons_of_mem _ List.mem_cons_self)
    (by decide) (by decide) rfl
  exact absurd hsame (by decide)

end HeyKevin.L6.Registry
