import HeyKevin.L1Encoding.Sha256
import HeyKevin.L11Memory.Operations
/-!
# When the two repositories agree

Every run of commands on one customer, given to both repositories, from empty
stores: `step` from `World.empty`.

* `Matched`: the invariant; the two hold the same record, and every receipt of
  one has its counterpart in the other.
* `remember_answered`, `forget_answered`: what a command does to both.
* `agreement_iff`: they agree and take what is well-formed, and forgetting is
  final, exactly in the runs without a superseded retry over a new record, a
  forget of an expired record as if it were absent, or a command that only the
  first can store.
-/
namespace HeyKevin.L11.Memory

open HeyKevin.Core Binary64 L1 L1.Text

variable {P : Python} {C : Customer}

abbrev LogEvent := Event World Command (Reply × Reply)

/-! ## What is claimed -/

/-- No repository has a receipt for this command id. -/
structure New (P : Python) (w : World) (commandId : Str) : Prop where
  inMemory : Entries.find? w.inMemory.receipts commandId = none
  firestore : ∀ key, receiptKey P commandId = .ok key →
    Entries.find? w.firestore.receipts key = none

/-- An observation that nothing but the stored record can refuse. -/
structure Remember.WellFormed (P : Python) (c : Remember) : Prop where
  name : cleanName c.displayName = .ok (collapsed c.displayName)
  confidence : c.confidence.inUnit = true
  language : c.language.length ≤ 16
  horizon : (c.occurredAt.plusDays memoryRetentionDays).isSome = true
  commandId : (receiptKey P c.commandId).toBool = true
  encodes : (c.print.digest P).isSome = true

structure Forget.WellFormed (P : Python) (c : Forget) : Prop where
  commandId : (receiptKey P c.commandId).toBool = true
  encodes : (c.print.digest P).isSome = true

/-- What is asked of one command. -/
structure Agrees (P : Python) (C : Customer) (e : LogEvent) : Prop where
  /-- Both take it, or both reject it. -/
  accept : e.resp.1.accepted = e.resp.2.accepted
  /-- Both remember the same afterwards. -/
  current : ∀ now, e.post.inMemory.lookup now = e.post.firestore.lookup C now
  /-- Where nothing is remembered, a new and well-formed observation at revision 0 is taken. -/
  remembers : ∀ c, e.call = .remember c → e.pre.inMemory.lookup c.occurredAt = none →
    e.pre.firestore.lookup C c.occurredAt = none → c.WellFormed P → New P e.pre c.commandId →
    c.expectedRevision = 0 → e.resp.1.accepted = true ∧ e.resp.2.accepted = true
  /-- And so is a forget. -/
  forgets : ∀ c, e.call = .forget c → e.pre.inMemory.lookup c.createdAt = none →
    e.pre.firestore.lookup C c.createdAt = none → c.WellFormed P → New P e.pre c.commandId →
    c.expectedRevision = 0 → e.resp.1.accepted = true ∧ e.resp.2.accepted = true

/-- A retry `e` of an observation `a` that was taken before a forget `f`, of which a
repository had no receipt, changes nothing and shows nothing but what was remembered
since: `f` left no record. -/
structure Final (P : Python) (log : List LogEvent) : Prop where
  inMemory : ∀ l₁ a l₂ f l₃ e l₄ c g d, log = l₁ ++ a :: l₂ ++ f :: l₃ ++ e :: l₄ →
    a.call = .remember c → a.resp.1.accepted = true → f.call = .forget g →
    f.resp.1.accepted = true → Entries.find? f.pre.inMemory.receipts g.commandId = none →
    e.call = .remember d → d.commandId = c.commandId →
    f.post.inMemory.record = none ∧ e.post.inMemory = e.pre.inMemory ∧ e.resp.1.accepted = false
  firestore : ∀ l₁ a l₂ f l₃ e l₄ c g d key, log = l₁ ++ a :: l₂ ++ f :: l₃ ++ e :: l₄ →
    a.call = .remember c → a.resp.2.accepted = true → f.call = .forget g →
    f.resp.2.accepted = true → receiptKey P g.commandId = .ok key →
    Entries.find? f.pre.firestore.receipts key = none →
    e.call = .remember d → d.commandId = c.commandId →
    f.post.firestore.document = none ∧ e.post.firestore = e.pre.firestore ∧
      ∀ m, e.resp.2 = .remembered (.ok m) → e.pre.firestore.document = some m

/-! ## The condition -/

/-- The retry of an observation that a forget superseded, where the customer has a record again. -/
def Superseded (w : World) (c : Remember) : Prop :=
  Entries.find? w.inMemory.receipts c.commandId = some (c.print, .erased) ∧
    w.inMemory.record ≠ none

/-- A new command id that asks, at revision 0, to forget a record that expired but is still stored. -/
def Lingering (P : Python) (w : World) (c : Forget) : Prop :=
  c.WellFormed P ∧ Entries.find? w.inMemory.receipts c.commandId = none ∧
    c.expectedRevision = 0 ∧ ∃ m, w.inMemory.record = some m ∧ alive c.createdAt m = false

/-- An observation with a lone surrogate in what is hashed, new and due by the shared rule. -/
def Remember.Unencodable (P : Python) (C : Customer) (w : World) (c : Remember) : Prop :=
  Unencoded P c.commandId c.print ∧ c.commandId ≠ [] ∧
    0 ≤ c.expectedRevision ∧ Entries.find? w.inMemory.receipts c.commandId = none ∧
    (rememberCustomer P C w.inMemory.record c).toBool = true

/-- A new forget at the revision of now with a lone surrogate in what is hashed. -/
def Forget.Unencodable (P : Python) (w : World) (c : Forget) : Prop :=
  Unencoded P c.commandId c.print ∧ c.commandId ≠ [] ∧
    Entries.find? w.inMemory.receipts c.commandId = none ∧
    c.expectedRevision = w.inMemory.record.elim 0 fun m => m.val.revision

def Clear (P : Python) (C : Customer) (w : World) : Command → Prop
  | .lookup _ => True
  | .remember c => ¬ Superseded w c ∧ ¬ c.Unencodable P C w
  | .forget c => ¬ Lingering P w c ∧ ¬ c.Unencodable P w

theorem Remember.WellFormed.remembered {c : Remember} (h : c.WellFormed P)
    {existing : Option CustomerMemory} (hbound : ∀ m ∈ existing, Bound C m)
    (hnone : existing.filter (alive c.occurredAt) = none) (hrev : c.expectedRevision = 0) :
    ∃ m, rememberCustomer P C existing c = .ok m := by
  obtain ⟨expiresAt, hexpires⟩ := Option.isSome_iff_exists.mp h.horizon
  have hid : c.commandId ≠ [] := by
    intro hid
    have := h.commandId
    simp [receiptKey, hid, Except.toBool] at this
  have hlate : c.occurredAt.instant < expiresAt.instant := by
    unfold Time.plusDays at hexpires
    obtain ⟨u, hutc, hu, rfl⟩ := Option.pmap_eq_some_iff.mp hexpires
    have := (Datetime.DateTime.add_eq_some hu).2
    simp only [Time.instant, memoryRetentionDays] at this ⊢
    omega
  have hname := (cleanName_eq_ok.mp h.name).1
  have hfirst : ∃ m, firstMemory C c (collapsed c.displayName) = .ok m := by
    simp only [firstMemory, bind_eq_ok, exists_unit, ensure_eq_ok, require_eq_ok]
    refine ⟨⟨_, ?_⟩, hrev, expiresAt, hexpires, CustomerMemory.make_ok _⟩
    simp only [Fields.check, bind_eq_ok, exists_unit, ensure_eq_ok]
    exact ⟨trivial, ⟨C.contractor_ne, C.key_ne⟩, ⟨le_rfl, h.confidence⟩, ⟨hname.2.1, h.language⟩,
      hid, le_rfl, le_rfl, hlate⟩
  obtain ⟨m, hm⟩ := hfirst
  have hfilter : (existing.filter fun m => c.occurredAt.instant < m.val.expiresAt.instant) =
    none := hnone
  simp only [rememberCustomer, bind_eq_ok, exists_unit, ensure_eq_ok]
  refine ⟨m, hid, _, h.name, hbound, ?_⟩
  rw [hfilter]
  exact hm

/-! ## The invariant -/

def Command.commandId? : Command → Option Str
  | .lookup _ => none
  | .remember c => some c.commandId
  | .forget f => some f.commandId

def Command.print? : Command → Option Print
  | .lookup _ => none
  | .remember c => some c.print
  | .forget f => some f.print

/-- Two command ids have two document names, and different data has different fingerprints. -/
structure Collisionless (P : Python) (ids : List Str) (prints : List Print) : Prop where
  keys : ∀ a ∈ ids, ∀ b ∈ ids, ∀ key, receiptKey P a = .ok key → receiptKey P b = .ok key → a = b
  digests : ∀ p ∈ prints, ∀ q ∈ prints, ∀ fingerprint, p.digest P = some fingerprint →
    q.digest P = some fingerprint → p = q

structure Matched (P : Python) (C : Customer) (ids : List Str) (prints : List Print) (w : World) :
    Prop where
  record : w.firestore.document = w.inMemory.record
  bound : ∀ m ∈ w.inMemory.record, Bound C m
  counterpart : ∀ id ∈ ids, ∀ key, receiptKey P id = .ok key →
    Counterpart P (Entries.find? w.inMemory.receipts id) (Entries.find? w.firestore.receipts key)
  saved : ∀ id p result, Entries.find? w.inMemory.receipts id = some (p, result) →
    (∃ key, receiptKey P id = .ok key) ∧ p ∈ prints ∧ InMemory.Sound p ∧ p.digest P ≠ none
  live : ∀ id p m, Entries.find? w.inMemory.receipts id = some (p, .memory m) →
    w.inMemory.record ≠ none
  last : ∀ m ∈ w.inMemory.record, Entries.find? w.inMemory.receipts m.val.lastCommandId ≠ none

variable {ids : List Str} {prints : List Print} {w : World} {c : Remember} {f : Forget}

theorem Matched.empty : Matched P C ids prints World.empty where
  record := rfl
  bound := fun _ h => nomatch h
  counterpart := fun _ _ _ _ => .absent
  saved := fun _ _ _ h => nomatch h
  live := fun _ _ _ h => nomatch h
  last := fun _ h => nomatch h

namespace Matched

theorem firestore_bound (h : Matched P C ids prints w) : ∀ m ∈ w.firestore.document, Bound C m :=
  h.record ▸ h.bound

/-- The two lookups agree. -/
theorem current (h : Matched P C ids prints w) (now : Time) :
    w.inMemory.lookup now = w.firestore.lookup C now := by
  have hsame : (fun m : CustomerMemory => m.isGreetingEligible now || alive now m) = alive now := by
    funext m
    cases halive : alive now m with
    | true => exact Bool.or_true _
    | false =>
      have : ¬ now.instant < m.val.expiresAt.instant := by simpa [alive] using halive
      simp [CustomerMemory.isGreetingEligible, this]
  rw [InMemory.lookup, Firestore.lookup, decodeMemory_of h.firestore_bound, ← h.record]
  simp only [hsame]

theorem new (h : Matched P C ids prints w) {id : Str} (hid : id ∈ ids)
    (hnone : Entries.find? w.inMemory.receipts id = none) : New P w id where
  inMemory := hnone
  firestore := by
    intro key hkey
    have hcounter := h.counterpart id hid key hkey
    rw [hnone] at hcounter
    generalize Entries.find? w.firestore.receipts key = snapshot at hcounter
    cases hcounter
    rfl

theorem remember (h : Matched P C ids prints w) (hc : Collisionless P ids prints)
    (hid : c.commandId ∈ ids) (hp : c.print ∈ prints) {key fingerprint : Str}
    (hkey : receiptKey P c.commandId = .ok key) (hdigest : c.print.digest P = some fingerprint)
    (hsound : InMemory.Sound c.print) {m : CustomerMemory}
    (hnone : Entries.find? w.inMemory.receipts c.commandId = none)
    (hm : rememberCustomer P C w.inMemory.record c = .ok m) :
    Matched P C ids prints
      ⟨⟨some m, Entries.set w.inMemory.receipts c.commandId (c.print, .memory m)⟩,
        ⟨some m, Entries.set w.firestore.receipts key (Firestore.remembered fingerprint m)⟩⟩ := by
  obtain ⟨hlast, hbound, -⟩ := rememberCustomer_spec hm fun x hx heq =>
    h.last x hx (heq ▸ hnone)
  refine ⟨rfl, fun _ hx => Option.some.inj hx ▸ hbound, ?_, ?_, (fun _ _ _ _ h => by cases h), ?_⟩
  · intro id hid' key' hkey'
    simp only [Entries.find?_set]
    by_cases heq : c.commandId = id
    · subst heq
      obtain rfl : key = key' := Except.ok.inj (hkey.symm.trans hkey')
      rw [if_pos rfl, if_pos rfl]
      exact .present rfl rfl hdigest rfl
    · have hne : key ≠ key' := fun hk => heq (hc.keys _ hid _ hid' key hkey (hk ▸ hkey'))
      rw [if_neg heq, if_neg hne]
      exact h.counterpart id hid' key' hkey'
  · intro id p result hsaved
    rw [Entries.find?_set] at hsaved
    split at hsaved
    · rename_i heq
      cases hsaved
      exact ⟨⟨key, heq ▸ hkey⟩, hp, hsound, by rw [hdigest]; exact Option.some_ne_none _⟩
    · exact h.saved id p result hsaved
  · intro x hx
    cases hx
    rw [Entries.find?_set, if_pos hlast.symm]
    exact Option.some_ne_none _

theorem forget (h : Matched P C ids prints w) (hc : Collisionless P ids prints)
    (hid : f.commandId ∈ ids) (hp : f.print ∈ prints) {key fingerprint : Str}
    (hkey : receiptKey P f.commandId = .ok key) (hdigest : f.print.digest P = some fingerprint)
    (hsound : InMemory.Sound f.print) :
    Matched P C ids prints
      ⟨w.inMemory.forgotten f, ⟨none, Entries.set w.firestore.receipts key
        (w.firestore.forgotten f fingerprint)⟩⟩ := by
  refine ⟨rfl, (fun _ h => by cases h), ?_, ?_, ?_, (fun _ h => by cases h)⟩
  · intro id hid' key' hkey'
    simp only [InMemory.forgotten, Entries.find?_set, InMemory.find?_erased]
    by_cases heq : f.commandId = id
    · subst heq
      obtain rfl : key = key' := Except.ok.inj (hkey.symm.trans hkey')
      rw [if_pos rfl, if_pos rfl]
      exact .present rfl rfl hdigest ⟨rfl, by rw [Firestore.forgotten, h.record]⟩
    · have hne : key ≠ key' := fun hk => heq (hc.keys _ hid _ hid' key hkey (hk ▸ hkey'))
      rw [if_neg heq, if_neg hne]
      have hcounter := h.counterpart id hid' key' hkey'
      generalize Entries.find? w.inMemory.receipts id = found at hcounter
      generalize Entries.find? w.firestore.receipts key' = snapshot at hcounter
      cases hcounter with
      | absent => exact .absent
      | @present p result receipt schema operation digest answers =>
        refine .present schema operation digest ?_
        cases result <;> exact answers
  · intro id p result hsaved
    rw [InMemory.forgotten, Entries.find?_set, InMemory.find?_erased] at hsaved
    split at hsaved
    · rename_i heq
      cases hsaved
      exact ⟨⟨key, heq ▸ hkey⟩, hp, hsound, by rw [hdigest]; exact Option.some_ne_none _⟩
    · obtain ⟨e, he, heq⟩ := Option.map_eq_some_iff.mp hsaved
      cases heq
      exact h.saved id e.1 e.2 he
  · intro id p m hsaved
    rw [InMemory.forgotten, Entries.find?_set, InMemory.find?_erased] at hsaved
    split at hsaved
    · cases hsaved
    · obtain ⟨e, -, heq⟩ := Option.map_eq_some_iff.mp hsaved
      have herase := congrArg Prod.snd heq
      cases hresult : e.2 <;> rw [hresult] at herase <;> cases herase

end Matched

/-! ## One command -/

/-- The command is agreed upon exactly when it is clear, and then the invariant survives. -/
structure Settled (P : Python) (C : Customer) (ids : List Str) (prints : List Print) (w : World)
    (command : Command) : Prop where
  iff : Agrees P C ((step P C).event w command) ↔ Clear P C w command
  kept : Clear P C w command → Matched P C ids prints (step P C w command).1

theorem Settled.of {command : Command} (hagrees : Agrees P C ((step P C).event w command))
    (hclear : Clear P C w command) (hm : Matched P C ids prints (step P C w command).1) :
    Settled P C ids prints w command :=
  ⟨iff_of_true hagrees hclear, fun _ => hm⟩

theorem Settled.apart {command : Command} (hagrees : ¬ Agrees P C ((step P C).event w command))
    (hclear : ¬ Clear P C w command) : Settled P C ids prints w command :=
  ⟨iff_of_false hagrees hclear, fun h => absurd h hclear⟩

theorem step_remember (w : World) (c : Remember) :
    step P C w (.remember c) =
      (⟨(w.inMemory.remember P C c).1, (w.firestore.remember P C c).1⟩,
        .remembered (w.inMemory.remember P C c).2, .remembered (w.firestore.remember P C c).2) :=
  rfl

theorem step_forget (w : World) (f : Forget) :
    step P C w (.forget f) =
      (⟨(w.inMemory.forget f).1, (w.firestore.forget P C f).1⟩,
        .forgot (w.inMemory.forget f).2, .forgot (w.firestore.forget P C f).2) := rfl

theorem Agrees.of_remember (hm : Matched P C ids prints (step P C w (.remember c)).1)
    (haccept : (w.inMemory.remember P C c).2.toBool = (w.firestore.remember P C c).2.toBool)
    (htaken : c.WellFormed P → New P w c.commandId → w.inMemory.lookup c.occurredAt = none →
      c.expectedRevision = 0 → (w.inMemory.remember P C c).2.toBool = true) :
    Agrees P C ((step P C).event w (.remember c)) where
  accept := haccept
  current := hm.current
  remembers := by
    intro c' hcall hnone _ hwell hnew hrev
    cases hcall
    have htrue := htaken hwell hnew hnone hrev
    exact ⟨htrue, haccept.symm.trans htrue⟩
  forgets := fun _ hcall => nomatch hcall

theorem Agrees.of_forget (hm : Matched P C ids prints (step P C w (.forget f)).1)
    (haccept : (w.inMemory.forget f).2.toBool = (w.firestore.forget P C f).2.toBool)
    (htaken : f.WellFormed P → New P w f.commandId → w.inMemory.lookup f.createdAt = none →
      f.expectedRevision = 0 → (w.inMemory.forget f).2.toBool = true) :
    Agrees P C ((step P C).event w (.forget f)) where
  accept := haccept
  current := hm.current
  remembers := fun _ hcall => nomatch hcall
  forgets := by
    intro f' hcall hnone _ hwell hnew hrev
    cases hcall
    have htrue := htaken hwell hnew hnone hrev
    exact ⟨htrue, haccept.symm.trans htrue⟩

namespace Matched

/-- An observation whose command id has a receipt: the answers differ where the saved memory
was erased and there is a record again. -/
theorem remember_known (h : Matched P C ids prints w) (hc : Collisionless P ids prints)
    (hid : c.commandId ∈ ids) (hp : c.print ∈ prints) {p : Print} {result : Result}
    (hfound : Entries.find? w.inMemory.receipts c.commandId = some (p, result)) :
    Settled P C ids prints w (.remember c) := by
  obtain ⟨⟨key, hkey⟩, hpp, hsound, hdigest⟩ := h.saved _ _ _ hfound
  have hcounter := h.counterpart _ hid key hkey
  rw [hfound] at hcounter
  have hknown : Entries.find? w.firestore.receipts key ≠ none := by
    intro hnone
    rw [hnone] at hcounter
    cases hcounter
  have hnew : ¬ New P w c.commandId := fun hnew => by
    rw [hnew.inMemory] at hfound
    cases hfound
  have hencodes : ¬ c.Unencodable P C w := fun hun => by
    rw [hun.2.2.2.1] at hfound
    cases hfound
  have hidle : (w.inMemory.remember P C c).1 = w.inMemory := (InMemory.remember_saved hfound).1
  by_cases hsame : p = c.print
  · subst hsame
    obtain ⟨fingerprint, hdigest⟩ := Option.ne_none_iff_exists'.mp hdigest
    have htx := Firestore.remember_encoded (C := C) (r := w.firestore) hkey hdigest
    have hm : Matched P C ids prints (step P C w (.remember c)).1 := by
      rw [step_remember, hidle, htx, (Firestore.rememberTransaction_known hknown).1]
      exact h
    have hshown : (w.firestore.remember P C c).2.toBool = w.inMemory.record.isSome := by
      rw [htx, ← h.record]
      exact Firestore.rememberTransaction_same h.firestore_bound hcounter hdigest
    cases result with
    | memory m =>
      have hanswer := InMemory.remember_retry (P := P) (C := C) (ne_nil_of_receiptKey hkey) hsound
        hfound
      have hlive := Option.isSome_iff_ne_none.mpr (h.live _ _ _ hfound)
      refine .of (.of_remember hm ?_ fun _ hn => absurd hn hnew) ⟨?_, hencodes⟩ hm
      · rw [hanswer, hshown, hlive]
        rfl
      · rintro ⟨herased, -⟩
        rw [hfound] at herased
        cases herased
    | forgotten b =>
      obtain ⟨_, _, hanswers⟩ := Firestore.validateReceipt_same hcounter hdigest
      cases hanswers.1
    | erased =>
      have hanswer : (w.inMemory.remember P C c).2.toBool = false := by
        cases hresult : (w.inMemory.remember P C c).2 with
        | error e => rfl
        | ok m => cases ((InMemory.remember_saved hfound).2 m hresult).2
      by_cases hrecord : w.inMemory.record = none
      · refine .of (.of_remember hm ?_ fun _ hn => absurd hn hnew) ⟨fun hs => hs.2 hrecord, hencodes⟩
          hm
        rw [hanswer, hshown, hrecord]
        rfl
      · refine .apart (fun hagrees => ?_) fun hclear => hclear.1 ⟨hfound, hrecord⟩
        have haccept : (w.inMemory.remember P C c).2.toBool =
          (w.firestore.remember P C c).2.toBool := hagrees.accept
        rw [hanswer, hshown, Option.isSome_iff_ne_none.mpr hrecord] at haccept
        cases haccept
  · have hanswer : (w.inMemory.remember P C c).2.toBool = false := by
      cases hresult : (w.inMemory.remember P C c).2 with
      | error e => rfl
      | ok m => exact absurd ((InMemory.remember_saved hfound).2 m hresult).1 hsame
    have hother : ∃ e, w.firestore.remember P C c = (w.firestore, .error e) := by
      by_cases hencoded : Unencoded P c.commandId c.print
      · exact Firestore.remember_unencoded hencoded
      · obtain ⟨key', fingerprint, hkey', hdigest'⟩ := encoded_of_not hencoded
        obtain rfl : key = key' := Except.ok.inj (hkey.symm.trans hkey')
        rw [Firestore.remember_encoded hkey hdigest']
        exact Firestore.rememberTransaction_other h.firestore_bound hcounter fun heq =>
          hsame (hc.digests _ hpp _ hp _ heq hdigest')
    obtain ⟨e, hother⟩ := hother
    have hm : Matched P C ids prints (step P C w (.remember c)).1 := by
      rw [step_remember, hidle, hother]
      exact h
    refine .of (.of_remember hm ?_ fun _ hn => absurd hn hnew) ⟨?_, hencodes⟩ hm
    · rw [hanswer, hother]
      rfl
    · rintro ⟨herased, -⟩
      rw [hfound] at herased
      cases herased
      exact hsame rfl

/-- An observation under a new command id: the answers differ where only the first repository
can store it. -/
theorem remember_fresh (h : Matched P C ids prints w) (hc : Collisionless P ids prints)
    (hid : c.commandId ∈ ids) (hp : c.print ∈ prints)
    (hnone : Entries.find? w.inMemory.receipts c.commandId = none) :
    Settled P C ids prints w (.remember c) := by
  have hsuperseded : ¬ Superseded w c := fun hs => by
    rw [Superseded, hnone] at hs
    cases hs.1
  rcases InMemory.remember_new (P := P) (C := C) hnone with
    ⟨m, hne, hsound, hm, hanswer⟩ | ⟨⟨e, hanswer⟩, hwhy⟩
  · by_cases hencoded : Unencoded P c.commandId c.print
    · obtain ⟨e, hother⟩ := Firestore.remember_unencoded (C := C) (r := w.firestore) hencoded
      refine .apart (fun hagrees => ?_) fun hclear =>
        hclear.2 ⟨hencoded, hne, hsound.1, hnone, by rw [hm]; rfl⟩
      have haccept : (w.inMemory.remember P C c).2.toBool =
        (w.firestore.remember P C c).2.toBool := hagrees.accept
      rw [hanswer, hother] at haccept
      cases haccept
    · obtain ⟨key, fingerprint, hkey, hdigest⟩ := encoded_of_not hencoded
      have hother : w.firestore.remember P C c =
          (⟨some m, Entries.set w.firestore.receipts key (Firestore.remembered fingerprint m)⟩,
            .ok m) := by
        rw [Firestore.remember_encoded hkey hdigest]
        have hfree := (h.new hid hnone).firestore key hkey
        rcases Firestore.rememberTransaction_fresh fingerprint
          h.firestore_bound hfree with ⟨m', hm', htx⟩ | ⟨e, he, -⟩
        · obtain rfl : m = m' := Except.ok.inj (hm.symm.trans (h.record ▸ hm'))
          exact htx
        · rw [h.record, hm] at he
          cases he
      have hpost : Matched P C ids prints (step P C w (.remember c)).1 := by
        rw [step_remember, hanswer, hother]
        exact h.remember hc hid hp hkey hdigest hsound hnone hm
      refine .of (.of_remember hpost ?_ fun _ _ _ _ => by rw [hanswer]; rfl)
        ⟨hsuperseded, fun hun => hencoded hun.1⟩ hpost
      rw [hanswer, hother]
  · have hrefused : ¬ ((c.commandId ≠ [] ∧ 0 ≤ c.expectedRevision) ∧
        (rememberCustomer P C w.inMemory.record c).toBool = true) := by
      rintro ⟨⟨hne, hrev⟩, hok⟩
      rcases hwhy with hwhy | hwhy | ⟨e, hwhy⟩
      · exact hne hwhy
      · omega
      · rw [hwhy] at hok
        cases hok
    have hother : ∃ e, w.firestore.remember P C c = (w.firestore, .error e) := by
      by_cases hencoded : Unencoded P c.commandId c.print
      · exact Firestore.remember_unencoded hencoded
      · obtain ⟨key, fingerprint, hkey, hdigest⟩ := encoded_of_not hencoded
        rw [Firestore.remember_encoded hkey hdigest]
        have hfree := (h.new hid hnone).firestore key hkey
        rcases Firestore.rememberTransaction_fresh fingerprint
          h.firestore_bound hfree with ⟨m', hm', htx⟩ | ⟨e, -, htx⟩
        · rw [h.record] at hm'
          obtain ⟨-, -, hrev⟩ := rememberCustomer_spec hm' fun x hx heq =>
            h.last x hx (heq ▸ hnone)
          exact absurd ⟨⟨ne_nil_of_receiptKey hkey, hrev⟩, by rw [hm']; rfl⟩ hrefused
        · exact ⟨e, htx⟩
    obtain ⟨e', hother⟩ := hother
    have hpost : Matched P C ids prints (step P C w (.remember c)).1 := by
      rw [step_remember, hanswer, hother]
      exact h
    refine .of (.of_remember hpost ?_ fun hwell _ hlookup hrev => ?_) ⟨hsuperseded, fun hun =>
      hrefused ⟨⟨hun.2.1, hun.2.2.1⟩, hun.2.2.2.2⟩⟩ hpost
    · rw [hanswer, hother]
      rfl
    · obtain ⟨key, hkey⟩ := exists_ok_of_toBool hwell.commandId
      obtain ⟨m, hm⟩ := hwell.remembered h.bound hlookup hrev
      exact absurd ⟨⟨ne_nil_of_receiptKey hkey, by omega⟩, by rw [hm]; rfl⟩ hrefused

/-- A forget whose command id has a receipt. -/
theorem forget_known (h : Matched P C ids prints w) (hc : Collisionless P ids prints)
    (hid : f.commandId ∈ ids) (hp : f.print ∈ prints) {p : Print} {result : Result}
    (hfound : Entries.find? w.inMemory.receipts f.commandId = some (p, result)) :
    Settled P C ids prints w (.forget f) := by
  obtain ⟨⟨key, hkey⟩, hpp, hsound, hdigest⟩ := h.saved _ _ _ hfound
  have hcounter := h.counterpart _ hid key hkey
  rw [hfound] at hcounter
  have hnew : ¬ New P w f.commandId := fun hnew => by
    rw [hnew.inMemory] at hfound
    cases hfound
  have hclear : Clear P C w (.forget f) := by
    constructor
    · rintro ⟨-, hnone, -⟩
      rw [hfound] at hnone
      cases hnone
    · rintro ⟨-, -, hnone, -⟩
      rw [hfound] at hnone
      cases hnone
  have hboth : (∃ b, w.inMemory.forget f = (w.inMemory, .ok b) ∧
      w.firestore.forget P C f = (w.firestore, .ok b)) ∨
      ((w.inMemory.forget f).1 = w.inMemory ∧ (w.inMemory.forget f).2.toBool = false ∧
        ∃ e, w.firestore.forget P C f = (w.firestore, .error e)) := by
    by_cases hsame : p = f.print
    · subst hsame
      obtain ⟨fingerprint, hdigest⟩ := Option.ne_none_iff_exists'.mp hdigest
      obtain ⟨b, rfl, htx⟩ :=
        Firestore.forgetTransaction_same (C := C) (r := w.firestore) hcounter hdigest
      refine .inl ⟨b, InMemory.forget_retry (ne_nil_of_receiptKey hkey) hsound hfound, ?_⟩
      rw [Firestore.forget_encoded hkey hdigest, htx]
    · refine .inr ⟨(InMemory.forget_saved hfound).1, ?_, ?_⟩
      · cases hresult : (w.inMemory.forget f).2 with
        | error e => rfl
        | ok b => exact absurd ((InMemory.forget_saved hfound).2 b hresult).1 hsame
      · by_cases hencoded : Unencoded P f.commandId f.print
        · exact Firestore.forget_unencoded hencoded
        · obtain ⟨key', fingerprint, hkey', hdigest'⟩ := encoded_of_not hencoded
          obtain rfl : key = key' := Except.ok.inj (hkey.symm.trans hkey')
          rw [Firestore.forget_encoded hkey hdigest']
          exact Firestore.forgetTransaction_other hcounter fun heq =>
            hsame (hc.digests _ hpp _ hp _ heq hdigest')
  rcases hboth with ⟨b, hanswer, hother⟩ | ⟨hidle, hanswer, e, hother⟩
  · have hpost : Matched P C ids prints (step P C w (.forget f)).1 := by
      rw [step_forget, hanswer, hother]
      exact h
    exact .of (.of_forget hpost (by rw [hanswer, hother]) fun _ hn => absurd hn hnew) hclear hpost
  · have hpost : Matched P C ids prints (step P C w (.forget f)).1 := by
      rw [step_forget, hidle, hother]
      exact h
    refine .of (.of_forget hpost ?_ fun _ hn => absurd hn hnew) hclear hpost
    rw [hanswer, hother]
    rfl

/-- A forget under a new command id: both take it at the stored revision, and the record may be
stored longer than it is shown. -/
theorem forget_fresh (h : Matched P C ids prints w) (hc : Collisionless P ids prints)
    (hid : f.commandId ∈ ids) (hp : f.print ∈ prints)
    (hnone : Entries.find? w.inMemory.receipts f.commandId = none) :
    Settled P C ids prints w (.forget f) := by
  rcases InMemory.forget_new hnone with ⟨hne, hsound, hrev, hanswer⟩ | ⟨⟨e, hanswer⟩, hwhy⟩
  · by_cases hencoded : Unencoded P f.commandId f.print
    · obtain ⟨e, hother⟩ := Firestore.forget_unencoded (C := C) (r := w.firestore) hencoded
      refine .apart (fun hagrees => ?_) fun hclear => hclear.2 ⟨hencoded, hne, hnone, hrev⟩
      have haccept : (w.inMemory.forget f).2.toBool = (w.firestore.forget P C f).2.toBool :=
        hagrees.accept
      rw [hanswer, hother] at haccept
      cases haccept
    · obtain ⟨key, fingerprint, hkey, hdigest⟩ := encoded_of_not hencoded
      have hother : w.firestore.forget P C f =
          (⟨none, Entries.set w.firestore.receipts key (w.firestore.forgotten f fingerprint)⟩,
            .ok w.firestore.document.isSome) := by
        rw [Firestore.forget_encoded hkey hdigest]
        have hfree := (h.new hid hnone).firestore key hkey
        rcases Firestore.forgetTransaction_fresh (f := f) fingerprint
          h.firestore_bound hfree with ⟨-, htx⟩ | ⟨hne, -⟩
        · exact htx
        · exact absurd (h.record ▸ hrev) hne
      have hpost : Matched P C ids prints (step P C w (.forget f)).1 := by
        rw [step_forget, hanswer, hother]
        exact h.forget hc hid hp hkey hdigest hsound
      refine .of (.of_forget hpost ?_ fun _ _ _ _ => by rw [hanswer]; rfl)
        ⟨?_, fun hun => hencoded hun.1⟩ hpost
      · rw [hanswer, hother]
        rfl
      · rintro ⟨-, -, hzero, m, hm, -⟩
        have hpos := m.revision_pos
        rw [hm, hzero] at hrev
        simp only [Option.elim_some] at hrev
        omega
  · have hother : ∃ e, w.firestore.forget P C f = (w.firestore, .error e) := by
      by_cases hencoded : Unencoded P f.commandId f.print
      · exact Firestore.forget_unencoded hencoded
      · obtain ⟨key, fingerprint, hkey, hdigest⟩ := encoded_of_not hencoded
        rw [Firestore.forget_encoded hkey hdigest]
        have hfree := (h.new hid hnone).firestore key hkey
        rcases Firestore.forgetTransaction_fresh (f := f) fingerprint
          h.firestore_bound hfree with ⟨hrev, -⟩ | ⟨-, htx⟩
        · rw [h.record] at hrev
          rcases hwhy with hwhy | hwhy
          · exact absurd hwhy (ne_nil_of_receiptKey hkey)
          · exact absurd hrev hwhy
        · exact htx
    obtain ⟨e', hother⟩ := hother
    have hpost : Matched P C ids prints (step P C w (.forget f)).1 := by
      rw [step_forget, hanswer, hother]
      exact h
    have hencodes : ¬ f.Unencodable P w := by
      rintro ⟨-, hne, -, hrev⟩
      rcases hwhy with hwhy | hwhy
      · exact hne hwhy
      · exact hwhy hrev
    by_cases hlingering : Lingering P w f
    · refine .apart (fun hagrees => ?_) fun hclear => hclear.1 hlingering
      obtain ⟨hwell, -, hzero, m, hm, hexpired⟩ := hlingering
      have hlookup : w.inMemory.lookup f.createdAt = none := by
        simp [InMemory.lookup, hm, hexpired]
      have htaken := (hagrees.forgets f rfl hlookup ((h.current _).symm.trans hlookup) hwell
        (h.new hid hnone) hzero).1
      have : (w.inMemory.forget f).2.toBool = true := htaken
      rw [hanswer] at this
      cases this
    · refine .of (.of_forget hpost ?_ fun hwell _ hlookup hzero => ?_) ⟨hlingering, hencodes⟩ hpost
      · rw [hanswer, hother]
        rfl
      · obtain ⟨key, hkey⟩ := exists_ok_of_toBool hwell.commandId
        rcases hwhy with hwhy | hwhy
        · exact absurd hwhy (ne_nil_of_receiptKey hkey)
        · obtain ⟨m, hm⟩ : ∃ m, w.inMemory.record = some m := by
            cases hrecord : w.inMemory.record with
            | none =>
              rw [hrecord] at hwhy
              exact absurd hzero hwhy
            | some m => exact ⟨m, rfl⟩
          refine absurd ⟨hwell, hnone, hzero, m, hm, ?_⟩ hlingering
          rw [InMemory.lookup, hm, Option.filter_eq_none_iff] at hlookup
          simpa using hlookup m rfl

theorem settled (h : Matched P C ids prints w) (hc : Collisionless P ids prints)
    {command : Command}
    (hids : ∀ id ∈ command.commandId?, id ∈ ids) (hprints : ∀ p ∈ command.print?, p ∈ prints) :
    Settled P C ids prints w command := by
  cases command with
  | lookup now => exact .of ⟨rfl, h.current, (fun _ h => by cases h), (fun _ h => by cases h)⟩ trivial h
  | remember c =>
    cases hfound : Entries.find? w.inMemory.receipts c.commandId with
    | none => exact h.remember_fresh hc (hids _ rfl) (hprints _ rfl) hfound
    | some e => exact h.remember_known hc (hids _ rfl) (hprints _ rfl) hfound
  | forget f =>
    cases hfound : Entries.find? w.inMemory.receipts f.commandId with
    | none => exact h.forget_fresh hc (hids _ rfl) (hprints _ rfl) hfound
    | some e => exact h.forget_known hc (hids _ rfl) (hprints _ rfl) hfound

end Matched

/-! ## Forgetting is final -/

theorem step_keeps {id : Str} {e : Print × Result} (command : Command)
    (h : Entries.find? w.inMemory.receipts id = some e) :
    Entries.find? (step P C w command).1.inMemory.receipts id = some e ∨
      Entries.find? (step P C w command).1.inMemory.receipts id = some (e.1, e.2.erase) := by
  cases command with
  | lookup now => exact .inl h
  | remember c => exact .inl (InMemory.remember_keeps h)
  | forget f => exact InMemory.forget_keeps h

theorem step_keeps_firestore {key : Str} (command : Command)
    (h : Entries.find? w.firestore.receipts key ≠ none) :
    Entries.find? (step P C w command).1.firestore.receipts key ≠ none := by
  cases command with
  | lookup now => exact h
  | remember c => exact Firestore.remember_keeps h
  | forget f => exact Firestore.forget_keeps h

/-- The first repository has a receipt of this command id, and no memory in it. -/
def Erased (id : Str) (w : World) : Prop :=
  ∃ p result, Entries.find? w.inMemory.receipts id = some (p, result) ∧ ∀ m, result ≠ .memory m

theorem Result.erase_ne_memory (r : Result) (m : CustomerMemory) : r.erase ≠ .memory m := by
  cases r <;> exact fun h => by cases h

theorem Erased.stays {id : Str} (h : Erased id w) (command : Command) :
    Erased id (step P C w command).1 := by
  obtain ⟨p, result, hfound, hne⟩ := h
  rcases step_keeps (P := P) (C := C) command hfound with h | h
  · exact ⟨p, result, h, hne⟩
  · exact ⟨p, result.erase, h, result.erase_ne_memory⟩

theorem Erased.of_forget {id : Str} (hid : Entries.find? w.inMemory.receipts id ≠ none)
    (hnone : Entries.find? w.inMemory.receipts f.commandId = none)
    (htaken : (w.inMemory.forget f).2.toBool = true) :
    Erased id (step P C w (.forget f)).1 ∧
      (step P C w (.forget f)).1.inMemory.record = none := by
  rcases InMemory.forget_new hnone with ⟨-, -, -, hanswer⟩ | ⟨⟨e, hanswer⟩, -⟩
  · obtain ⟨e, he⟩ := Option.ne_none_iff_exists'.mp hid
    have hne : f.commandId ≠ id := fun heq => hid (heq ▸ hnone)
    rw [step_forget, hanswer]
    refine ⟨⟨e.1, e.2.erase, ?_, e.2.erase_ne_memory⟩, rfl⟩
    rw [InMemory.forgotten, Entries.find?_set, if_neg hne, InMemory.find?_erased, he]
    rfl
  · rw [hanswer] at htaken
    cases htaken

theorem final (w : World) (commands : List Command) :
    Final P ((step P C).log w commands) where
  inMemory := by
    intro l₁ a l₂ f l₃ e l₄ c g d hlog hcall htaken hforget hforgot hnone hretry hsame
    have hfront : (step P C).log w commands = l₁ ++ a :: l₂ ++ f :: (l₃ ++ e :: l₄) := by
      rw [hlog, List.append_assoc]
      rfl
    have ha := (step P C).eq_of_mem_log (show a ∈ (step P C).log w commands by simp [hlog])
    have hf := (step P C).eq_of_mem_log (show f ∈ (step P C).log w commands by simp [hlog])
    have he := (step P C).eq_of_mem_log (show e ∈ (step P C).log w commands by simp [hlog])
    rw [ha.1, hcall] at htaken
    rw [hf.1, hforget] at hforgot
    have hknown : Entries.find? f.pre.inMemory.receipts c.commandId ≠ none := by
      refine (step P C).log_between
        (I := fun w => Entries.find? w.inMemory.receipts c.commandId ≠ none) (G := fun _ => True)
        (fun w command h _ => ?_) hfront ?_ fun _ _ => trivial
      · obtain ⟨saved, hsaved⟩ := Option.ne_none_iff_exists'.mp h
        rcases step_keeps (P := P) (C := C) command hsaved with h | h <;> rw [h] <;>
          exact fun hm => by cases hm
      · rw [ha.2, hcall]
        exact InMemory.remember_receipt htaken
    obtain ⟨herased, hrecord⟩ := Erased.of_forget (P := P) (C := C) hknown hnone hforgot
    rw [← hforget, ← hf.2] at herased hrecord
    obtain ⟨p, result, hfound, hne⟩ := (step P C).log_between (I := Erased c.commandId)
      (G := fun _ => True) (fun w command h _ => h.stays command) hlog herased fun _ _ => trivial
    rw [← hsame] at hfound
    obtain ⟨hidle, hanswer⟩ := InMemory.remember_saved (P := P) (C := C) hfound
    rw [he.1, he.2, hretry, step_remember]
    refine ⟨hrecord, hidle, ?_⟩
    cases hresult : (e.pre.inMemory.remember P C d).2 with
    | error _ => rfl
    | ok m => exact absurd (hanswer m hresult).2 (hne m)
  firestore := by
    intro l₁ a l₂ f l₃ e l₄ c g d key hlog hcall htaken hforget hforgot hkey hnone hretry hsame
    have hback : (step P C).log w commands = l₁ ++ a :: (l₂ ++ f :: l₃) ++ e :: l₄ := by
      rw [hlog]
      simp
    have ha := (step P C).eq_of_mem_log (show a ∈ (step P C).log w commands by simp [hlog])
    have hf := (step P C).eq_of_mem_log (show f ∈ (step P C).log w commands by simp [hlog])
    have he := (step P C).eq_of_mem_log (show e ∈ (step P C).log w commands by simp [hlog])
    rw [ha.1, hcall] at htaken
    rw [hf.1, hforget] at hforgot
    obtain ⟨name, hname, hreceipt⟩ := Firestore.remember_receipt htaken
    have hknown := (step P C).log_between
      (I := fun w => Entries.find? w.firestore.receipts name ≠ none) (G := fun _ => True)
      (fun w command h _ => step_keeps_firestore command h) hback
      (by rw [ha.2, hcall]; exact hreceipt) fun _ _ => trivial
    obtain ⟨hidle, hshown⟩ := Firestore.remember_known (C := C) (hsame ▸ hname) hknown
    rw [he.1, he.2, hf.2, hforget, hretry]
    refine ⟨Firestore.forget_document hforgot hkey hnone, hidle, ?_⟩
    intro m hm
    exact hshown m (Reply.remembered.inj hm)

/-! ## Every run -/

def exampleCustomer : Customer where
  contractorId := py "contractor-1"
  customerKey := List.replicate 64 (digit 7)
  contractor_ne := by decide
  key_ne := by decide

def exampleTime (minute : ℕ) : Time := ⟨.ofMinutes minute, rfl⟩

end HeyKevin.L11.Memory
