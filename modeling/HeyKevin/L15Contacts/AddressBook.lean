import HeyKevin.L1Encoding.JsonReader
import HeyKevin.L1Encoding.Value
import Mathlib.Data.List.Nodup
import Mathlib.Data.Nat.Digits.Lemmas
import Mathlib.Data.String.Basic
/-!
# An owner's address book

mirrors `read_address_book` of app/utils/phone.py: every number is read as a
number of the home country, or as one of the second country that most of the
address book is written in. The counts that decide on the second country are
handed from one request of a sync to the next.

**Model.** Parsing, validity and the regions of numbers are functions of the
library that the source calls; E.164 is `+`, the calling code and the national
number with its leading zeros.

* `foldl_count_perm`: the counts do not depend on the order of the numbers.
* `priorCounts_countsValue`: counts are read back as they were handed on.
* `readAddressBook_split`, `readAddressBook_perm`: **a sync reads the same**
  however it is cut, and decides the same in any order.
* `addressBook_iff`: what holds of the entries, exactly where no number without
  a plus sign is read twice as the same; `readTwice_dialed` says which are.

Line numbers are those of app/utils/phone.py.
-/
namespace HeyKevin.L15

open HeyKevin.Core L1 L1.Text

/-! ## Numbers -/

/-- `phonenumbers.PhoneNumber`, of the fields that E.164 is made of -/
structure PhoneNumber where
  countryCode : ℕ
  nationalNumber : ℕ
  leadingZeros : ℕ
deriving DecidableEq

/-- The library for phone numbers, and `unicodedata`. -/
structure Phones where
  /-- `unicodedata.category(ch) == "Cf"` -/
  isFormat : CodePoint → Bool
  /-- `phonenumbers.parse(number, region)`; nothing where it raises -/
  parse : Str → Option String → Option PhoneNumber
  isValidNumber : PhoneNumber → Bool
  regionCodeForNumber : PhoneNumber → Option String
  countryCodeForRegion : String → ℕ
  /-- `region in SUPPORTED_REGIONS` -/
  isSupported : String → Bool

variable (P : Phones)

/-- mirrors 38-41 -/
def clean (raw : Str) : Str := strip (raw.filter fun ch => !P.isFormat ch)

/-- `_lead(number) == "plus"`. mirrors 44-54 -/
def isExplicit (number : Str) : Bool :=
  match number with
  | c :: _ => c.val == 0x2b || c.val == 0xff0b
  | [] => false

/-- mirrors 122-127 -/
def countryOf (e164Number : Str) : Option String :=
  (P.parse e164Number none).bind P.regionCodeForNumber

def BRAZIL : ℕ := 55

/-- `national[2]` of ten digits -/
def thirdDigit (national : ℕ) : ℕ := national / 10 ^ 7 % 10

/-- The number with a 9 behind its area code. mirrors 143-156
(`_brazil_ninth_digit`) -/
def brazilNinthDigit (parsed : PhoneNumber) : Option PhoneNumber :=
  if parsed.countryCode = BRAZIL ∧ 10 ^ 9 ≤ parsed.nationalNumber ∧
      parsed.nationalNumber < 10 ^ 10 ∧ thirdDigit parsed.nationalNumber ∈ [6, 7, 8, 9] then
    let upgraded : PhoneNumber :=
      ⟨BRAZIL, parsed.nationalNumber / 10 ^ 8 * 10 ^ 9 + 9 * 10 ^ 8 +
        parsed.nationalNumber % 10 ^ 8, 0⟩
    if P.isValidNumber upgraded then some upgraded else none
  else none

/-- `+` and the calling code -/
def callingPrefix (code : ℕ) : Str := 0x2b :: decimal code

/-- mirrors 159-160 -/
def e164 (n : PhoneNumber) : Str :=
  callingPrefix n.countryCode ++ (List.replicate n.leadingZeros (digit 0) ++
    decimal n.nationalNumber)

/-- mirrors 163-178 -/
def read (number : Str) (region : String) : List Str × Bool :=
  match P.parse number (some region) with
  | none => ([], false)
  | some parsed =>
    if P.isValidNumber parsed then
      match brazilNinthDigit P parsed with
      | some upgraded =>
        if thirdDigit parsed.nationalNumber = 7 then ([e164 parsed, e164 upgraded], true)
        else ([e164 parsed], false)
      | none => ([e164 parsed], false)
    else
      match brazilNinthDigit P parsed with
      | some upgraded => ([e164 upgraded], true)
      | none => ([], false)

/-! ## Counts -/

structure Counts where
  coded : Entries String ℕ
  home : ℕ

/-- mirrors 181-194 -/
def priorCounts (prior : Value) : Counts :=
  match prior with
  | .dict prior =>
    let coded :=
      match Dict.get prior "coded" with
      | .dict coded => coded.filterMap fun entry =>
          match entry.2 with
          | .number (.int count) => if 0 < count then some (entry.1, count.toNat) else none
          | _ => none
      | _ => []
    let home :=
      match Dict.get prior "home" with
      | .number (.int home) => if home < 0 then 0 else home.toNat
      | _ => 0
    ⟨Entries.update [] coded, home⟩
  | _ => ⟨[], 0⟩

/-- `{"coded": dict(coded), "home": home_count}` -/
def countsValue (c : Counts) : Value :=
  .dict [("coded", .dict (c.coded.map fun entry => (entry.1, .int entry.2))), ("home", .int c.home)]

/-- `readings[0].startswith(home_prefix)` -/
def isHome (homeRegion : String) (reading : Str) : Bool :=
  (callingPrefix (P.countryCodeForRegion homeRegion)).isPrefixOf reading

/-- `coded[country] += 1` -/
def bump (coded : Entries String ℕ) (country : String) : Entries String ℕ :=
  coded.set country ((coded.find? country).getD 0 + 1)

/-- What one number adds to the counts. mirrors 242-250 -/
def count (homeRegion : String) (c : Counts) (number : Str) : Counts :=
  match (read P number homeRegion).1 with
  | [] => c
  | reading :: _ =>
    if isHome P homeRegion reading then { c with home := c.home + 1 }
    else if isExplicit number then
      match countryOf P reading with
      | some country =>
        if P.isSupported country then { c with coded := bump c.coded country } else c
      | none => c
    else c

def SECOND_COUNTRY_MIN : ℕ := 3

/-- `(-count, country)` in order -/
def ranksBefore (a b : String × ℕ) : Bool :=
  decide (b.2 < a.2) || (a.2 == b.2 && decide (a.1 ≤ b.1))

/-- The country that most numbers are written for, if enough are, and whether it dominates.
mirrors 251-253 -/
def secondCountry (c : Counts) : Option String × Bool :=
  match c.coded.mergeSort ranksBefore with
  | [] => (none, false)
  | (country, count) :: _ =>
    if SECOND_COUNTRY_MIN ≤ count then (some country, decide (c.home < count)) else (none, false)

/-! ## The address book -/

structure Entry where
  readings : List Str
  tookNine : Bool
  asHome : Bool
  asSecond : Bool

/-- mirrors 258-274 -/
def readEntry (homeRegion : String) (second : Option String × Bool) (number : Str) : Entry :=
  let (readings, tookNine) := read P number homeRegion
  let home : Entry := ⟨readings, tookNine, !readings.isEmpty, false⟩
  match second.1 with
  | none => home
  | some country =>
    if !isExplicit number && (readings.isEmpty ||
        (second.2 && (readings.head?.any fun reading => isHome P homeRegion reading))) then
      -- a number read at home is read both ways
      let (alternatives, alternativesTookNine) := read P number country
      if alternatives.isEmpty then home
      else ⟨readings ++ alternatives, tookNine || alternativesTookNine, !readings.isEmpty, true⟩
    else home

structure AddressBook where
  readings : List (List Str)
  secondCountry : Option String
  ninthDigit : ℕ
  asSecondCountry : ℕ
  bothWays : ℕ
  counts : Value

/-- mirrors 209-275 -/
def readAddressBook (numbers : List Str) (homeRegion : String) (prior : Value) : AddressBook :=
  let cleaned := numbers.map (clean P)
  let counts := cleaned.foldl (count P homeRegion) (priorCounts prior)
  let second := secondCountry counts
  let entries := cleaned.map (readEntry P homeRegion second)
  { readings := entries.map Entry.readings
    secondCountry := second.1
    ninthDigit := entries.countP Entry.tookNine
    asSecondCountry := entries.countP fun e => e.asSecond && !e.asHome
    bothWays := entries.countP fun e => e.asSecond && e.asHome
    counts := countsValue counts }

/-! ## Counting -/

section

variable {P} {homeRegion : String} {c c' : Counts}

structure WellFormed (c : Counts) : Prop where
  nodup : c.coded.keys.Nodup
  positive : ∀ entry ∈ c.coded, 0 < entry.2

structure SameCounts (c c' : Counts) : Prop where
  coded : ∀ country, c.coded.find? country = c'.coded.find? country
  home : c.home = c'.home

def contribution (P : Phones) (homeRegion : String) (number : Str) : Option (Option String) :=
  match (read P number homeRegion).1 with
  | [] => none
  | reading :: _ =>
    if isHome P homeRegion reading then some none
    else if isExplicit number then
      match countryOf P reading with
      | some country => if P.isSupported country then some (some country) else none
      | none => none
    else none

def add (c : Counts) : Option (Option String) → Counts
  | none => c
  | some none => { c with home := c.home + 1 }
  | some (some country) => { c with coded := bump c.coded country }

theorem count_eq (c : Counts) (number : Str) :
    count P homeRegion c number = add c (contribution P homeRegion number) := by
  unfold count contribution
  repeat' split
  all_goals rfl

theorem find?_bump (coded : Entries String ℕ) (country k : String) :
    (bump coded country).find? k =
      if country = k then some ((coded.find? country).getD 0 + 1) else coded.find? k :=
  Entries.find?_set coded country k _

theorem add_congr (h : SameCounts c c') (x : Option (Option String)) :
    SameCounts (add c x) (add c' x) := by
  cases x with
  | none => exact h
  | some x =>
    cases x with
    | none => exact ⟨h.coded, congrArg (· + 1) h.home⟩
    | some country =>
      refine ⟨fun k => ?_, h.home⟩
      simp only [add, find?_bump, h.coded]

theorem add_comm (c : Counts) (x y : Option (Option String)) :
    SameCounts (add (add c x) y) (add (add c y) x) := by
  cases x with
  | none => exact ⟨fun _ => rfl, rfl⟩
  | some x =>
    cases y with
    | none => exact ⟨fun _ => rfl, rfl⟩
    | some y =>
      cases x with
      | none => cases y <;> exact ⟨fun _ => rfl, rfl⟩
      | some x =>
        cases y with
        | none => exact ⟨fun _ => rfl, rfl⟩
        | some y =>
          refine ⟨fun k => ?_, rfl⟩
          simp only [add, find?_bump]
          by_cases hx : x = k
          · by_cases hy : y = k
            · rw [hx, hy]
            · simp [hx, hy]
          · by_cases hy : y = k
            · simp [hx, hy]
            · simp [hx, hy]

/-- **The counts do not depend on the order** of the numbers. -/
theorem foldl_count_perm {numbers numbers' : List Str} (h : numbers.Perm numbers') :
    ∀ {c c'}, SameCounts c c' →
      SameCounts (numbers.foldl (count P homeRegion) c)
        (numbers'.foldl (count P homeRegion) c') := by
  induction h with
  | nil => exact fun hsame => hsame
  | cons number _ ih =>
    intro c c' hsame
    rw [List.foldl_cons, List.foldl_cons, count_eq, count_eq]
    exact ih (add_congr hsame _)
  | swap a b numbers =>
    intro c c' hsame
    simp only [List.foldl_cons, count_eq]
    have hstart : SameCounts (add (add c (contribution P homeRegion b))
        (contribution P homeRegion a)) (add (add c' (contribution P homeRegion a))
          (contribution P homeRegion b)) := by
      have hswap := add_comm c' (contribution P homeRegion b) (contribution P homeRegion a)
      have hcongr := add_congr (add_congr hsame (contribution P homeRegion b))
        (contribution P homeRegion a)
      exact ⟨fun k => (hcongr.coded k).trans (hswap.coded k), hcongr.home.trans hswap.home⟩
    have hrest : ∀ (rest : List Str) {d d' : Counts}, SameCounts d d' →
        SameCounts (rest.foldl (count P homeRegion) d) (rest.foldl (count P homeRegion) d') := by
      intro rest
      induction rest with
      | nil => exact fun hsame => hsame
      | cons number rest ih =>
        intro d d' hsame
        rw [List.foldl_cons, List.foldl_cons, count_eq, count_eq]
        exact ih (add_congr hsame _)
    exact hrest numbers hstart
  | trans _ _ ih₁ ih₂ =>
    intro c c' hsame
    have hfirst := ih₁ hsame
    have hsecond := ih₂ (⟨fun _ => rfl, rfl⟩ : SameCounts c' c')
    exact ⟨fun k => (hfirst.coded k).trans (hsecond.coded k), hfirst.home.trans hsecond.home⟩

theorem mem_set {d : Entries String ℕ} {k : String} {v : ℕ} {x : String × ℕ} (h : x ∈ d.set k v) :
    x = (k, v) ∨ x ∈ d := by
  induction d with
  | nil => exact .inl (List.mem_singleton.mp h)
  | cons entry d ih =>
    obtain ⟨a, w⟩ := entry
    rw [Entries.set] at h
    split at h
    · rcases List.mem_cons.mp h with rfl | h
      · exact .inl rfl
      · exact .inr (List.mem_cons_of_mem _ h)
    · rcases List.mem_cons.mp h with rfl | h
      · exact .inr List.mem_cons_self
      · exact (ih h).imp_right (List.mem_cons_of_mem _)

theorem count_wellFormed (h : WellFormed c) (number : Str) :
    WellFormed (count P homeRegion c number) := by
  rw [count_eq]
  cases contribution P homeRegion number with
  | none => exact h
  | some x =>
    cases x with
    | none => exact ⟨h.nodup, h.positive⟩
    | some country =>
      refine ⟨Entries.nodup_keys_set h.nodup _ _, fun entry hentry => ?_⟩
      rcases mem_set hentry with rfl | hin
      · exact Nat.succ_pos _
      · exact h.positive entry hin

theorem foldl_wellFormed (numbers : List Str) (h : WellFormed c) :
    WellFormed (numbers.foldl (count P homeRegion) c) := by
  induction numbers generalizing c with
  | nil => exact h
  | cons number numbers ih => exact ih (count_wellFormed h number)

/-! ## Handing the counts on -/

theorem update_wellFormed {entries d : Entries String ℕ} {home : ℕ} (hd : WellFormed ⟨d, home⟩)
    (hpositive : ∀ entry ∈ entries, 0 < entry.2) : WellFormed ⟨d.update entries, home⟩ := by
  induction entries generalizing d with
  | nil => exact hd
  | cons entry entries ih =>
    obtain ⟨hfirst, hrest⟩ := List.forall_mem_cons.mp hpositive
    obtain ⟨k, v⟩ := entry
    rw [Entries.update_cons]
    refine ih ⟨Entries.nodup_keys_set hd.nodup _ _, fun entry hentry => ?_⟩ hrest
    rcases mem_set hentry with rfl | hin
    · exact hfirst
    · exact hd.positive entry hin

theorem wellFormed_empty (home : ℕ) : WellFormed ⟨[], home⟩ := ⟨.nil, List.forall_mem_nil _⟩

theorem priorCounts_wellFormed (prior : Value) : WellFormed (priorCounts prior) := by
  unfold priorCounts
  split
  · refine update_wellFormed (wellFormed_empty _) fun entry hentry => ?_
    split at hentry
    · obtain ⟨given, -, hgiven⟩ := List.mem_filterMap.mp hentry
      split at hgiven
      · split at hgiven
        · cases hgiven
          simp only
          omega
        · cases hgiven
      · cases hgiven
    · cases hentry
  · exact wellFormed_empty 0

theorem update_nil_eq {entries d : Entries String ℕ} (h : (d ++ entries).keys.Nodup) :
    d.update entries = d ++ entries := by
  induction entries generalizing d with
  | nil => rw [Entries.update_nil, List.append_nil]
  | cons entry entries ih =>
    obtain ⟨k, v⟩ := entry
    have hnone : d.find? k = none := by
      rw [← Option.not_isSome_iff_eq_none, ← Entries.mem_keys]
      intro hin
      rw [Entries.keys, List.map_append, List.map_cons] at h
      exact (List.nodup_append.mp h).2.2 k hin k List.mem_cons_self rfl
    rw [Entries.update_cons, Entries.set_of_find?_none hnone, ih, List.append_assoc,
      List.singleton_append]
    rw [List.append_assoc, List.singleton_append]
    exact h

/-- **Counts are read back** as they were handed on. -/
theorem priorCounts_countsValue (h : WellFormed c) : priorCounts (countsValue c) = c := by
  have hcoded : (c.coded.map fun entry => (entry.1, Value.int (entry.2 : ℤ))).filterMap
      (fun entry : String × Value =>
        match entry.2 with
        | .number (.int count) => if 0 < count then some (entry.1, count.toNat) else none
        | _ => none) = c.coded := by
    rw [List.filterMap_map]
    refine (List.filterMap_congr fun entry hentry => ?_).trans List.filterMap_some
    have hpos : (0 : ℤ) < entry.2 := by
      exact_mod_cast h.positive entry hentry
    simp only [Function.comp, Value.int, if_pos hpos, Int.toNat_natCast]
  have hupdate : Entries.update [] c.coded = c.coded := by
    rw [update_nil_eq (by rw [List.nil_append]; exact h.nodup), List.nil_append]
  have hread : priorCounts (countsValue c) = ⟨Entries.update [] ((c.coded.map fun entry =>
      (entry.1, Value.int (entry.2 : ℤ))).filterMap (fun entry : String × Value =>
        match entry.2 with
        | .number (.int count) => if 0 < count then some (entry.1, count.toNat) else none
        | _ => none)), if (c.home : ℤ) < 0 then 0 else (c.home : ℤ).toNat⟩ := rfl
  rw [hread, hcoded, hupdate, if_neg (not_lt.mpr (Int.natCast_nonneg _)), Int.toNat_natCast]

/-! ## The second country -/

theorem mem_coded {entry : String × ℕ} (h : WellFormed c) :
    entry ∈ c.coded ↔ c.coded.find? entry.1 = some entry.2 :=
  ⟨fun hin => Entries.find?_of_mem h.nodup hin, fun hfind => Entries.mem_of_find? hfind⟩

theorem perm_of_same (h : WellFormed c) (h' : WellFormed c') (hsame : SameCounts c c') :
    c.coded.Perm c'.coded := by
  refine (List.perm_ext_iff_of_nodup (List.Nodup.of_map Prod.fst h.nodup)
    (List.Nodup.of_map Prod.fst h'.nodup)).mpr fun entry => ?_
  rw [mem_coded h, mem_coded h', hsame.coded]

theorem ranksBefore_trans (a b d : String × ℕ) (hab : ranksBefore a b = true)
    (hbd : ranksBefore b d = true) : ranksBefore a d = true := by
  simp only [ranksBefore, Bool.or_eq_true, Bool.and_eq_true, decide_eq_true_eq, beq_iff_eq] at *
  rcases hab with hab | ⟨hab, hab'⟩
  · rcases hbd with hbd | ⟨hbd, -⟩
    · exact .inl (hbd.trans hab)
    · exact .inl (hbd ▸ hab)
  · rcases hbd with hbd | ⟨hbd, hbd'⟩
    · exact .inl (hab ▸ hbd)
    · exact .inr ⟨hab.trans hbd, hab'.trans hbd'⟩

theorem ranksBefore_total (a b : String × ℕ) : (ranksBefore a b || ranksBefore b a) = true := by
  simp only [ranksBefore, Bool.or_eq_true, Bool.and_eq_true, decide_eq_true_eq, beq_iff_eq]
  rcases lt_trichotomy a.2 b.2 with hlt | heq | hgt
  · exact .inr (.inl hlt)
  · rcases le_total a.1 b.1 with hle | hle
    · exact .inl (.inr ⟨heq, hle⟩)
    · exact .inr (.inr ⟨heq.symm, hle⟩)
  · exact .inl (.inl hgt)

theorem ranksBefore_antisymm {a b : String × ℕ} (hab : ranksBefore a b = true)
    (hba : ranksBefore b a = true) : a = b := by
  simp only [ranksBefore, Bool.or_eq_true, Bool.and_eq_true, decide_eq_true_eq, beq_iff_eq] at *
  rcases hab with hab | ⟨heq, hab⟩
  · rcases hba with hba | ⟨heq, -⟩
    · exact absurd hba (lt_asymm hab)
    · exact absurd hab (heq ▸ lt_irrefl _)
  · rcases hba with hba | ⟨-, hba⟩
    · exact absurd hba (heq ▸ lt_irrefl _)
    · exact Prod.ext (le_antisymm hab hba) heq

theorem secondCountry_congr (h : WellFormed c) (h' : WellFormed c') (hsame : SameCounts c c') :
    secondCountry c = secondCountry c' := by
  have hsort : c.coded.mergeSort ranksBefore = c'.coded.mergeSort ranksBefore := by
    have hsorted : ∀ coded : Entries String ℕ,
        (coded.mergeSort ranksBefore).Pairwise fun a b => ranksBefore a b = true :=
      List.pairwise_mergeSort ranksBefore_trans ranksBefore_total
    have hperm := ((List.mergeSort_perm c.coded ranksBefore).trans (perm_of_same h h' hsame)).trans
      (List.mergeSort_perm c'.coded ranksBefore).symm
    exact hperm.eq_of_pairwise (fun a b _ _ => ranksBefore_antisymm) (hsorted _) (hsorted _)
  unfold secondCountry
  rw [hsort, hsame.home]

end

/-! ## One sync -/

structure Request where
  numbers : List Str
  prior : Value

def Request.book (homeRegion : String) (r : Request) : AddressBook :=
  readAddressBook P r.numbers homeRegion r.prior

def sync (homeRegion : String) : Value → List (List Str) → List Request
  | _, [] => []
  | prior, numbers :: rest =>
    ⟨numbers, prior⟩ :: sync homeRegion (readAddressBook P numbers homeRegion prior).counts rest

def countsOf (homeRegion : String) (numbers : List Str) (prior : Value) : Counts :=
  (numbers.map (clean P)).foldl (count P homeRegion) (priorCounts prior)

section

variable {P} {homeRegion : String}

theorem countsOf_wellFormed (numbers : List Str) (prior : Value) :
    WellFormed (countsOf P homeRegion numbers prior) :=
  foldl_wellFormed _ (priorCounts_wellFormed prior)

theorem countsOf_append (first rest : List Str) (prior : Value) :
    countsOf P homeRegion (first ++ rest) prior =
      countsOf P homeRegion rest (readAddressBook P first homeRegion prior).counts := by
  have hcounts : priorCounts (readAddressBook P first homeRegion prior).counts =
      countsOf P homeRegion first prior := priorCounts_countsValue (countsOf_wellFormed first prior)
  rw [countsOf, countsOf, hcounts, List.map_append, List.foldl_append]
  rfl

theorem book_eq (numbers : List Str) (prior : Value) :
    (readAddressBook P numbers homeRegion prior).counts =
        countsValue (countsOf P homeRegion numbers prior) ∧
      (readAddressBook P numbers homeRegion prior).secondCountry =
        (secondCountry (countsOf P homeRegion numbers prior)).1 ∧
      (readAddressBook P numbers homeRegion prior).readings = numbers.map fun number =>
        (readEntry P homeRegion (secondCountry (countsOf P homeRegion numbers prior))
          (clean P number)).readings := by
  refine ⟨rfl, rfl, ?_⟩
  simp only [readAddressBook, List.map_map]
  rfl

/-- **A sync reads the same however it is cut**: the last request has the counts and the second
country of one request with all numbers, and reads its own numbers the same. -/
theorem readAddressBook_split {chunks : List (List Str)} {last : Request} :
    ∀ {prior}, (sync P homeRegion prior chunks).getLast? = some last →
      ∃ earlier, chunks.flatten = earlier ++ last.numbers ∧
        (last.book P homeRegion).counts =
          (readAddressBook P chunks.flatten homeRegion prior).counts ∧
        (last.book P homeRegion).secondCountry =
          (readAddressBook P chunks.flatten homeRegion prior).secondCountry ∧
        (last.book P homeRegion).readings =
          (readAddressBook P chunks.flatten homeRegion prior).readings.drop earlier.length := by
  induction chunks with
  | nil =>
    intro prior h
    cases h
  | cons numbers rest ih =>
    intro prior h
    rw [sync] at h
    cases hrest : rest with
    | nil =>
      rw [hrest, sync] at h
      cases h
      refine ⟨[], ?_, ?_⟩
      · simp
      · simp [Request.book]
    | cons next others =>
      have hne : sync P homeRegion (readAddressBook P numbers homeRegion prior).counts rest
          ≠ [] := by
        rw [hrest, sync]
        exact List.cons_ne_nil _ _
      rw [List.getLast?_cons, List.getLast?_eq_some_getLast hne, Option.getD_some] at h
      have hlast : (sync P homeRegion (readAddressBook P numbers homeRegion prior).counts
          rest).getLast? = some last := by
        rw [List.getLast?_eq_some_getLast hne, ← h]
      obtain ⟨earlier, hflatten, hcounts, hsecond, hreadings⟩ := ih hlast
      rw [← hrest, List.flatten_cons]
      obtain ⟨hcountsEq, hsecondEq, hreadingsEq⟩ := @book_eq P homeRegion
        (numbers ++ rest.flatten) prior
      obtain ⟨hcountsRest, hsecondRest, hreadingsRest⟩ := @book_eq P homeRegion
        rest.flatten
        (readAddressBook P numbers homeRegion prior).counts
      rw [countsOf_append] at hcountsEq hsecondEq hreadingsEq
      refine ⟨numbers ++ earlier, by rw [hflatten, List.append_assoc], ?_, ?_, ?_⟩
      · rw [hcounts, hcountsEq, hcountsRest]
      · rw [hsecond, hsecondEq, hsecondRest]
      · have hdrop : ∀ (xs ys : List (List Str)), xs.length = numbers.length →
            (xs ++ ys).drop (numbers.length + earlier.length) = ys.drop earlier.length := by
          intro xs ys hlength
          rw [← hlength, List.drop_append, List.drop_eq_nil_of_le (Nat.le_add_right _ _),
            List.nil_append, Nat.add_sub_cancel_left]
        rw [hreadings, hreadingsEq, hreadingsRest, List.map_append, List.length_append,
          hdrop _ _ (List.length_map _)]

/-- **In any order** of the numbers a sync comes to the same counts and second country. -/
theorem readAddressBook_perm {numbers numbers' : List Str} (h : numbers.Perm numbers')
    (prior : Value) :
    SameCounts (countsOf P homeRegion numbers prior) (countsOf P homeRegion numbers' prior) ∧
      (readAddressBook P numbers homeRegion prior).secondCountry =
        (readAddressBook P numbers' homeRegion prior).secondCountry := by
  have hsame : SameCounts (countsOf P homeRegion numbers prior)
      (countsOf P homeRegion numbers' prior) :=
    foldl_count_perm (h.map _) ⟨fun _ => rfl, rfl⟩
  refine ⟨hsame, ?_⟩
  rw [(book_eq numbers prior).2.1, (book_eq numbers' prior).2.1,
    secondCountry_congr (countsOf_wellFormed _ _) (countsOf_wellFormed _ _) hsame]

end

/-! ## The entries -/

/-- The reading of one entry: the readings at home first, then those of the second country, of a
number without a plus sign only, and none of them twice. -/
structure EntryRead (homeRegion : String) (second : Option String) (number : Str)
    (readings : List Str) : Prop where
  home : ∃ added, readings = (read P number homeRegion).1 ++ added ∧
    (added ≠ [] → isExplicit number = false ∧ ∃ country ∈ second,
      added = (read P number country).1)
  nodup : readings.Nodup

/-- More numbers are written for this country than for any other, ties to the alphabetically first,
and more than are read at home; and enough are. -/
def Dominates (c : Counts) (country : String) : Prop :=
  ∃ n, (country, n) ∈ c.coded ∧ SECOND_COUNTRY_MIN ≤ n ∧ c.home < n ∧
    ∀ other ∈ c.coded, ranksBefore (country, n) other = true

/-- A number without a plus sign that is read at home is read in a country that dominates as a
number that it is at home, too. -/
def ReadTwice (homeRegion : String) (c : Counts) (number : Str) : Prop :=
  isExplicit number = false ∧
    ((read P number homeRegion).1.head?.any fun reading => isHome P homeRegion reading) = true ∧
    ∃ country, Dominates c country ∧ ∃ reading ∈ (read P number homeRegion).1,
      reading ∈ (read P number country).1

section

variable {P} {homeRegion : String}

theorem decimal_head {n : ℕ} (h : 0 < n) (s : Str) : decimal n ≠ digit 0 :: s := by
  obtain ⟨m, rfl⟩ := Nat.exists_eq_succ_of_ne_zero h.ne'
  exact Json.digits_ne_zero_cons (Nat.succ_pos m) s

theorem lt_upgraded (n : ℕ) {unit : ℕ} (h : 0 < unit) :
    n < n / unit * (10 * unit) + 9 * unit + n % unit := by
  have hsplit := Nat.div_add_mod n unit
  have hmul : n / unit * (10 * unit) = 10 * (unit * (n / unit)) := by ring
  omega

theorem e164_upgraded_ne {parsed upgraded : PhoneNumber}
    (h : brazilNinthDigit P parsed = some upgraded) : e164 parsed ≠ e164 upgraded := by
  have hupgraded : upgraded.countryCode = parsed.countryCode ∧ upgraded.leadingZeros = 0 ∧
      parsed.nationalNumber < upgraded.nationalNumber := by
    unfold brazilNinthDigit at h
    split at h
    · rename_i hold
      simp only at h
      split at h
      · cases h
        refine ⟨hold.1.symm, rfl, ?_⟩
        have hlt := lt_upgraded parsed.nationalNumber
          (Nat.pow_pos (by decide : 0 < 10) : 0 < 10 ^ 8)
        rw [show (10 : ℕ) * 10 ^ 8 = 10 ^ 9 from rfl] at hlt
        exact hlt
      · cases h
    · cases h
  obtain ⟨hcode, hzeros, hlt⟩ := hupgraded
  rw [e164, e164, hcode, hzeros]
  intro heq
  have heq := List.append_cancel_left heq
  rw [List.replicate_zero, List.nil_append] at heq
  cases hown : parsed.leadingZeros with
  | zero =>
    rw [hown, List.replicate_zero, List.nil_append] at heq
    exact hlt.ne (Int.ofNat.inj (decimal_injective heq))
  | succ zeros =>
    rw [hown, List.replicate_succ, List.cons_append] at heq
    exact decimal_head (Nat.zero_lt_of_lt hlt) _ heq.symm

theorem nodup_read (number : Str) (region : String) : (read P number region).1.Nodup := by
  unfold read
  split
  · exact .nil
  · split
    · split
      · rename_i upgraded hupgraded
        split
        · exact List.nodup_cons.mpr ⟨by
            rw [List.mem_singleton]
            exact e164_upgraded_ne hupgraded, List.nodup_singleton _⟩
        · exact List.nodup_singleton _
      · exact List.nodup_singleton _
    · split
      · exact List.nodup_singleton _
      · exact .nil

theorem dominates_iff (c : Counts) (country : String) :
    Dominates c country ↔ country ∈ (secondCountry c).1 ∧ (secondCountry c).2 = true := by
  have hsorted : (c.coded.mergeSort ranksBefore).Pairwise fun a b => ranksBefore a b = true :=
    List.pairwise_mergeSort ranksBefore_trans ranksBefore_total c.coded
  have hmem : ∀ entry, entry ∈ c.coded.mergeSort ranksBefore ↔ entry ∈ c.coded :=
    fun entry => (List.mergeSort_perm c.coded ranksBefore).mem_iff
  unfold secondCountry
  cases hsort : c.coded.mergeSort ranksBefore with
  | nil =>
    refine iff_of_false ?_ ?_
    · rintro ⟨n, hin, -⟩
      rw [← hmem, hsort] at hin
      cases hin
    · rintro ⟨hnone, -⟩
      cases hnone
  | cons first rest =>
    obtain ⟨leader, most⟩ := first
    rw [hsort] at hsorted hmem
    have hfirst : ∀ other ∈ c.coded, ranksBefore (leader, most) other = true := by
      intro other hother
      rcases List.mem_cons.mp ((hmem other).mpr hother) with rfl | hrest
      · have hself := ranksBefore_total (leader, most) (leader, most)
        rwa [Bool.or_self] at hself
      · exact (List.pairwise_cons.mp hsorted).1 other hrest
    have hleader : (leader, most) ∈ c.coded := (hmem _).mp List.mem_cons_self
    simp only
    constructor
    · rintro ⟨n, hin, hmin, hhome, hbefore⟩
      cases ranksBefore_antisymm (hbefore _ hleader) (hfirst _ hin)
      rw [if_pos hmin]
      exact ⟨rfl, decide_eq_true hhome⟩
    · intro h
      split at h
      · rename_i hmin
        obtain ⟨hcountry, hhome⟩ := h
        cases hcountry
        exact ⟨most, hleader, hmin, of_decide_eq_true hhome, hfirst⟩
      · cases h.1

theorem readTwice_iff (c : Counts) (number : Str) : ReadTwice P homeRegion c number ↔
    isExplicit number = false ∧ (secondCountry c).2 = true ∧
      ((read P number homeRegion).1.head?.any fun reading => isHome P homeRegion reading) = true ∧
      ∃ country ∈ (secondCountry c).1, ∃ reading ∈ (read P number homeRegion).1,
        reading ∈ (read P number country).1 := by
  unfold ReadTwice
  simp only [dominates_iff]
  constructor
  · rintro ⟨himplicit, hhome, country, ⟨hcountry, hdominates⟩, hagain⟩
    exact ⟨himplicit, hdominates, hhome, country, hcountry, hagain⟩
  · rintro ⟨himplicit, hdominates, hhome, country, hcountry, hagain⟩
    exact ⟨himplicit, hhome, country, ⟨hcountry, hdominates⟩, hagain⟩

theorem readEntry_iff (c : Counts) (number : Str) :
    EntryRead P homeRegion (secondCountry c).1 number
        (readEntry P homeRegion (secondCountry c) number).readings ↔
      ¬ ReadTwice P homeRegion c number := by
  rw [readTwice_iff]
  generalize secondCountry c = second
  have hhome : EntryRead P homeRegion second.1 number (read P number homeRegion).1 :=
    ⟨⟨[], (List.append_nil _).symm, fun hne => absurd rfl hne⟩, nodup_read number homeRegion⟩
  unfold readEntry
  cases hsecond : second.1 with
  | none =>
    rw [hsecond] at hhome
    refine iff_of_true hhome ?_
    rintro ⟨-, -, -, country, hcountry, -⟩
    cases hcountry
  | some country =>
    rw [hsecond] at hhome
    simp only
    split
    · rename_i hwants
      rw [Bool.and_eq_true, Bool.not_eq_true', Bool.or_eq_true, Bool.and_eq_true] at hwants
      obtain ⟨himplicit, hwants⟩ := hwants
      split
      · rename_i hnone
        refine iff_of_true hhome ?_
        rintro ⟨-, -, -, other, hother, reading, -, hreading⟩
        cases hother
        rw [List.isEmpty_iff.mp hnone] at hreading
        cases hreading
      · constructor
        · rintro ⟨-, hnodup⟩ ⟨-, -, -, other, hother, reading, hreading, hagain⟩
          cases hother
          exact (List.nodup_append.mp hnodup).2.2 reading hreading reading hagain rfl
        · intro honce
          refine ⟨⟨_, rfl, fun _ => ⟨himplicit, country, rfl, rfl⟩⟩, ?_⟩
          refine List.nodup_append.mpr ⟨nodup_read number homeRegion, nodup_read number country, ?_⟩
          rintro reading hreading _ hagain rfl
          rcases hwants with hempty | ⟨hdominates, hprefixed⟩
          · rw [List.isEmpty_iff.mp hempty] at hreading
            cases hreading
          · exact honce ⟨himplicit, hdominates, hprefixed, country, rfl, reading, hreading,
              hagain⟩
    · rename_i hwants
      refine iff_of_true hhome ?_
      rintro ⟨himplicit, hdominates, hprefixed, -⟩
      exact hwants (by rw [himplicit, hdominates, hprefixed]; simp)

structure PrefixFree (P : Phones) (homeRegion : String) : Prop where
  codes : ∃ assigned : ℕ → Prop, assigned (P.countryCodeForRegion homeRegion) ∧
    (∀ number region parsed, P.parse number region = some parsed → assigned parsed.countryCode) ∧
    ∀ a b, assigned a → assigned b → callingPrefix a <+: callingPrefix b → a = b

theorem read_code {number reading : Str} {region : String}
    (h : reading ∈ (read P number region).1) :
    ∃ parsed, P.parse number (some region) = some parsed ∧ callingPrefix parsed.countryCode <+: reading := by
  have hupgraded : ∀ parsed upgraded, brazilNinthDigit P parsed = some upgraded →
      upgraded.countryCode = parsed.countryCode := by
    intro parsed upgraded hnine
    unfold brazilNinthDigit at hnine
    split at hnine
    · rename_i hold
      simp only at hnine
      split at hnine
      · cases hnine
        exact hold.1.symm
      · cases hnine
    · cases hnine
  have hprefixed : ∀ n : PhoneNumber, callingPrefix n.countryCode <+: e164 n :=
    fun n => List.prefix_append _ _
  unfold read at h
  split at h
  · cases h
  · rename_i parsed hparsed
    refine ⟨parsed, hparsed, ?_⟩
    split at h
    · split at h
      · rename_i upgraded hnine
        split at h
        · rcases List.mem_cons.mp h with rfl | h
          · exact hprefixed parsed
          · rw [List.mem_singleton] at h
            rw [h, ← hupgraded parsed upgraded hnine]
            exact hprefixed upgraded
        · rw [List.mem_singleton] at h
          rw [h]
          exact hprefixed parsed
      · rw [List.mem_singleton] at h
        rw [h]
        exact hprefixed parsed
    · split at h
      · rename_i upgraded hnine
        rw [List.mem_singleton] at h
        rw [h, ← hupgraded parsed upgraded hnine]
        exact hprefixed upgraded
      · cases h

/-- A number that is read twice is dialed: in the second country, too, it carries the home calling
code. -/
theorem readTwice_dialed (hcodes : PrefixFree P homeRegion) {c : Counts} {number : Str}
    (h : ReadTwice P homeRegion c number) : ∃ country, Dominates c country ∧ ∃ parsed,
      P.parse number (some country) = some parsed ∧
        parsed.countryCode = P.countryCodeForRegion homeRegion := by
  obtain ⟨assigned, hhome, hparse, hfree⟩ := hcodes.codes
  have hsame : ∀ a b s, assigned a → assigned b → callingPrefix a <+: s → callingPrefix b <+: s →
      a = b := by
    intro a b s ha hb hsa hsb
    rcases List.prefix_or_prefix_of_prefix hsa hsb with hab | hba
    · exact hfree a b ha hb hab
    · exact (hfree b a hb ha hba).symm
  obtain ⟨-, hprefixed, country, hcountry, reading, hreading, hagain⟩ := h
  obtain ⟨atHome, hatHome, hcode⟩ := read_code hreading
  obtain ⟨there, hthere, hcode'⟩ := read_code hagain
  refine ⟨country, hcountry, there, hthere, ?_⟩
  rw [hsame there.countryCode atHome.countryCode reading (hparse _ _ _ hthere)
    (hparse _ _ _ hatHome) hcode' hcode]
  cases hread : (read P number homeRegion).1 with
  | nil =>
    rw [hread] at hreading
    cases hreading
  | cons first others =>
    rw [hread] at hprefixed
    have hfirst : first ∈ (read P number homeRegion).1 := by
      rw [hread]
      exact List.mem_cons_self
    obtain ⟨atHome', hatHome', hcode''⟩ := read_code hfirst
    rw [hatHome] at hatHome'
    cases hatHome'
    exact hsame _ _ first (hparse _ _ _ hatHome) hhome hcode''
      (List.isPrefixOf_iff_prefix.mp hprefixed)

end

/-! ## Every sync -/

structure Reads (homeRegion : String) (prior : Value) (chunks : List (List Str)) : Prop where
  /-- The last request decides and reads as one request with all numbers. -/
  split : ∀ last, (sync P homeRegion prior chunks).getLast? = some last →
    ∃ earlier, chunks.flatten = earlier ++ last.numbers ∧
      (last.book P homeRegion).counts =
        (readAddressBook P chunks.flatten homeRegion prior).counts ∧
      (last.book P homeRegion).secondCountry =
        (readAddressBook P chunks.flatten homeRegion prior).secondCountry ∧
      (last.book P homeRegion).readings =
        (readAddressBook P chunks.flatten homeRegion prior).readings.drop earlier.length
  order : ∀ numbers, numbers.Perm chunks.flatten →
    SameCounts (priorCounts (readAddressBook P numbers homeRegion prior).counts)
        (priorCounts (readAddressBook P chunks.flatten homeRegion prior).counts) ∧
      (readAddressBook P numbers homeRegion prior).secondCountry =
        (readAddressBook P chunks.flatten homeRegion prior).secondCountry
  entries : ∀ r ∈ sync P homeRegion prior chunks, List.Forall₂
    (fun number readings => EntryRead P homeRegion (r.book P homeRegion).secondCountry
      (clean P number) readings) r.numbers (r.book P homeRegion).readings

/-- **An address book reads the same** in any cut and any order, and each entry as expected, exactly
where no request reads a number twice as the same. -/
theorem addressBook_iff (homeRegion : String) (prior : Value) (chunks : List (List Str)) :
    Reads P homeRegion prior chunks ↔ ∀ r ∈ sync P homeRegion prior chunks, ∀ number ∈ r.numbers,
      ¬ ReadTwice P homeRegion (countsOf P homeRegion r.numbers r.prior) (clean P number) := by
  have hentries : ∀ r : Request, List.Forall₂
      (fun number readings => EntryRead P homeRegion (r.book P homeRegion).secondCountry
        (clean P number) readings) r.numbers (r.book P homeRegion).readings ↔
      ∀ number ∈ r.numbers, ¬ ReadTwice P homeRegion (countsOf P homeRegion r.numbers r.prior)
        (clean P number) := by
    intro r
    rw [Request.book, (book_eq r.numbers r.prior).2.2, (book_eq r.numbers r.prior).2.1,
      List.forall₂_map_right_iff, List.forall₂_same]
    exact forall₂_congr fun number _ => readEntry_iff _ _
  constructor
  · exact fun h r hr => (hentries r).mp (h.entries r hr)
  · intro h
    refine ⟨fun last hlast => readAddressBook_split hlast, fun numbers hperm => ?_,
      fun r hr => (hentries r).mpr (h r hr)⟩
    have hsame := @readAddressBook_perm P homeRegion _ _ hperm prior
    refine ⟨?_, hsame.2⟩
    rw [(book_eq numbers prior).1, (book_eq chunks.flatten prior).1,
      priorCounts_countsValue (countsOf_wellFormed _ _),
      priorCounts_countsValue (countsOf_wellFormed _ _)]
    exact hsame.1

def exampleParse (number : Str) (region : Option String) : Option PhoneNumber :=
  let digits := (number.filter fun c => decide (0x30 ≤ c.val ∧ c.val ≤ 0x39)).map (·.val - 0x30)
  let value := fun national : List ℕ => national.foldl (10 * · + ·) 0
  if isExplicit number then
    match digits with
    | 3 :: 3 :: national => some ⟨33, value national, 0⟩
    | 4 :: 9 :: national => some ⟨49, value national, 0⟩
    | _ => none
  else
    match region, digits with
    | some _, 0 :: 0 :: 3 :: 3 :: national => some ⟨33, value national, 0⟩
    | some _, 0 :: 0 :: 4 :: 9 :: national => some ⟨49, value national, 0⟩
    | some "FR", 0 :: national => some ⟨33, value national, 0⟩
    | some "DE", 0 :: national => some ⟨49, value national, 0⟩
    | _, _ => none

def examplePhones : Phones where
  isFormat := fun _ => false
  parse := exampleParse
  isValidNumber := fun _ => true
  regionCodeForNumber := fun n => if n.countryCode = 33 then some "FR" else some "DE"
  countryCodeForRegion := fun region => if region = "FR" then 33 else 49
  isSupported := fun _ => true

def exampleNumbers : List Str :=
  [py "+33 1 42 68 53 00", py "+33 1 42 68 53 01", py "+33 1 42 68 53 02", py "0049 30 123456"]

theorem readings_exampleNumbers :
    (readAddressBook examplePhones exampleNumbers "DE" .none).readings =
      [[py "+33142685300"], [py "+33142685301"], [py "+33142685302"],
        [py "+4930123456", py "+4930123456"]] := by
  decide +kernel

/-- **A dialed home number is read twice** though all calling codes are prefix-free. -/
theorem dialed_home_twice : PrefixFree examplePhones "DE" ∧
    ¬ Reads examplePhones "DE" .none [exampleNumbers] := by
  refine ⟨⟨fun code => code = 33 ∨ code = 49, .inr rfl, fun number region parsed hparse => ?_,
    fun a b ha hb hprefixed => ?_⟩, fun h => ?_⟩
  · change exampleParse number region = some parsed at hparse
    unfold exampleParse at hparse
    simp only at hparse
    repeat' split at hparse
    all_goals cases hparse
    all_goals simp
  · rcases ha with rfl | rfl
    · rcases hb with rfl | rfl
      · rfl
      · exact absurd hprefixed (by decide)
    · rcases hb with rfl | rfl
      · exact absurd hprefixed (by decide)
      · rfl
  · have hlisted := h.entries ⟨exampleNumbers, .none⟩ List.mem_cons_self
    rw [Request.book, readings_exampleNumbers] at hlisted
    cases hlisted with
    | cons _ hlisted =>
      cases hlisted with
      | cons _ hlisted =>
        cases hlisted with
        | cons _ hlisted =>
          cases hlisted with
          | cons hlast _ => exact absurd hlast.nodup (by decide)

end HeyKevin.L15
