import HeyKevin.L1Encoding.Python
/-!
# SHA-256

The hash of `hashlib.sha256(...).hexdigest()`, as a function that evaluates.
The model is parametric in the hash; `asciiPython` is the instance with this
one, and with the Unicode functions as they behave on ASCII text. It meets
the laws that the results about the parameter assume.
-/
namespace HeyKevin.L1

open L1.Text

namespace Sha256

def K : List ℕ :=
  [0x428a2f98, 0x71374491, 0xb5c0fbcf, 0xe9b5dba5, 0x3956c25b, 0x59f111f1, 0x923f82a4, 0xab1c5ed5,
    0xd807aa98, 0x12835b01, 0x243185be, 0x550c7dc3, 0x72be5d74, 0x80deb1fe, 0x9bdc06a7, 0xc19bf174,
    0xe49b69c1, 0xefbe4786, 0x0fc19dc6, 0x240ca1cc, 0x2de92c6f, 0x4a7484aa, 0x5cb0a9dc, 0x76f988da,
    0x983e5152, 0xa831c66d, 0xb00327c8, 0xbf597fc7, 0xc6e00bf3, 0xd5a79147, 0x06ca6351, 0x14292967,
    0x27b70a85, 0x2e1b2138, 0x4d2c6dfc, 0x53380d13, 0x650a7354, 0x766a0abb, 0x81c2c92e, 0x92722c85,
    0xa2bfe8a1, 0xa81a664b, 0xc24b8b70, 0xc76c51a3, 0xd192e819, 0xd6990624, 0xf40e3585, 0x106aa070,
    0x19a4c116, 0x1e376c08, 0x2748774c, 0x34b0bcb5, 0x391c0cb3, 0x4ed8aa4a, 0x5b9cca4f, 0x682e6ff3,
    0x748f82ee, 0x78a5636f, 0x84c87814, 0x8cc70208, 0x90befffa, 0xa4506ceb, 0xbef9a3f7, 0xc67178f2]

/-- The eight working words. -/
structure State where
  a : ℕ
  b : ℕ
  c : ℕ
  d : ℕ
  e : ℕ
  f : ℕ
  g : ℕ
  h : ℕ

def initial : State :=
  ⟨0x6a09e667, 0xbb67ae85, 0x3c6ef372, 0xa54ff53a, 0x510e527f, 0x9b05688c, 0x1f83d9ab, 0x5be0cd19⟩

def word (n : ℕ) : ℕ := n % 2 ^ 32
def rotr (n x : ℕ) : ℕ := word ((x >>> n) ||| (x <<< (32 - n)))

def round (s : State) (k w : ℕ) : State :=
  let S1 := rotr 6 s.e ^^^ rotr 11 s.e ^^^ rotr 25 s.e
  let ch := (s.e &&& s.f) ^^^ ((0xffffffff ^^^ s.e) &&& s.g)
  let t1 := s.h + S1 + ch + k + w
  let S0 := rotr 2 s.a ^^^ rotr 13 s.a ^^^ rotr 22 s.a
  let maj := (s.a &&& s.b) ^^^ (s.a &&& s.c) ^^^ (s.b &&& s.c)
  ⟨word (t1 + S0 + maj), s.a, s.b, s.c, word (s.d + t1), s.e, s.f, s.g⟩

/-- The message schedule; `ws` are the sixteen words before the next one. -/
def schedule : ℕ → List ℕ → List ℕ
  | 0, _ => []
  | n + 1, ws =>
    let w := ws.headD 0
    let s0 := let x := ws.getD 1 0; rotr 7 x ^^^ rotr 18 x ^^^ (x >>> 3)
    let s1 := let x := ws.getD 14 0; rotr 17 x ^^^ rotr 19 x ^^^ (x >>> 10)
    let next := word (w + s0 + ws.getD 9 0 + s1)
    w :: schedule n (ws.tail ++ [next])

def rounds (s : State) : List ℕ → List ℕ → State
  | k :: ks, w :: ws => rounds (round s k w) ks ws
  | _, _ => s

def compress (s : State) (block : List ℕ) : State :=
  let t := rounds s K (schedule 64 block)
  ⟨word (s.a + t.a), word (s.b + t.b), word (s.c + t.c), word (s.d + t.d), word (s.e + t.e),
    word (s.f + t.f), word (s.g + t.g), word (s.h + t.h)⟩

def beWord : List ℕ → List ℕ
  | a :: b :: c :: d :: rest => (a * 2 ^ 24 + b * 2 ^ 16 + c * 2 ^ 8 + d) :: beWord rest
  | _ => []

/-- A one bit, zeros, and the length in bits as eight bytes. -/
def pad (bs : List ℕ) : List ℕ :=
  let n := bs.length
  let zeros := (119 - n % 64) % 64
  bs ++ 0x80 :: List.replicate zeros 0 ++ (List.range 8).map fun i => (8 * n) >>> (8 * (7 - i)) % 256

def blocks : ℕ → List ℕ → State → State
  | 0, _, s => s
  | n + 1, ws, s => blocks n (ws.drop 16) (compress s (ws.take 16))

def hexWord (w : ℕ) : Str := (List.range 8).map fun i => hexDigit ((w >>> (4 * (7 - i))) % 16)

def sha256 (bs : List Byte) : Str :=
  let ws := beWord (pad (bs.map Fin.val))
  let s := blocks (ws.length / 16) ws initial
  [s.a, s.b, s.c, s.d, s.e, s.f, s.g, s.h].flatMap hexWord

example : sha256 [97, 98, 99] =
    py "ba7816bf8f01cfea414140de5dae2223b00361a396177a9cb410ff61f20015ad" := by
  decide +kernel

theorem isLowerHex_hexDigit : ∀ d < 16, Python.isLowerHex (hexDigit d) = true := by decide

theorem isDigest_sha256 (bs : List Byte) : Python.isDigest (sha256 bs) = true := by
  have hword : ∀ w, (hexWord w).length = 8 ∧ ∀ c ∈ hexWord w, Python.isLowerHex c = true := by
    intro w
    refine ⟨by simp [hexWord], fun c hc => ?_⟩
    obtain ⟨i, -, rfl⟩ := List.mem_map.mp hc
    exact isLowerHex_hexDigit _ (Nat.mod_lt _ (by decide))
  have hdigest : ∀ a b c d e f g h, Python.isDigest ([a, b, c, d, e, f, g, h].flatMap hexWord)
      = true := by
    intro a b c d e f g h
    simp only [Python.isDigest, Bool.and_eq_true, beq_iff_eq, List.all_eq_true]
    refine ⟨by simp [hword], fun x hx => ?_⟩
    obtain ⟨w, -, hxw⟩ := List.mem_flatMap.mp hx
    exact (hword w).2 x hxw
  exact hdigest ..

end Sha256

def asciiLower (c : CodePoint) : CodePoint :=
  if 65 ≤ c.val ∧ c.val ≤ 90 then chr (c.val + 32) else c

def asciiPython : Python where
  nfkc := id
  casefold := List.map asciiLower
  lower := List.map asciiLower
  strOf := fun _ => []
  otherIsoformat := fun _ => none
  sha256 := Sha256.sha256

theorem asciiPython_nfkcLaws : asciiPython.NfkcLaws :=
  ⟨fun _ => rfl, fun _ _ _ _ => rfl, fun _ _ _ _ => rfl⟩

theorem asciiPython_casefoldAscii : asciiPython.CasefoldAscii := by
  intro s hs
  refine (List.map_congr_left fun c hc => ?_).trans (List.map_id s)
  exact if_neg (hs c hc).2

theorem asciiPython_hexDigest : asciiPython.HexDigest := Sha256.isDigest_sha256

end HeyKevin.L1
