import HeyKevin.Core.Regex
import HeyKevin.L1Encoding.Text
import Mathlib.Data.List.Lex
import Mathlib.Data.Prod.Lex
import Mathlib.Order.Fin.Basic
/-!
# Urgent phrases in what a caller says

mirrors app/services/urgency.py: the phrases that stand in a text, less those
that the words around them negate, resolve or correct.

**Model.** The patterns are the source's, written out. `str.casefold` and `\w`
are taken from the interpreter.

Line numbers are those of app/services/urgency.py.
-/
namespace HeyKevin.L5.Urgency

open HeyKevin.Core Regex L1.Text

def isAsciiLower (c : CodePoint) : Bool := 97 ≤ c.val && c.val < 123

def isAsciiDigit (c : CodePoint) : Bool := 48 ≤ c.val && c.val < 58

structure Unicode where
  /-- `c.casefold()` of one character; a text is folded character by character. -/
  casefold : CodePoint → Str
  casefold_ascii : ∀ c, c.val < 128 → ¬ (65 ≤ c.val ∧ c.val ≤ 90) → casefold c = [c]
  /-- `\w` -/
  isWord : CodePoint → Bool
  isWord_lower : ∀ c, isAsciiLower c = true → isWord c = true
  isWord_ascii : ∀ c, c.val < 128 → isWord c = true →
    isAsciiLower c = true ∨ (65 ≤ c.val ∧ c.val ≤ 90) ∨ isAsciiDigit c = true ∨ c.val = 95
  isWord_space : ∀ c, isSpace c = true → isWord c = false

/-! ## Patterns -/

abbrev Pattern := Regex CodePoint

def words (ws : List String) : Pattern := oneOf (ws.map fun w => chars (py w))

/-- `\s+` -/
def spaces : Pattern := plus (one isSpace)

/-- `\s*` -/
def someSpaces : Pattern := star (one isSpace)

/-- Literals with `\s+` between them. -/
def spaced : List String → Pattern
  | [] => empty
  | [w] => chars (py w)
  | w :: ws => concat [chars (py w), spaces, spaced ws]

/-- `$`: the end of the text, or a newline there. -/
def dollar : Pattern := oneOf [stop, ahead (seq (one fun c => c.val = 10) stop)]

/-- `(?:\s+(?:...))*` -/
def fillers (ws : List String) : Pattern := star (seq spaces (words ws))

def ENGLISH_URGENCY_KEYWORDS : List String :=
  ["accident", "breaker tripped", "burning smell", "burst pipe", "carbon monoxide",
    "electric panel", "electrical fire", "electrical panel", "emergency", "fire", "flood",
    "flooding", "gas leak", "hospital", "no water", "pipe burst", "sewage", "smell burning",
    "smoke", "sparking", "tripped breaker", "water everywhere"]

def SPANISH_URGENCY_KEYWORDS : List String :=
  ["agua por todas partes", "chispas", "echando chispas", "emergencia", "fuego", "fuga de gas",
    "huele a gas", "hospital", "humo", "incendio", "inundacion", "inundaci\u00f3n",
    "monoxido de carbono", "mon\u00f3xido de carbono", "no hay agua", "olor a gas", "sin agua",
    "tuberia rota", "tuberia reventada", "tuber\u00eda rota", "tuber\u00eda reventada"]

def URGENCY_KEYWORDS : List String := (ENGLISH_URGENCY_KEYWORDS ++ SPANISH_URGENCY_KEYWORDS).dedup

/-- mirrors 59-64 (`_SIGNAL_PATTERN_TEXT`) -/
def signalPattern (phrase : String) : Pattern :=
  if phrase = "water everywhere" then
    concat [chars (py "water"), optional (seq spaces (chars (py "is"))), spaces,
      chars (py "everywhere")]
  else if phrase = "no hay agua" then
    concat [spaced ["no", "hay", "agua"], notAhead (seq spaces (spaced ["por", "todas"]))]
  else chars (py phrase)

/-- mirrors 66-72 (`_PHRASE_PATTERNS`) -/
def phrasePattern (U : Unicode) (phrase : String) : Pattern :=
  concat [notAfterWord, signalPattern phrase, notAhead (one U.isWord)]

def NEGATION_PREFIX : Pattern :=
  concat [oneOf [concat [boundary, spaced ["no", "longer"], boundary],
      concat [boundary, words ["no", "not", "never", "without"], boundary],
      concat [boundary, words ["is", "are", "was", "were", "do", "does", "did", "have", "has",
        "had", "can", "could"], spaces, chars (py "not"), boundary],
      concat [boundary, words ["isn't", "aren't", "wasn't", "weren't", "don't", "doesn't",
        "didn't", "haven't", "hasn't", "hadn't", "can't", "couldn't"], boundary]],
    fillers ["a", "active", "an", "any", "currently", "evidence", "indication", "indications",
      "known", "of", "ongoing", "reported", "sign", "signs", "still", "the", "whatsoever"],
    someSpaces, dollar]

def NEGATED_PERCEPTION_PREFIX : Pattern :=
  concat [oneOf [concat [boundary, words ["do", "does", "did", "can", "could"], spaces,
        chars (py "not"), boundary],
      concat [boundary, words ["don't", "doesn't", "didn't", "can't", "couldn't", "haven't",
        "hasn't", "hadn't", "never"], boundary]],
    spaces,
    oneOf [chars (py "been"), seq (chars (py "detect")) (optional (chars (py "ed"))),
      seq (chars (py "experience")) (optional (chars (py "d"))), chars (py "had"),
      chars (py "have"), seq (chars (py "hear")) (optional (chars (py "d"))),
      seq (chars (py "notice")) (optional (chars (py "d"))), chars (py "see"), chars (py "seen"),
      seq (chars (py "smell")) (optional (chars (py "ed")))],
    fillers ["a", "an", "any", "evidence", "of", "sign", "signs", "the"], someSpaces, dollar]

/-- `[a-z0-9'-]` -/
def isCoordinated (c : CodePoint) : Bool :=
  isAsciiLower c || isAsciiDigit c || c.val == 0x27 || c.val == 0x2d

def COORDINATED_NEGATION_PREFIX : Pattern :=
  let next := seq spaces (plus (one isCoordinated))
  concat [boundary, words ["no", "not", "without"], boundary, next, upTo 4 next, spaces,
    words ["and", "or"], someSpaces, dollar]

def SPANISH_NEGATION_PREFIX : Pattern :=
  concat [oneOf [concat [boundary, spaced ["ya", "no"], boundary],
      concat [boundary, chars (py "no"), spaces, words ["es", "esta", "estamos", "estan", "estoy",
        "est\u00e1", "est\u00e1n", "fue", "hay", "habia", "hab\u00eda", "huele", "huelo", "veo",
        "vemos"], boundary],
      concat [boundary, words ["ningun", "ninguna", "ninguno", "nunca", "sin"], boundary]],
    fillers ["actual", "actualmente", "alguna", "algun", "de", "del", "el", "evidencia",
      "indicio", "indicios", "la", "olor", "se\u00f1al", "se\u00f1ales", "un", "una", "ya"],
    someSpaces, dollar]

def RESOLVED_PREFIX : Pattern :=
  concat [boundary, words ["cleared", "former", "previous", "resolved"],
    fillers ["a", "an", "the"], someSpaces, dollar]

/-- `(?=\s*(?:[.!?,;:]|$))` -/
def clauseEnds : Pattern :=
  ahead (seq someSpaces (oneOf [one fun c => c ∈ py ".!?,;:", dollar]))

def RESOLVED_SUFFIX : Pattern :=
  concat [start, someSpaces,
    optional (concat [optional (chars (py ",")), someSpaces, words ["that", "which"], spaces]),
    oneOf [
      concat [optional (oneOf [
          concat [words ["has", "had"], spaces, optional (seq (chars (py "been")) spaces)],
          concat [words ["is", "was", "were"], spaces]]),
        words ["cleared", "contained", "ended", "fixed", "resolved", "stopped"]],
      concat [words ["is", "was", "were"], spaces, words ["gone", "out"],
        optional (seq spaces (chars (py "now"))), clauseEnds],
      concat [words ["is", "was", "were"], spaces, chars (py "over"), clauseEnds],
      concat [words ["is", "was", "were"], spaces, spaced ["under", "control"]]],
    boundary]

def endingIn (stem : String) (letters : String) : Pattern :=
  seq (chars (py stem)) (one fun c => c ∈ py letters)

def SPANISH_RESOLVED_SUFFIX : Pattern :=
  concat [start, someSpaces,
    optional (concat [optional (chars (py ",")), someSpaces,
      oneOf [chars (py "que"), spaced ["la", "cual"]], spaces]),
    optional (seq (chars (py "ya")) spaces),
    optional (oneOf [seq (spaced ["ha", "sido"]) spaces, seq (chars (py "fue")) spaces,
      seq (chars (py "esta")) spaces, seq (chars (py "est\u00e1")) spaces]),
    oneOf [endingIn "arreglad" "ao", endingIn "controlad" "ao", endingIn "par" "o\u00f3",
      endingIn "reparad" "ao", endingIn "resuelt" "ao", spaced ["se", "detuvo"],
      endingIn "termin" "o\u00f3"],
    boundary]

def PRONOUN_RESOLVED_SUFFIX : Pattern :=
  concat [start, someSpaces, optional (one fun c => c ∈ py ",;"), someSpaces,
    words ["but", "however"], spaces, chars (py "it"), spaces, words ["is", "was"], spaces,
    oneOf [chars (py "gone"), seq (chars (py "out")) (optional (seq spaces (chars (py "now")))),
      spaced ["under", "control"]],
    boundary]

/-- `.` -/
def notNewline : Pattern := one fun c => c.val ≠ 10

def REACTIVATED_SUFFIX : Pattern :=
  concat [boundary,
    oneOf [chars (py "but"), chars (py "however"), chars (py "luego"), chars (py "pero"),
      spaced ["sin", "embargo"], chars (py "then")],
    boundary, upTo 64 notNewline, boundary,
    oneOf [chars (py "again"), chars (py "back"), chars (py "continued"), chars (py "continues"),
      spaced ["de", "nuevo"], spaced ["ha", "vuelto"], chars (py "ongoing"),
      spaced ["otra", "vez"], chars (py "continua"), chars (py "contin\u00faa"),
      chars (py "recurred"), endingIn "regres" "o\u00f3", chars (py "returned"),
      chars (py "resumed"), chars (py "restarted"),
      concat [chars (py "se"), spaces, words ["esta", "est\u00e1"], spaces,
        chars (py "extendiendo")],
      chars (py "spreading"), chars (py "started"), endingIn "volvi" "o\u00f3"],
    boundary]

def CORRECTION_PREFIX : Pattern :=
  concat [oneOf [start, one fun c => c ∈ py ",;:"], someSpaces,
    oneOf [chars (py "but"), chars (py "however"), chars (py "pero"), spaced ["sin", "embargo"]],
    spaces, lazyUpTo 32 notNewline,
    oneOf [
      concat [boundary, chars (py "there"), spaces, words ["is", "was"], spaces,
        words ["no", "not"], boundary],
      concat [boundary, oneOf [chars (py "no"), spaced ["ya", "no"]], spaces,
        words ["es", "esta", "est\u00e1", "fue", "hay"], boundary]]]

/-! ## Suppression -/

/-- The fillers between a correction and the signal, and the `\s+` after them. -/
def correctionFillers : Pattern :=
  seq (fillers ["a", "active", "actual", "actualmente", "algun", "alguna", "an", "any",
    "currently", "known", "longer", "ningun", "ninguna", "ongoing", "the", "un", "una", "ya"])
    spaces

def correctedTail (U : Unicode) (suffix : Str) : Option Str :=
  (search U.isWord CORRECTION_PREFIX suffix).map fun correction => correction.rest.take 48

/-- mirrors 145-154 -/
def hasSameSignalCorrection (U : Unicode) (suffix : Str) (phrase : String) : Bool :=
  match correctedTail U suffix with
  | none => false
  | some tail => (matchStart U.isWord (seq correctionFillers (signalPattern phrase)) tail).isSome

def found (U : Unicode) (r : Pattern) (text : Str) : Bool := (search U.isWord r text).isSome

def prefixPatterns : List Pattern :=
  [NEGATION_PREFIX, NEGATED_PERCEPTION_PREFIX, COORDINATED_NEGATION_PREFIX,
    SPANISH_NEGATION_PREFIX, RESOLVED_PREFIX]

def suppressedAfter (U : Unicode) (suffix : Str) (phrase : String) : Bool :=
  (found U RESOLVED_SUFFIX suffix || found U SPANISH_RESOLVED_SUFFIX suffix ||
    found U PRONOUN_RESOLVED_SUFFIX suffix || hasSameSignalCorrection U suffix phrase) &&
    !found U REACTIVATED_SUFFIX suffix

def suppressedBy (U : Unicode) (before suffix : Str) (phrase : String) : Bool :=
  prefixPatterns.any (found U · before) || suppressedAfter U suffix phrase

/-- `text[max(0, start - 96):start]` -/
def prefixWindow (text : Str) (start : ℕ) : Str := (text.take start).drop (start - 96)

/-- `text[end:end + 64]` -/
def suffixWindow (text : Str) (stop : ℕ) : Str := (text.drop stop).take 64

/-- mirrors 157-173 -/
def isSuppressed (U : Unicode) (text : Str) (start stop : ℕ) (phrase : String) : Bool :=
  suppressedBy U (prefixWindow text start) (suffixWindow text stop) phrase

/-! ## The first active phrase -/

structure Candidate where
  start : ℕ
  stop : ℕ
  phrase : String

def Candidate.key (c : Candidate) : ℕ ×ₗ ℤ ×ₗ Str ×ₗ ℕ :=
  toLex (c.start, toLex (-(c.stop - c.start : ℤ), toLex (py c.phrase, c.stop)))

/-- `" ".join(text.casefold().replace("\u2019", "'").split())` -/
def normalized (U : Unicode) (text : Str) : Str :=
  joinSpace (split ((text.flatMap U.casefold).map fun c => if c.val = 0x2019 then 0x27 else c))

def candidates (U : Unicode) (text : Str) : List Candidate :=
  URGENCY_KEYWORDS.flatMap fun phrase =>
    (finditer U.isWord (phrasePattern U phrase) text).map fun m => ⟨m.1, m.2, phrase⟩

def scan (U : Unicode) (text : Str) : List (ℕ × ℕ) → List Candidate → Option String
  | _, [] => none
  | spans, c :: cs =>
    if spans.any fun blocked => blocked.1 ≤ c.start && c.stop ≤ blocked.2 then scan U text spans cs
    else if isSuppressed U text c.start c.stop c.phrase then
      scan U text (spans ++ [(c.start, c.stop)]) cs
    else some c.phrase

end HeyKevin.L5.Urgency
