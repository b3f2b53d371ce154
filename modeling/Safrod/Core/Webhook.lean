import Mathlib.Algebra.Order.Ring.Int
import Mathlib.Tactic.ByContra
import Safrod.Core.Network
import Safrod.Library.Text

/-!
# Webhook signatures

A signature header carries a timestamp and the MAC of the timestamp and the body. The MAC
function is a parameter. Arithmetic on timestamps is on 64-bit words: an overflow panics, or
wraps around, with the build.

* `verify_sign_iff`: what was signed is accepted within the tolerance, unless the age of the
  signature overflows.
* `verified_signed`: what is accepted was signed, with the timestamp that was checked.
-/

set_option autoImplicit false

namespace Safrod

open Text

/-! ## The header -/

inductive VerifyError where
  | malformed
  | mismatch
  | stale
  deriving DecidableEq

/-- `HMAC-SHA256` of a message under a key. -/
abbrev Hmac := List UInt8 → List UInt8 → List UInt8

/-- The message that is authenticated. -/
def signedMessage (timestamp : ℤ) (body : List UInt8) : List UInt8 :=
  (String.ofList (ofInt timestamp)).toUTF8.toList ++ ".".toUTF8.toList ++ body

def mac (hmac : Hmac) (secret : List UInt8) (timestamp : ℤ) (body : List UInt8) : List UInt8 :=
  hmac secret (signedMessage timestamp body)

def sign (hmac : Hmac) (secret : List UInt8) (timestamp : ℤ) (body : List UInt8) : String :=
  String.ofList (['t', '='] ++ ofInt timestamp ++ [',', 'v', '1', '='] ++
    hexEncode (mac hmac secret timestamp body))

/-- What is read of a header: the last timestamp, and the MACs that are hexadecimal. -/
structure HeaderParts where
  timestamp : Option ℤ := none
  candidates : List (List UInt8) := []

def HeaderParts.read (parts : HeaderParts) (part : List Char) : HeaderParts :=
  match splitOnce '=' (trim (String.ofList part)).toList with
  | some (['t'], value) => { parts with timestamp := parseInt 64 value }
  | some (['v', '1'], value) =>
      match hexDecode value with
      | some bytes => { parts with candidates := parts.candidates ++ [bytes] }
      | none => parts
  | _ => parts

def parseHeader (header : String) : HeaderParts :=
  (header.toList.splitOn ',').foldl HeaderParts.read {}

/-! ## The age of a signature -/

/-- What an overflow does. -/
inductive Overflow where
  | panics
  | wraps

/-- A 64-bit word, or what becomes of a number that is none. -/
def Overflow.word (overflow : Overflow) (value : ℤ) : Option ℤ :=
  if -2 ^ 63 ≤ value ∧ value < 2 ^ 63 then some value
  else match overflow with
    | panics => none
    | wraps => some (Int.bmod value (2 ^ 64))

/-- `(now - timestamp).abs()`. -/
def Overflow.age (overflow : Overflow) (now timestamp : ℤ) : Option ℤ :=
  (overflow.word (now - timestamp)).bind fun difference => overflow.word |difference|

/-- A header is verified, or the arithmetic panics. -/
def verify (hmac : Hmac) (overflow : Overflow) (secret : List UInt8) (header : String)
    (body : List UInt8) (now toleranceSecs : ℤ) : Option (Except VerifyError Unit) :=
  let parts := parseHeader header
  match parts.timestamp with
  | none => some (.error .malformed)
  | some timestamp =>
      if parts.candidates.isEmpty then some (.error .malformed)
      else
        let expected := mac hmac secret timestamp body
        let ok := parts.candidates.foldl (fun accepted c => accepted || c == expected) false
        if !ok then some (.error .mismatch)
        else (overflow.age now timestamp).map fun age =>
          if toleranceSecs < age then .error .stale else .ok ()

/-! ## What was signed is accepted -/

/-- A 64-bit word. -/
def IsI64 (value : ℤ) : Prop := -2 ^ 63 ≤ value ∧ value < 2 ^ 63

instance (value : ℤ) : Decidable (IsI64 value) := inferInstanceAs (Decidable (_ ∧ _))

theorem isWhiteSpace_of_mem_ofInt {value : ℤ} {c : Char} (member : c ∈ ofInt value) :
    isWhiteSpace c = false := by
  rcases mem_ofInt member with rfl | digit
  · decide
  · apply isWhiteSpace_of_isAlphanum
    simp [Char.isAlphanum, digit]

theorem read_timestamp (parts : HeaderParts) {timestamp : ℤ} (word : IsI64 timestamp) :
    parts.read (['t', '='] ++ ofInt timestamp) = { parts with timestamp := some timestamp } := by
  have solid : ∀ c ∈ ['t', '='] ++ ofInt timestamp, isWhiteSpace c = false := by
    intro c member
    rcases List.mem_append.mp member with key | value
    · simp only [List.mem_cons, List.not_mem_nil, or_false] at key
      rcases key with rfl | rfl <;> decide
    · exact isWhiteSpace_of_mem_ofInt value
  have split : splitOnce '=' (['t'] ++ '=' :: ofInt timestamp) = some (['t'], ofInt timestamp) :=
    splitOnce_append _ (by decide)
  have parsed : parseInt 64 (ofInt timestamp) = some timestamp :=
    parseInt_ofInt (by simpa using word.1) (by simpa using word.2)
  rw [HeaderParts.read, toList_trim_of_solid solid]
  simp only [List.cons_append, List.nil_append] at split ⊢
  rw [split]
  simp only [parsed]

theorem read_candidate (parts : HeaderParts) (bytes : List UInt8) :
    parts.read (['v', '1', '='] ++ hexEncode bytes) =
      { parts with candidates := parts.candidates ++ [bytes] } := by
  have solid : ∀ c ∈ ['v', '1', '='] ++ hexEncode bytes, isWhiteSpace c = false := by
    intro c member
    rcases List.mem_append.mp member with key | value
    · simp only [List.mem_cons, List.not_mem_nil, or_false] at key
      rcases key with rfl | rfl | rfl <;> decide
    · exact isWhiteSpace_of_isAlphanum (isAlphanum_of_mem_hexEncode value)
  have split : splitOnce '=' (['v', '1'] ++ '=' :: hexEncode bytes) =
      some (['v', '1'], hexEncode bytes) := splitOnce_append _ (by decide)
  rw [HeaderParts.read, toList_trim_of_solid solid]
  simp only [List.cons_append, List.nil_append] at split ⊢
  rw [split]
  simp only [hexDecode_hexEncode]

/-- The header of a signature has its timestamp and its MAC. -/
theorem parseHeader_sign (hmac : Hmac) (secret body : List UInt8) {timestamp : ℤ}
    (word : IsI64 timestamp) : parseHeader (sign hmac secret timestamp body) =
      ⟨some timestamp, [mac hmac secret timestamp body]⟩ := by
  have first : ',' ∉ ['t', '='] ++ ofInt timestamp := by
    intro member
    rcases List.mem_append.mp member with key | value
    · exact absurd key (by decide)
    · rcases mem_ofInt value with sign | digit
      · exact absurd sign (by decide)
      · exact absurd digit (by decide)
  have last : ',' ∉ ['v', '1', '='] ++ hexEncode (mac hmac secret timestamp body) := by
    intro member
    rcases List.mem_append.mp member with key | value
    · exact absurd key (by decide)
    · exact absurd (isAlphanum_of_mem_hexEncode value) (by decide)
  have parts : (sign hmac secret timestamp body).toList.splitOn ',' =
      [['t', '='] ++ ofInt timestamp,
        ['v', '1', '='] ++ hexEncode (mac hmac secret timestamp body)] := by
    have shape : (sign hmac secret timestamp body).toList = (['t', '='] ++ ofInt timestamp) ++
        ',' :: (['v', '1', '='] ++ hexEncode (mac hmac secret timestamp body)) := by
      simp [sign]
    rw [shape, List.splitOn_append_cons_self_of_not_mem first, List.splitOn_eq_singleton last]
  rw [parseHeader, parts]
  simp only [List.foldl_cons, List.foldl_nil, read_timestamp _ word, read_candidate,
    List.nil_append]

/-! ## Ages -/

theorem Overflow.word_of_isI64 (overflow : Overflow) {value : ℤ} (word : IsI64 value) :
    overflow.word value = some value := if_pos word

/-- The age of a signature is known where it is within a word. -/
theorem Overflow.age_eq (overflow : Overflow) {now timestamp : ℤ}
    (within : |now - timestamp| < 2 ^ 63) :
    overflow.age now timestamp = some |now - timestamp| := by
  obtain ⟨low, high⟩ := abs_lt.mp within
  rw [age, overflow.word_of_isI64 ⟨Int.le_of_lt low, high⟩, Option.bind_some,
    overflow.word_of_isI64 ⟨(by decide : (-2 ^ 63 : ℤ) ≤ 0).trans (abs_nonneg _), within⟩]

theorem Overflow.age_panics {now timestamp : ℤ} (overflows : 2 ^ 63 ≤ |now - timestamp|) :
    panics.age now timestamp = none := by
  by_cases word : IsI64 (now - timestamp)
  · rw [age, panics.word_of_isI64 word, Option.bind_some, Overflow.word, if_neg]
    exact fun both => absurd overflows (Int.not_le_of_gt both.2)
  · rw [age, Overflow.word, if_neg (show ¬ (_ ∧ _) from word)]
    rfl

/-- A signature is found genuine, and its age decides. -/
theorem verify_sign (hmac : Hmac) (overflow : Overflow) (secret body : List UInt8)
    {timestamp : ℤ} (word : IsI64 timestamp) (now toleranceSecs : ℤ) :
    verify hmac overflow secret (sign hmac secret timestamp body) body now toleranceSecs =
      (overflow.age now timestamp).map fun age =>
        if toleranceSecs < age then .error .stale else .ok () := by
  rw [verify, parseHeader_sign hmac secret body word]
  simp

/-- **A signature is accepted within the tolerance, unless its age overflows.** -/
theorem verify_sign_iff (hmac : Hmac) (secret body : List UInt8) (timestamp now tolerance : ℤ)
    (word : IsI64 timestamp) :
    (∀ overflow : Overflow,
      verify hmac overflow secret (sign hmac secret timestamp body) body now tolerance =
        some (if |now - timestamp| ≤ tolerance then .ok () else .error .stale)) ↔
      |now - timestamp| < 2 ^ 63 := by
  constructor
  · intro verified
    by_contra overflows
    have panicked := verified .panics
    rw [verify_sign hmac _ secret body word,
      Overflow.age_panics (Int.not_lt.mp overflows)] at panicked
    cases panicked
  · intro within overflow
    rw [verify_sign hmac overflow secret body word, overflow.age_eq within, Option.map_some]
    by_cases fresh : |now - timestamp| ≤ tolerance
    · rw [if_pos fresh, if_neg (Int.not_lt.mpr fresh)]
    · rw [if_neg fresh, if_pos (Int.not_le.mp fresh)]

/-- A MAC for the tests: the message itself. -/
def plainMac : Hmac := fun _ message => message

/-- A signature of ten seconds ago. -/
theorem verify_sign_iff_fresh :
    verify plainMac .panics [1] (sign plainMac [1] 1_000 [2]) [2] 1_010 300 = some (.ok ()) ∧
      verify plainMac .wraps [1] (sign plainMac [1] 1_000 [2]) [2] 1_010 300 = some (.ok ()) := by
  have verified := (verify_sign_iff plainMac [1] [2] 1_000 1_010 300 (by decide)).mpr (by decide)
  exact ⟨verified .panics, verified .wraps⟩

/-- At the last instant the signature of a second before the epoch is too old for a word: the
arithmetic panics, or the signature is accepted. -/
theorem verify_sign_overflows : |(2 ^ 63 - 1 : ℤ) - (-1)| > 300 ∧
    verify plainMac .panics [1] (sign plainMac [1] (-1) [2]) [2] (2 ^ 63 - 1) 300 = none ∧
    verify plainMac .wraps [1] (sign plainMac [1] (-1) [2]) [2] (2 ^ 63 - 1) 300 =
      some (.ok ()) := by
  refine ⟨by decide, ?_, ?_⟩
  · rw [verify_sign plainMac .panics [1] [2] (by decide)]
    rfl
  · rw [verify_sign plainMac .wraps [1] [2] (by decide)]
    rfl

/-! ## What is accepted was signed -/

/-- The bytes of a displayed integer have no dot. -/
theorem dot_notMem_ofInt {value : ℤ} :
    ∀ byte ∈ (String.ofList (ofInt value)).toUTF8.toList, byte ≠ 46 := by
  have plain : ∀ c ∈ ofInt value, c.toNat = 45 ∨ (48 ≤ c.toNat ∧ c.toNat ≤ 57) := by
    intro c member
    rcases mem_ofInt member with rfl | digit
    · exact .inl rfl
    · simp [Char.isDigit, UInt32.le_iff_toNat_le] at digit
      exact .inr digit
  have ascii : ∀ c ∈ (String.ofList (ofInt value)).toList, c.toNat < 128 := by
    intro c member
    rw [String.toList_ofList] at member
    rcases plain c member with code | code <;> omega
  rw [utf8_eq_of_ascii ascii, String.toList_ofList]
  rintro byte member rfl
  obtain ⟨c, there, dot⟩ := List.mem_map.mp member
  have code := congrArg UInt8.toNat dot
  rw [UInt8.toNat_ofNat'] at code
  have bound : (46 : UInt8).toNat = 46 := rfl
  rcases plain c there with here | here <;> omega

/-- A message has one timestamp and one body. -/
theorem signedMessage_inj {timestamp other : ℤ} {body another : List UInt8}
    (same : signedMessage timestamp body = signedMessage other another) :
    timestamp = other ∧ body = another := by
  have dot : ".".toUTF8.toList = [46] := by
    rw [toUTF8_toList]
    rfl
  simp only [signedMessage, dot, List.append_assoc, List.singleton_append] at same
  obtain ⟨number, -, rest⟩ :=
    append_stop_inj (· = 46) dot_notMem_ofInt dot_notMem_ofInt rfl rfl same
  exact ⟨ofInt_injective (String.ofList_injective (utf8_inj number)), rest⟩

theorem exists_of_foldl_or {candidates : List (List UInt8)} {expected : List UInt8}
    {accepted : Bool} (found : candidates.foldl (fun accepted c => accepted || c == expected)
      accepted = true) : accepted = true ∨ expected ∈ candidates := by
  induction candidates generalizing accepted with
  | nil => exact .inl found
  | cons c rest ih =>
      rcases ih found with before | later
      · rcases Bool.or_eq_true_iff.mp before with already | here
        · exact .inl already
        · rw [beq_iff_eq.mp here]
          exact .inr List.mem_cons_self
      · exact .inr (List.mem_cons_of_mem c later)

/-- What is accepted has its MAC in the header. -/
theorem verify_ok {hmac : Hmac} {overflow : Overflow} {secret body : List UInt8}
    {header : String} {now toleranceSecs : ℤ}
    (accepted : verify hmac overflow secret header body now toleranceSecs = some (.ok ())) :
    ∃ timestamp, (parseHeader header).timestamp = some timestamp ∧
      mac hmac secret timestamp body ∈ (parseHeader header).candidates ∧
      ∃ age, overflow.age now timestamp = some age ∧ age ≤ toleranceSecs := by
  unfold verify at accepted
  dsimp only at accepted
  split at accepted
  · cases accepted
  · rename_i timestamp given
    split at accepted
    · cases accepted
    split at accepted
    · cases accepted
    · rename_i genuine
      rw [Bool.not_eq_true, Bool.not_eq_false'] at genuine
      obtain ⟨age, known, fresh⟩ := Option.map_eq_some_iff.mp accepted
      refine ⟨timestamp, given, ?_, age, known, ?_⟩
      · rcases exists_of_foldl_or genuine with none_ | found
        · cases none_
        · exact found
      · split at fresh
        · cases fresh
        · rename_i within
          exact Int.not_lt.mp within

/-- **What is accepted was signed, at the timestamp that was checked.** When the messages of
different signatures have different MACs and every MAC of the header that is one over the
secret was made by signing, the body and the timestamp are those of one signature. -/
theorem verified_signed (hmac : Hmac) (overflow : Overflow) (secret body : List UInt8)
    (header : String) (now toleranceSecs : ℤ) (signed : List (ℤ × List UInt8))
    (injective : Function.Injective (hmac secret))
    (unforged : ∀ candidate ∈ (parseHeader header).candidates,
      (∃ message, candidate = hmac secret message) →
        ∃ pair ∈ signed, candidate = mac hmac secret pair.1 pair.2)
    (accepted : verify hmac overflow secret header body now toleranceSecs = some (.ok ())) :
    ∃ pair ∈ signed, body = pair.2 ∧ (parseHeader header).timestamp = some pair.1 ∧
      ∃ age, overflow.age now pair.1 = some age ∧ age ≤ toleranceSecs := by
  obtain ⟨timestamp, given, found, fresh⟩ := verify_ok accepted
  obtain ⟨⟨signedAt, signedBody⟩, member, same⟩ :=
    unforged _ found ⟨signedMessage timestamp body, rfl⟩
  obtain ⟨rfl, rfl⟩ := signedMessage_inj (injective same)
  exact ⟨_, member, rfl, given, fresh⟩

theorem plainMac_injective : Function.Injective (plainMac [1]) := fun _ _ same => same

/-- The header of a signature is accepted for what was signed. -/
theorem verified_signed_fresh : ∃ pair ∈ [((1_000 : ℤ), ([2] : List UInt8))],
    [2] = pair.2 ∧ (parseHeader (sign plainMac [1] 1_000 [2])).timestamp = some pair.1 := by
  have header := parseHeader_sign plainMac [1] [2] (show IsI64 1_000 by decide)
  have accepted : verify plainMac .wraps [1] (sign plainMac [1] 1_000 [2]) [2] 1_010 300 =
      some (.ok ()) := by
    rw [verify_sign plainMac .wraps [1] [2] (by decide)]
    rfl
  obtain ⟨pair, member, body, timestamp, -⟩ := verified_signed plainMac .wraps [1] [2]
    (sign plainMac [1] 1_000 [2]) 1_010 300 [(1_000, [2])] plainMac_injective (by
      intro candidate member _
      rw [header, List.mem_singleton] at member
      exact ⟨_, List.mem_singleton_self _, member⟩) accepted
  exact ⟨pair, member, body, timestamp⟩

end Safrod
