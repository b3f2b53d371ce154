import Safrod.Core.Network

/-!
# API keys

The scopes of a key with their texts, and the keys that are made. Only the SHA-256
digest of a key is stored, so a key carries the proof that its digest is its own, and
that its secret passes the check of what looks like a key.
-/

set_option autoImplicit false

namespace Safrod

open Text

/-! ## Scopes -/

inductive Scope where
  | invoicesRead
  | invoicesWrite
  | paymentsRead
  | paymentsWrite
  | bitcoinRead
  | bitcoinWrite
  | eventsRead
  | webhooksWrite
  | sandboxWrite
  deriving DecidableEq

namespace Scope

def all : List Scope := [
  invoicesRead, invoicesWrite, paymentsRead, paymentsWrite, bitcoinRead, bitcoinWrite,
  eventsRead, webhooksWrite, sandboxWrite]

def asStr : Scope → String
  | invoicesRead => "invoices:read"
  | invoicesWrite => "invoices:write"
  | paymentsRead => "payments:read"
  | paymentsWrite => "payments:write"
  | bitcoinRead => "bitcoin:read"
  | bitcoinWrite => "bitcoin:write"
  | eventsRead => "events:read"
  | webhooksWrite => "webhooks:write"
  | sandboxWrite => "sandbox:write"

def fromStr (s : String) : Except CoreError Scope :=
  match all.find? (fun scope => scope.asStr = s) with
  | some scope => .ok scope
  | none => .error (.unknownScope s)

theorem mem_all (scope : Scope) : scope ∈ all := by
  cases scope <;> decide

theorem asStr_injective : Function.Injective asStr := by
  intro first second same
  cases first <;> cases second <;> first | rfl | exact absurd same (by decide)

/-- A text names a scope where it is the text of the scope. -/
theorem fromStr_eq_ok {s : String} {scope : Scope} : fromStr s = .ok scope ↔ s = scope.asStr := by
  unfold fromStr
  constructor
  · intro read
    cases found : all.find? (fun scope => scope.asStr = s) with
    | none =>
        rw [found] at read
        cases read
    | some other =>
        rw [found] at read
        cases read
        exact (of_decide_eq_true (List.find?_some found :)).symm
  · rintro rfl
    cases found : all.find? (fun other => other.asStr = scope.asStr) with
    | none =>
        have none_ := List.find?_eq_none.mp found scope scope.mem_all
        simp at none_
    | some other =>
        have same : other.asStr = scope.asStr := of_decide_eq_true (List.find?_some found :)
        rw [asStr_injective same]

end Scope

/-! ## Keys -/

abbrev Sha256 := List UInt8 → List UInt8

def keyPrefix : String := "sfd"

def hashSecret (sha256 : Sha256) (secret : String) : List UInt8 := sha256 secret.toUTF8.data.toList

/-- Cheap shape check before touching the database. -/
def looksLikeKey (candidate : String) : Except CoreError Unit :=
  if "sfd_".toList.isPrefixOf candidate.toList && candidate.utf8ByteSize ≤ 128 &&
      candidate.toList.all (fun c => c.toNat < 128) then .ok ()
  else .error .invalidApiKey

/-- A key with its secret, which is shown to the caller exactly once. -/
structure GeneratedKey (sha256 : Sha256) where
  secret : String
  prefix_ : String
  hash : List UInt8
  hashed : hash = hashSecret sha256 secret
  shaped : looksLikeKey secret = .ok ()

/-- The label of a network. A longer one would make keys that do not look like keys. -/
structure KeyLabel where
  text : String
  plain : text.toList.all Char.isAlphanum = true
  short : text.utf8ByteSize ≤ 59

namespace KeyLabel

def live : KeyLabel := ⟨"live", rfl, by decide⟩

def test : KeyLabel := ⟨"test", rfl, by decide⟩

end KeyLabel

/-- The random bytes of a key. -/
abbrev KeyBytes := { bytes : List UInt8 // bytes.length = 32 }

/-- The first bytes of a text, where they end with a character. -/
def takeBytes : ℕ → List Char → Option (List Char)
  | 0, _ => some []
  | _ + 1, [] => none
  | bytes + 1, c :: rest =>
      if c.utf8Size ≤ bytes + 1 then (takeBytes (bytes + 1 - c.utf8Size) rest).map (c :: ·)
      else none

def secretOf (label : KeyLabel) (bytes : KeyBytes) : String :=
  keyPrefix ++ "_" ++ label.text ++ "_" ++ String.ofList (hexEncode bytes.val)

theorem utf8ByteSize_hexEncode (bytes : List UInt8) :
    (String.ofList (hexEncode bytes)).utf8ByteSize = 2 * bytes.length := by
  rw [utf8ByteSize_of_ascii, String.toList_ofList, length_hexEncode]
  rw [String.toList_ofList]
  exact fun c member => ascii_of_mem_hexEncode member

theorem utf8ByteSize_secretOf (label : KeyLabel) (bytes : KeyBytes) :
    (secretOf label bytes).utf8ByteSize = label.text.utf8ByteSize + 69 := by
  simp only [secretOf, String.utf8ByteSize_append, utf8ByteSize_hexEncode, bytes.property]
  change 3 + 1 + label.text.utf8ByteSize + 1 + 64 = label.text.utf8ByteSize + 69
  omega

theorem toList_secretOf (label : KeyLabel) (bytes : KeyBytes) :
    (secretOf label bytes).toList =
      "sfd_".toList ++ (label.text.toList ++ '_' :: hexEncode bytes.val) := by
  simp [secretOf, keyPrefix]

theorem plain_of_mem_secretOf {label : KeyLabel} {bytes : KeyBytes} {c : Char}
    (member : c ∈ (secretOf label bytes).toList) : c.isAlphanum = true ∨ c = '_' := by
  have start : ("sfd_".toList.all fun c => c.isAlphanum || c = '_') = true := rfl
  rw [toList_secretOf] at member
  rcases List.mem_append.mp member with first | rest
  · simpa using List.all_eq_true.mp start c first
  · rcases List.mem_append.mp rest with shown | last
    · exact .inl (List.all_eq_true.mp label.plain c shown)
    · rcases List.mem_cons.mp last with rfl | digit
      · exact .inr rfl
      · exact .inl (isAlphanum_of_mem_hexEncode digit)

/-- What is handed out passes the check. -/
theorem looksLikeKey_secretOf (label : KeyLabel) (bytes : KeyBytes) :
    looksLikeKey (secretOf label bytes) = .ok () := by
  have short : (secretOf label bytes).utf8ByteSize ≤ 128 := by
    rw [utf8ByteSize_secretOf]
    have bound := label.short
    omega
  have ascii : (secretOf label bytes).toList.all (fun c => decide (c.toNat < 128)) = true := by
    rw [List.all_eq_true]
    intro c member
    refine decide_eq_true ?_
    rcases plain_of_mem_secretOf member with plain | rfl
    · have code := code_of_isAlphanum plain
      omega
    · decide
  rw [looksLikeKey, ascii, decide_eq_true short, toList_secretOf,
    List.isPrefixOf_iff_prefix.mpr ⟨_, rfl⟩]
  rfl

/-- How many bytes of the secret are kept to recognise it. -/
def prefixBytes (label secret : String) : ℕ :=
  min secret.utf8ByteSize (keyPrefix.utf8ByteSize + label.utf8ByteSize + 9)

/-- The key of the random bytes. Its prefix ends with a character (`takeBytes_secretOf`). -/
def generate (sha256 : Sha256) (label : KeyLabel) (bytes : KeyBytes) : GeneratedKey sha256 :=
  let secret := secretOf label bytes
  { secret
    prefix_ := String.ofList ((takeBytes (prefixBytes label.text secret) secret.toList).getD [])
    hash := hashSecret sha256 secret
    hashed := rfl
    shaped := looksLikeKey_secretOf label bytes }

/-! ### What is kept of a secret -/

theorem takeBytes_append (front back : List Char) :
    takeBytes (String.ofList front).utf8ByteSize (front ++ back) = some front := by
  induction front with
  | nil => simp [takeBytes]
  | cons c rest ih =>
      have size : (String.ofList (c :: rest)).utf8ByteSize =
          c.utf8Size + (String.ofList rest).utf8ByteSize := by
        rw [String.ofList_cons, String.utf8ByteSize_append, String.utf8ByteSize_singleton]
      obtain ⟨bytes, more⟩ : ∃ bytes, (String.ofList (c :: rest)).utf8ByteSize = bytes + 1 := by
        have positive := c.utf8Size_pos
        exact ⟨(String.ofList (c :: rest)).utf8ByteSize - 1, by omega⟩
      have left : bytes + 1 - c.utf8Size = (String.ofList rest).utf8ByteSize := by omega
      rw [more, List.cons_append, takeBytes, if_pos (by omega), left, ih, Option.map_some]

/-- The prefix shows the label and seven digits, of the 64 that are random. -/
theorem takeBytes_secretOf (label : KeyLabel) (bytes : KeyBytes) :
    takeBytes (prefixBytes label.text (secretOf label bytes)) (secretOf label bytes).toList =
      some ((keyPrefix ++ "_" ++ label.text ++ "_").toList ++ (hexEncode bytes.val).take 7) := by
  have shown : (String.ofList ((hexEncode bytes.val).take 7)).utf8ByteSize = 7 := by
    rw [utf8ByteSize_of_ascii]
    · rw [String.toList_ofList, List.length_take, length_hexEncode, bytes.property]
      rfl
    · intro c member
      rw [String.toList_ofList] at member
      exact ascii_of_mem_hexEncode (List.mem_of_mem_take member)
  have size : prefixBytes label.text (secretOf label bytes) =
      (String.ofList ((keyPrefix ++ "_" ++ label.text ++ "_").toList ++
        (hexEncode bytes.val).take 7)).utf8ByteSize := by
    rw [prefixBytes, utf8ByteSize_secretOf, String.ofList_append, String.utf8ByteSize_append,
      shown, String.ofList_toList, String.utf8ByteSize_append, String.utf8ByteSize_append,
      String.utf8ByteSize_append]
    change min (label.text.utf8ByteSize + 69) (3 + label.text.utf8ByteSize + 9) =
      3 + 1 + label.text.utf8ByteSize + 1 + 7
    omega
  have split : (secretOf label bytes).toList =
      ((keyPrefix ++ "_" ++ label.text ++ "_").toList ++ (hexEncode bytes.val).take 7) ++
        (hexEncode bytes.val).drop 7 := by
    rw [List.append_assoc, List.take_append_drop, secretOf, String.toList_append,
      String.toList_ofList]
  rw [split, size, takeBytes_append]

end Safrod
