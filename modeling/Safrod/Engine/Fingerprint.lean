import Safrod.Engine.Decisions
import Safrod.Library.Text

/-!
# The fingerprint of a request

The invoice, the amount and the metadata of a send request are hashed without lengths between
them. They are told apart all the same (`fed_inj`): the characters of an invoice are letters
and digits, and an amount within the supply starts with a byte below every one of them. So a
key that is used again for anything else is refused (`reuse_detected`).
-/

set_option autoImplicit false

namespace Safrod

open Text

/-- The bytes that are hashed. -/
def fed (env : Env) (prepared : Prepared) : List UInt8 :=
  prepared.bolt11.toUTF8.toList ++ toBeBytes prepared.amountMsat ++
    (env.toText prepared.metadata).toUTF8.toList

/-! ## The invoice -/

theorem dropWhile_dropWhile (spaces : Char → Bool) (text : List Char) :
    (text.dropWhile spaces).dropWhile spaces = text.dropWhile spaces := by
  induction text with
  | nil => rfl
  | cons c rest ih =>
      cases space : spaces c with
      | true => rw [List.dropWhile_cons_of_pos space, ih]
      | false =>
          have solid : ¬ spaces c = true := by simp [space]
          rw [List.dropWhile_cons_of_neg solid, List.dropWhile_cons_of_neg solid]

/-- What is dropped at the end leaves nothing to drop at the start. -/
theorem dropWhile_of_prefix {spaces : Char → Bool} {text front : List Char}
    (starts : front <+: text) (solid : text.dropWhile spaces = text) :
    front.dropWhile spaces = front := by
  cases front with
  | nil => rfl
  | cons c rest =>
      obtain ⟨tail, rfl⟩ := starts
      have head : ¬ spaces c = true := by
        intro space
        rw [List.cons_append, List.dropWhile_cons_of_pos space] at solid
        have length := congrArg List.length solid
        have shorter := (List.dropWhile_suffix (p := spaces) (l := rest ++ tail)).length_le
        rw [List.length_cons] at length
        omega
      rw [List.dropWhile_cons_of_neg head]

theorem trim_trim (text : String) : trim (trim text) = trim text := by
  have front : (text.toList.dropWhile isWhiteSpace).reverse.dropWhile isWhiteSpace <:+
      (text.toList.dropWhile isWhiteSpace).reverse := List.dropWhile_suffix _
  have starts : ((text.toList.dropWhile isWhiteSpace).reverse.dropWhile isWhiteSpace).reverse <+:
      text.toList.dropWhile isWhiteSpace := by
    have reversed := List.reverse_prefix.mpr front
    rwa [List.reverse_reverse] at reversed
  have solid := dropWhile_of_prefix starts (dropWhile_dropWhile isWhiteSpace text.toList)
  simp only [trim, String.toList_ofList, solid, List.reverse_reverse, dropWhile_dropWhile]

/-- The decoder takes letters and digits only. -/
def LettersAndDigits (decode : String → Except String Bolt11Invoice) : Prop :=
  ∀ text invoice, decode text = .ok invoice → ∀ c ∈ text.toList, c.isAlphanum = true

variable {decode : String → Except String Bolt11Invoice} {network : Network}
  {sha256 : List UInt8 → List UInt8} {toText : Value → String}

/-- A prepared invoice is of letters and digits. -/
theorem prepare_alphanum (alphabet : LettersAndDigits decode) {now : DateTime}
    {request : SendRequest} {prepared : Prepared}
    (done : prepare (.ldk decode network sha256 toText) now request = .ok prepared) :
    ∀ c ∈ prepared.bolt11.toList, c.isAlphanum = true := by
  obtain ⟨parsed, accepted, rest⟩ := Except.exists_of_bind_eq_ok done
  obtain ⟨invoice, decoded, -⟩ := parseForNetwork_again (Except.eq_ok_of_mapError_eq_ok accepted)
  rw [trim_trim] at decoded
  rw [(prepare_target done).1]
  exact alphabet _ invoice decoded

/-! ## The amount -/

/-- An amount within the supply starts with a byte below the digits. -/
theorem toBeBytes_first {amountMsat : ℕ} (within : toSatsFloor amountMsat ≤ maxSats) :
    (UInt8.ofNat (amountMsat / 256 ^ 7)).toNat < 48 := by
  have small : amountMsat / 256 ^ 7 < 48 := by
    simp only [toSatsFloor, msatPerSat, maxSats] at within
    refine Nat.div_lt_of_lt_mul ?_
    omega
  rw [UInt8.toNat_ofNat']
  exact Nat.lt_of_le_of_lt (Nat.mod_le _ _) small

/-! ## The fields -/

theorem prepare_within {env : Env} {now : DateTime} {request : SendRequest} {prepared : Prepared}
    (done : prepare env now request = .ok prepared) :
    toSatsFloor prepared.amountMsat ≤ maxSats := by
  obtain ⟨parsed, -, rest⟩ := Except.exists_of_bind_eq_ok done
  obtain ⟨amountMsat, -, rest⟩ := Except.exists_of_bind_eq_ok rest
  obtain ⟨⟨⟩, checked, rest⟩ := Except.exists_of_bind_eq_ok rest
  obtain ⟨range, -⟩ := Except.not_and_of_ite_error checked
  cases rest
  exact Nat.not_lt.mp (not_or.mp range).2

theorem word_of_within {amountMsat : ℕ} (within : toSatsFloor amountMsat ≤ maxSats) :
    amountMsat < 2 ^ 64 := by
  simp only [toSatsFloor, msatPerSat, maxSats] at within
  omega

theorem prepare_requestHash {env : Env} {now : DateTime} {request : SendRequest}
    {prepared : Prepared} (done : prepare env now request = .ok prepared) :
    prepared.requestHash = env.sha256 (fed env prepared) := by
  obtain ⟨parsed, -, rest⟩ := Except.exists_of_bind_eq_ok done
  obtain ⟨amountMsat, -, rest⟩ := Except.exists_of_bind_eq_ok rest
  obtain ⟨⟨⟩, -, rest⟩ := Except.exists_of_bind_eq_ok rest
  cases rest
  rfl

/-- The bytes of letters and digits are no smaller than those of digits. -/
theorem digit_le_of_mem {text : String} (plain : ∀ c ∈ text.toList, c.isAlphanum = true) :
    ∀ byte ∈ text.toUTF8.toList, ¬ byte.toNat < 48 := by
  have code : ∀ c ∈ text.toList, 48 ≤ c.toNat ∧ c.toNat < 128 := by
    intro c member
    have code := code_of_isAlphanum (plain c member)
    omega
  rw [utf8_eq_of_ascii fun c member => (code c member).2]
  intro byte member
  obtain ⟨c, there, rfl⟩ := List.mem_map.mp member
  have range := code c there
  rw [UInt8.toNat_ofNat']
  omega

/-- **What is hashed determines the invoice, the amount and the metadata.** -/
theorem fed_inj (alphabet : LettersAndDigits decode) {earlier later : DateTime}
    {first second : SendRequest} {one other : Prepared}
    (done : prepare (.ldk decode network sha256 toText) earlier first = .ok one)
    (again : prepare (.ldk decode network sha256 toText) later second = .ok other)
    (same : fed (.ldk decode network sha256 toText) one =
      fed (.ldk decode network sha256 toText) other) :
    one.bolt11 = other.bolt11 ∧ one.amountMsat = other.amountMsat ∧
      toText one.metadata = toText other.metadata := by
  have within := prepare_within done
  have also := prepare_within again
  simp only [fed, toBeBytes_eq, List.append_assoc, List.cons_append, List.nil_append] at same
  obtain ⟨invoice, head, rest⟩ := append_stop_inj (fun byte : UInt8 => byte.toNat < 48)
    (digit_le_of_mem (prepare_alphanum alphabet done))
    (digit_le_of_mem (prepare_alphanum alphabet again)) (toBeBytes_first within)
    (toBeBytes_first also) same
  simp only [List.cons.injEq] at rest
  obtain ⟨six, five, four, three, two, last, unit, metadata⟩ := rest
  refine ⟨utf8_inj invoice, ?_, utf8_inj metadata⟩
  refine toBeBytes_inj (word_of_within within) (word_of_within also) ?_
  rw [toBeBytes_eq, toBeBytes_eq, head, six, five, four, three, two, last, unit]

/-- **A key that is used again with anything changed is refused.** Unless the digests of the
two requests collide. -/
theorem reuse_detected (alphabet : LettersAndDigits decode) {earlier later : DateTime}
    {first second : SendRequest} {one other : Prepared}
    (done : prepare (.ldk decode network sha256 toText) earlier first = .ok one)
    (again : prepare (.ldk decode network sha256 toText) later second = .ok other) :
    (fed (.ldk decode network sha256 toText) one = fed (.ldk decode network sha256 toText) other →
      one.bolt11 = other.bolt11 ∧ one.amountMsat = other.amountMsat ∧
        toText one.metadata = toText other.metadata) ∧
    ((sha256 (fed (.ldk decode network sha256 toText) one) =
        sha256 (fed (.ldk decode network sha256 toText) other) →
      fed (.ldk decode network sha256 toText) one =
        fed (.ldk decode network sha256 toText) other) →
      ∀ (db : Db) (row : PaymentRow) (projectId key id : String) (now : DateTime),
        db.findPaymentByKey projectId key = some row → row.requestHash = one.requestHash →
        (one.bolt11 ≠ other.bolt11 ∨ one.amountMsat ≠ other.amountMsat ∨
          toText one.metadata ≠ toText other.metadata) →
        Db.beginPayment now (other.newPayment id projectId key) db =
          (.error .idempotencyMismatch, db)) := by
  refine ⟨fed_inj alphabet done again, ?_⟩
  intro collisionFree db row projectId key id now found stored changed
  have differs : row.requestHash ≠ other.requestHash := by
    rw [stored, prepare_requestHash done, prepare_requestHash again]
    intro collision
    obtain ⟨invoice, amount, metadata⟩ := fed_inj alphabet done again (collisionFree collision)
    rcases changed with changed | changed | changed
    · exact changed invoice
    · exact changed amount
    · exact changed metadata
  obtain ⟨positive, fits⟩ := prepare_amount again
  cases call : Db.beginPayment now (other.newPayment id projectId key) db with
  | mk answer after =>
      cases Db.beginPayment_begun call with
      | inserted _ _ keyFree =>
          cases found.symm.trans keyFree
      | existing held there same =>
          cases found.symm.trans there
          exact absurd same differs
      | mismatch => rfl
      | outOfRange invalid =>
          rcases invalid with large | zero
          · exact absurd fits (Nat.not_le_of_lt large)
          · exact absurd zero (Nat.pos_iff_ne_zero.mp positive)
      | taken keyFree => cases found.symm.trans keyFree

theorem lettersAndDigits_regtest : LettersAndDigits regtestDecode := by
  intro text invoice decoded
  have same : text = regtestBolt11 := by
    unfold regtestDecode at decoded
    split at decoded
    · assumption
    · cases decoded
  have plain : regtestBolt11.toList.all (fun c => c.isAlphanum) = true := by
    simp only [regtestBolt11, String.toList_append, List.all_append, Bool.and_eq_true]
    exact ⟨⟨rfl, ⟨rfl, rfl⟩, rfl⟩, rfl⟩
  rw [same]
  exact List.all_eq_true.mp plain

/-! ## A key used again on regtest -/

def changedRequest : SendRequest where
  bolt11 := regtestBolt11
  amountMsat := none
  metadata := .object [("order", .number 2)]

/-- `Value::to_string` on the two requests. -/
def metadataText : Value → String
  | .object [] => "\x7b\x7d"
  | _ => "\x7b\"order\":2\x7d"

/-- The digest of the invoice, its amount and the changed metadata. -/
def changedDigest : List UInt8 :=
  [37, 64, 132, 130, 200, 75, 92, 230, 133, 100, 217, 174, 235, 77, 253, 161, 177, 22, 203, 75, 47,
    74, 236, 175, 79, 81, 133, 43, 243, 34, 111, 15]

/-- The digest, as far as the two requests go. -/
def digestOf (bytes : List UInt8) : List UInt8 :=
  if bytes = regtestBolt11.toUTF8.toList ++ toBeBytes 5_000_000 ++ "\x7b\x7d".toUTF8.toList then
    regtestDigest
  else
    changedDigest

def preparedWith (metadata : Value) : Prepared where
  bolt11 := regtestBolt11
  paymentHash := regtestInvoice.paymentHash
  amountMsat := 5_000_000
  amountForNode := none
  requestHash := digestOf (regtestBolt11.toUTF8.toList ++ toBeBytes 5_000_000 ++
    (metadataText metadata).toUTF8.toList)
  metadata := metadata

/-- The invoice is prepared with whatever metadata it comes with. -/
theorem prepare_preparedWith (metadata : Value) :
    prepare (.ldk regtestDecode .regtest digestOf metadataText) regtestMade
        { regtestRequest with metadata := metadata } = .ok (preparedWith metadata) := by
  have trimmed : trim regtestRequest.bolt11 = regtestBolt11 := trim_regtestBolt11
  simp only [prepare, trimmed]
  rw [parseInvoice_regtest, if_neg (by decide)]
  rfl

theorem digestOf_changed {metadata : Value} (changed : metadataText metadata ≠ "\x7b\x7d") :
    digestOf (regtestBolt11.toUTF8.toList ++ toBeBytes 5_000_000 ++
        "\x7b\x7d".toUTF8.toList) ≠
      digestOf (regtestBolt11.toUTF8.toList ++ toBeBytes 5_000_000 ++
        (metadataText metadata).toUTF8.toList) := by
  have differs : ¬ regtestBolt11.toUTF8.toList ++ toBeBytes 5_000_000 ++
      (metadataText metadata).toUTF8.toList =
        regtestBolt11.toUTF8.toList ++ toBeBytes 5_000_000 ++ "\x7b\x7d".toUTF8.toList := by
    intro same
    exact changed (utf8_inj (List.append_cancel_left same))
  rw [digestOf, if_pos rfl, digestOf, if_neg differs]
  decide

/-- A key under which the invoice was paid is sent again with an order number. -/
theorem reuse_detected_regtest : ∃ (db : Db) (row : PaymentRow) (one other : Prepared),
    prepare (.ldk regtestDecode .regtest digestOf metadataText) regtestMade
      regtestRequest = .ok one ∧
    prepare (.ldk regtestDecode .regtest digestOf metadataText) regtestMade
      changedRequest = .ok other ∧
    db.findPaymentByKey "prj_1" "key_1" = some row ∧ row.requestHash = one.requestHash ∧
    Db.beginPayment regtestMade (other.newPayment "pay_2" "prj_1" "key_1") db =
      (.error .idempotencyMismatch, db) := by
  have done := prepare_preparedWith (.object [])
  have again := prepare_preparedWith (.object [("order", .number 2)])
  have changed : metadataText (.object [("order", .number 2)]) ≠ "\x7b\x7d" := by decide
  let row := Db.createdRow regtestMade
    ((preparedWith (.object [])).newPayment "pay_1" "prj_1" "key_1")
  refine ⟨{ outgoingPayments := [row] }, row, _, _, done, again, rfl, rfl, ?_⟩
  refine (reuse_detected lettersAndDigits_regtest done again).2 ?_ _ row _ _ _ _ rfl rfl
    (.inr (.inr changed.symm))
  exact fun collision => absurd collision (digestOf_changed changed)

end Safrod
