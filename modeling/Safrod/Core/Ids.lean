import Safrod.Core.Network

/-!
# Prefixed identifiers

An identifier is the code of its kind, an underscore and 32 hex digits. It is read in either
case of the letters and kept in lower case, so a value carries the proof of its shape.

* `fromStr_eq_ok`: the texts that are read, and what is kept of them.
* `fromStr_asStr`: what is kept is read back.
* `ids_exact`: two texts are one identifier where they differ in case only, and no text is an
  identifier of two kinds.
-/

set_option autoImplicit false

namespace Safrod

open Text

/-! ## Kinds -/

inductive IdKind where
  | project
  | apiKey
  | invoice
  | payment
  | address
  | transaction
  | event
  | webhookEndpoint
  | delivery
  | quote
  | payout
  deriving DecidableEq

namespace IdKind

/-- `PREFIX`. -/
def code : IdKind → String
  | project => "prj"
  | apiKey => "key"
  | invoice => "inv"
  | payment => "pay"
  | address => "adr"
  | transaction => "txn"
  | event => "evt"
  | webhookEndpoint => "whe"
  | delivery => "dlv"
  | quote => "qte"
  | payout => "pot"

theorem code_injective : Function.Injective code := by
  intro first second same
  cases first <;> cases second <;> first | rfl | exact absurd same (by decide)

theorem length_code (kind : IdKind) : kind.code.toList.length = 3 := by
  cases kind <;> rfl

/-- The code is in lower case. -/
theorem lower_code (kind : IdKind) : toAsciiLowercase kind.code.toList = kind.code.toList := by
  cases kind <;> rfl

end IdKind

/-! ## Texts -/

def isAsciiHexdigit (c : Char) : Bool :=
  ('0' ≤ c && c ≤ '9') || ('a' ≤ c && c ≤ 'f') || ('A' ≤ c && c ≤ 'F')

/-- `strip_prefix(concat!($prefix, "_"))`. -/
def stripPrefix (kind : IdKind) (s : List Char) : Option (List Char) :=
  let start := kind.code.toList ++ ['_']
  if start.isPrefixOf s then some (s.drop start.length) else none

/-- The code, an underscore and 32 hex digits. -/
def IdKind.Reads (kind : IdKind) (s : List Char) : Prop :=
  ∃ digits, s = kind.code.toList ++ '_' :: digits ∧ digits.length = 32 ∧
    ∀ c ∈ digits, isAsciiHexdigit c = true

/-- A byte of a character that is not ASCII is no hex digit. -/
theorem ascii_of_isAsciiHexdigit {c : Char} (digit : isAsciiHexdigit c = true) :
    c.toNat < 128 := by
  delta isAsciiHexdigit at digit
  simp [Char.le_def, UInt32.le_iff_toNat_le] at digit
  have code : c.val.toNat = c.toNat := rfl
  omega

theorem utf8ByteSize_of_hex {digits : List Char}
    (all : ∀ c ∈ digits, isAsciiHexdigit c = true) :
    (String.ofList digits).utf8ByteSize = digits.length := by
  rw [utf8ByteSize_of_ascii, String.toList_ofList]
  rw [String.toList_ofList]
  exact fun c member => ascii_of_isAsciiHexdigit (all c member)

theorem isAsciiHexdigit_toLower {c : Char} (digit : isAsciiHexdigit c = true) :
    isAsciiHexdigit c.toLower = true ∧ c.toLower.toLower = c.toLower := by
  have ascii : ∀ code < 128, isAsciiHexdigit (Char.ofNat code) = true →
      isAsciiHexdigit (Char.ofNat code).toLower = true ∧
        (Char.ofNat code).toLower.toLower = (Char.ofNat code).toLower := by decide
  have checked := ascii c.toNat (ascii_of_isAsciiHexdigit digit)
  rw [Char.ofNat_toNat] at checked
  exact checked digit

theorem stripPrefix_eq_some {kind : IdKind} {s rest : List Char} :
    stripPrefix kind s = some rest ↔ s = kind.code.toList ++ '_' :: rest := by
  simp only [stripPrefix]
  constructor
  · intro found
    split at found
    · rename_i starts
      obtain ⟨back, rfl⟩ := List.isPrefixOf_iff_prefix.mp starts
      cases found
      rw [List.drop_left, List.append_assoc]
      rfl
    · cases found
  · rintro rfl
    have split : kind.code.toList ++ '_' :: rest = (kind.code.toList ++ ['_']) ++ rest := by
      rw [List.append_assoc]
      rfl
    rw [split, if_pos (List.isPrefixOf_iff_prefix.mpr ⟨rest, rfl⟩), List.drop_left]

/-- Lower case leaves the shape. -/
theorem IdKind.Reads.lower {kind : IdKind} {s : List Char} (reads : kind.Reads s) :
    kind.Reads (toAsciiLowercase s) ∧
      toAsciiLowercase (toAsciiLowercase s) = toAsciiLowercase s := by
  obtain ⟨digits, rfl, size, all⟩ := reads
  have code := kind.lower_code
  have shape : toAsciiLowercase (kind.code.toList ++ '_' :: digits) =
      kind.code.toList ++ '_' :: toAsciiLowercase digits := by
    unfold toAsciiLowercase at code ⊢
    rw [List.map_append, code, List.map_cons]
    rfl
  have twice : toAsciiLowercase (toAsciiLowercase digits) = toAsciiLowercase digits := by
    unfold toAsciiLowercase
    rw [List.map_map]
    refine List.map_congr_left fun c member => ?_
    exact (isAsciiHexdigit_toLower (all c member)).2
  refine ⟨⟨toAsciiLowercase digits, shape, ?_, ?_⟩, ?_⟩
  · rw [toAsciiLowercase, List.length_map, size]
  · intro c member
    obtain ⟨old, there, rfl⟩ := List.mem_map.mp member
    exact (isAsciiHexdigit_toLower (all old there)).1
  · rw [shape, toAsciiLowercase, List.map_append, List.map_cons, ← toAsciiLowercase,
      ← toAsciiLowercase, code, twice]
    rfl

/-- A byte prints as two hex digits in lower case. -/
theorem lower_of_mem_hexEncode {bytes : List UInt8} {c : Char} (member : c ∈ hexEncode bytes) :
    isAsciiHexdigit c = true ∧ c.toLower = c := by
  have digit : ∀ value < 16, isAsciiHexdigit (Nat.digitChar value) = true ∧
      (Nat.digitChar value).toLower = Nat.digitChar value := by decide
  obtain ⟨byte, -, member⟩ := List.mem_flatMap.mp member
  have small := byte.toNat_lt
  rcases List.mem_cons.mp member with rfl | last
  · exact digit _ (by omega)
  · rw [List.mem_singleton.mp last]
    exact digit _ (by omega)

/-! ## Identifiers -/

structure PrefixedId (kind : IdKind) where
  asStr : String
  reads : kind.Reads asStr.toList
  lower : toAsciiLowercase asStr.toList = asStr.toList

abbrev ProjectId := PrefixedId .project

abbrev ApiKeyId := PrefixedId .apiKey

abbrev InvoiceId := PrefixedId .invoice

abbrev PaymentId := PrefixedId .payment

abbrev AddressId := PrefixedId .address

abbrev TransactionId := PrefixedId .transaction

abbrev EventId := PrefixedId .event

abbrev WebhookEndpointId := PrefixedId .webhookEndpoint

abbrev DeliveryId := PrefixedId .delivery

abbrev QuoteId := PrefixedId .quote

abbrev PayoutId := PrefixedId .payout

theorem reads_of_stripped {kind : IdKind} {s : String} {rest : List Char}
    (stripped : stripPrefix kind s.toList = some rest)
    (digits : (String.ofList rest).utf8ByteSize = 32 ∧ rest.all isAsciiHexdigit = true) :
    kind.Reads s.toList := by
  have all := List.all_eq_true.mp digits.2
  have size : (String.ofList rest).utf8ByteSize = rest.length := utf8ByteSize_of_hex all
  exact ⟨rest, stripPrefix_eq_some.mp stripped, size.symm.trans digits.1, all⟩

namespace PrefixedId

variable {kind other : IdKind} {s t : String}

/-- `Self(s.to_ascii_lowercase())`. -/
def ofText (s : String) (reads : kind.Reads s.toList) : PrefixedId kind where
  asStr := String.ofList (toAsciiLowercase s.toList)
  reads := by
    rw [String.toList_ofList]
    exact reads.lower.1
  lower := by
    rw [String.toList_ofList]
    exact reads.lower.2

def fromStr (kind : IdKind) (s : String) : Except CoreError (PrefixedId kind) :=
  match stripped : stripPrefix kind s.toList with
  | none => .error .invalidId
  | some rest =>
      if digits : (String.ofList rest).utf8ByteSize = 32 ∧ rest.all isAsciiHexdigit = true then
        .ok (ofText s (reads_of_stripped stripped digits))
      else .error .invalidId

theorem text_new (kind : IdKind) (uuid : List UInt8) :
    (kind.code ++ "_" ++ String.ofList (hexEncode uuid)).toList =
      kind.code.toList ++ '_' :: hexEncode uuid := by
  simp only [String.toList_append, String.toList_ofList, List.append_assoc]
  rfl

/-- `$prefix`, an underscore and `Uuid::new_v4().simple()`. The UUID comes as its bytes, which
are printed as hex digits in lower case. -/
def new (kind : IdKind) (uuid : List UInt8) (size : uuid.length = 16) : PrefixedId kind where
  asStr := kind.code ++ "_" ++ String.ofList (hexEncode uuid)
  reads := by
    refine ⟨hexEncode uuid, text_new kind uuid, ?_, ?_⟩
    · rw [length_hexEncode, size]
    · exact fun c member => (lower_of_mem_hexEncode member).1
  lower := by
    have digits : (hexEncode uuid).map Char.toLower = hexEncode uuid := by
      refine (List.map_congr_left fun c member => ?_).trans (List.map_id _)
      exact (lower_of_mem_hexEncode member).2
    have code := kind.lower_code
    unfold toAsciiLowercase at code ⊢
    rw [text_new, List.map_append, List.map_cons, code, digits]
    rfl

/-! ## Reading and printing -/

theorem eq_of_asStr {first second : PrefixedId kind} (same : first.asStr = second.asStr) :
    first = second := by
  cases first
  cases second
  cases same
  rfl

theorem fromStr_eq_ok {id : PrefixedId kind} : fromStr kind s = .ok id ↔
    kind.Reads s.toList ∧ id.asStr = String.ofList (toAsciiLowercase s.toList) := by
  unfold fromStr
  constructor
  · intro read
    split at read
    · cases read
    · rename_i rest stripped
      split at read
      · rename_i digits
        cases read
        exact ⟨reads_of_stripped stripped digits, rfl⟩
      · cases read
  · rintro ⟨⟨digits, shape, size, all⟩, printed⟩
    have found := stripPrefix_eq_some.mpr shape
    have bytes : (String.ofList digits).utf8ByteSize = 32 := (utf8ByteSize_of_hex all).trans size
    split
    · rename_i missing
      rw [found] at missing
      cases missing
    · rename_i rest stripped
      cases found.symm.trans stripped
      rw [dif_pos ⟨bytes, List.all_eq_true.mpr all⟩]
      exact congrArg Except.ok (eq_of_asStr printed.symm)

/-- What an identifier prints is read back as it. -/
theorem fromStr_asStr (id : PrefixedId kind) : fromStr kind id.asStr = .ok id := by
  refine fromStr_eq_ok.mpr ⟨id.reads, ?_⟩
  rw [id.lower, String.ofList_toList]

/-- An identifier shows its kind and its digits. -/
theorem split_inj {digits others : List Char}
    (same : kind.code.toList ++ '_' :: digits = other.code.toList ++ '_' :: others) :
    kind = other ∧ digits = others := by
  have lengths : kind.code.toList.length = other.code.toList.length := by
    rw [kind.length_code, other.length_code]
  obtain ⟨codes, rests⟩ := List.append_inj same lengths
  exact ⟨IdKind.code_injective (String.toList_inj.mp codes), (List.cons.inj rests).2⟩

theorem kind_of_reads {text : List Char} (reads : kind.Reads text) (also : other.Reads text) :
    kind = other := by
  obtain ⟨digits, rfl, -⟩ := reads
  obtain ⟨others, same, -⟩ := also
  exact (split_inj same).1

/-- New identifiers of different UUIDs differ. -/
theorem new_inj {uuid bytes : List UInt8} {size : uuid.length = 16} {size' : bytes.length = 16} :
    (new kind uuid size).asStr = (new other bytes size').asStr ↔ kind = other ∧ uuid = bytes := by
  constructor
  · intro same
    have texts := congrArg String.toList same
    simp only [new, text_new] at texts
    obtain ⟨rfl, digits⟩ := split_inj texts
    have decoded := congrArg hexDecode digits
    rw [hexDecode_hexEncode, hexDecode_hexEncode] at decoded
    exact ⟨rfl, Option.some.inj decoded⟩
  · rintro ⟨rfl, rfl⟩
    rfl

/-- **Identifiers are exact.** A text is read where it is the code, an underscore and 32 hex
digits in either case. Two texts, of one kind or of two, are printed alike where they differ in
the case of letters only, and then the kinds are one; and what is printed is read back. -/
theorem ids_exact {first : PrefixedId kind} {second : PrefixedId other}
    (read : fromStr kind s = .ok first) (also : fromStr other t = .ok second) :
    (∀ text, (∃ id, fromStr kind text = .ok id) ↔ kind.Reads text.toList) ∧
      (first.asStr = second.asStr ↔ toAsciiLowercase s.toList = toAsciiLowercase t.toList) ∧
      (first.asStr = second.asStr → kind = other) ∧
      fromStr kind first.asStr = .ok first := by
  obtain ⟨-, printed⟩ := fromStr_eq_ok.mp read
  obtain ⟨-, printed'⟩ := fromStr_eq_ok.mp also
  refine ⟨?_, ?_, ?_, fromStr_asStr first⟩
  · intro text
    constructor
    · rintro ⟨id, found⟩
      exact (fromStr_eq_ok.mp found).1
    · intro reads
      exact ⟨ofText text reads, fromStr_eq_ok.mpr ⟨reads, rfl⟩⟩
  · rw [printed, printed', String.ofList_inj]
  · intro same
    have reads := second.reads
    rw [← same] at reads
    exact kind_of_reads first.reads reads

def upperText : String := "inv_0123456789ABCDEF0123456789ABCDEF"

def lowerText : String := "inv_0123456789abcdef0123456789abcdef"

theorem ids_exact_case : ∃ first second : InvoiceId,
    fromStr .invoice upperText = .ok first ∧ fromStr .invoice lowerText = .ok second ∧
      first.asStr = second.asStr ∧ fromStr .invoice first.asStr = .ok first := by
  have upper : IdKind.invoice.Reads upperText.toList :=
    ⟨"0123456789ABCDEF0123456789ABCDEF".toList, rfl, rfl, List.all_eq_true.mp rfl⟩
  have lower : IdKind.invoice.Reads lowerText.toList :=
    ⟨"0123456789abcdef0123456789abcdef".toList, rfl, rfl, List.all_eq_true.mp rfl⟩
  have read : fromStr .invoice upperText = .ok (ofText upperText upper) :=
    fromStr_eq_ok.mpr ⟨upper, rfl⟩
  have also : fromStr .invoice lowerText = .ok (ofText lowerText lower) :=
    fromStr_eq_ok.mpr ⟨lower, rfl⟩
  obtain ⟨-, same, -, back⟩ := ids_exact read also
  exact ⟨_, _, read, also, same.mpr (by decide), back⟩

end PrefixedId

end Safrod
