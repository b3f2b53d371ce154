import Mathlib.Data.Nat.Notation
import Safrod.Library.Text

/-!
# Networks and invoice prefixes

`checkInvoicePrefix` reads the network of an invoice from its human-readable
prefix. The prefixes overlap, so the networks are tried in a fixed order and the
character after the prefix has to be a digit.
-/

set_option autoImplicit false

namespace Safrod

/-- The characters `str::trim` removes: `White_Space` of Unicode. -/
def isWhiteSpace (c : Char) : Bool :=
  let code := c.toNat
  (0x9 ≤ code && code ≤ 0xD) || code = 0x20 || code = 0x85 || code = 0xA0 || code = 0x1680 ||
    (0x2000 ≤ code && code ≤ 0x200A) || code = 0x2028 || code = 0x2029 || code = 0x202F ||
    code = 0x205F || code = 0x3000

def trim (text : String) : String :=
  String.ofList (((text.toList.dropWhile isWhiteSpace).reverse.dropWhile isWhiteSpace).reverse)

/-- A text that starts and ends with other characters than spaces stays. -/
theorem trim_of_ends {text : String} {first last : Char} (middle : List Char)
    (shape : text.toList = first :: (middle ++ [last])) (solidFirst : isWhiteSpace first = false)
    (solidLast : isWhiteSpace last = false) : trim text = text := by
  have front : text.toList.dropWhile isWhiteSpace = text.toList := by
    rw [shape, List.dropWhile_cons_of_neg]
    rw [solidFirst]
    decide
  have back : text.toList.reverse.dropWhile isWhiteSpace = text.toList.reverse := by
    rw [shape, List.reverse_cons, List.reverse_append, List.reverse_singleton,
      List.singleton_append, List.cons_append, List.dropWhile_cons_of_neg]
    rw [solidLast]
    decide
  rw [trim, front, back, List.reverse_reverse, String.ofList_toList]

theorem isWhiteSpace_of_isAlphanum {c : Char} (plain : c.isAlphanum = true) :
    isWhiteSpace c = false := by
  have code := Text.code_of_isAlphanum plain
  simp [isWhiteSpace]
  omega

/-- A text without spaces is not trimmed. -/
theorem toList_trim_of_solid {text : List Char} (solid : ∀ c ∈ text, isWhiteSpace c = false) :
    (trim (String.ofList text)).toList = text := by
  have kept : ∀ rest : List Char, (∀ c ∈ rest, isWhiteSpace c = false) →
      rest.dropWhile isWhiteSpace = rest := by
    intro rest clear
    cases rest with
    | nil => rfl
    | cons c later =>
        rw [List.dropWhile_cons_of_neg]
        rw [clear c List.mem_cons_self]
        decide
  have reversed : ∀ c ∈ text.reverse, isWhiteSpace c = false := by
    intro c member
    exact solid c (List.mem_reverse.mp member)
  simp only [trim, String.toList_ofList, kept text solid, kept text.reverse reversed,
    List.reverse_reverse]

def toAsciiLowercase (text : List Char) : List Char := text.map Char.toLower

inductive Network where
  | regtest
  | signet
  | testnet
  | bitcoin
  deriving DecidableEq, Repr

namespace Network

def asStr : Network → String
  | regtest => "regtest"
  | signet => "signet"
  | testnet => "testnet"
  | bitcoin => "bitcoin"

/-- BOLT11 human-readable prefix. -/
def bolt11Prefix : Network → String
  | regtest => "lnbcrt"
  | signet => "lntbs"
  | testnet => "lntb"
  | bitcoin => "lnbc"

/-- `lnbcrt` must be tried before `lnbc`, and `lntbs` before `lntb`. -/
def order : List Network := [regtest, signet, testnet, bitcoin]

/-- The text starts with the prefix, and a digit follows. -/
def hasPrefix (lower : List Char) (network : Network) : Bool :=
  network.bolt11Prefix.toList.isPrefixOf lower &&
    match lower.drop network.bolt11Prefix.toList.length with
    | [] => false
    | c :: _ => c.isDigit

end Network

inductive CoreError where
  | invalidAmount (detail : String)
  | unknownNetwork (text : String)
  | networkMismatch (what expected found : String)
  | illegalTransition (source target : String)
  | invalidId
  | invalidApiKey
  | unknownScope (text : String)
  deriving DecidableEq

def CoreError.toText : CoreError → String
  | invalidAmount detail => "invalid amount: " ++ detail
  | unknownNetwork text => "unknown network: " ++ text
  | networkMismatch what expected found =>
      what ++ " is for " ++ found ++ ", but this node runs on " ++ expected
  | illegalTransition source target => "illegal state transition " ++ source ++ " -> " ++ target
  | invalidId => "invalid identifier"
  | invalidApiKey => "invalid api key"
  | unknownScope text => "unknown scope: " ++ text

/-- Checks the prefix of an invoice against this network. -/
def Network.checkInvoicePrefix (network : Network) (invoice : String) : Except CoreError Unit :=
  let lower := toAsciiLowercase (trim invoice).toList
  match Network.order.find? (Network.hasPrefix lower) with
  | some found =>
      if found = network then .ok ()
      else .error (.networkMismatch "invoice" network.asStr found.asStr)
  | none => .error (.networkMismatch "invoice" network.asStr "unknown")

example : Network.regtest.checkInvoicePrefix "lnbcrt1u1pabc" = .ok () := by rfl

/-! ## The order does not matter -/

namespace Network

variable {network other : Network} {lower : List Char}

/-- No prefix has a digit in it, so a digit ends it. -/
theorem bolt11Prefix_clear (network : Network) :
    ∀ c ∈ network.bolt11Prefix.toList, ¬ c.isDigit = true := by
  have clear : network.bolt11Prefix.toList.all (fun c => !c.isDigit) = true := by
    cases network <;> rfl
  intro c member digit
  have here := List.all_eq_true.mp clear c member
  rw [digit] at here
  cases here

theorem bolt11Prefix_injective
    (same : network.bolt11Prefix.toList = other.bolt11Prefix.toList) : network = other := by
  revert same
  cases network <;> cases other <;> decide

theorem hasPrefix_iff : hasPrefix lower network = true ↔
    ∃ digit rest, digit.isDigit = true ∧
      lower = network.bolt11Prefix.toList ++ digit :: rest := by
  unfold hasPrefix
  rw [Bool.and_eq_true, List.isPrefixOf_iff_prefix]
  constructor
  · rintro ⟨⟨tail, rfl⟩, follows⟩
    rw [List.drop_left] at follows
    cases tail with
    | nil => cases follows
    | cons digit rest => exact ⟨digit, rest, follows, rfl⟩
  · rintro ⟨digit, rest, isDigit, rfl⟩
    refine ⟨List.prefix_append _ _, ?_⟩
    rw [List.drop_left]
    exact isDigit

/-- A text has the prefix of one network at most: `lnbc` and `lnbcrt` differ in what
follows `lnbc`, where one has a digit. -/
theorem hasPrefix_unique (one : hasPrefix lower network = true)
    (also : hasPrefix lower other = true) : network = other := by
  obtain ⟨digit, rest, ends, shape⟩ := hasPrefix_iff.mp one
  obtain ⟨digit', rest', ends', shape'⟩ := hasPrefix_iff.mp also
  exact bolt11Prefix_injective (Text.append_stop_inj (fun c => c.isDigit = true)
    network.bolt11Prefix_clear other.bolt11Prefix_clear ends ends' (shape.symm.trans shape')).1

/-- Whatever order the networks are tried in, the same one is found. -/
theorem find?_hasPrefix {networks : List Network} (covers : ∀ network, network ∈ networks) :
    networks.find? (hasPrefix lower) = some network ↔ hasPrefix lower network = true := by
  constructor
  · exact fun found => List.find?_some found
  · intro has
    cases found : networks.find? (hasPrefix lower) with
    | none => exact absurd has (List.find?_eq_none.mp found network (covers network))
    | some first => rw [hasPrefix_unique (List.find?_some found) has]

theorem mem_order (network : Network) : network ∈ order := by
  cases network <;> decide

/-- An invoice is of the network whose prefix it has. -/
theorem checkInvoicePrefix_eq_ok {invoice : String} :
    network.checkInvoicePrefix invoice = .ok () ↔
      hasPrefix (toAsciiLowercase (trim invoice).toList) network = true := by
  rw [← find?_hasPrefix mem_order]
  unfold checkInvoicePrefix
  dsimp only
  split
  · rename_i first found
    rw [found]
    split
    · rename_i same
      exact iff_of_true rfl (congrArg some same)
    · rename_i differs
      exact iff_of_false (by rintro ⟨⟩) (fun same => differs (Option.some.inj same))
  · rename_i missing
    rw [missing]
    exact iff_of_false (by rintro ⟨⟩) (by rintro ⟨⟩)

/-- **An invoice is of one network at most, in whatever order they are tried, and of the one
whose prefix, a digit and anything else it is, once trimmed and in lower case.** -/
theorem checkInvoicePrefix_exact (invoice : String) :
    (∀ network other, checkInvoicePrefix network invoice = .ok () →
      checkInvoicePrefix other invoice = .ok () → network = other) ∧
    (∀ networks : List Network, (∀ network, network ∈ networks) → ∀ network,
      networks.find? (hasPrefix (toAsciiLowercase (trim invoice).toList)) = some network ↔
        checkInvoicePrefix network invoice = .ok ()) ∧
    ∀ network, checkInvoicePrefix network invoice = .ok () ↔
      ∃ digit rest, digit.isDigit = true ∧
        toAsciiLowercase (trim invoice).toList = network.bolt11Prefix.toList ++ digit :: rest := by
  refine ⟨?_, ?_, ?_⟩
  · intro network other one also
    exact hasPrefix_unique (checkInvoicePrefix_eq_ok.mp one) (checkInvoicePrefix_eq_ok.mp also)
  · intro networks covers network
    rw [find?_hasPrefix covers, checkInvoicePrefix_eq_ok]
  · intro network
    rw [checkInvoicePrefix_eq_ok, hasPrefix_iff]

/-- The networks are found in the reverse order, too. -/
theorem checkInvoicePrefix_exact_reversed :
    order.reverse.find? (hasPrefix (toAsciiLowercase (trim "lnbcrt1u1pabc").toList)) =
      some regtest :=
  ((checkInvoicePrefix_exact "lnbcrt1u1pabc").2.1 order.reverse
    (fun network => List.mem_reverse.mpr (mem_order network)) regtest).mpr rfl

end Network

end Safrod
