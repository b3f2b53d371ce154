import Mathlib.Algebra.Group.Nat.Defs
import Mathlib.Tactic.Push
import Mathlib.Tactic.Tauto

/-!
# The guard of webhook destinations

Destinations are checked by address.

* `isPublicIp_iff`: an address is refused for the block of special purpose it is in.
* `embedded_guarded_iff`: an IPv6 address may carry an IPv4 one in four encodings, and the
  guard looks into one of them.
-/

set_option autoImplicit false

namespace Safrod

/-! ## Addresses -/

/-- The octets of `Ipv4Addr`. -/
structure Ipv4Addr where
  a : UInt8
  b : UInt8
  c : UInt8
  d : UInt8
  deriving DecidableEq

namespace Ipv4Addr

def isUnspecified (ip : Ipv4Addr) : Bool := ip = ⟨0, 0, 0, 0⟩

def isLoopback (ip : Ipv4Addr) : Bool := ip.a = 127

def isPrivate (ip : Ipv4Addr) : Bool :=
  ip.a = 10 || (ip.a = 172 && 16 ≤ ip.b && ip.b ≤ 31) || (ip.a = 192 && ip.b = 168)

def isLinkLocal (ip : Ipv4Addr) : Bool := ip.a = 169 && ip.b = 254

def isBroadcast (ip : Ipv4Addr) : Bool := ip = ⟨255, 255, 255, 255⟩

def isMulticast (ip : Ipv4Addr) : Bool := 224 ≤ ip.a && ip.a ≤ 239

def isDocumentation (ip : Ipv4Addr) : Bool :=
  (ip.a = 192 && ip.b = 0 && ip.c = 2) || (ip.a = 198 && ip.b = 51 && ip.c = 100) ||
    (ip.a = 203 && ip.b = 0 && ip.c = 113)

/-- The first half of an address, as a segment of an IPv6 address. -/
def high (ip : Ipv4Addr) : UInt16 := ip.a.toUInt16 * 256 + ip.b.toUInt16

def low (ip : Ipv4Addr) : UInt16 := ip.c.toUInt16 * 256 + ip.d.toUInt16

def toNat (ip : Ipv4Addr) : ℕ :=
  ((ip.a.toNat * 256 + ip.b.toNat) * 256 + ip.c.toNat) * 256 + ip.d.toNat

end Ipv4Addr

/-- The segments of `Ipv6Addr`. -/
structure Ipv6Addr where
  s0 : UInt16
  s1 : UInt16
  s2 : UInt16
  s3 : UInt16
  s4 : UInt16
  s5 : UInt16
  s6 : UInt16
  s7 : UInt16
  deriving DecidableEq

namespace Ipv6Addr

def unspecified : Ipv6Addr := ⟨0, 0, 0, 0, 0, 0, 0, 0⟩

def loopback : Ipv6Addr := ⟨0, 0, 0, 0, 0, 0, 0, 1⟩

def isUnspecified (ip : Ipv6Addr) : Bool := ip = unspecified

def isLoopback (ip : Ipv6Addr) : Bool := ip = loopback

def isMulticast (ip : Ipv6Addr) : Bool := ip.s0 &&& 0xff00 = 0xff00

/-- `to_ipv4_mapped`, of `::ffff:0:0/96`. -/
def toIpv4Mapped (ip : Ipv6Addr) : Option Ipv4Addr :=
  if ip.s0 = 0 ∧ ip.s1 = 0 ∧ ip.s2 = 0 ∧ ip.s3 = 0 ∧ ip.s4 = 0 ∧ ip.s5 = 0xffff then
    some ⟨(ip.s6 >>> 8).toUInt8, ip.s6.toUInt8, (ip.s7 >>> 8).toUInt8, ip.s7.toUInt8⟩
  else none

def toNat (ip : Ipv6Addr) : ℕ :=
  ((((((ip.s0.toNat * 65536 + ip.s1.toNat) * 65536 + ip.s2.toNat) * 65536 + ip.s3.toNat) * 65536 +
    ip.s4.toNat) * 65536 + ip.s5.toNat) * 65536 + ip.s6.toNat) * 65536 + ip.s7.toNat

end Ipv6Addr

inductive IpAddr where
  | v4 (ip : Ipv4Addr)
  | v6 (ip : Ipv6Addr)
  deriving DecidableEq

/-! ## The guard -/

def isPublicV4 (ip : Ipv4Addr) : Bool :=
  !(ip.isUnspecified
    || ip.isLoopback
    || ip.isPrivate
    || ip.isLinkLocal
    || ip.isBroadcast
    || ip.isMulticast
    || ip.isDocumentation
    || ip.a = 0
    || (ip.a = 100 && (64 ≤ ip.b && ip.b < 128))
    || (ip.a = 192 && ip.b = 0 && ip.c = 0)
    || (ip.a = 198 && (ip.b = 18 || ip.b = 19))
    || 240 ≤ ip.a)

def isPublicV6 (ip : Ipv6Addr) : Bool :=
  match ip.toIpv4Mapped with
  | some v4 => isPublicV4 v4
  | none =>
      !(ip.isUnspecified
        || ip.isLoopback
        || ip.isMulticast
        || ip.s0 &&& 0xfe00 = 0xfc00
        || ip.s0 &&& 0xffc0 = 0xfe80
        || (ip.s0 = 0x2001 && ip.s1 = 0x0db8))

def isPublicIp : IpAddr → Bool
  | .v4 ip => isPublicV4 ip
  | .v6 ip => isPublicV6 ip

inductive GuardError where
  | invalid
  | insecureScheme
  | credentials
  | notPublic
  | unresolvable
  deriving DecidableEq

structure SocketAddr where
  ip : IpAddr
  port : UInt16
  deriving DecidableEq

/-- What the guard reads of a parsed URL. -/
structure Url where
  hostStr : Option String
  portOrKnownDefault : Option UInt16

/-- `trim_matches(['[', ']'])`. -/
def trimBrackets (host : String) : String :=
  let bracket := fun c : Char => c = '[' || c = ']'
  String.ofList (((host.toList.dropWhile bracket).reverse.dropWhile bracket).reverse)

/-- The resolver: the addresses of a host, or a failure. -/
abbrev Resolver := String → UInt16 → Option (List SocketAddr)

def resolveChecked (lookupHost : Resolver) (url : Url) (allowPrivate : Bool) :
    Except GuardError SocketAddr :=
  match url.hostStr, url.portOrKnownDefault with
  | some host, some port =>
      match lookupHost (trimBrackets host) port with
      | none | some [] => .error .unresolvable
      | some (first :: rest) =>
          if !allowPrivate && (first :: rest).any fun addr => !isPublicIp addr.ip then
            .error .notPublic
          else .ok first
  | _, _ => .error .invalid

/-! ## What an IPv4 address is refused for -/

/-- A block of IPv4 addresses: those that agree with one on its first bits. -/
structure Block where
  base : Ipv4Addr
  bits : ℕ

def Block.Has (block : Block) (ip : Ipv4Addr) : Prop :=
  ip.toNat / 2 ^ (32 - block.bits) = block.base.toNat / 2 ^ (32 - block.bits)

/-- The blocks of special purpose. -/
def reservedBlocks : List Block :=
  [⟨⟨0, 0, 0, 0⟩, 8⟩, ⟨⟨10, 0, 0, 0⟩, 8⟩, ⟨⟨100, 64, 0, 0⟩, 10⟩, ⟨⟨127, 0, 0, 0⟩, 8⟩,
    ⟨⟨169, 254, 0, 0⟩, 16⟩, ⟨⟨172, 16, 0, 0⟩, 12⟩, ⟨⟨192, 0, 0, 0⟩, 24⟩, ⟨⟨192, 0, 2, 0⟩, 24⟩,
    ⟨⟨192, 168, 0, 0⟩, 16⟩, ⟨⟨198, 18, 0, 0⟩, 15⟩, ⟨⟨198, 51, 100, 0⟩, 24⟩,
    ⟨⟨203, 0, 113, 0⟩, 24⟩, ⟨⟨224, 0, 0, 0⟩, 4⟩, ⟨⟨240, 0, 0, 0⟩, 4⟩]

namespace Block

variable (x y z : UInt8) (ip : Ipv4Addr)

theorem has_eight : Has ⟨⟨x, 0, 0, 0⟩, 8⟩ ip ↔ ip.a = x := by
  have small := And.intro ip.b.toNat_lt (And.intro ip.c.toNat_lt ip.d.toNat_lt)
  rw [← UInt8.toNat_inj]
  simp [Has, Ipv4Addr.toNat]
  omega

theorem has_sixteen : Has ⟨⟨x, y, 0, 0⟩, 16⟩ ip ↔ ip.a = x ∧ ip.b = y := by
  have small := And.intro ip.b.toNat_lt (And.intro ip.c.toNat_lt ip.d.toNat_lt)
  have base := y.toNat_lt
  rw [← UInt8.toNat_inj, ← UInt8.toNat_inj]
  simp [Has, Ipv4Addr.toNat]
  omega

theorem has_twentyFour : Has ⟨⟨x, y, z, 0⟩, 24⟩ ip ↔ ip.a = x ∧ ip.b = y ∧ ip.c = z := by
  have small := And.intro ip.b.toNat_lt (And.intro ip.c.toNat_lt ip.d.toNat_lt)
  have base := And.intro y.toNat_lt z.toNat_lt
  rw [← UInt8.toNat_inj, ← UInt8.toNat_inj, ← UInt8.toNat_inj]
  simp [Has, Ipv4Addr.toNat]
  omega

/-- A block on the bits of the first octet. -/
theorem has_first : Has ⟨⟨x, 0, 0, 0⟩, 4⟩ ip ↔ ip.a.toNat / 16 = x.toNat / 16 := by
  have small := And.intro ip.b.toNat_lt (And.intro ip.c.toNat_lt ip.d.toNat_lt)
  simp [Has, Ipv4Addr.toNat]
  omega

/-- Blocks on the bits of the second octet. -/
theorem has_ten : Has ⟨⟨x, y, 0, 0⟩, 10⟩ ip ↔ ip.a = x ∧ ip.b.toNat / 64 = y.toNat / 64 := by
  have small := And.intro ip.b.toNat_lt (And.intro ip.c.toNat_lt ip.d.toNat_lt)
  have base := y.toNat_lt
  rw [← UInt8.toNat_inj]
  simp [Has, Ipv4Addr.toNat]
  omega

theorem has_twelve : Has ⟨⟨x, y, 0, 0⟩, 12⟩ ip ↔ ip.a = x ∧ ip.b.toNat / 16 = y.toNat / 16 := by
  have small := And.intro ip.b.toNat_lt (And.intro ip.c.toNat_lt ip.d.toNat_lt)
  have base := y.toNat_lt
  rw [← UInt8.toNat_inj]
  simp [Has, Ipv4Addr.toNat]
  omega

theorem has_fifteen : Has ⟨⟨x, y, 0, 0⟩, 15⟩ ip ↔ ip.a = x ∧ ip.b.toNat / 2 = y.toNat / 2 := by
  have small := And.intro ip.b.toNat_lt (And.intro ip.c.toNat_lt ip.d.toNat_lt)
  have base := y.toNat_lt
  rw [← UInt8.toNat_inj]
  simp [Has, Ipv4Addr.toNat]
  omega

end Block

/-- **The guard refuses the blocks of special purpose.** -/
theorem isPublicV4_iff (ip : Ipv4Addr) :
    isPublicV4 ip = true ↔ ∀ block ∈ reservedBlocks, ¬ block.Has ip := by
  simp only [reservedBlocks, List.forall_mem_cons, Block.has_eight, Block.has_sixteen,
    Block.has_twentyFour, Block.has_first, Block.has_ten, Block.has_twelve, Block.has_fifteen]
  obtain ⟨a, b, c, d⟩ := ip
  simp [isPublicV4, Ipv4Addr.isUnspecified,
    Ipv4Addr.isLoopback, Ipv4Addr.isPrivate, Ipv4Addr.isLinkLocal, Ipv4Addr.isBroadcast,
    Ipv4Addr.isMulticast, Ipv4Addr.isDocumentation, UInt8.le_iff_toNat_le,
    UInt8.lt_iff_toNat_lt]
  have sixtyFour : b.toNat / 64 = 1 ↔ ¬ (b.toNat < 64 ∨ 128 ≤ b.toNat) := by omega
  have sixteen : b.toNat / 16 = 1 ↔ ¬ (b.toNat < 16 ∨ 31 < b.toNat) := by omega
  have two : b.toNat / 2 = 9 ↔ b = 18 ∨ b = 19 := by
    rw [← UInt8.toNat_inj, ← UInt8.toNat_inj]
    have eighteen : (18 : UInt8).toNat = 18 := rfl
    have nineteen : (19 : UInt8).toNat = 19 := rfl
    omega
  have multicast : a.toNat / 16 = 14 ↔ ¬ (a.toNat < 224 ∨ 239 < a.toNat) := by omega
  have reserved : a.toNat / 16 = 15 ↔ ¬ a.toNat < 240 := by
    have small := a.toNat_lt
    omega
  have broadcast : a = 255 → ¬ a.toNat < 240 := by
    rintro rfl
    decide
  rw [sixtyFour, sixteen, two, multicast, reserved]
  grind

/-! ## What an IPv6 address is refused for -/

structure BlockV6 where
  base : Ipv6Addr
  bits : ℕ

def BlockV6.Has (block : BlockV6) (ip : Ipv6Addr) : Prop :=
  ip.toNat / 2 ^ (128 - block.bits) = block.base.toNat / 2 ^ (128 - block.bits)

/-- `::`, `::1`, multicast, unique local, link-local and documentation. -/
def reservedBlocksV6 : List BlockV6 :=
  [⟨.unspecified, 128⟩, ⟨.loopback, 128⟩, ⟨⟨0xff00, 0, 0, 0, 0, 0, 0, 0⟩, 8⟩,
    ⟨⟨0xfc00, 0, 0, 0, 0, 0, 0, 0⟩, 7⟩, ⟨⟨0xfe80, 0, 0, 0, 0, 0, 0, 0⟩, 10⟩,
    ⟨⟨0x2001, 0x0db8, 0, 0, 0, 0, 0, 0⟩, 32⟩]

namespace BlockV6

variable (base ip : Ipv6Addr)

theorem has_all : Has ⟨base, 128⟩ ip ↔ ip = base := by
  obtain ⟨s0, s1, s2, s3, s4, s5, s6, s7⟩ := ip
  obtain ⟨b0, b1, b2, b3, b4, b5, b6, b7⟩ := base
  have small := And.intro s1.toNat_lt (And.intro s2.toNat_lt (And.intro s3.toNat_lt
    (And.intro s4.toNat_lt (And.intro s5.toNat_lt (And.intro s6.toNat_lt s7.toNat_lt)))))
  have bound := And.intro b1.toNat_lt (And.intro b2.toNat_lt (And.intro b3.toNat_lt
    (And.intro b4.toNat_lt (And.intro b5.toNat_lt (And.intro b6.toNat_lt b7.toNat_lt)))))
  simp only [Has, Ipv6Addr.toNat, Nat.sub_self, Nat.pow_zero, Nat.div_one, Ipv6Addr.mk.injEq,
    ← UInt16.toNat_inj]
  omega

/-- A block on the bits of the first segment. -/
theorem has_first {bits : ℕ} (short : bits ≤ 16) :
    Has ⟨base, bits⟩ ip ↔
      ip.s0.toNat / 2 ^ (16 - bits) = base.s0.toNat / 2 ^ (16 - bits) := by
  have first : ∀ ip : Ipv6Addr, ip.toNat / 2 ^ 112 = ip.s0.toNat := by
    intro ip
    have small := And.intro ip.s1.toNat_lt (And.intro ip.s2.toNat_lt (And.intro ip.s3.toNat_lt
      (And.intro ip.s4.toNat_lt (And.intro ip.s5.toNat_lt
        (And.intro ip.s6.toNat_lt ip.s7.toNat_lt)))))
    simp only [Ipv6Addr.toNat]
    omega
  have split : 2 ^ (128 - bits) = 2 ^ 112 * 2 ^ (16 - bits) := by
    rw [← Nat.pow_add]
    congr 1
    omega
  rw [Has, split, ← Nat.div_div_eq_div_mul, ← Nat.div_div_eq_div_mul, first, first]

theorem has_thirtyTwo : Has ⟨base, 32⟩ ip ↔ ip.s0 = base.s0 ∧ ip.s1 = base.s1 := by
  have firstTwo : ∀ ip : Ipv6Addr, ip.toNat / 2 ^ 96 = ip.s0.toNat * 65536 + ip.s1.toNat := by
    intro ip
    have small := And.intro ip.s2.toNat_lt (And.intro ip.s3.toNat_lt
      (And.intro ip.s4.toNat_lt (And.intro ip.s5.toNat_lt
        (And.intro ip.s6.toNat_lt ip.s7.toNat_lt))))
    simp only [Ipv6Addr.toNat]
    omega
  have small := And.intro ip.s1.toNat_lt base.s1.toNat_lt
  simp only [Has, Nat.reduceSub, firstTwo, ← UInt16.toNat_inj]
  omega

end BlockV6

/-- A mask of the first bits compares these. -/
theorem and_mask_eq (bits kept : ℕ) {s value : ℕ} (small : s < 2 ^ (bits + kept))
    (clear : value % 2 ^ bits = 0) :
    s &&& (2 ^ bits * (2 ^ kept - 1)) = value ↔ s / 2 ^ bits = value / 2 ^ bits := by
  have quotient : (s &&& (2 ^ bits * (2 ^ kept - 1))) / 2 ^ bits = s / 2 ^ bits := by
    have within : s / 2 ^ bits < 2 ^ kept := Nat.div_lt_of_lt_mul (Nat.pow_add .. ▸ small)
    rw [Nat.and_div_two_pow, Nat.mul_div_cancel_left _ (Nat.two_pow_pos bits),
      Nat.and_two_pow_sub_one_eq_mod, Nat.mod_eq_of_lt within]
  have remainder : (s &&& (2 ^ bits * (2 ^ kept - 1))) % 2 ^ bits = 0 := by
    rw [Nat.and_mod_two_pow, Nat.mul_mod_right, Nat.and_zero]
  constructor
  · intro same
    rw [← same, quotient]
  · intro same
    have whole := Nat.div_add_mod (s &&& (2 ^ bits * (2 ^ kept - 1))) (2 ^ bits)
    rw [quotient, remainder, same, Nat.add_zero] at whole
    rw [← whole]
    exact Nat.mul_div_cancel' (Nat.dvd_of_mod_eq_zero clear)

theorem segment_masked (s : UInt16) :
    (s &&& 0xff00 = 0xff00 ↔ s.toNat / 2 ^ 8 = 255) ∧
      (s &&& 0xfe00 = 0xfc00 ↔ s.toNat / 2 ^ 9 = 126) ∧
      (s &&& 0xffc0 = 0xfe80 ↔ s.toNat / 2 ^ 6 = 1018) := by
  simp only [← UInt16.toNat_inj, UInt16.toNat_and]
  exact ⟨and_mask_eq 8 8 s.toNat_lt rfl, and_mask_eq 9 7 s.toNat_lt rfl,
    and_mask_eq 6 10 s.toNat_lt rfl⟩

theorem reservedBlocksV6_iff (ip : Ipv6Addr) :
    (∃ block ∈ reservedBlocksV6, block.Has ip) ↔
      ip = .unspecified ∨ ip = .loopback ∨ ip.s0 &&& 0xff00 = 0xff00 ∨
        ip.s0 &&& 0xfe00 = 0xfc00 ∨ ip.s0 &&& 0xffc0 = 0xfe80 ∨
          (ip.s0 = 0x2001 ∧ ip.s1 = 0x0db8) := by
  obtain ⟨multicast, uniqueLocal, linkLocal⟩ := segment_masked ip.s0
  rw [multicast, uniqueLocal, linkLocal]
  simp only [reservedBlocksV6, List.mem_cons, List.not_mem_nil, or_false, exists_eq_or_imp,
    exists_eq_left, BlockV6.has_all, BlockV6.has_thirtyTwo,
    BlockV6.has_first _ _ (show 8 ≤ 16 by decide), BlockV6.has_first _ _ (show 7 ≤ 16 by decide),
    BlockV6.has_first _ _ (show 10 ≤ 16 by decide)]
  rfl

/-! ## IPv4 addresses in IPv6 addresses -/

inductive Encoding where
  /-- `::ffff:0:0/96`. -/
  | mapped
  /-- `::/96`. -/
  | compatible
  /-- `64:ff9b::/96`. -/
  | nat64
  /-- `2002::/16`, where the rest of the address is free. -/
  | sixToFour
  deriving DecidableEq

/-- The IPv6 address carries the IPv4 address. -/
def Encoding.Carries : Encoding → Ipv6Addr → Ipv4Addr → Prop
  | mapped, v6, v4 => v6 = ⟨0, 0, 0, 0, 0, 0xffff, v4.high, v4.low⟩
  | compatible, v6, v4 => v6 = ⟨0, 0, 0, 0, 0, 0, v4.high, v4.low⟩
  | nat64, v6, v4 => v6 = ⟨0x64, 0xff9b, 0, 0, 0, 0, v4.high, v4.low⟩
  | sixToFour, v6, v4 => v6.s0 = 0x2002 ∧ v6.s1 = v4.high ∧ v6.s2 = v4.low

/-- The octets of a segment. -/
theorem octets_segment (first second : UInt8) :
    ((first.toUInt16 * 256 + second.toUInt16) >>> 8).toUInt8 = first ∧
      (first.toUInt16 * 256 + second.toUInt16).toUInt8 = second := by
  have firstSmall := first.toNat_lt
  have secondSmall := second.toNat_lt
  constructor
  · rw [← UInt8.toNat_inj]
    simp [Nat.shiftRight_eq_div_pow]
    omega
  · rw [← UInt8.toNat_inj]
    simp

theorem segment_octets (s : UInt16) :
    (s >>> 8).toUInt8.toUInt16 * 256 + s.toUInt8.toUInt16 = s := by
  have small := s.toNat_lt
  rw [← UInt16.toNat_inj]
  simp [Nat.shiftRight_eq_div_pow]
  omega

theorem toIpv4Mapped_eq_some {v6 : Ipv6Addr} {v4 : Ipv4Addr} :
    v6.toIpv4Mapped = some v4 ↔ Encoding.mapped.Carries v6 v4 := by
  constructor
  · intro carried
    unfold Ipv6Addr.toIpv4Mapped at carried
    split at carried
    · rename_i segments
      obtain ⟨s0, s1, s2, s3, s4, s5, s6, s7⟩ := v6
      obtain ⟨rfl, rfl, rfl, rfl, rfl, rfl⟩ := segments
      cases carried
      simp only [Encoding.Carries, Ipv4Addr.high, Ipv4Addr.low, segment_octets]
    · cases carried
  · intro carries
    rw [show v6 = _ from carries]
    obtain ⟨first, second⟩ := octets_segment v4.a v4.b
    obtain ⟨third, fourth⟩ := octets_segment v4.c v4.d
    simp only [Ipv6Addr.toIpv4Mapped, Ipv4Addr.high, Ipv4Addr.low, first, second, third, fourth,
      and_self, if_true]

/-- A mapped address is the one it is taken for. -/
theorem isPublicV6_mapped {v6 : Ipv6Addr} {v4 : Ipv4Addr}
    (carries : Encoding.mapped.Carries v6 v4) :
    isPublicV6 v6 = isPublicV4 v4 := by
  rw [isPublicV6, toIpv4Mapped_eq_some.mpr carries]

/-- Of the other encodings the guard refuses two addresses only. -/
theorem isPublicV6_unmapped {encoding : Encoding} {v6 : Ipv6Addr} {v4 : Ipv4Addr}
    (carries : encoding.Carries v6 v4) (other : encoding ≠ .mapped) :
    isPublicV6 v6 = true ↔ v6 ≠ .unspecified ∧ v6 ≠ .loopback := by
  cases encoding with
  | mapped => exact absurd rfl other
  | compatible =>
      rw [show v6 = _ from carries]
      simp [isPublicV6, Ipv6Addr.toIpv4Mapped, Ipv6Addr.isUnspecified, Ipv6Addr.isLoopback,
        Ipv6Addr.isMulticast]
  | nat64 =>
      rw [show v6 = _ from carries]
      simp [isPublicV6, Ipv6Addr.toIpv4Mapped, Ipv6Addr.isUnspecified, Ipv6Addr.isLoopback,
        Ipv6Addr.isMulticast, Ipv6Addr.unspecified, Ipv6Addr.loopback]
      decide
  | sixToFour =>
      obtain ⟨s0, s1, s2, s3, s4, s5, s6, s7⟩ := v6
      obtain ⟨rfl, -, -⟩ := carries
      simp [isPublicV6, Ipv6Addr.toIpv4Mapped, Ipv6Addr.isUnspecified, Ipv6Addr.isLoopback,
        Ipv6Addr.isMulticast, Ipv6Addr.unspecified, Ipv6Addr.loopback]
      decide

/-- The address is in a block of special purpose, or is mapped to one that is. -/
def IpAddr.Reserved : IpAddr → Prop
  | .v4 ip => ∃ block ∈ reservedBlocks, block.Has ip
  | .v6 ip => (∃ block ∈ reservedBlocksV6, block.Has ip) ∨
      ∃ v4, Encoding.mapped.Carries ip v4 ∧ ∃ block ∈ reservedBlocks, block.Has v4

/-- The mapped addresses are in no block of their own. -/
theorem mapped_apart {v6 : Ipv6Addr} {v4 : Ipv4Addr} (carries : Encoding.mapped.Carries v6 v4) :
    ¬ ∃ block ∈ reservedBlocksV6, block.Has v6 := by
  rw [reservedBlocksV6_iff, show v6 = _ from carries]
  simp [Ipv6Addr.unspecified, Ipv6Addr.loopback]

/-- **The guard refuses the blocks of special purpose, of either family.** -/
theorem isPublicIp_iff (ip : IpAddr) : isPublicIp ip = true ↔ ¬ ip.Reserved := by
  cases ip with
  | v4 ip =>
      rw [isPublicIp, isPublicV4_iff, IpAddr.Reserved]
      push Not
      rfl
  | v6 ip =>
      rw [isPublicIp, IpAddr.Reserved]
      cases mapped : ip.toIpv4Mapped with
      | some v4 =>
          have carries := toIpv4Mapped_eq_some.mp mapped
          have apart := mapped_apart carries
          rw [isPublicV6_mapped carries, isPublicV4_iff]
          constructor
          · rintro free (inBlock | ⟨other, carried, block, member, has⟩)
            · exact apart inBlock
            · cases mapped.symm.trans (toIpv4Mapped_eq_some.mpr carried)
              exact free block member has
          · intro free block member has
            exact free (.inr ⟨v4, carries, block, member, has⟩)
      | none =>
          have alone : ¬ ∃ v4, Encoding.mapped.Carries ip v4 ∧
              ∃ block ∈ reservedBlocks, block.Has v4 := by
            rintro ⟨v4, carried, -⟩
            cases mapped.symm.trans (toIpv4Mapped_eq_some.mpr carried)
          rw [or_iff_left alone, reservedBlocksV6_iff]
          simp only [isPublicV6, mapped, Ipv6Addr.isUnspecified, Ipv6Addr.isLoopback,
            Ipv6Addr.isMulticast, Bool.not_eq_true', Bool.or_eq_false_iff, Bool.and_eq_false_iff,
            decide_eq_false_iff_not, not_or, not_and_or, and_assoc]

/-! ## What the guard is for -/

/-- A private, loopback or link-local destination. -/
def Ipv4Addr.Internal (ip : Ipv4Addr) : Prop :=
  ip.isPrivate = true ∨ ip.isLoopback = true ∨ ip.isLinkLocal = true

/-- The address carries an internal destination. -/
def IpAddr.ReachesInternal (ip : IpAddr) : Prop :=
  ∃ (encoding : Encoding) (v6 : Ipv6Addr) (v4 : Ipv4Addr), ip = .v6 v6 ∧
    encoding.Carries v6 v4 ∧ v4.Internal

/-- The blocks of these. -/
def internalBlocks : List Block :=
  [⟨⟨10, 0, 0, 0⟩, 8⟩, ⟨⟨172, 16, 0, 0⟩, 12⟩, ⟨⟨192, 168, 0, 0⟩, 16⟩, ⟨⟨127, 0, 0, 0⟩, 8⟩,
    ⟨⟨169, 254, 0, 0⟩, 16⟩]

/-- The address carries one of these blocks in an encoding the guard does not look into. -/
def IpAddr.HidesInternal (ip : IpAddr) : Prop :=
  ∃ (encoding : Encoding) (v6 : Ipv6Addr) (v4 : Ipv4Addr), ip = .v6 v6 ∧ encoding ≠ .mapped ∧
    encoding.Carries v6 v4 ∧ ∃ block ∈ internalBlocks, block.Has v4

theorem Ipv4Addr.internal_iff (ip : Ipv4Addr) :
    ip.Internal ↔ ∃ block ∈ internalBlocks, block.Has ip := by
  have second : ip.b.toNat / 16 = 1 ↔ 16 ≤ ip.b ∧ ip.b ≤ 31 := by
    rw [UInt8.le_iff_toNat_le, UInt8.le_iff_toNat_le]
    simp only [UInt8.reduceToNat]
    omega
  simp only [internalBlocks, List.mem_cons, List.not_mem_nil, or_false, exists_eq_or_imp,
    exists_eq_left, Block.has_eight, Block.has_sixteen, Block.has_twelve, Ipv4Addr.Internal,
    Ipv4Addr.isPrivate, Ipv4Addr.isLoopback, Ipv4Addr.isLinkLocal, Bool.or_eq_true,
    Bool.and_eq_true, decide_eq_true_eq]
  simp only [UInt8.reduceToNat, Nat.reduceDiv, second, and_assoc, or_assoc]

theorem Ipv4Addr.Internal.not_public {ip : Ipv4Addr} (internal : ip.Internal) :
    isPublicV4 ip = false := by
  rcases internal with private_ | loopback | linkLocal
  · simp [isPublicV4, private_]
  · simp [isPublicV4, loopback]
  · simp [isPublicV4, linkLocal]

/-- An address that is let through reaches an internal destination if it hides one. -/
theorem reachesInternal_iff {ip : IpAddr} (passes : isPublicIp ip = true) :
    ip.ReachesInternal ↔ ip.HidesInternal := by
  constructor
  · rintro ⟨encoding, v6, v4, rfl, carries, internal⟩
    refine ⟨encoding, v6, v4, rfl, ?_, carries, v4.internal_iff.mp internal⟩
    rintro rfl
    rw [isPublicIp, isPublicV6_mapped carries, internal.not_public] at passes
    cases passes
  · rintro ⟨encoding, v6, v4, same, -, carries, internal⟩
    exact ⟨encoding, v6, v4, same, carries, v4.internal_iff.mpr internal⟩

/-- The addresses the resolver has for a URL. -/
def Url.addrs (lookupHost : Resolver) (url : Url) : Option (List SocketAddr) :=
  match url.hostStr, url.portOrKnownDefault with
  | some host, some port => lookupHost (trimBrackets host) port
  | _, _ => none

/-- The first address is connected to when all of them pass. -/
theorem resolveChecked_eq_ok {lookupHost : Resolver} {url : Url} {addr : SocketAddr} :
    resolveChecked lookupHost url false = .ok addr ↔
      ∃ rest, url.addrs lookupHost = some (addr :: rest) ∧
        ∀ other ∈ addr :: rest, isPublicIp other.ip = true := by
  unfold resolveChecked Url.addrs
  split
  · split
    · rename_i none_
      simp [none_]
    · rename_i empty
      simp [empty]
    · rename_i first rest found
      rw [found]
      split
      · rename_i refused
        refine iff_of_false nofun ?_
        rintro ⟨later, ⟨⟩, passes⟩
        obtain ⟨other, member, hidden⟩ := List.any_eq_true.mp (Bool.and_eq_true_iff.mp refused).2
        rw [passes other member] at hidden
        cases hidden
      · rename_i passes
        have all : ∀ other ∈ first :: rest, isPublicIp other.ip = true := by
          intro other member
          cases hidden : isPublicIp other.ip with
          | true => rfl
          | false =>
              refine absurd ?_ passes
              refine Bool.and_eq_true_iff.mpr ⟨rfl, List.any_eq_true.mpr ⟨other, member, ?_⟩⟩
              rw [hidden]
              rfl
        constructor
        · rintro ⟨⟩
          exact ⟨rest, rfl, all⟩
        · rintro ⟨later, ⟨⟩, -⟩
          rfl
  · refine iff_of_false nofun ?_
    rintro ⟨rest, ⟨⟩, -⟩

/-- **The guard sees an embedded address in one encoding of four.** The guard of an IPv6
address guards the IPv4 address it carries exactly if the encoding is the mapped one, or the
address is `::` or `::1`, or the IPv4 address is of no special purpose; and no address that
`resolve_checked` returns reaches an internal destination through an encoding exactly if an
address of the answer is of special purpose or the first one hides none. -/
theorem embedded_guarded_iff (lookupHost : Resolver) (url : Url) :
    (∀ (encoding : Encoding) (v6 : Ipv6Addr) (v4 : Ipv4Addr), encoding.Carries v6 v4 →
      ((isPublicIp (.v6 v6) = true → isPublicIp (.v4 v4) = true) ↔
        encoding = .mapped ∨ v6 = .unspecified ∨ v6 = .loopback ∨
          ∀ block ∈ reservedBlocks, ¬ block.Has v4)) ∧
    ((∀ addr, resolveChecked lookupHost url false = .ok addr → ¬ addr.ip.ReachesInternal) ↔
      ∀ first rest, url.addrs lookupHost = some (first :: rest) →
        (∃ other ∈ first :: rest, other.ip.Reserved) ∨ ¬ first.ip.HidesInternal) := by
  constructor
  · intro encoding v6 v4 carries
    by_cases mapped : encoding = .mapped
    · subst mapped
      refine iff_of_true ?_ (.inl rfl)
      intro passes
      rw [isPublicIp, ← isPublicV6_mapped carries]
      exact passes
    · rw [isPublicIp, isPublicIp, isPublicV6_unmapped carries mapped, isPublicV4_iff]
      tauto
  · constructor
    · intro guarded first rest found
      by_cases all : ∀ other ∈ first :: rest, isPublicIp other.ip = true
      · right
        rw [← reachesInternal_iff (all first List.mem_cons_self)]
        exact guarded first (resolveChecked_eq_ok.mpr ⟨rest, found, all⟩)
      · left
        push Not at all
        obtain ⟨other, member, refused⟩ := all
        exact ⟨other, member, not_not.mp (mt (isPublicIp_iff other.ip).mpr refused)⟩
    · intro hides addr returned
      obtain ⟨rest, found, all⟩ := resolveChecked_eq_ok.mp returned
      rw [reachesInternal_iff (all addr List.mem_cons_self)]
      rcases hides addr rest found with ⟨other, member, refused⟩ | apparent
      · exact absurd refused ((isPublicIp_iff other.ip).mp (all other member))
      · exact apparent

/-- `64:ff9b::7f00:1`, which carries `127.0.0.1`. -/
def nat64Loopback : Ipv6Addr := ⟨0x64, 0xff9b, 0, 0, 0, 0, 0x7f00, 1⟩

/-- A host that resolves to `64:ff9b::7f00:1` passes the guard. -/
theorem embedded_unguarded :
    Encoding.nat64.Carries nat64Loopback ⟨127, 0, 0, 1⟩ ∧
      isPublicIp (.v6 nat64Loopback) = true ∧ isPublicIp (.v4 ⟨127, 0, 0, 1⟩) = false ∧
      Ipv4Addr.Internal ⟨127, 0, 0, 1⟩ ∧
      resolveChecked (fun _ _ => some [⟨.v6 nat64Loopback, 443⟩])
        ⟨some "merchant.example", some 443⟩ false = .ok ⟨.v6 nat64Loopback, 443⟩ :=
  ⟨rfl, by decide, by decide, .inr (.inl (by decide)), rfl⟩

end Safrod
