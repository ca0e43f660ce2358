import Mathlib.Algebra.GroupWithZero.Nat
import Mathlib.Data.List.Basic

namespace TelegramDrive
namespace RemoteUploads

/-!
# Public addresses

An upload from a URL may fetch from public addresses only.  What is public is said here
by blocks of addresses: neither the address nor an IPv4 address that it carries lies in a
block that is not routed publicly.  The code compares octets and segments instead.
-/

structure Ipv4Addr where
  a : UInt8
  b : UInt8
  c : UInt8
  d : UInt8
deriving DecidableEq

/-- The eight segments. -/
structure Ipv6Addr where
  s0 : UInt16
  s1 : UInt16
  s2 : UInt16
  s3 : UInt16
  s4 : UInt16
  s5 : UInt16
  s6 : UInt16
  s7 : UInt16
deriving DecidableEq

inductive IpAddr
  | v4 (ip : Ipv4Addr)
  | v6 (ip : Ipv6Addr)
deriving DecidableEq

/-! ## Blocks of addresses -/

def Ipv4Addr.toNat (ip : Ipv4Addr) : Nat :=
  ip.a.toNat * 2 ^ 24 + ip.b.toNat * 2 ^ 16 + ip.c.toNat * 2 ^ 8 + ip.d.toNat

def Ipv6Addr.toNat (ip : Ipv6Addr) : Nat :=
  ip.s0.toNat * 2 ^ 112 + ip.s1.toNat * 2 ^ 96 + ip.s2.toNat * 2 ^ 80 + ip.s3.toNat * 2 ^ 64 +
    ip.s4.toNat * 2 ^ 48 + ip.s5.toNat * 2 ^ 32 + ip.s6.toNat * 2 ^ 16 + ip.s7.toNat

/-- The address lies in the block between two addresses. -/
def Between (address first last : Nat) : Prop := first ≤ address ∧ address ≤ last

/-- The blocks of IPv4 that are not public: this network, private, shared, loopback,
link-local, protocol assignments, documentation, benchmarking, multicast and reserved. -/
def ipv4Blocks : List (Ipv4Addr × Ipv4Addr) :=
  [(⟨0, 0, 0, 0⟩, ⟨0, 255, 255, 255⟩), (⟨10, 0, 0, 0⟩, ⟨10, 255, 255, 255⟩),
    (⟨172, 16, 0, 0⟩, ⟨172, 31, 255, 255⟩), (⟨192, 168, 0, 0⟩, ⟨192, 168, 255, 255⟩),
    (⟨100, 64, 0, 0⟩, ⟨100, 127, 255, 255⟩), (⟨127, 0, 0, 0⟩, ⟨127, 255, 255, 255⟩),
    (⟨169, 254, 0, 0⟩, ⟨169, 254, 255, 255⟩), (⟨192, 0, 0, 0⟩, ⟨192, 0, 0, 255⟩),
    (⟨192, 0, 2, 0⟩, ⟨192, 0, 2, 255⟩), (⟨198, 51, 100, 0⟩, ⟨198, 51, 100, 255⟩),
    (⟨203, 0, 113, 0⟩, ⟨203, 0, 113, 255⟩), (⟨198, 18, 0, 0⟩, ⟨198, 19, 255, 255⟩),
    (⟨224, 0, 0, 0⟩, ⟨239, 255, 255, 255⟩), (⟨240, 0, 0, 0⟩, ⟨255, 255, 255, 255⟩)]

/-- The blocks of IPv6 that are not public: unspecified, loopback, unique-local,
link-local, multicast and two for documentation. -/
def ipv6Blocks : List (Ipv6Addr × Ipv6Addr) :=
  [(⟨0, 0, 0, 0, 0, 0, 0, 0⟩, ⟨0, 0, 0, 0, 0, 0, 0, 0⟩), (⟨0, 0, 0, 0, 0, 0, 0, 1⟩, ⟨0, 0, 0, 0, 0, 0, 0, 1⟩),
    (⟨0xfc00, 0, 0, 0, 0, 0, 0, 0⟩, ⟨0xfdff, 0xffff, 0xffff, 0xffff, 0xffff, 0xffff, 0xffff, 0xffff⟩),
    (⟨0xfe80, 0, 0, 0, 0, 0, 0, 0⟩, ⟨0xfebf, 0xffff, 0xffff, 0xffff, 0xffff, 0xffff, 0xffff, 0xffff⟩),
    (⟨0xff00, 0, 0, 0, 0, 0, 0, 0⟩, ⟨0xffff, 0xffff, 0xffff, 0xffff, 0xffff, 0xffff, 0xffff, 0xffff⟩),
    (⟨0x2001, 0xdb8, 0, 0, 0, 0, 0, 0⟩, ⟨0x2001, 0xdb8, 0xffff, 0xffff, 0xffff, 0xffff, 0xffff, 0xffff⟩),
    (⟨0x3fff, 0, 0, 0, 0, 0, 0, 0⟩, ⟨0x3fff, 0xfff, 0xffff, 0xffff, 0xffff, 0xffff, 0xffff, 0xffff⟩)]

/-- The blocks whose addresses end in an IPv4 address: mapped, compatible and NAT64. -/
def carrierBlocks : List Ipv6Addr :=
  [⟨0, 0, 0, 0, 0, 0xffff, 0, 0⟩, ⟨0, 0, 0, 0, 0, 0, 0, 0⟩, ⟨0x64, 0xff9b, 0, 0, 0, 0, 0, 0⟩]

/-- An IPv6 address that carries an IPv4 address, at its end or behind the first segment
of 6to4. -/
def Carries (ip : Ipv6Addr) (inner : Ipv4Addr) : Prop :=
  (Exists fun block => block ∈ carrierBlocks ∧ ip.toNat = block.toNat + inner.toNat) ∨
    Exists fun rest => rest < 2 ^ 80 ∧ ip.toNat = 0x2002 * 2 ^ 112 + inner.toNat * 2 ^ 80 + rest

def Ipv4Addr.Public (ip : Ipv4Addr) : Prop :=
  forall block, block ∈ ipv4Blocks -> ¬ Between ip.toNat block.1.toNat block.2.toNat

def IpAddr.Public : IpAddr -> Prop
  | .v4 ip => ip.Public
  | .v6 ip => (forall block, block ∈ ipv6Blocks -> ¬ Between ip.toNat block.1.toNat block.2.toNat) ∧
      forall inner, Carries ip inner -> inner.Public

/-! ## What the code compares -/

namespace Ipv4Addr

variable (ip : Ipv4Addr)

def isUnspecified : Bool := decide (ip = ⟨0, 0, 0, 0⟩)
def isLoopback : Bool := decide (ip.a = 127)
def isPrivate : Bool :=
  decide (ip.a = 10) || decide (ip.a = 172 ∧ 16 ≤ ip.b ∧ ip.b ≤ 31) || decide (ip.a = 192 ∧ ip.b = 168)
def isLinkLocal : Bool := decide (ip.a = 169 ∧ ip.b = 254)
def isMulticast : Bool := decide (224 ≤ ip.a ∧ ip.a ≤ 239)
def isBroadcast : Bool := decide (ip = ⟨255, 255, 255, 255⟩)

/-- `is_public_remote_ip`, of an IPv4 address. -/
def isPublicRemoteIp : Bool :=
  !(ip.isUnspecified || ip.isLoopback || ip.isPrivate || ip.isLinkLocal || ip.isMulticast || ip.isBroadcast ||
    decide (ip.a = 0) || decide (ip.a = 100 ∧ 64 ≤ ip.b ∧ ip.b ≤ 127) ||
    decide (ip.a = 192 ∧ ip.b = 0 ∧ ip.c = 0) || decide (ip.a = 192 ∧ ip.b = 0 ∧ ip.c = 2) ||
    decide (ip.a = 198 ∧ (ip.b = 18 ∨ ip.b = 19)) || decide (ip.a = 198 ∧ ip.b = 51 ∧ ip.c = 100) ||
    decide (ip.a = 203 ∧ ip.b = 0 ∧ ip.c = 113) || decide (240 ≤ ip.a))

end Ipv4Addr

/-- Two segments as an IPv4 address. -/
def ipv4Of (high low : UInt16) : Ipv4Addr :=
  ⟨(high / 256).toUInt8, (high % 256).toUInt8, (low / 256).toUInt8, (low % 256).toUInt8⟩

namespace Ipv6Addr

variable (ip : Ipv6Addr)

def isUnspecified : Bool := decide (ip = ⟨0, 0, 0, 0, 0, 0, 0, 0⟩)
def isLoopback : Bool := decide (ip = ⟨0, 0, 0, 0, 0, 0, 0, 1⟩)
def isUniqueLocal : Bool := decide (0xfc00 ≤ ip.s0 ∧ ip.s0 ≤ 0xfdff)
def isUnicastLinkLocal : Bool := decide (0xfe80 ≤ ip.s0 ∧ ip.s0 ≤ 0xfebf)
def isMulticast : Bool := decide (0xff00 ≤ ip.s0)

def toIpv4Mapped : Option Ipv4Addr :=
  if ip.s0 = 0 ∧ ip.s1 = 0 ∧ ip.s2 = 0 ∧ ip.s3 = 0 ∧ ip.s4 = 0 ∧ ip.s5 = 0xffff then some (ipv4Of ip.s6 ip.s7)
  else none

/-- `is_public_remote_ip`, of an IPv6 address. -/
def isPublicRemoteIp : Bool :=
  match ip.toIpv4Mapped with
  | some mapped => mapped.isPublicRemoteIp
  | none => !(ip.isUnspecified || ip.isLoopback || ip.isUniqueLocal || ip.isUnicastLinkLocal || ip.isMulticast ||
      decide (ip.s0 = 0x2001 ∧ ip.s1 = 0xdb8))

/-- What the comparison misses: the second block for documentation, and an IPv4 address
that is carried in another way than mapped. -/
def overlooked : Bool :=
  decide (ip.s0 = 0x3fff ∧ ip.s1 ≤ 0xfff) ||
    (decide (ip.s0 = 0 ∧ ip.s1 = 0 ∧ ip.s2 = 0 ∧ ip.s3 = 0 ∧ ip.s4 = 0 ∧ ip.s5 = 0 ∨
        ip.s0 = 0x64 ∧ ip.s1 = 0xff9b ∧ ip.s2 = 0 ∧ ip.s3 = 0 ∧ ip.s4 = 0 ∧ ip.s5 = 0) &&
      !(ipv4Of ip.s6 ip.s7).isPublicRemoteIp) ||
    (decide (ip.s0 = 0x2002) && !(ipv4Of ip.s1 ip.s2).isPublicRemoteIp)

end Ipv6Addr

def isPublicRemoteIp : IpAddr -> Bool
  | .v4 ip => ip.isPublicRemoteIp
  | .v6 ip => ip.isPublicRemoteIp

def IpAddr.overlooked : IpAddr -> Bool
  | .v4 _ => false
  | .v6 ip => ip.overlooked

/-! ## The comparison against the blocks -/

theorem ipv4_public_iff (ip : Ipv4Addr) : ip.Public ↔ ip.isPublicRemoteIp = true := by
  rcases ip with ⟨a, b, c, d⟩
  have first := a.toNat_lt
  have second := b.toNat_lt
  have third := c.toNat_lt
  have fourth := d.toNat_lt
  have blocks : Ipv4Addr.Public ⟨a, b, c, d⟩ ↔ ¬ a = 0 ∧ ¬ a = 10 ∧ ¬ (a = 172 ∧ 16 ≤ b ∧ b ≤ 31) ∧
      ¬ (a = 192 ∧ b = 168) ∧ ¬ (a = 100 ∧ 64 ≤ b ∧ b ≤ 127) ∧ ¬ a = 127 ∧ ¬ (a = 169 ∧ b = 254) ∧
      ¬ (a = 192 ∧ b = 0 ∧ c = 0) ∧ ¬ (a = 192 ∧ b = 0 ∧ c = 2) ∧ ¬ (a = 198 ∧ b = 51 ∧ c = 100) ∧
      ¬ (a = 203 ∧ b = 0 ∧ c = 113) ∧ ¬ (a = 198 ∧ (b = 18 ∨ b = 19)) ∧ ¬ (224 ≤ a ∧ a ≤ 239) ∧ ¬ 240 ≤ a := by
    simp only [Ipv4Addr.Public, ipv4Blocks, List.forall_mem_cons, Between, Ipv4Addr.toNat, UInt8.reduceToNat,
      ← UInt8.toNat_inj, UInt8.le_iff_toNat_le, List.not_mem_nil, false_implies, implies_true, and_true]
    repeat' apply and_congr
    all_goals
      apply not_congr
      omega
  rw [blocks]
  simp only [Ipv4Addr.isPublicRemoteIp, Ipv4Addr.isUnspecified, Ipv4Addr.isLoopback, Ipv4Addr.isPrivate,
    Ipv4Addr.isLinkLocal, Ipv4Addr.isMulticast, Ipv4Addr.isBroadcast, Ipv4Addr.mk.injEq, Bool.not_eq_true',
    Bool.or_eq_false_iff, decide_eq_false_iff_not, and_assoc]
  constructor
  · rintro ⟨zero, ten, private12, private16, shared, loopback, linkLocal, protocols, first, second, third, benchmark,
      multicast, reserved⟩
    exact ⟨fun same => zero same.1, loopback, ten, private12, private16, linkLocal, multicast,
      fun same => reserved (by rw [same.1]; decide), zero, shared, protocols, first, benchmark, second, third, reserved⟩
  · rintro ⟨-, loopback, ten, private12, private16, linkLocal, multicast, -, zero, shared, protocols, first,
      benchmark, second, third, reserved⟩
    exact ⟨zero, ten, private12, private16, shared, loopback, linkLocal, protocols, first, second, third, benchmark,
      multicast, reserved⟩

theorem ipv4Of_toNat (high low : UInt16) : (ipv4Of high low).toNat = high.toNat * 2 ^ 16 + low.toNat := by
  have one := high.toNat_lt
  have other := low.toNat_lt
  simp only [ipv4Of, Ipv4Addr.toNat, UInt16.toNat_toUInt8, UInt16.toNat_div, UInt16.toNat_mod, UInt16.reduceToNat]
  omega

theorem Ipv4Addr.toNat_injective {one other : Ipv4Addr} (same : one.toNat = other.toNat) : one = other := by
  rcases one with ⟨a, b, c, d⟩
  rcases other with ⟨a', b', c', d'⟩
  have bounds := And.intro (And.intro a.toNat_lt b.toNat_lt) (And.intro c.toNat_lt d.toNat_lt)
  have others := And.intro (And.intro a'.toNat_lt b'.toNat_lt) (And.intro c'.toNat_lt d'.toNat_lt)
  simp only [Ipv4Addr.toNat] at same
  simp only [Ipv4Addr.mk.injEq, ← UInt8.toNat_inj]
  omega

theorem Ipv4Addr.toNat_lt (ip : Ipv4Addr) : ip.toNat < 2 ^ 32 := by
  have bounds := And.intro (And.intro ip.a.toNat_lt ip.b.toNat_lt) (And.intro ip.c.toNat_lt ip.d.toNat_lt)
  unfold Ipv4Addr.toNat
  omega

section Ipv6

variable (s0 s1 s2 s3 s4 s5 s6 s7 : UInt16)

theorem outside_iff : (forall block, block ∈ ipv6Blocks ->
      ¬ Between (Ipv6Addr.toNat ⟨s0, s1, s2, s3, s4, s5, s6, s7⟩) block.1.toNat block.2.toNat) ↔
    ¬ (s0 = 0 ∧ s1 = 0 ∧ s2 = 0 ∧ s3 = 0 ∧ s4 = 0 ∧ s5 = 0 ∧ s6 = 0 ∧ s7 = 0) ∧
      ¬ (s0 = 0 ∧ s1 = 0 ∧ s2 = 0 ∧ s3 = 0 ∧ s4 = 0 ∧ s5 = 0 ∧ s6 = 0 ∧ s7 = 1) ∧
      ¬ (0xfc00 ≤ s0 ∧ s0 ≤ 0xfdff) ∧ ¬ (0xfe80 ≤ s0 ∧ s0 ≤ 0xfebf) ∧ ¬ 0xff00 ≤ s0 ∧
      ¬ (s0 = 0x2001 ∧ s1 = 0xdb8) ∧ ¬ (s0 = 0x3fff ∧ s1 ≤ 0xfff) := by
  have bounds := And.intro (And.intro s0.toNat_lt s1.toNat_lt) (And.intro s2.toNat_lt s3.toNat_lt)
  have others := And.intro (And.intro s4.toNat_lt s5.toNat_lt) (And.intro s6.toNat_lt s7.toNat_lt)
  simp only [ipv6Blocks, List.forall_mem_cons, Between, Ipv6Addr.toNat, UInt16.reduceToNat, ← UInt16.toNat_inj,
    UInt16.le_iff_toNat_le, List.not_mem_nil, false_implies, implies_true, and_true]
  repeat' apply and_congr
  all_goals
    apply not_congr
    omega

/-- What an address carries is at its end, or behind its first segment. -/
theorem carries_iff (inner : Ipv4Addr) : Carries ⟨s0, s1, s2, s3, s4, s5, s6, s7⟩ inner ↔
    ((s0 = 0 ∧ s1 = 0 ∧ s2 = 0 ∧ s3 = 0 ∧ s4 = 0 ∧ s5 = 0xffff) ∨
      (s0 = 0 ∧ s1 = 0 ∧ s2 = 0 ∧ s3 = 0 ∧ s4 = 0 ∧ s5 = 0) ∨
      s0 = 0x64 ∧ s1 = 0xff9b ∧ s2 = 0 ∧ s3 = 0 ∧ s4 = 0 ∧ s5 = 0) ∧ inner = ipv4Of s6 s7 ∨
    s0 = 0x2002 ∧ inner = ipv4Of s1 s2 := by
  have bounds := And.intro (And.intro s0.toNat_lt s1.toNat_lt) (And.intro s2.toNat_lt s3.toNat_lt)
  have others := And.intro (And.intro s4.toNat_lt s5.toNat_lt) (And.intro s6.toNat_lt s7.toNat_lt)
  have small := inner.toNat_lt
  have same (high low : UInt16) : inner = ipv4Of high low ↔ inner.toNat = high.toNat * 2 ^ 16 + low.toNat := by
    rw [← ipv4Of_toNat]
    exact ⟨congrArg _, Ipv4Addr.toNat_injective⟩
  simp only [Carries, carrierBlocks, List.exists_mem_cons_iff, Ipv6Addr.toNat, UInt16.reduceToNat, same,
    ← UInt16.toNat_inj, or_and_right]
  refine or_congr ?_ ⟨?_, ?_⟩
  · simp only [List.not_mem_nil, false_and, exists_false, or_false]
    refine or_congr (by omega) (or_congr (by omega) (by omega))
  · rintro ⟨rest, few, whole⟩
    omega
  · rintro ⟨starts, carried⟩
    refine ⟨s3.toNat * 2 ^ 64 + s4.toNat * 2 ^ 48 + s5.toNat * 2 ^ 32 + s6.toNat * 2 ^ 16 + s7.toNat, ?_, ?_⟩
    · omega
    · omega

theorem ipv6_public_iff (ip : Ipv6Addr) :
    IpAddr.Public (.v6 ip) ↔ ip.isPublicRemoteIp = true ∧ ip.overlooked = false := by
  rcases ip with ⟨s0, s1, s2, s3, s4, s5, s6, s7⟩
  have carried : (forall inner, Carries ⟨s0, s1, s2, s3, s4, s5, s6, s7⟩ inner -> inner.Public) ↔
      (((s0 = 0 ∧ s1 = 0 ∧ s2 = 0 ∧ s3 = 0 ∧ s4 = 0 ∧ s5 = 0xffff) ∨
        (s0 = 0 ∧ s1 = 0 ∧ s2 = 0 ∧ s3 = 0 ∧ s4 = 0 ∧ s5 = 0) ∨
        s0 = 0x64 ∧ s1 = 0xff9b ∧ s2 = 0 ∧ s3 = 0 ∧ s4 = 0 ∧ s5 = 0) -> (ipv4Of s6 s7).isPublicRemoteIp = true) ∧
      (s0 = 0x2002 -> (ipv4Of s1 s2).isPublicRemoteIp = true) := by
    simp only [carries_iff, ipv4_public_iff]
    constructor
    · exact fun all => ⟨fun tail => all _ (Or.inl ⟨tail, rfl⟩), fun behind => all _ (Or.inr ⟨behind, rfl⟩)⟩
    · rintro ⟨tail, behind⟩ inner (⟨starts, rfl⟩ | ⟨starts, rfl⟩)
      · exact tail starts
      · exact behind starts
  rw [IpAddr.Public, outside_iff, carried]
  unfold Ipv6Addr.isPublicRemoteIp Ipv6Addr.toIpv4Mapped Ipv6Addr.overlooked
  by_cases mapped : s0 = 0 ∧ s1 = 0 ∧ s2 = 0 ∧ s3 = 0 ∧ s4 = 0 ∧ s5 = 0xffff
  · rcases mapped with ⟨rfl, rfl, rfl, rfl, rfl, rfl⟩
    simp
  · simp only [mapped, if_false, false_or, Ipv6Addr.isUnspecified, Ipv6Addr.isLoopback, Ipv6Addr.isUniqueLocal,
      Ipv6Addr.isUnicastLinkLocal, Ipv6Addr.isMulticast, Ipv6Addr.mk.injEq, Bool.not_eq_true', Bool.or_eq_false_iff,
      Bool.and_eq_false_iff, decide_eq_false_iff_not, Bool.not_eq_false', and_assoc, ← imp_iff_not_or]

end Ipv6

/-- What is accepted is public unless the comparison misses it. -/
theorem public_iff (address : IpAddr) :
    address.Public ↔ isPublicRemoteIp address = true ∧ address.overlooked = false := by
  cases address with
  | v4 ip => exact (ipv4_public_iff ip).trans (and_iff_left rfl).symm
  | v6 ip => exact ipv6_public_iff ip

end RemoteUploads
end TelegramDrive
