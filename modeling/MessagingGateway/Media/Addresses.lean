import MessagingGateway.Store.Schema

/-!
# Public addresses

The addresses a provider host may resolve to. The policy refuses what the network
library knows as special, and a list of networks, among them those that carry an IPv4
address inside an IPv6 address. What it means to refuse is stated apart: an address is
safe if neither it nor an IPv4 address it carries is internal.
-/

namespace MessagingGateway.Media

open Store

inductive Addr
  | v4 (bits : BitVec 32)
  | v6 (bits : BitVec 128)
  deriving DecidableEq

inductive Network
  | v4 (bits : BitVec 32) (length : Nat)
  | v6 (bits : BitVec 128) (length : Nat)
  deriving DecidableEq

def Network.contains : Network → Addr → Bool
  | .v4 bits length, .v4 a => a >>> (32 - length) == bits >>> (32 - length)
  | .v6 bits length, .v6 a => a >>> (128 - length) == bits >>> (128 - length)
  | _, _ => false

def net4 (a b c d length : Nat) : Network :=
  .v4 (BitVec.ofNat 32 (((a * 256 + b) * 256 + c) * 256 + d)) length

/-- The IPv6 network that starts with four groups of sixteen bits, `a:b:c:d::/length`. -/
def net6 (a b c d length : Nat) : Network :=
  .v6 (BitVec.ofNat 128 ((((a * 65536 + b) * 65536 + c) * 65536 + d) * 2 ^ 64)) length

/-! ### What the network library says of an address -/

def isUnspecified (a : Addr) : Bool := (net4 0 0 0 0 32).contains a || (net6 0 0 0 0 128).contains a

def isLoopback (a : Addr) : Bool := (net4 127 0 0 0 8).contains a ||
    (Network.v6 1#128 128).contains a

def isPrivate (a : Addr) : Bool :=
  (net4 10 0 0 0 8).contains a || (net4 172 16 0 0 12).contains a ||
    (net4 192 168 0 0 16).contains a || (net6 0xfc00 0 0 0 7).contains a

def isLinkLocalUnicast (a : Addr) : Bool :=
  (net4 169 254 0 0 16).contains a || (net6 0xfe80 0 0 0 10).contains a

def isMulticast (a : Addr) : Bool :=
  (net4 224 0 0 0 4).contains a || (net6 0xff00 0 0 0 8).contains a

def isGlobalUnicast (a : Addr) : Bool :=
  !(net4 255 255 255 255 32).contains a && !isUnspecified a && !isLoopback a && !isMulticast a &&
    !isLinkLocalUnicast a

def mapped : Network := .v6 (0xffff <<< 32) 96

def low (bits : BitVec 128) : BitVec 32 := bits.setWidth 32

def Addr.unmap : Addr → Addr
  | .v6 bits => if mapped.contains (.v6 bits) then .v4 (low bits) else .v6 bits
  | a => a

def bigEndian (bytes : Bytes) : Nat := bytes.foldl (fun n b => n * 256 + b.toNat) 0

def addrFromSlice (ip : Bytes) : Option Addr :=
  if ip.length = 4 then some (.v4 (BitVec.ofNat 32 (bigEndian ip)))
  else if ip.length = 16 then some (.v6 (BitVec.ofNat 128 (bigEndian ip)))
  else none

/-! ### The policy -/

def deniedProviderPrefixes : List Network :=
  [net4 0 0 0 0 8, net4 100 64 0 0 10, net4 192 0 0 0 24, net4 192 0 2 0 24, net4 198 18 0 0 15,
    net4 198 51 100 0 24, net4 203 0 113 0 24, net4 224 0 0 0 4, net4 240 0 0 0 4,
    net6 0x64 0xff9b 0 0 96, net6 0x64 0xff9b 1 0 48, net6 0x2001 0 0 0 32, net6 0x2002 0 0 0 16,
    net6 0x2001 0xdb8 0 0 32, net6 0x2001 0x10 0 0 28, net6 0x2001 2 0 0 48, net6 0xff00 0 0 0 8]

def publicAddr (a : Addr) : Bool :=
  isGlobalUnicast a && !isPrivate a && !isLoopback a && !isLinkLocalUnicast a && !isMulticast a &&
    !isUnspecified a && !deniedProviderPrefixes.any (·.contains a)

def publicProviderIP (ip : Bytes) : Bool :=
  match addrFromSlice ip with
  | none => false
  | some a => publicAddr a.unmap

/-! ### Safe addresses -/

/-- Private, loopback, link-local, multicast or unspecified. -/
def internal (a : Addr) : Bool :=
  isPrivate a || isLoopback a || isLinkLocalUnicast a || isMulticast a || isUnspecified a

def compatible : Network := net6 0 0 0 0 96

/-- The IPv6 forms of an IPv4 address. In the network for local translation the address
is at the end, or around the ninth byte. -/
inductive Carries (bits : BitVec 128) : BitVec 32 → Prop
  | mapped : mapped.contains (.v6 bits) = true → Carries bits (low bits)
  | compatible : compatible.contains (.v6 bits) = true → Carries bits (low bits)
  | nat64 : (net6 0x64 0xff9b 0 0 96).contains (.v6 bits) = true → Carries bits (low bits)
  | localNat64 : (net6 0x64 0xff9b 1 0 48).contains (.v6 bits) = true → Carries bits (low bits)
  | splitNat64 : (net6 0x64 0xff9b 1 0 48).contains (.v6 bits) = true →
      Carries bits ((bits >>> 64).setWidth 16 ++ (bits >>> 40).setWidth 16)
  | sixToFour : (net6 0x2002 0 0 0 16).contains (.v6 bits) = true →
      Carries bits ((bits >>> 80).setWidth 32)

/-- Neither internal nor the carrier of an internal IPv4 address. -/
structure Safe (a : Addr) : Prop where
  itself : internal a = false
  carried : ∀ bits v, a = .v6 bits → Carries bits v → internal (.v4 v) = false

/-- An IPv4-compatible address whose IPv4 address is internal. -/
def CompatibleInternal (a : Addr) : Prop :=
  ∃ bits, a = .v6 bits ∧ compatible.contains (.v6 bits) = true ∧ internal (.v4 (low bits)) = true

theorem internal_of_publicAddr {a : Addr} (h : publicAddr a = true) : internal a = false := by
  simp only [publicAddr, Bool.and_eq_true, Bool.not_eq_true'] at h
  obtain ⟨⟨⟨⟨⟨⟨-, hprivate⟩, hloopback⟩, hlinkLocal⟩, hmulticast⟩, hunspecified⟩, -⟩ := h
  simp [internal, hprivate, hloopback, hlinkLocal, hmulticast, hunspecified]

theorem not_contains_of_publicAddr {a : Addr} (h : publicAddr a = true) {network : Network}
    (hdenied : network ∈ deniedProviderPrefixes) : network.contains a = false := by
  simp only [publicAddr, Bool.and_eq_true, Bool.not_eq_true', List.any_eq_false] at h
  simpa using h.2 network hdenied

theorem contains_v6 {bits a : BitVec 128} {length : Nat} :
    (Network.v6 bits length).contains (.v6 a) = true ↔
      a.toNat / 2 ^ (128 - length) = bits.toNat / 2 ^ (128 - length) := by
  rw [Network.contains, beq_iff_eq, ← BitVec.toNat_inj, BitVec.toNat_ushiftRight,
    BitVec.toNat_ushiftRight, Nat.shiftRight_eq_div_pow, Nat.shiftRight_eq_div_pow]

theorem not_contains_of_mapped {bits network : BitVec 128} {length : Nat}
    (h : mapped.contains (.v6 bits) = true)
    (hapart : ∀ n, n / 2 ^ 32 = 0xffff → n / 2 ^ (128 - length) ≠ network.toNat / 2 ^
      (128 - length)) :
    (Network.v6 network length).contains (.v6 bits) = false := by
  rw [Bool.eq_false_iff, Ne, contains_v6]
  exact hapart _ (contains_v6.1 h)

theorem internal_of_mapped {bits : BitVec 128} (h : mapped.contains (.v6 bits) = true) :
    internal (.v6 bits) = false := by
  have hprivate : (net6 0xfc00 0 0 0 7).contains (.v6 bits) = false :=
    not_contains_of_mapped h fun n hn => by simp only [BitVec.toNat_ofNat]; omega
  have hloopback : (Network.v6 1#128 128).contains (.v6 bits) = false :=
    not_contains_of_mapped h fun n hn => by simp only [BitVec.toNat_ofNat]; omega
  have hlinkLocal : (net6 0xfe80 0 0 0 10).contains (.v6 bits) = false :=
    not_contains_of_mapped h fun n hn => by simp only [BitVec.toNat_ofNat]; omega
  have hmulticast : (net6 0xff00 0 0 0 8).contains (.v6 bits) = false :=
    not_contains_of_mapped h fun n hn => by simp only [BitVec.toNat_ofNat]; omega
  have hunspecified : (net6 0 0 0 0 128).contains (.v6 bits) = false :=
    not_contains_of_mapped h fun n hn => by simp only [BitVec.toNat_ofNat]; omega
  have hfour : ∀ network length, (Network.v4 network length).contains (.v6 bits) = false :=
    fun _ _ => rfl
  simp [internal, isPrivate, isLoopback, isLinkLocalUnicast, isMulticast, isUnspecified,
    net4, hfour,
    hprivate, hloopback, hlinkLocal, hmulticast, hunspecified]

/-- **An accepted address is safe unless it is an IPv4-compatible one with an internal
IPv4 address.** Mapped addresses are checked as the IPv4 address they carry, and the
networks of the other forms are denied as a whole. -/
theorem safe_iff {a : Addr} (h : publicAddr a.unmap = true) : Safe a ↔ ¬ CompatibleInternal a := by
  constructor
  · rintro hsafe ⟨bits, rfl, hcompatible, hinternal⟩
    rw [hsafe.carried bits _ rfl (.compatible hcompatible)] at hinternal
    cases hinternal
  · intro hcompatible
    cases a with
    | v4 bits => exact ⟨internal_of_publicAddr h, fun _ _ heq => nomatch heq⟩
    | v6 bits =>
      cases hmapped : mapped.contains (.v6 bits) with
      | true =>
        rw [Addr.unmap, if_pos hmapped] at h
        have hlow := internal_of_publicAddr h
        refine ⟨internal_of_mapped hmapped, ?_⟩
        rintro bits' v heq hcarries
        obtain rfl := Addr.v6.inj heq
        cases hcarries with
        | mapped | compatible | nat64 | localNat64 => exact hlow
        | splitNat64 hin | sixToFour hin =>
          rw [net6, not_contains_of_mapped hmapped fun n hn => by
            simp only [BitVec.toNat_ofNat]; omega] at hin
          cases hin
      | false =>
        rw [Addr.unmap, if_neg (by simp [hmapped])] at h
        have hdenied := fun network hmem => @not_contains_of_publicAddr _ h network hmem
        refine ⟨internal_of_publicAddr h, ?_⟩
        rintro bits' v heq hcarries
        obtain rfl := Addr.v6.inj heq
        cases hcarries with
        | mapped hin => rw [hmapped] at hin; cases hin
        | compatible hin =>
          rw [Bool.eq_false_iff]
          exact fun hinternal => hcompatible ⟨bits, rfl, hin, hinternal⟩
        | nat64 hin | localNat64 hin | splitNat64 hin | sixToFour hin =>
          rw [hdenied _ (by simp [deniedProviderPrefixes])] at hin; cases hin

end MessagingGateway.Media
