import Basebox.Lib.LeadingBits
import Basebox.Netlink.RouteEntries
import Basebox.Netlink.TermMacs

/-!
# The masks of prefixes (`src/utils/rofl-utils.h`, `src/netlink/nl_l3.cc`)

`build_mask_in6` fills the bytes of the mask one after the other: all of them with 0, those before
the boundary with 0xff, and last the byte at the boundary. For a host prefix there is no byte at
the boundary; it writes one all the same, behind the address. `build_mask_in4` shifts a word and
writes no bytes.

* `maskIn6Writes`: the writes of `build_mask_in6`, with their positions in `s6_addr`.
  `in6AddrAt_maskIn6Writes`: the address that they leave is `buildMaskIn6`.
* `MaskCall`: a call of one of the two; `addL3UnicastRouteMasks` and the others: the calls of the
  functions of `nl_l3`.
* `maskCall_ok_iff`: the mask is right for each length, and the writes are within the address
  exactly if the call is not for a single IPv6 address.
-/

namespace Basebox

/-- The writes of `memset(s, v, n)`. -/
def memset (v : BitVec 8) (n : Nat) : List (Nat × BitVec 8) := (List.range n).map fun i => (i, v)

/-- The byte at the boundary: the leading bits of it that are in the prefix. -/
def boundaryByte (prefixLen : Nat) : BitVec 8 :=
  BitVec.ofNat 8 ((0xff <<< (8 - prefixLen % 8)) &&& 0xff)

/-- The writes of `build_mask_in6` to `sin6_addr.s6_addr`, in this order: the byte and its value. -/
def maskIn6Writes (prefixLen : Nat) : List (Nat × BitVec 8) :=
  let div := prefixLen / 8
  memset 0 16 ++ memset 0xff div ++ [(div, boundaryByte prefixLen)]

/-- The memory after the writes. -/
def writeBytes (mem : Nat → BitVec 8) (writes : List (Nat × BitVec 8)) : Nat → BitVec 8 :=
  writes.foldl (fun mem write => Function.update mem write.1 write.2) mem

/-- The address in the 16 bytes of `s6_addr`. -/
def in6AddrAt (mem : Nat → BitVec 8) : BitVec 128 := ofBytes mem 16

/-- A call of `rofl::build_mask_in4` or `rofl::build_mask_in6`. -/
structure MaskCall where
  af : Af
  prefixLen : Nat
  deriving DecidableEq

namespace MaskCall

/-- The prefix length is one of the family. -/
def Carried (c : MaskCall) : Prop := c.prefixLen ≤ c.af.hostLen

/-- The mask that the call returns. `stack` is what is in the memory from `s6_addr` on before. -/
def mask (stack : Nat → BitVec 8) : (c : MaskCall) → BitVec c.af.hostLen
  | ⟨.inet, prefixLen⟩ => buildMaskIn4 prefixLen
  | ⟨.inet6, prefixLen⟩ => in6AddrAt (writeBytes stack (maskIn6Writes prefixLen))

/-- The bytes that a call writes. -/
def writes : MaskCall → List (Nat × BitVec 8)
  | ⟨.inet, _⟩ => []
  | ⟨.inet6, prefixLen⟩ => maskIn6Writes prefixLen

end MaskCall

/-- The family of an address. -/
def Addr.af : Addr → Af
  | .inet _ => .inet
  | .inet6 _ => .inet6

namespace L3

/-- The masks that `add_l3_unicast_route(rt_dst, l3_interface_id, ..)` builds. -/
def addL3UnicastRouteMasks (rtDst : Prefix) : List MaskCall :=
  match rtDst.addr with
  | .inet _ => [⟨.inet, rtDst.len⟩]
  | .inet6 _ => [⟨.inet6, rtDst.len⟩]

/-- The masks that `del_l3_unicast_route(rt_dst, vrf_id)` builds. -/
def delL3UnicastRouteMasks (rtDst : Prefix) : List MaskCall :=
  match rtDst.addr with
  | .inet _ => if rtDst.len = 32 then [] else [⟨.inet, rtDst.len⟩]
  | .inet6 _ => if rtDst.len = 128 then [] else [⟨.inet6, rtDst.len⟩]

end L3

namespace TermMacs

variable (env : AddrEnv)

/-- The masks that `add_l3_addr` builds. -/
def addL3AddrMasks (a : IfAddr) : List MaskCall :=
  match env.getLink a.ifindex with
  | none => []
  | some link =>
    if !link.isLoopback && !env.isSwitchInterface link then []
    else if link.master ≠ 0 ∧ link.isBridge ∧ env.bridgeHasAddr link.master then []
    else [⟨.inet, a.prefixlen⟩]

/-- The masks that `add_lo_addr_v6` builds. -/
def addLoAddrV6Masks (a : IfAddr) : List MaskCall :=
  if a.loc.overlaps ipv6Lo then [] else [⟨.inet6, a.prefixlen⟩]

/-- The masks that `add_l3_addr_v6` builds. -/
def addL3AddrV6Masks (a : IfAddr) : List MaskCall :=
  match env.getLink a.ifindex with
  | none => []
  | some link =>
    if !link.isLoopback && !env.isSwitchInterface link then []
    else if link.isLoopback then addLoAddrV6Masks a
    else [⟨.inet6, a.prefixlen⟩]

end TermMacs

/-! ## The bytes of a mask -/

section Bytes

variable (mem : Nat → BitVec 8)

theorem writeBytes_append (ws ws' : List (Nat × BitVec 8)) :
    writeBytes mem (ws ++ ws') = writeBytes (writeBytes mem ws) ws' :=
  List.foldl_append

theorem writeBytes_memset (v : BitVec 8) (n i : Nat) :
    writeBytes mem (memset v n) i = if i < n then v else mem i := by
  induction n with
  | zero => rfl
  | succ n ih =>
    unfold memset at ih ⊢
    rw [List.range_succ, List.map_append, writeBytes_append]
    change Function.update (writeBytes mem ((List.range n).map fun i => (i, v))) n v i = _
    by_cases hi : i = n
    · simp [hi]
    · rw [Function.update_of_ne hi, ih]
      simp only [show i < n + 1 ↔ i < n by omega]

/-- The bytes of the address after the writes. The one at the boundary is written last. -/
theorem writeBytes_maskIn6Writes (prefixLen : Nat) {i : Nat} (hi : i < 16) :
    writeBytes mem (maskIn6Writes prefixLen) i =
      if i < prefixLen / 8 then 0xff
      else if i = prefixLen / 8 then boundaryByte prefixLen
      else 0 := by
  unfold maskIn6Writes
  rw [writeBytes_append, writeBytes_append]
  change Function.update (writeBytes _ _) (prefixLen / 8) (boundaryByte prefixLen) i = _
  by_cases hdiv : i = prefixLen / 8
  · rw [if_neg (by omega), if_pos hdiv, hdiv, Function.update_self]
  · rw [if_neg hdiv, Function.update_of_ne hdiv, writeBytes_memset, writeBytes_memset, if_pos hi]

theorem isMask_boundaryByte (prefixLen : Nat) :
    IsMask (boundaryByte prefixLen) (prefixLen % 8) := by
  have h : ∀ r < 8, IsMask (BitVec.ofNat 8 ((0xff <<< (8 - r)) &&& 0xff)) r := by
    unfold IsMask
    decide
  exact h (prefixLen % 8) (Nat.mod_lt _ (by decide))

theorem isMask_full {n : Nat} (hn : 8 ≤ n) : IsMask (0xff : BitVec 8) n := by
  intro i hi
  rw [decide_eq_true (by omega : i < n)]
  revert i
  decide

theorem isMask_in6AddrAt (prefixLen : Nat) :
    IsMask (in6AddrAt (writeBytes mem (maskIn6Writes prefixLen))) prefixLen := by
  refine isMask_ofBytes (n := 16) fun i hi => ?_
  rw [writeBytes_maskIn6Writes mem prefixLen hi]
  rcases Nat.lt_trichotomy i (prefixLen / 8) with hlt | heq | hgt
  · rw [if_pos hlt]
    exact isMask_full (by omega)
  · rw [if_neg (by omega), if_pos heq, show prefixLen - 8 * i = prefixLen % 8 by omega]
    exact isMask_boundaryByte prefixLen
  · rw [if_neg (by omega), if_neg (by omega), show prefixLen - 8 * i = 0 by omega]
    exact isMask_zero

theorem setWidth_boundaryByte (prefixLen : Nat) :
    (boundaryByte prefixLen).setWidth 128 = maskIn6Byte prefixLen (prefixLen / 8) := by
  have h : ∀ r < 8, (BitVec.ofNat 8 ((0xff <<< (8 - r)) &&& 0xff)).setWidth 128 =
      (0xff <<< (8 - r) : Nat) &&& (0xff : BitVec 128) := by decide
  rw [maskIn6Byte, if_neg (Nat.lt_irrefl _), if_pos rfl]
  exact h (prefixLen % 8) (Nat.mod_lt _ (by decide))

/-- The address that the writes leave is the mask of the routes. -/
theorem in6AddrAt_maskIn6Writes (prefixLen : Nat) :
    in6AddrAt (writeBytes mem (maskIn6Writes prefixLen)) = buildMaskIn6 prefixLen := by
  unfold in6AddrAt buildMaskIn6 ofBytes
  apply List.foldl_ext
  intro mask i hi
  rw [writeBytes_maskIn6Writes mem prefixLen (List.mem_range.mp hi)]
  congr 1
  by_cases hdiv : i = prefixLen / 8
  · rw [if_neg (by omega), if_pos hdiv, hdiv, setWidth_boundaryByte]
  · rw [if_neg hdiv, maskIn6Byte, if_neg hdiv]
    split <;> rfl

theorem isMask_buildMaskIn4 {prefixLen : Nat} (h : prefixLen ≤ 32) :
    IsMask (buildMaskIn4 prefixLen) prefixLen := by
  unfold buildMaskIn4
  split
  · exact isMask_not_shiftLeft (by assumption) h
  · rw [show prefixLen = 0 by omega]
    exact isMask_zero

end Bytes

/-! ## The masks of the callers -/

namespace MaskCall

/-- The writes are to the 16 bytes of the address. -/
def InBounds (c : MaskCall) : Prop := ∀ write ∈ c.writes, write.1 < 16

instance (c : MaskCall) : Decidable c.InBounds := inferInstanceAs (Decidable (∀ _ ∈ _, _))

/-- What is expected of a call: whatever is in the memory before, the mask that it returns has
exactly the leading bits set, so that two addresses agree under it if they agree in these bits, and
its writes are within the address. -/
structure Ok (c : MaskCall) : Prop where
  leading : ∀ stack, IsMask (c.mask stack) c.prefixLen
  agree : ∀ stack (a b : BitVec c.af.hostLen),
    a &&& c.mask stack = b &&& c.mask stack ↔ ∀ i < c.prefixLen, a.getMsbD i = b.getMsbD i
  inBounds : c.InBounds

/-- `nl_l3` makes the call for each route and each address that it adds, with the prefix lengths
of hosts among them. -/
structure Built (c : MaskCall) : Prop where
  route : ∀ rtDst : Prefix, rtDst.addr.af = c.af → rtDst.len = c.prefixLen →
    c ∈ L3.addL3UnicastRouteMasks rtDst
  addr : ∀ (env : AddrEnv) (a : IfAddr) (link : RtnlLink), env.getLink a.ifindex = some link →
    env.isSwitchInterface link = true → link.isBridge = false → c.af = .inet →
      a.prefixlen = c.prefixLen → c ∈ TermMacs.addL3AddrMasks env a
  addrV6 : ∀ (env : AddrEnv) (a : IfAddr) (link : RtnlLink), env.getLink a.ifindex = some link →
    env.isSwitchInterface link = true → link.isLoopback = false → c.af = .inet6 →
      a.prefixlen = c.prefixLen → c ∈ TermMacs.addL3AddrV6Masks env a
  loAddrV6 : ∀ a : IfAddr, a.loc.overlaps ipv6Lo = false → c.af = .inet6 →
    a.prefixlen = c.prefixLen → c ∈ TermMacs.addLoAddrV6Masks a

variable {c : MaskCall}

theorem isMask_mask (h : c.Carried) (stack : Nat → BitVec 8) :
    IsMask (c.mask stack) c.prefixLen := by
  obtain ⟨af, prefixLen⟩ := c
  cases af with
  | inet => exact isMask_buildMaskIn4 h
  | inet6 => exact isMask_in6AddrAt stack prefixLen

/-- The last write is to byte `prefixLen / 8`. -/
theorem inBounds_iff (h : c.Carried) : c.InBounds ↔ c ≠ ⟨.inet6, 128⟩ := by
  obtain ⟨af, prefixLen⟩ := c
  cases af with
  | inet => simp [InBounds, writes]
  | inet6 =>
    have hlen : prefixLen ≤ 128 := h
    have hwrites : InBounds ⟨.inet6, prefixLen⟩ ↔ prefixLen / 8 < 16 := by
      constructor
      · intro hin
        exact hin (prefixLen / 8, boundaryByte prefixLen) (by simp [writes, maskIn6Writes])
      · intro hdiv write hwrite
        simp only [writes, maskIn6Writes, memset, List.mem_append, List.mem_map, List.mem_range,
          List.mem_singleton] at hwrite
        obtain (⟨i, hi, rfl⟩ | ⟨i, hi, rfl⟩) | rfl := hwrite
        · exact hi
        · exact Nat.lt_trans hi hdiv
        · exact hdiv
    rw [hwrites, ne_eq, mk.injEq]
    simp only [true_and]
    omega

theorem ok_iff (h : c.Carried) : c.Ok ↔ c ≠ ⟨.inet6, 128⟩ := by
  rw [← inBounds_iff h]
  constructor
  · exact fun hok => hok.inBounds
  · intro hin
    exact ⟨isMask_mask h, fun stack => (isMask_mask h stack).and_eq_and_iff, hin⟩

theorem built (c : MaskCall) : c.Built where
  route rtDst haf hlen := by
    obtain ⟨af, prefixLen⟩ := c
    subst haf hlen
    unfold L3.addL3UnicastRouteMasks
    cases rtDst.addr with
    | inet a => exact List.mem_singleton_self _
    | inet6 a => exact List.mem_singleton_self _
  addr env a link hlink hswitch hbridge haf hlen := by
    obtain ⟨af, prefixLen⟩ := c
    subst haf hlen
    simp [TermMacs.addL3AddrMasks, hlink, hswitch, hbridge]
  addrV6 env a link hlink hswitch hlo haf hlen := by
    obtain ⟨af, prefixLen⟩ := c
    subst haf hlen
    simp [TermMacs.addL3AddrV6Masks, hlink, hswitch, hlo]
  loAddrV6 a hlo haf hlen := by
    obtain ⟨af, prefixLen⟩ := c
    subst haf hlen
    simp [TermMacs.addLoAddrV6Masks, hlo]

theorem mem_delL3UnicastRouteMasks {rtDst : Prefix} : c ∈ L3.delL3UnicastRouteMasks rtDst ↔
    c = ⟨rtDst.addr.af, rtDst.len⟩ ∧ rtDst.len ≠ rtDst.addr.af.hostLen := by
  unfold L3.delL3UnicastRouteMasks
  cases rtDst.addr <;> dsimp only [Addr.af, Af.hostLen] <;> split <;> simp [*]

/-- The removal of a route compares the prefix length first. -/
theorem ok_of_mem_delL3UnicastRouteMasks {rtDst : Prefix} (h : rtDst.len ≤ rtDst.addr.af.hostLen)
    (hc : c ∈ L3.delL3UnicastRouteMasks rtDst) : c.Ok := by
  obtain ⟨rfl, hne⟩ := mem_delL3UnicastRouteMasks.mp hc
  have hcarried : Carried ⟨rtDst.addr.af, rtDst.len⟩ := h
  refine (ok_iff hcarried).mpr fun heq => ?_
  rw [mk.injEq] at heq
  obtain ⟨haf, hlen⟩ := heq
  rw [haf] at hne
  exact hne hlen

end MaskCall

/-- For each prefix length of either family: the mask is that of the leading bits and the writes
are within the address, exactly if the call is not for a single IPv6 address. `nl_l3` makes the
call with each length. -/
theorem maskCall_ok_iff (c : MaskCall) (h : c.Carried) :
    (c.Ok ∧ c.Built) ↔ c ≠ { af := .inet6, prefixLen := 128 } := by
  rw [and_iff_left c.built, MaskCall.ok_iff h]

theorem maskCall64_ok : MaskCall.Ok ⟨.inet6, 64⟩ ∧ MaskCall.Built ⟨.inet6, 64⟩ :=
  (maskCall_ok_iff ⟨.inet6, 64⟩ (by unfold MaskCall.Carried; decide)).mpr (by decide)

/-- The address 2001:db8::1/128 on the loopback: byte 16 is written. -/
theorem loopbackHost_not_inBounds :
    MaskCall.mk .inet6 128 ∈ TermMacs.addLoAddrV6Masks
      { ifindex := 1, loc := { addr := .inet6 (0x20010db8 <<< 96 ||| 1), len := 128 },
        prefixlen := 128 } ∧
    MaskCall.Carried ⟨.inet6, 128⟩ ∧ ¬ MaskCall.Ok ⟨.inet6, 128⟩ := by
  refine ⟨by decide, by unfold MaskCall.Carried; decide, ?_⟩
  intro hok
  have hin : MaskCall.InBounds ⟨.inet6, 128⟩ := hok.inBounds
  revert hin
  decide

end Basebox
