import Basebox.OfDpa.Switch
import Basebox.Netlink.L3Neigh
import Mathlib.Tactic.IntervalCases

/-!
# Multicast groups of the bridge (`nl_bridge::mdb_to_set`, `src/netlink/nl_bridge.cc`)

The multicast database of the kernel's bridge as the set of (port, VLAN, MAC) that the switch gets
groups for. In the branch for IPv4 the source declares a second `buf`, which hides the one that
the set is filled from: the MAC of an IPv4 group goes into the inner buffer, and what is in the
outer one, uninitialised in every turn of the loop, goes into the set. Its contents are a
parameter, an arbitrary one for each turn.

* `mdbToSet`: the loop over the entries.
* `groupMac`: the MAC that a group address is to have, none for the groups that get no entry.
* `mdbToSet_iff`: the set is right whatever the buffer contains, exactly if every entry is on the
  bridge itself, an IPv6 group or in 224.0.0.0/24.
-/

namespace Basebox

/-- An entry of the multicast database. The protocol of an entry is the family of its group address;
without an address it is neither `ETH_P_IP` nor `ETH_P_IPV6`. -/
structure MdbEntry where
  ifindex : Int
  vid : Nat
  group : Option Addr
  deriving DecidableEq

/-- `rtnl_mdb`, with the ifindex of the bridge it belongs to. -/
structure Mdb where
  ifindex : BitVec 32
  entries : List MdbEntry

namespace Mdb

/-- `multicast_ipv4_to_ll`. The address is in host byte order. -/
def multicastIpv4ToLl (addr : BitVec 32) : Mac :=
  0x01#8 ++ 0x00#8 ++ 0x5e#8 ++ (addr >>> 16 &&& 0x7f).setWidth 8 ++
    (addr >>> 8 &&& 0xff).setWidth 8 ++ (addr &&& 0xff).setWidth 8

/-- `multicast_ipv6_to_ll`: the last four bytes are those of the address. -/
def multicastIpv6ToLl (addr : BitVec 128) : Mac := 0x33#8 ++ 0x33#8 ++ addr.setWidth 32

/-- `ipv4_igmp`: 224.0.0.0/24. -/
def ipv4Igmp : Prefix := { addr := .inet 0xe0000000, len := 24 }

/-- `ipv6_mld`: ff00::/15. -/
def ipv6Mld : Prefix := { addr := .inet6 (0xff00 <<< 112), len := 15 }

/-- `ipv6_all_hosts`: ff02::1. -/
def ipv6AllHosts : Addr := .inet6 (0xff02#16 ++ 1#112)

/-- An element of the set: port id, VLAN, MAC. -/
abbrev McElem := Nat × Nat × Mac

/-- One turn of the loop of `mdb_to_set`: what it puts into the set, if anything. `getPortId` is
`cnetlink::get_port_id`, `buf` what the buffer of the loop body contains. Group addresses in the
database have full length, so that `nl_addr_cmp` compares the family and the bytes. -/
def mdbTurn (getPortId : Int → Nat) (brIfindex : Int) (buf : Mac) (e : MdbEntry) :
    Option McElem :=
  let portId := getPortId e.ifindex
  if e.ifindex = brIfindex then none
  else
    match e.group with
    | some (.inet a) =>
      if (Addr.inet a).cmpPrefix ipv4Igmp == .eq then none
      else
        -- The inner `buf`: it is filled and goes out of scope.
        let _buf := multicastIpv4ToLl a
        some (portId, e.vid, buf)
    | some (.inet6 a) =>
      if .inet6 a = ipv6AllHosts then none
      else if (Addr.inet6 a).cmpPrefix ipv6Mld == .eq then none
      else some (portId, e.vid, multicastIpv6ToLl a)
    | none => some (portId, e.vid, buf)

/-- `mdb_to_set`: the return value and the set. `uninit` is what the buffer contains at the beginning
of each turn. -/
def mdbToSet (getPortId : Int → Nat) (brIfindex : Int) (uninit : Nat → Mac) (mdb : Mdb)
    (set : Finset McElem) : Int × Finset McElem :=
  if mdb.ifindex.toInt ≠ brIfindex then (-EINVAL, set)
  else (0, mdb.entries.zipIdx.foldl (fun set (e, i) =>
    match mdbTurn getPortId brIfindex (uninit i) e with
    | none => set
    | some x => insert x set) set)

/-! ## What the set is for -/

/-- The MAC of a group address, for the groups that get an entry on the switch. -/
def groupMac : Addr → Option Mac
  | .inet a => if a.extractLsb' 8 24 = 0xe00000#24 then none
    else some (0x01005e#24 ++ 0#1 ++ a.setWidth 23)
  | .inet6 a => if a.extractLsb' 113 15 = 0x7f80#15 ∨ a = 0xff02#16 ++ 1#112 then none
    else some (0x3333#16 ++ a.setWidth 32)

/-- The element for an entry, unless it is on the bridge itself. -/
def elem (getPortId : Int → Nat) (brIfindex : Int) (e : MdbEntry) : Option McElem :=
  if e.ifindex = brIfindex then none
  else (e.group.bind groupMac).map fun mac => (getPortId e.ifindex, e.vid, mac)

/-- The elements for the entries that are not on the bridge itself. -/
def groupsOf (getPortId : Int → Nat) (brIfindex : Int) (entries : List MdbEntry) :
    Finset McElem :=
  (entries.filterMap (elem getPortId brIfindex)).toFinset

/-- The entry does not get its MAC from the uninitialised buffer. -/
def Filled (brIfindex : Int) (e : MdbEntry) : Prop :=
  e.ifindex = brIfindex ∨ ∃ a, e.group = some a ∧ (a.isInet = true → groupMac a = none)

/-! ## The addresses -/

theorem multicastIpv4ToLl_eq (a : BitVec 32) :
    multicastIpv4ToLl a = (0x01005e#24 ++ 0#1 ++ a.setWidth 23 : BitVec 48) := by
  unfold multicastIpv4ToLl
  apply BitVec.eq_of_getLsbD_eq
  intro i hi
  simp only [BitVec.getLsbD_append, BitVec.getLsbD_setWidth, BitVec.getLsbD_and,
    BitVec.getLsbD_ushiftRight]
  interval_cases i <;> simp

theorem multicastIpv6ToLl_eq (a : BitVec 128) :
    multicastIpv6ToLl a = (0x3333#16 ++ a.setWidth 32 : BitVec 48) := rfl

theorem cmpPrefix_ipv4Igmp (a : BitVec 32) :
    (Addr.inet a).cmpPrefix ipv4Igmp = .eq ↔ a.extractLsb' 8 24 = 0xe00000#24 := by
  have hlt := a.isLt
  have hp : (0xe0000000 : BitVec 32).toNat = 0xe0000000 := by decide
  rw [← BitVec.toNat_inj]
  simp only [Addr.cmpPrefix, ipv4Igmp, Nat.compare_eq_eq, BitVec.extractLsb'_toNat,
    Nat.shiftRight_eq_div_pow, BitVec.toNat_ofNat, hp]
  omega

theorem cmpPrefix_ipv6Mld (a : BitVec 128) :
    (Addr.inet6 a).cmpPrefix ipv6Mld = .eq ↔ a.extractLsb' 113 15 = 0x7f80#15 := by
  have hlt := a.isLt
  have hp : ((0xff00 <<< 112 : BitVec 128)).toNat = 0xff00 * 2 ^ 112 := by decide
  rw [← BitVec.toNat_inj]
  simp only [Addr.cmpPrefix, ipv6Mld, Nat.compare_eq_eq, BitVec.extractLsb'_toNat,
    Nat.shiftRight_eq_div_pow, BitVec.toNat_ofNat, hp]
  omega

theorem eq_ipv6AllHosts (a : BitVec 128) :
    Addr.inet6 a = ipv6AllHosts ↔ a = (0xff02#16 ++ 1#112 : BitVec 128) := by
  simp [ipv6AllHosts]

/-- No group is mapped to the zero MAC. -/
theorem groupMac_ne_zero {a : Addr} : groupMac a ≠ some 0 := by
  cases a with
  | inet a =>
    simp only [groupMac]
    split
    · simp
    · intro h
      have hbit := congrArg (·.getLsbD 25) (Option.some.inj h)
      simp only [BitVec.getLsbD_append] at hbit
      simp at hbit
  | inet6 a =>
    simp only [groupMac]
    split
    · simp
    · intro h
      have hbit := congrArg (·.getLsbD 32) (Option.some.inj h)
      simp only [BitVec.getLsbD_append] at hbit
      simp at hbit

/-! ## The loop -/

section Loop

variable {getPortId : Int → Nat} {br : Int} {buf : Mac} {e : MdbEntry}

theorem mdbTurn_filled (h : Filled br e) : mdbTurn getPortId br buf e = elem getPortId br e := by
  unfold mdbTurn elem
  by_cases hbr : e.ifindex = br
  · simp [hbr]
  · obtain ⟨a, ha, hinet⟩ := h.resolve_left hbr
    simp only [hbr, if_false, ha, Option.bind_some]
    cases a with
    | inet a =>
      have hnone := hinet rfl
      have hin : a.extractLsb' 8 24 = 0xe00000#24 := by
        by_contra hne
        simp [groupMac, hne] at hnone
      simp [(cmpPrefix_ipv4Igmp a).mpr hin, hnone]
    | inet6 a =>
      simp only [beq_iff_eq, cmpPrefix_ipv6Mld, eq_ipv6AllHosts, groupMac, multicastIpv6ToLl_eq]
      by_cases hall : a = (0xff02#16 ++ 1#112 : BitVec 128)
      · simp [hall]
      · by_cases hmld : a.extractLsb' 113 15 = 0x7f80#15
        · simp [hmld]
        · simp only [hall, hmld, if_false, or_self, Option.map_some]

/-- Any other entry gets what the buffer contains. -/
theorem mdbTurn_unfilled (h : ¬ Filled br e) :
    mdbTurn getPortId br buf e = some (getPortId e.ifindex, e.vid, buf) := by
  rw [Filled, not_or] at h
  obtain ⟨hbr, hgroup⟩ := h
  unfold mdbTurn
  rw [if_neg hbr]
  cases hg : e.group with
  | none => rfl
  | some a =>
    cases a with
    | inet a =>
      have hne : (Addr.inet a).cmpPrefix ipv4Igmp ≠ .eq := by
        intro heq
        refine hgroup ⟨_, hg, fun _ => ?_⟩
        rw [groupMac, if_pos ((cmpPrefix_ipv4Igmp a).mp heq)]
      simp [hne]
    | inet6 a =>
      exact absurd ⟨_, hg, fun hinet => by cases hinet⟩ hgroup

theorem mem_foldl_insert {α : Type} {f : α → Option McElem} {l : List α} {set : Finset McElem}
    {x : McElem} :
    x ∈ l.foldl (fun set a => match f a with
      | none => set
      | some y => insert y set) set ↔ x ∈ set ∨ ∃ a ∈ l, f a = some x := by
  induction l generalizing set with
  | nil => simp
  | cons a l ih =>
    rw [List.foldl_cons, ih]
    cases hf : f a with
    | none => simp [hf]
    | some y =>
      simp only [Finset.mem_insert, List.mem_cons, exists_eq_or_imp, hf, Option.some.injEq,
        @eq_comm _ y]
      tauto

theorem mem_mdbToSet {uninit : Nat → Mac} {mdb : Mdb} (h : mdb.ifindex.toInt = br) {x : McElem} :
    x ∈ (mdbToSet getPortId br uninit mdb ∅).2 ↔
      ∃ i e, mdb.entries[i]? = some e ∧ mdbTurn getPortId br (uninit i) e = some x := by
  have hmem := @mem_foldl_insert _ (fun a : MdbEntry × Nat => mdbTurn getPortId br (uninit a.2) a.1)
    mdb.entries.zipIdx ∅ x
  unfold mdbToSet
  rw [if_neg (not_not.mpr h)]
  refine hmem.trans ?_
  simp only [Finset.notMem_empty, false_or, List.mem_zipIdx_iff_getElem?, Prod.exists]
  exact exists_comm

theorem mem_groupsOf {entries : List MdbEntry} {x : McElem} :
    x ∈ groupsOf getPortId br entries ↔ ∃ e ∈ entries, elem getPortId br e = some x := by
  simp [groupsOf]

theorem elem_zero {p v : Nat} : elem getPortId br e ≠ some (p, v, 0) := by
  unfold elem
  split
  · simp
  · intro h
    obtain ⟨mac, hmac, hx⟩ := Option.map_eq_some_iff.mp h
    obtain ⟨a, -, ha⟩ := Option.bind_eq_some_iff.mp hmac
    cases hx
    exact groupMac_ne_zero ha

/-- For a database of the tracked bridge: whatever the buffer contains, `mdb_to_set` succeeds and the
set is that of the entries that get a group, with the MACs of their addresses, exactly if no entry
that gets one is an IPv4 group (nor of a protocol other than IPv4 and IPv6). -/
theorem mdbToSet_iff (mdb : Mdb) (htracked : mdb.ifindex.toInt = br) :
    (∀ uninit, mdbToSet getPortId br uninit mdb ∅ = (0, groupsOf getPortId br mdb.entries)) ↔
      ∀ e ∈ mdb.entries, Filled br e := by
  constructor
  · intro h e he
    by_contra hfill
    -- The buffer may contain a MAC that is none of a group.
    obtain ⟨i, hi⟩ := List.getElem?_of_mem he
    have hx : (getPortId e.ifindex, e.vid, (0 : Mac)) ∈
        (mdbToSet getPortId br (fun _ => 0) mdb ∅).2 :=
      (mem_mdbToSet htracked).mpr ⟨i, e, hi, mdbTurn_unfilled hfill⟩
    rw [h, mem_groupsOf] at hx
    obtain ⟨e', -, hx⟩ := hx
    exact elem_zero hx
  · intro h uninit
    refine Prod.ext ?_ (Finset.ext fun x => ?_)
    · unfold mdbToSet
      rw [if_neg (not_not.mpr htracked)]
    · rw [mem_mdbToSet htracked, mem_groupsOf]
      constructor
      · rintro ⟨i, e, hi, hx⟩
        have he : e ∈ mdb.entries := List.mem_of_getElem? hi
        rw [mdbTurn_filled (h e he)] at hx
        exact ⟨e, he, hx⟩
      · rintro ⟨e, he, hx⟩
        obtain ⟨i, hi⟩ := List.getElem?_of_mem he
        exact ⟨i, e, hi, (mdbTurn_filled (h e he)).trans hx⟩

/-- The bridge is interface 1, port 1 is interface 3. -/
def portOne (ifindex : Int) : Nat := if ifindex = 3 then 1 else 0

/-- Groups ff05::3 and ff05::4 on port 1, in VLANs 10 and 20, and 239.1.2.3 on the bridge itself. -/
def v6Mdb : Mdb :=
  ⟨1, [⟨3, 10, some (.inet6 (0xff05#16 ++ 3#112))⟩, ⟨1, 10, some (.inet 0xef010203)⟩,
    ⟨3, 20, some (.inet6 (0xff05#16 ++ 4#112))⟩]⟩

theorem mdbToSet_iff_v6 :
    mdbToSet portOne 1 (fun _ => 1) v6Mdb ∅ =
      (0, {(1, 10, 0x333300000003), (1, 20, 0x333300000004)}) := by
  have hgroups : ∀ uninit, mdbToSet portOne 1 uninit v6Mdb ∅ =
      (0, groupsOf portOne 1 v6Mdb.entries) :=
    (mdbToSet_iff v6Mdb (by decide)).mpr (by simp [v6Mdb, Filled, Addr.isInet])
  rw [hgroups]
  decide

/-- Group 239.1.2.3 on port 1 in VLAN 10. -/
def v4Mdb : Mdb := ⟨1, [⟨3, 10, some (.inet 0xef010203)⟩]⟩

/-- With zeros in the buffer the group gets MAC 0. -/
theorem v4Group_gets_garbage :
    v4Mdb.ifindex.toInt = 1 ∧ mdbToSet portOne 1 (fun _ => 0) v4Mdb ∅ = (0, {(1, 10, 0)}) ∧
      mdbToSet portOne 1 (fun _ => 0) v4Mdb ∅ ≠ (0, groupsOf portOne 1 v4Mdb.entries) := by
  decide

end Loop

end Mdb

end Basebox
