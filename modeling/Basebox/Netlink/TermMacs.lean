import Basebox.Lib.KeysInUse
import Basebox.Lib.Run
import Basebox.Netlink.L3Neigh

/-!
# Termination MACs (`src/netlink/nl_l3.cc`)

A link with an address of a family gets a termination MAC for it: its port, its VLAN and its own
MAC. The port of a VLAN interface is that of the link below. So a VLAN interface in the VLAN of
untagged traffic shares port and VLAN with the port below, and the entries have no count.

* `addL3Addr`, `addL3AddrV6`, `delL3Addr`: the handlers of addresses. What they read from the
  caches and from other components is the argument `AddrEnv`; the calls of the switch succeed.
* `Exact`: an entry is there, and on the switch, exactly if some link with its port, VLAN and MAC
  has an address of the family.
* `termMacsExact_iff_along`: the entries are exact in every state of a run exactly if, whenever a
  link loses its last address of a family, the one link that is looked at besides has an address of
  the family just when some link with the same port, VLAN and MAC has.
* `exact_of_inherited`: that is so if untagged traffic is in VLAN 1 and VLAN interfaces have the
  MAC of the port below.
-/

namespace Basebox

/-- `AF_INET` and `AF_INET6`. -/
inductive Af where
  | inet
  | inet6
  deriving DecidableEq

/-- The prefix length of a single address. -/
def Af.hostLen : Af → Nat
  | .inet => 32
  | .inet6 => 128

/-- What is read of a VLAN interface beyond that of other links. -/
structure VlanInfo where
  /-- `rtnl_link_get_link`. -/
  link : Int
  vlanId : Nat
  deriving DecidableEq

/-- A link in the cache. -/
structure RtnlLink where
  ifindex : Int
  addr : Mac
  vlan : Option VlanInfo := none
  isLoopback : Bool := false
  isBridge : Bool := false
  master : Int := 0
  deriving DecidableEq

/-- The link that the port is of: for a VLAN interface the one below. -/
def RtnlLink.base (link : RtnlLink) : Int := (link.vlan.map (·.link)).getD link.ifindex

/-- An address of a link. -/
structure IfAddr where
  ifindex : Int
  /-- `rtnl_addr_get_local`. -/
  loc : Prefix
  /-- `rtnl_addr_get_prefixlen`. -/
  prefixlen : Nat
  deriving DecidableEq

/-- The family of an address. -/
def IfAddr.af (a : IfAddr) : Af :=
  match a.loc.addr with
  | .inet _ => .inet
  | .inet6 _ => .inet6

/-- An element of `termination_mac_entries`. -/
structure TermKey where
  portId : Nat
  vid : Nat
  mac : Mac
  af : Af
  deriving DecidableEq

/-- Calls of the switch. -/
inductive RouterCall where
  | l3TerminationAdd (portId vid : Nat) (mac : Mac)
  | l3TerminationAddV6 (portId vid : Nat) (mac : Mac)
  | l3TerminationRemove (portId vid : Nat) (mac : Mac)
  | l3TerminationRemoveV6 (portId vid : Nat) (mac : Mac)
  | l3UnicastHostAdd (addr : Addr) (updateRoute : Bool) (vrfId : Nat)
  | l3UnicastHostRemove (addr : Addr) (vrfId : Nat)

/-- The termination MACs on the switch after a call. -/
def termMacsAfter (t : Finset TermKey) : RouterCall → Finset TermKey
  | .l3TerminationAdd portId vid mac => insert ⟨portId, vid, mac, .inet⟩ t
  | .l3TerminationAddV6 portId vid mac => insert ⟨portId, vid, mac, .inet6⟩ t
  | .l3TerminationRemove portId vid mac => t.erase ⟨portId, vid, mac, .inet⟩
  | .l3TerminationRemoveV6 portId vid mac => t.erase ⟨portId, vid, mac, .inet6⟩
  | _ => t

/-- What the handlers of addresses find outside. -/
structure AddrEnv where
  /-- The link cache. -/
  links : List RtnlLink
  /-- `get_port_id(ifindex)`: the port of a port or a bond, else 0. -/
  portIdOf : Int → Nat
  portUntaggedVid : Nat
  /-- A VXLAN link with a tunnel, or the bridge of the switch. -/
  otherSwitchInterface : RtnlLink → Bool := fun _ => false
  isBridgeInterface : RtnlLink → Bool := fun _ => false
  /-- `get_link(ifindex, AF_BRIDGE)` has an address. -/
  bridgeHasAddr : Int → Bool := fun _ => false
  /-- `get_vrf_id`. -/
  vrfIdOf : Nat → Nat := fun _ => 0
  /-- `search_neigh_cache` finds neighbours. -/
  hasNeigh : Int → Addr → Bool := fun _ _ => false
  /-- The results of `nl_vlan`. -/
  addVlan : RtnlLink → Nat → Bool → Int := fun _ _ _ => 0
  removeVlan : RtnlLink → Nat → Bool → Int := fun _ _ _ => 0
  distinct : (links.map (·.ifindex)).Nodup
  /-- A port or a bond is a link of its own, and neither it nor a VLAN interface above it is a
  loopback or a bridge. -/
  ports : ∀ link ∈ links, portIdOf link.base ≠ 0 →
    link.isLoopback = false ∧ link.isBridge = false ∧
      ∃ below ∈ links, below.ifindex = link.base ∧ below.vlan = none

/-- `termination_mac_entries` of `nl_l3`, the address cache and the calls of the switch so far. -/
structure TermMacs where
  terminationMacEntries : Finset TermKey := ∅
  addrs : Finset IfAddr := ∅
  calls : List RouterCall := []

/-- `127.0.0.0/8`. -/
def ipv4Lo : Prefix := { addr := .inet (127 <<< 24), len := 8 }

/-- `::1/128`. -/
def ipv6Lo : Prefix := { addr := .inet6 1, len := 128 }

namespace AddrEnv

variable (env : AddrEnv)

/-- `get_link(ifindex, AF_UNSPEC)`, `get_link_by_ifindex`. -/
def getLink (ifindex : Int) : Option RtnlLink := env.links.find? (·.ifindex = ifindex)

/-- `get_vlan_link`. -/
def getVlanLink (ifindex : Int) (vid : Nat) : Option RtnlLink :=
  env.links.find? (·.vlan = some { link := ifindex, vlanId := vid })

/-- `get_port_id(link)`. -/
def getPortId (link : RtnlLink) : Nat := env.portIdOf link.base

/-- `is_switch_interface`. -/
def isSwitchInterface (l : RtnlLink) : Bool :=
  match l.vlan with
  | none => 0 < env.getPortId l || env.otherSwitchInterface l
  | some v =>
    match env.getLink v.link with
    | none => false
    | some link => 0 < env.getPortId link || env.otherSwitchInterface link

/-- `nl_vlan::get_vid`. -/
def getVid (link : RtnlLink) : Nat :=
  if !env.isBridgeInterface link && env.getPortId link = 0 then 0
  else if link.isBridge then env.portUntaggedVid
  else
    match link.vlan with
    | some v => v.vlanId
    | none => env.portUntaggedVid

/-- The link that `del_l3_addr` looks at besides: for a VLAN interface the one below, else the
VLAN interface for VLAN 1. -/
def otherLink (link : RtnlLink) : Option RtnlLink :=
  match link.vlan with
  | some v => env.getLink v.link
  | none => env.getVlanLink link.ifindex 1

/-- The entry of a link for its addresses of a family. -/
def termKey (link : RtnlLink) (af : Af) : TermKey where
  portId := env.getPortId link
  vid := env.getVid link
  mac := link.addr
  af := af

/-- The entry that an address is for. -/
def keyOf (a : IfAddr) : Option TermKey := (env.getLink a.ifindex).map (env.termKey · a.af)

end AddrEnv

namespace TermMacs

variable (env : AddrEnv) (s : TermMacs)

/-- A call of the switch is noted. -/
def call (c : RouterCall) : TermMacs := { s with calls := s.calls ++ [c] }

/-- `get_l3_addrs`. -/
def getL3Addrs (ifindex : Int) (af : Af) : Finset IfAddr :=
  s.addrs.filter fun a => a.ifindex = ifindex ∧ a.af = af

/-- `add_l3_termination`. -/
def addL3Termination (portId vid : Nat) (mac : Mac) (af : Af) : Int × TermMacs :=
  let needle : TermKey := { portId := portId, vid := vid, mac := mac, af := af }
  if needle ∈ s.terminationMacEntries then (0, s)
  else
    let s := { s with terminationMacEntries := insert needle s.terminationMacEntries }
    match af with
    | .inet => (0, s.call (.l3TerminationAdd portId vid mac))
    | .inet6 => (0, s.call (.l3TerminationAddV6 portId vid mac))

/-- `del_l3_termination`. -/
def delL3Termination (portId vid : Nat) (mac : Mac) (af : Af) : Int × TermMacs :=
  let needle : TermKey := { portId := portId, vid := vid, mac := mac, af := af }
  if needle ∉ s.terminationMacEntries then (-ENODATA, s)
  else
    let s :=
      match af with
      | .inet => s.call (.l3TerminationRemove portId vid mac)
      | .inet6 => s.call (.l3TerminationRemoveV6 portId vid mac)
    (0, { s with terminationMacEntries := s.terminationMacEntries.erase needle })

/-- `add_l3_addr`. -/
def addL3Addr (a : IfAddr) : Int × TermMacs :=
  match env.getLink a.ifindex with
  | none => (-EINVAL, s)
  | some link =>
    let vid := env.getVid link
    let vrfId := env.vrfIdOf vid
    if !link.isLoopback && !env.isSwitchInterface link then (-EINVAL, s)
    -- the bridge is already configured with an address
    else if link.master ≠ 0 ∧ link.isBridge ∧ env.bridgeHasAddr link.master then (-EINVAL, s)
    else
      let s :=
        if link.isLoopback then s
        else (s.addL3Termination (env.getPortId link) vid link.addr .inet).2
      if link.isLoopback then
        if a.loc.overlaps ipv4Lo then (0, s)
        else if a.prefixlen = 32 then (0, s.call (.l3UnicastHostAdd a.loc.addr false 0))
        else (0, s)
      else
        let update := env.hasNeigh a.ifindex a.loc.addr
        let s :=
          if a.prefixlen = 32 then s.call (.l3UnicastHostAdd a.loc.addr update vrfId) else s
        if !link.isBridge && !env.isBridgeInterface link then
          (env.addVlan link vid link.vlan.isSome, s)
        else (0, s)

/-- `add_lo_addr_v6`. -/
def addLoAddrV6 (a : IfAddr) : Int × TermMacs :=
  if a.loc.overlaps ipv6Lo then (-EINVAL, s)
  else if a.prefixlen = 128 then (0, s.call (.l3UnicastHostAdd a.loc.addr false 0))
  else (0, s)

/-- `add_l3_addr_v6`. -/
def addL3AddrV6 (a : IfAddr) : Int × TermMacs :=
  match env.getLink a.ifindex with
  | none => (-EINVAL, s)
  | some link =>
    if !link.isLoopback && !env.isSwitchInterface link then (-EINVAL, s)
    else
      let vid := env.getVid link
      let s :=
        if link.isLoopback then s
        else (s.addL3Termination (env.getPortId link) vid link.addr .inet6).2
      if link.isLoopback then s.addLoAddrV6 a
      else
        let update := env.hasNeigh a.ifindex a.loc.addr
        let s := if a.prefixlen = 128 then s.call (.l3UnicastHostAdd a.loc.addr update 0) else s
        if !env.isBridgeInterface link then (env.addVlan link vid link.vlan.isSome, s) else (0, s)

/-- The addresses that keep a termination MAC: those of the link itself, else, in the VLAN of
untagged traffic, those of the other link. -/
def remainingAddrs (link : RtnlLink) (af : Af) : Finset IfAddr :=
  let addresses := s.getL3Addrs link.ifindex af
  if env.getVid link = env.portUntaggedVid ∧ addresses = ∅ then
    match env.otherLink link with
    | some other => s.getL3Addrs other.ifindex af
    | none => addresses
  else addresses

/-- `del_l3_addr`. -/
def delL3Addr (a : IfAddr) : Int × TermMacs :=
  match env.getLink a.ifindex with
  | none => (-EINVAL, s)
  | some link =>
    let vid := env.getVid link
    let vrfId := env.vrfIdOf vid
    if !link.isLoopback && !env.isSwitchInterface link then (-EINVAL, s)
    else
      let s := if a.loc.len = a.af.hostLen then s.call (.l3UnicastHostRemove a.loc.addr vrfId) else s
      if link.isLoopback then (0, s)
      else
        let (rv, s) :=
          if s.remainingAddrs env link a.af = ∅ then
            s.delL3Termination (env.getPortId link) vid link.addr a.af
          else (0, s)
        if !env.isBridgeInterface link then (env.removeVlan link vid link.vlan.isSome, s)
        else (rv, s)

/-! ## Events -/

/-- What `route_addr_apply` is told. -/
inductive AddrEv where
  | new (a : IfAddr)
  | del (a : IfAddr)

/-- The state after an event. The cache is changed before the handler is called, and a deletion is
only reported of an address in the cache. -/
def step (s : TermMacs) : AddrEv → TermMacs
  | .new a =>
    let s := { s with addrs := insert a s.addrs }
    match a.af with
    | .inet => (s.addL3Addr env a).2
    | .inet6 => (s.addL3AddrV6 env a).2
  | .del a =>
    if a ∈ s.addrs then (delL3Addr env { s with addrs := s.addrs.erase a } a).2 else s

/-! ## Entries and addresses -/

/-- The termination MACs on the switch. -/
def onSwitch : Finset TermKey := s.calls.foldl termMacsAfter ∅

/-- Of the entries of ports, those are there and on the switch that some link with their port, VLAN
and MAC has an address for. -/
structure Exact : Prop where
  entries : ∀ key, key.portId ≠ 0 → (key ∈ s.terminationMacEntries ↔
    ∃ link ∈ env.links, env.termKey link key.af = key ∧
      (s.getL3Addrs link.ifindex key.af).Nonempty)
  onSwitch : s.onSwitch = s.terminationMacEntries

section Frame

variable {env : AddrEnv} {s : TermMacs} {a : IfAddr} {link : RtnlLink}

theorem getLink_eq_some {ifindex : Int} :
    env.getLink ifindex = some link ↔ link ∈ env.links ∧ link.ifindex = ifindex := by
  unfold AddrEnv.getLink
  constructor
  · intro h
    exact ⟨List.mem_of_find?_eq_some h, by simpa using List.find?_some h⟩
  · rintro ⟨hmem, rfl⟩
    obtain ⟨l, hl⟩ : ∃ l, env.links.find? (·.ifindex = link.ifindex) = some l :=
      Option.isSome_iff_exists.mp (List.find?_isSome.mpr ⟨link, hmem, by simp⟩)
    have hidx : l.ifindex = link.ifindex := by simpa using List.find?_some hl
    rw [hl, List.inj_on_of_nodup_map env.distinct (List.mem_of_find?_eq_some hl) hmem hidx]

theorem keyOf_eq (hlink : env.getLink a.ifindex = some link) :
    env.keyOf a = some (env.termKey link a.af) := by
  rw [AddrEnv.keyOf, hlink]
  rfl

theorem mem_getL3Addrs {ifindex : Int} {af : Af} :
    a ∈ s.getL3Addrs ifindex af ↔ a ∈ s.addrs ∧ a.ifindex = ifindex ∧ a.af = af :=
  Finset.mem_filter

/-- An entry is in use by an address of a link. -/
theorem inUse_iff {key : TermKey} : InUse env.keyOf s.addrs key ↔
    ∃ link ∈ env.links, env.termKey link key.af = key ∧
      (s.getL3Addrs link.ifindex key.af).Nonempty := by
  constructor
  · rintro ⟨a, ha, hkey⟩
    obtain ⟨link, hlink, rfl⟩ := Option.map_eq_some_iff.mp hkey
    obtain ⟨hmem, hidx⟩ := getLink_eq_some.mp hlink
    exact ⟨link, hmem, rfl, a, mem_getL3Addrs.mpr ⟨ha, hidx.symm, rfl⟩⟩
  · rintro ⟨link, hmem, hkey, a, ha⟩
    obtain ⟨ha, hidx, haf⟩ := mem_getL3Addrs.mp ha
    refine ⟨a, ha, Option.map_eq_some_iff.mpr ⟨link, getLink_eq_some.mpr ⟨hmem, hidx.symm⟩, ?_⟩⟩
    rw [haf, hkey]

theorem exact_iff (h : s.onSwitch = s.terminationMacEntries) : Exact env s ↔
    Tracks env.keyOf (·.portId ≠ 0) s.terminationMacEntries s.addrs := by
  constructor
  · exact fun he key hp => (he.entries key hp).trans inUse_iff.symm
  · exact fun ht => ⟨fun key hp => (ht key hp).trans inUse_iff, h⟩

/-! ### Adding -/

/-- What a handler does: the addresses stay, the switch keeps in step, and the entries of ports are
those with `next`. -/
structure Becomes (s s' : TermMacs) (next : TermKey → Prop) : Prop where
  addrs : s'.addrs = s.addrs
  onSwitch : s.onSwitch = s.terminationMacEntries → s'.onSwitch = s'.terminationMacEntries
  entries : ∀ key, key.portId ≠ 0 → (key ∈ s'.terminationMacEntries ↔ next key)

/-- The entry of an address is added. -/
def Adds (env : AddrEnv) (a : IfAddr) (s s' : TermMacs) : Prop :=
  Becomes s s' fun key => key ∈ s.terminationMacEntries ∨ env.keyOf a = some key

theorem onSwitch_call (c : RouterCall) : (s.call c).onSwitch = termMacsAfter s.onSwitch c := by
  unfold onSwitch call
  rw [List.foldl_append]
  rfl

section Calls

variable {s' : TermMacs} {c : RouterCall} {next : TermKey → Prop}

/-- A call that is not about termination MACs. -/
theorem Becomes.call (h : Becomes s s' next) (hc : ∀ t, termMacsAfter t c = t) :
    Becomes s (s'.call c) next where
  addrs := h.addrs
  onSwitch hs := by
    rw [onSwitch_call, hc]
    exact h.onSwitch hs
  entries := h.entries

/-- Such a call before it. -/
theorem Becomes.of_call (h : Becomes (s.call c) s' next) (hc : ∀ t, termMacsAfter t c = t) :
    Becomes s s' next where
  addrs := h.addrs
  onSwitch hs := h.onSwitch (by rw [onSwitch_call, hc]; exact hs)
  entries := h.entries

end Calls

/-- An address of a link without a port is for no entry of a port. -/
theorem keyOf_ne (h : ∀ link, env.getLink a.ifindex = some link → env.getPortId link = 0)
    {key : TermKey} (hp : key.portId ≠ 0) : env.keyOf a ≠ some key := by
  intro hkey
  obtain ⟨link, hlink, rfl⟩ := Option.map_eq_some_iff.mp hkey
  exact hp (h link hlink)

/-- For it nothing has to be added. -/
theorem Adds.skip (h : ∀ link, env.getLink a.ifindex = some link → env.getPortId link = 0) :
    Adds env a s s :=
  ⟨rfl, fun hs => hs, fun _ hp => (or_iff_left (keyOf_ne h hp)).symm⟩

theorem port_of_link (hlink : env.getLink a.ifindex = some link) (h : env.getPortId link = 0)
    (l : RtnlLink) (hl : env.getLink a.ifindex = some l) : env.getPortId l = 0 := by
  rw [hlink, Option.some.injEq] at hl
  rw [← hl, h]

theorem addL3Termination_entries (portId vid : Nat) (mac : Mac) (af : Af) :
    (s.addL3Termination portId vid mac af).2.terminationMacEntries =
      insert ⟨portId, vid, mac, af⟩ s.terminationMacEntries := by
  unfold addL3Termination
  simp only
  split
  · next hmem => exact (Finset.insert_eq_of_mem hmem).symm
  · cases af <;> rfl

theorem addL3Termination_onSwitch (h : s.onSwitch = s.terminationMacEntries) (portId vid : Nat)
    (mac : Mac) (af : Af) : (s.addL3Termination portId vid mac af).2.onSwitch =
      (s.addL3Termination portId vid mac af).2.terminationMacEntries := by
  rw [addL3Termination_entries]
  unfold addL3Termination
  simp only
  split
  · next hmem => rw [h, Finset.insert_eq_of_mem hmem]
  · cases af
    · exact (onSwitch_call _).trans (congrArg (insert _) h)
    · exact (onSwitch_call _).trans (congrArg (insert _) h)

theorem addL3Termination_addrs (portId vid : Nat) (mac : Mac) (af : Af) :
    (s.addL3Termination portId vid mac af).2.addrs = s.addrs := by
  unfold addL3Termination
  simp only
  split
  · rfl
  · cases af <;> rfl

/-- The entry of the link is added. -/
theorem Adds.termination (hlink : env.getLink a.ifindex = some link) {af : Af} (haf : a.af = af) :
    Adds env a s (s.addL3Termination (env.getPortId link) (env.getVid link) link.addr af).2 where
  addrs := addL3Termination_addrs _ _ _ _
  onSwitch hs := addL3Termination_onSwitch hs _ _ _ _
  entries key _ := by
    rw [addL3Termination_entries, Finset.mem_insert, keyOf_eq hlink, haf, Option.some.injEq, or_comm]
    exact or_congr Iff.rfl eq_comm

/-- A link with a port is an interface of the switch. -/
theorem isSwitchInterface_of_port (hmem : link ∈ env.links) (hp : env.getPortId link ≠ 0) :
    env.isSwitchInterface link = true := by
  obtain ⟨-, -, below, hbelow, hidx, hvlan⟩ := env.ports link hmem hp
  unfold AddrEnv.isSwitchInterface
  cases hv : link.vlan with
  | none => simp [Nat.pos_of_ne_zero hp]
  | some v =>
    have hbase : link.base = v.link := by simp [RtnlLink.base, hv]
    have hport : env.getPortId below = env.getPortId link := by
      unfold AddrEnv.getPortId
      rw [← hidx]
      simp [RtnlLink.base, hvlan]
    simp only [getLink_eq_some.mpr ⟨hbelow, hidx.trans hbase⟩]
    simp [hport, Nat.pos_of_ne_zero hp]

/-! What is returned early is not for a link with a port. -/

theorem port_of_not_switch (hmem : link ∈ env.links)
    (h : (!link.isLoopback && !env.isSwitchInterface link) = true) : env.getPortId link = 0 := by
  by_contra hp
  simp [isSwitchInterface_of_port hmem hp] at h

theorem port_of_bridge (hmem : link ∈ env.links) (h : link.isBridge = true) :
    env.getPortId link = 0 := by
  by_contra hp
  simp [(env.ports link hmem hp).2.1] at h

theorem port_of_loopback (hmem : link ∈ env.links) (h : link.isLoopback = true) :
    env.getPortId link = 0 := by
  by_contra hp
  simp [(env.ports link hmem hp).1] at h

theorem addL3Addr_adds (haf : a.af = .inet) : Adds env a s (s.addL3Addr env a).2 := by
  unfold addL3Addr
  cases hlink : env.getLink a.ifindex with
  | none => exact Adds.skip fun link h => by rw [hlink] at h; cases h
  | some link =>
    have hterm := @Adds.termination env s a link hlink .inet haf
    obtain ⟨hmem, -⟩ := getLink_eq_some.mp hlink
    have hskip := fun h => @Adds.skip env s a (port_of_link hlink h)
    simp only
    split
    · next hc => exact hskip (port_of_not_switch hmem hc)
    split
    · next hc => exact hskip (port_of_bridge hmem hc.2.1)
    by_cases hlo : link.isLoopback = true
    · have hlow : Adds env a s s := hskip (port_of_loopback hmem hlo)
      simp only [hlo, if_true]
      split
      · exact hlow
      · split
        · exact Becomes.call hlow fun _ => rfl
        · exact hlow
    · simp only [hlo, Bool.false_eq_true, if_false]
      split <;> split
      all_goals first | exact Becomes.call hterm fun _ => rfl | exact hterm

theorem addL3AddrV6_adds (haf : a.af = .inet6) : Adds env a s (s.addL3AddrV6 env a).2 := by
  unfold addL3AddrV6
  cases hlink : env.getLink a.ifindex with
  | none => exact Adds.skip fun link h => by rw [hlink] at h; cases h
  | some link =>
    have hterm := @Adds.termination env s a link hlink .inet6 haf
    obtain ⟨hmem, -⟩ := getLink_eq_some.mp hlink
    have hskip := fun h => @Adds.skip env s a (port_of_link hlink h)
    simp only
    split
    · next hc => exact hskip (port_of_not_switch hmem hc)
    by_cases hlo : link.isLoopback = true
    · have hlow : Adds env a s s := hskip (port_of_loopback hmem hlo)
      simp only [hlo, if_true, addLoAddrV6]
      split
      · exact hlow
      · split
        · exact Becomes.call hlow fun _ => rfl
        · exact hlow
    · simp only [hlo, Bool.false_eq_true, if_false]
      split <;> split
      all_goals first | exact Becomes.call hterm fun _ => rfl | exact hterm

/-! ### Removing -/

/-- The entry of an address is given up: its link has no address left that keeps it. -/
def Released (env : AddrEnv) (s : TermMacs) (a : IfAddr) : Prop :=
  ∃ link, env.getLink a.ifindex = some link ∧ s.remainingAddrs env link a.af = ∅

theorem released_of_getLink (hlink : env.getLink a.ifindex = some link) :
    Released env s a ↔ s.remainingAddrs env link a.af = ∅ := by
  unfold Released
  simp only [hlink, Option.some.injEq, exists_eq_left']

/-- The entry of an address is removed if it is given up. -/
def Removes (env : AddrEnv) (a : IfAddr) (s s' : TermMacs) : Prop :=
  Becomes s s' fun key =>
    key ∈ s.terminationMacEntries ∧ ¬ (env.keyOf a = some key ∧ Released env s a)

theorem Removes.skip (h : ∀ link, env.getLink a.ifindex = some link → env.getPortId link = 0) :
    Removes env a s s :=
  ⟨rfl, fun hs => hs, fun _ hp => (and_iff_left fun hkey => keyOf_ne h hp hkey.1).symm⟩

theorem delL3Termination_entries (portId vid : Nat) (mac : Mac) (af : Af) :
    (s.delL3Termination portId vid mac af).2.terminationMacEntries =
      s.terminationMacEntries.erase ⟨portId, vid, mac, af⟩ := by
  unfold delL3Termination
  simp only
  split
  · next hmem => exact (Finset.erase_eq_of_notMem hmem).symm
  · cases af <;> rfl

theorem delL3Termination_onSwitch (h : s.onSwitch = s.terminationMacEntries) (portId vid : Nat)
    (mac : Mac) (af : Af) : (s.delL3Termination portId vid mac af).2.onSwitch =
      (s.delL3Termination portId vid mac af).2.terminationMacEntries := by
  rw [delL3Termination_entries]
  unfold delL3Termination
  simp only
  split
  · next hmem => rw [h, Finset.erase_eq_of_notMem hmem]
  · cases af
    · exact (onSwitch_call _).trans (congrArg (Finset.erase · _) h)
    · exact (onSwitch_call _).trans (congrArg (Finset.erase · _) h)

theorem delL3Termination_addrs (portId vid : Nat) (mac : Mac) (af : Af) :
    (s.delL3Termination portId vid mac af).2.addrs = s.addrs := by
  unfold delL3Termination
  simp only
  split
  · rfl
  · cases af <;> rfl

/-- The entry of the link is removed if no address keeps it. -/
theorem Removes.termination (hlink : env.getLink a.ifindex = some link) :
    Removes env a s (if s.remainingAddrs env link a.af = ∅ then
      s.delL3Termination (env.getPortId link) (env.getVid link) link.addr a.af
      else (0, s)).2 := by
  have hreleased := @released_of_getLink env s a link hlink
  split
  · next hempty =>
    refine ⟨delL3Termination_addrs _ _ _ _, fun hs => delL3Termination_onSwitch hs _ _ _ _, ?_⟩
    intro key _
    rw [delL3Termination_entries, Finset.mem_erase, keyOf_eq hlink, Option.some.injEq, hreleased,
      and_comm]
    simp only [hempty, and_true]
    exact and_congr_right fun _ => not_congr eq_comm
  · next hne =>
    refine ⟨rfl, fun hs => hs, fun key _ => ?_⟩
    rw [hreleased]
    simp only [hne, and_false, not_false_iff, and_true]

theorem delL3Addr_removes : Removes env a s (s.delL3Addr env a).2 := by
  unfold delL3Addr
  cases hlink : env.getLink a.ifindex with
  | none => exact Removes.skip fun link h => by rw [hlink] at h; cases h
  | some link =>
    obtain ⟨hmem, -⟩ := getLink_eq_some.mp hlink
    have hskip := fun h => @Removes.skip env s a (port_of_link hlink h)
    simp only
    split
    · next hc => exact hskip (port_of_not_switch hmem hc)
    by_cases hlo : link.isLoopback = true
    · have hlow : Removes env a s s := hskip (port_of_loopback hmem hlo)
      simp only [hlo, if_true]
      split
      · exact Becomes.call hlow fun _ => rfl
      · exact hlow
    · simp only [hlo, Bool.false_eq_true, if_false]
      -- What `nl_vlan` does comes after it.
      have hvlan : ∀ (rv : Int) (r : Int × TermMacs), Removes env a s r.2 → Removes env a s
          (if !env.isBridgeInterface link then (rv, r.2) else (r.1, r.2)).2 := fun rv r h => by
        split
        · exact h
        · exact h
      refine hvlan _ _ ?_
      by_cases hlen : a.loc.len = a.af.hostLen
      · rw [if_pos hlen]
        exact Becomes.of_call (Removes.termination hlink) fun _ => rfl
      · rw [if_neg hlen]
        exact Removes.termination hlink

end Frame

/-! ## Runs -/

/-- The link that is looked at besides has an address of the family; only in the VLAN of untagged
traffic is there one. -/
def OtherHas (link : RtnlLink) (af : Af) : Prop :=
  env.getVid link = env.portUntaggedVid ∧
    ∃ other, env.otherLink link = some other ∧ (s.getL3Addrs other.ifindex af).Nonempty

/-- A further link with the port, the VLAN and the MAC of a link has an address of the family. -/
def SharerHas (link : RtnlLink) (af : Af) : Prop :=
  ∃ l ∈ env.links, l ≠ link ∧ env.termKey l af = env.termKey link af ∧
    (s.getL3Addrs l.ifindex af).Nonempty

/-- The events that keep the entries exact: when a link of a port loses its last address of a
family, the link that is looked at besides has one just if some link that shares the entry has. -/
def Keeps (s : TermMacs) : AddrEv → Prop
  | .new _ => True
  | .del a =>
    let s' : TermMacs := { s with addrs := s.addrs.erase a }
    a ∈ s.addrs → ∀ link, env.getLink a.ifindex = some link → env.getPortId link ≠ 0 →
      s'.getL3Addrs link.ifindex a.af = ∅ →
        (OtherHas env s' link a.af ↔ SharerHas env s' link a.af)

section Step

variable {env : AddrEnv} {s : TermMacs} {a : IfAddr} {link : RtnlLink}

/-- A link without addresses of its own gives the entry up unless the other link has one. -/
theorem remainingAddrs_eq_empty_iff (af : Af) (h : s.getL3Addrs link.ifindex af = ∅) :
    s.remainingAddrs env link af = ∅ ↔ ¬ OtherHas env s link af := by
  unfold remainingAddrs OtherHas
  simp only [h, and_true]
  split
  · next hv =>
    cases env.otherLink link with
    | none => simp
    | some other => simp [hv, Finset.nonempty_iff_ne_empty]
  · next hv => simp [hv]

/-- The entry of a link is used by the link or by another one. -/
theorem inUse_termKey_iff (hmem : link ∈ env.links) (af : Af) :
    InUse env.keyOf s.addrs (env.termKey link af) ↔
      (s.getL3Addrs link.ifindex af).Nonempty ∨ SharerHas env s link af := by
  rw [inUse_iff]
  constructor
  · rintro ⟨l, hl, hkey, hne⟩
    by_cases hll : l = link
    · exact .inl (hll ▸ hne)
    · exact .inr ⟨l, hl, hll, hkey, hne⟩
  · rintro (hne | ⟨l, hl, -, hkey, hne⟩)
    · exact ⟨link, hmem, rfl, hne⟩
    · exact ⟨l, hl, hkey, hne⟩

/-- An entry is given up rightly if the other link has an address just if a sharer has. -/
theorem released_iff (hlink : env.getLink a.ifindex = some link) :
    (Released env s a ↔ ¬ InUse env.keyOf s.addrs (env.termKey link a.af)) ↔
      (s.getL3Addrs link.ifindex a.af = ∅ →
        (OtherHas env s link a.af ↔ SharerHas env s link a.af)) := by
  obtain ⟨hmem, -⟩ := getLink_eq_some.mp hlink
  rw [released_of_getLink hlink, inUse_termKey_iff hmem]
  by_cases hown : s.getL3Addrs link.ifindex a.af = ∅
  · simp only [remainingAddrs_eq_empty_iff _ hown, hown, Finset.not_nonempty_empty, false_or,
      true_imp_iff]
    exact not_iff_not
  · have hremaining : s.remainingAddrs env link a.af = s.getL3Addrs link.ifindex a.af := by
      unfold remainingAddrs
      simp only [hown, and_false, if_false]
    simp only [hremaining, hown, Finset.nonempty_iff_ne_empty.mpr hown, true_or, not_true,
      false_imp_iff]

theorem step_exact (e : AddrEv) (h : s.onSwitch = s.terminationMacEntries) (he : Exact env s) :
    (step env s e).onSwitch = (step env s e).terminationMacEntries ∧
      (Exact env (step env s e) ↔ Keeps env s e) := by
  have ht := (exact_iff h).mp he
  cases e with
  | new a =>
    have hadds : Adds env a { s with addrs := insert a s.addrs } (step env s (.new a)) := by
      simp only [step]
      cases haf : a.af with
      | inet => exact addL3Addr_adds haf
      | inet6 => exact addL3AddrV6_adds haf
    have hswitch := hadds.onSwitch h
    refine ⟨hswitch, iff_of_true ((exact_iff hswitch).mpr ?_) trivial⟩
    rw [hadds.addrs]
    exact ht.add hadds.entries
  | del a =>
    simp only [step, Keeps]
    by_cases ha : a ∈ s.addrs
    · rw [if_pos ha]
      have hremoves := @delL3Addr_removes env { s with addrs := s.addrs.erase a } a
      have hswitch := hremoves.onSwitch h
      refine ⟨hswitch, (exact_iff hswitch).trans ?_⟩
      rw [hremoves.addrs, ht.remove_iff ha hremoves.entries]
      constructor
      · intro hall _ link hlink hp
        exact (released_iff hlink).mp (hall _ hp (keyOf_eq hlink))
      · intro hkeeps key hp hkey
        obtain ⟨link, hlink, rfl⟩ := Option.map_eq_some_iff.mp hkey
        exact (released_iff hlink).mpr (hkeeps ha link hlink hp)
    · rw [if_neg ha]
      exact ⟨h, iff_of_true he fun hmem => absurd hmem ha⟩

end Step

/-- **Termination MACs.** In every state of a run the entries of ports are exactly those that some
link with their port, VLAN and MAC has an address for, exactly if every event of the run keeps it
so. -/
theorem termMacsExact_iff_along (es : List AddrEv) :
    (∀ n, Exact env (run (step env) {} (es.take n))) ↔ Along (step env) (Keeps env) {} es := by
  refine along_iff_of_inv (I := fun s : TermMacs => s.onSwitch = s.terminationMacEntries) rfl ?_
    (fun s e h he => (step_exact e h he).1) (fun s e h he => (step_exact e h he).2) es
  exact (exact_iff rfl).mpr fun key _ => iff_of_false (Finset.notMem_empty key) fun ⟨_, ha, _⟩ => by
    cases ha

/-! ### Untagged traffic in VLAN 1 -/

/-- Untagged traffic is in VLAN 1, every port is that of one link, there is one VLAN interface for a
VLAN above a link, and it has the MAC of the link below. -/
structure Inherited (env : AddrEnv) : Prop where
  untagged : env.portUntaggedVid = 1
  ports : ∀ i j, env.portIdOf i ≠ 0 → env.portIdOf i = env.portIdOf j → i = j
  vlans : ∀ l ∈ env.links, ∀ l' ∈ env.links, l.vlan.isSome → l.vlan = l'.vlan → l = l'
  addrs : ∀ l ∈ env.links, ∀ below ∈ env.links, below.ifindex = l.base → l.addr = below.addr

section Inherited

variable {env : AddrEnv} {link l : RtnlLink}

theorem getVid_of_port (hmem : link ∈ env.links) (hp : env.getPortId link ≠ 0) :
    env.getVid link = (link.vlan.map (·.vlanId)).getD env.portUntaggedVid := by
  unfold AddrEnv.getVid
  simp only [hp, decide_false, Bool.and_false, Bool.false_eq_true, if_false,
    (env.ports link hmem hp).2.1]
  cases link.vlan <;> rfl

theorem eq_of_ifindex (hl : l ∈ env.links) (hmem : link ∈ env.links)
    (h : l.ifindex = link.ifindex) : l = link :=
  List.inj_on_of_nodup_map env.distinct hl hmem h

/-- The link below a link is no VLAN interface. -/
theorem vlan_eq_none_of_base (hmem : link ∈ env.links) (hp : env.getPortId link ≠ 0)
    (hl : l ∈ env.links) (h : l.ifindex = link.base) : l.vlan = none := by
  obtain ⟨-, -, below, hbelow, hidx, hvlan⟩ := env.ports link hmem hp
  rw [eq_of_ifindex hl hbelow (h.trans hidx.symm), hvlan]

/-- Two links of a port share an entry if they are above the same link, in the same VLAN. -/
theorem termKey_eq_iff (h : Inherited env) (hmem : link ∈ env.links)
    (hp : env.getPortId link ≠ 0) (hl : l ∈ env.links) (af : Af) :
    env.termKey l af = env.termKey link af ↔
      l.base = link.base ∧ env.getVid l = env.getVid link := by
  simp only [AddrEnv.termKey, TermKey.mk.injEq, and_true]
  constructor
  · rintro ⟨hport, hvid, -⟩
    exact ⟨(h.ports _ _ hp hport.symm).symm, hvid⟩
  · rintro ⟨hbase, hvid⟩
    obtain ⟨-, -, below, hbelow, hidx, -⟩ := env.ports link hmem hp
    refine ⟨by rw [AddrEnv.getPortId, hbase]; rfl, hvid, ?_⟩
    rw [h.addrs l hl below hbelow (hidx.trans hbase.symm), h.addrs link hmem below hbelow hidx]

theorem base_of_none (hv : link.vlan = none) : link.base = link.ifindex := by
  simp [RtnlLink.base, hv]

theorem base_of_some {v : VlanInfo} (hv : link.vlan = some v) : link.base = v.link := by
  simp [RtnlLink.base, hv]

/-- The link that is looked at is above the same link, and in the VLAN of untagged traffic. -/
theorem base_of_otherLink (h : Inherited env) (hmem : link ∈ env.links)
    (hp : env.getPortId link ≠ 0) (hother : env.otherLink link = some l) :
    l ∈ env.links ∧ l.base = link.base ∧ l.vlan ≠ link.vlan ∧
      (l.vlan.map (·.vlanId)).getD env.portUntaggedVid = env.portUntaggedVid := by
  unfold AddrEnv.otherLink at hother
  cases hv : link.vlan with
  | none =>
    rw [hv] at hother
    have hlv : l.vlan = some ⟨link.ifindex, 1⟩ := by simpa using List.find?_some hother
    refine ⟨List.mem_of_find?_eq_some hother, ?_, by simp [hlv], by simp [hlv, h.untagged]⟩
    rw [base_of_some hlv, base_of_none hv]
  | some v =>
    rw [hv] at hother
    obtain ⟨hl, hidx⟩ := getLink_eq_some.mp hother
    have hbase := hidx.trans (base_of_some hv).symm
    have hlv := vlan_eq_none_of_base hmem hp hl hbase
    exact ⟨hl, (base_of_none hlv).trans hbase, by simp [hlv], by simp [hlv]⟩

/-- There is no further link above the same link and in the same VLAN. -/
theorem otherLink_of_base (h : Inherited env) (hmem : link ∈ env.links) (hl : l ∈ env.links)
    (hne : l ≠ link) (hbase : l.base = link.base)
    (hvids : (l.vlan.map (·.vlanId)).getD env.portUntaggedVid =
      (link.vlan.map (·.vlanId)).getD env.portUntaggedVid) :
    (link.vlan.map (·.vlanId)).getD env.portUntaggedVid = env.portUntaggedVid ∧
      env.otherLink link = some l := by
  unfold AddrEnv.otherLink
  cases hv : link.vlan with
  | none =>
    rw [hv] at hvids
    cases hlv : l.vlan with
    | none =>
      rw [base_of_none hlv, base_of_none hv] at hbase
      exact absurd (eq_of_ifindex hl hmem hbase) hne
    | some w =>
      rw [hlv, h.untagged] at hvids
      rw [base_of_some hlv, base_of_none hv] at hbase
      have hw : w = ⟨link.ifindex, 1⟩ := by
        cases w
        simp_all
      obtain ⟨l', hl'⟩ : ∃ l', env.getVlanLink link.ifindex 1 = some l' :=
        Option.isSome_iff_exists.mp (List.find?_isSome.mpr ⟨l, hl, by simp [hlv, hw]⟩)
      have hlv' : l'.vlan = some ⟨link.ifindex, 1⟩ := by simpa using List.find?_some hl'
      refine ⟨rfl, hl'.trans (congrArg some ?_)⟩
      exact h.vlans l' (List.mem_of_find?_eq_some hl') l hl (by simp [hlv'])
        (by rw [hlv', hlv, hw])
  | some v =>
    rw [hv] at hvids
    cases hlv : l.vlan with
    | none =>
      rw [hlv] at hvids
      rw [base_of_none hlv, base_of_some hv] at hbase
      exact ⟨hvids.symm, getLink_eq_some.mpr ⟨hl, hbase⟩⟩
    | some w =>
      rw [hlv] at hvids
      rw [base_of_some hlv, base_of_some hv] at hbase
      have hwv : l.vlan = link.vlan := by
        rw [hlv, hv]
        cases w
        cases v
        simp_all
      exact absurd (h.vlans l hl link hmem (by simp [hlv]) hwv) hne

/-- The link that is looked at is the one that shares the entry. -/
theorem otherLink_eq_some_iff (h : Inherited env) (hmem : link ∈ env.links)
    (hp : env.getPortId link ≠ 0) (af : Af) :
    env.getVid link = env.portUntaggedVid ∧ env.otherLink link = some l ↔
      l ∈ env.links ∧ l ≠ link ∧ env.termKey l af = env.termKey link af := by
  have hvid := getVid_of_port hmem hp
  have hport : l.base = link.base → env.getPortId l ≠ 0 := fun hbase => by
    rw [AddrEnv.getPortId, hbase]
    exact hp
  constructor
  · rintro ⟨huntagged, hother⟩
    obtain ⟨hl, hbase, hne, hlvid⟩ := base_of_otherLink h hmem hp hother
    refine ⟨hl, fun hll => hne (by rw [hll]), (termKey_eq_iff h hmem hp hl af).mpr ⟨hbase, ?_⟩⟩
    rw [getVid_of_port hl (hport hbase), hlvid, huntagged]
  · rintro ⟨hl, hne, hkey⟩
    obtain ⟨hbase, hvids⟩ := (termKey_eq_iff h hmem hp hl af).mp hkey
    rw [getVid_of_port hl (hport hbase), hvid] at hvids
    rw [hvid]
    exact otherLink_of_base h hmem hl hne hbase hvids

/-- Then the entries are exact in every state of every run. -/
theorem exact_of_inherited (h : Inherited env) (es : List AddrEv) :
    Exact env (run (step env) {} es) := by
  have hkeeps : Along (step env) (Keeps env) {} es := by
    refine along_iff_split.mpr fun es₁ e es₂ _ => ?_
    cases e with
    | new a => trivial
    | del a =>
      intro _ link hlink hp _
      obtain ⟨hmem, -⟩ := getLink_eq_some.mp hlink
      unfold OtherHas SharerHas
      simp only [← exists_and_left, ← and_assoc, otherLink_eq_some_iff h hmem hp a.af]
  simpa using (termMacsExact_iff_along env es).mpr hkeeps es.length

end Inherited

/-- A port, and the VLAN interface for the VLAN of untagged traffic above it. -/
def portAndVlan (vid : Nat) : AddrEnv where
  links := [{ ifindex := 1, addr := 5 }, { ifindex := 2, addr := 5, vlan := some ⟨1, vid⟩ }]
  portIdOf i := if i = 1 then 1 else 0
  portUntaggedVid := vid
  distinct := by simp
  ports := by simp [RtnlLink.base]

example : Inherited (portAndVlan 1) where
  untagged := rfl
  ports i j hi hij := by
    simp only [portAndVlan] at hi hij
    split at hi <;> simp_all
  vlans := by decide
  addrs := by decide

/-- The address `10.0.0.n/24` of a link. -/
def addr24 (ifindex : Int) (n : BitVec 32) : IfAddr where
  ifindex := ifindex
  loc := { addr := .inet (0x0a000000 + n), len := 24 }
  prefixlen := 24

/-- Untagged traffic is in VLAN 2; port and VLAN interface have an address, and that of the port
goes. No VLAN interface for VLAN 1 is found, and the VLAN interface loses its termination MAC. -/
theorem untaggedTwo_not_exact : ¬ Exact (portAndVlan 2) (run (step (portAndVlan 2)) {}
    [.new (addr24 1 1), .new (addr24 2 2), .del (addr24 1 1)]) := by
  intro h
  have hin := (h.entries ⟨1, 2, 5, .inet⟩ (by decide)).mpr (by decide)
  revert hin
  decide

end TermMacs

end Basebox
