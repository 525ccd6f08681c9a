import Basebox.Netlink.BridgeVlans
import Basebox.Netlink.TermMacs
import Basebox.Netlink.Vxlan
import Basebox.OfDpa.Bridging

/-!
# The forwarding database of the bridge (`nl_bridge.cc`, `cnetlink.cc`)

The kernel reports the addresses that it learns on the ports of the bridge. An address that is not
permanent is taken over: it gets a flow on the switch, the kernel is told that it is learned
elsewhere (`NTF_EXT_LEARNED`), so that it does not age, and `l2_cache` has its port.

* `Fdb`: `l2_cache`, the flows, the access ports of the overlay and the requests to the kernel.
* `addNeighToFdb`, `removeNeighFromFdb`, `fdbTimeout`, `setAgeingTime`: the functions of
  `nl_bridge`. `neighLlCreated`, `neighLlUpdated`, `neighLlDeleted`: those of `cnetlink`.
* `ageingSeconds`: the idle timeout for an ageing time. `ageingSeconds_spec`: it is rounded, at most
  65535 s, and `0` (never) only for `0`; within half a second below `2 ^ 32` it is 1 s.

What the addresses on a VXLAN interface do to the endpoints and the tenants is in `Vxlan`; here they
have their flows. The links and the ports are those of one moment (`FdbEnv`).
-/

namespace Basebox

/-- A confirmed entry. -/
def NUD_REACHABLE : Nat := 0x02
/-- No resolution is needed. -/
def NUD_NOARP : Nat := 0x40
/-- The entry does not age. -/
def NUD_PERMANENT : Nat := 0x80
/-- The entry of the bridge the port is in. -/
def NTF_MASTER : Nat := 0x04
/-- The entry was learned outside the kernel. -/
def NTF_EXT_LEARNED : Nat := 0x10
/-- The address is not let in on this port. -/
def NTF_EXT_LOCKED : Nat := 0x02

/-- A neighbour of the family `AF_BRIDGE`. -/
structure RtnlNeigh where
  ifindex : Int
  master : Int
  /-- The remote, for an address on a VXLAN interface. -/
  dst : Option Addr := none
  /-- `rtnl_neigh_get_vlan`, which is -1 if it is not set. -/
  vlan : Option Nat
  lladdr : Mac
  state : Nat := NUD_REACHABLE
  flags : Nat := 0
  extFlags : Option Nat := none
  deriving DecidableEq

namespace RtnlNeigh

/-- The entry does not age. -/
def permanent (n : RtnlNeigh) : Bool := n.state &&& (NUD_NOARP ||| NUD_PERMANENT) != 0

/-- The entry was learned outside the kernel. -/
def extLearned (n : RtnlNeigh) : Bool := n.flags &&& NTF_EXT_LEARNED == NTF_EXT_LEARNED

/-- The address is locked. -/
def locked (n : RtnlNeigh) : Bool := n.extFlags.any fun f => f &&& NTF_EXT_LOCKED != 0

end RtnlNeigh

/-- What is read outside the FDB. -/
structure FdbEnv where
  /-- The ifindex and the address of the bridge. -/
  bridge : Int
  bridgeAddr : Mac
  /-- `get_link(ifindex, AF_UNSPEC)`. -/
  getLink : Int → Option RtnlLink
  /-- The link is a VXLAN interface. -/
  isVxlan : Int → Bool := fun _ => false
  /-- The master of `get_link(ifindex, AF_BRIDGE)`, if there is one. -/
  brLink : Int → Option Int
  /-- `get_port_id(ifindex)`: the port of a port or a bond, else 0. -/
  portIdOf : Int → Nat
  /-- `port_man->get_ifindex`. -/
  ifindexOf : Nat → Int
  /-- An id is a `uint32_t`. -/
  portIdOf_lt : ∀ ifindex, portIdOf ifindex < 2 ^ 32

/-- `get_port_id(get_link(ifindex, AF_UNSPEC))`. -/
def FdbEnv.portOf (env : FdbEnv) (ifindex : Int) : Nat :=
  match env.getLink ifindex with
  | none => 0
  | some link => env.portIdOf link.base

theorem FdbEnv.portOf_lt (env : FdbEnv) (ifindex : Int) : env.portOf ifindex < 2 ^ 32 := by
  unfold FdbEnv.portOf
  cases env.getLink ifindex with
  | none => exact Nat.two_pow_pos 32
  | some link => exact env.portIdOf_lt _

/-- A VXLAN interface, and what `nl_vxlan` has in its tables for a neighbour on it. -/
structure VxlanFinds where
  link : VxlanLink
  /-- `get_tunnel_id`. -/
  tunnelId : Option Nat := none
  /-- The port of `lookup_endpoint`. -/
  lportId : Option Nat := none
  /-- What becomes of a new endpoint: the result, its port, and the addresses that are known at the
  remote by then. -/
  endpointRv : Int := 0
  endpointPort : Nat := 0
  endpointNeighs : List RtnlNeigh := []

/-- The requests to the kernel. -/
inductive NeighRequest where
  /-- `RTM_NEWNEIGH` with `NLM_F_REPLACE`, for an entry with `NTF_EXT_LEARNED`. -/
  | add (ifindex : Int) (a : L2Addr)
  /-- `RTM_DELNEIGH`. -/
  | delete (ifindex : Int) (a : L2Addr)
  deriving DecidableEq

/-- `l2_cache` of `nl_bridge`, the flows, `access_port_ids` of `nl_vxlan`, and the requests that
were sent. -/
structure Fdb where
  /-- The ifindex of an entry. libnl finds the entries of a bridge by VLAN and address. -/
  l2Cache : Table L2Addr Int := ∅
  bridging : L2Flows := {}
  accessPortIds : Table (Nat × Nat) AccessTunnelPort := ∅
  requests : List NeighRequest := []

/-- The idle timeout in seconds for an ageing time in hundredths, both a `uint32_t`. -/
def ageingSeconds (ageingTime : Nat) : Nat :=
  let newAgeingTime := u32 (ageingTime + 50) / 100
  let newAgeingTime := if 2 ^ 16 - 1 < newAgeingTime then 2 ^ 16 - 1 else newAgeingTime
  if 0 < ageingTime ∧ newAgeingTime = 0 then 1 else newAgeingTime

theorem ageingSeconds_spec {t : Nat} (ht : t < 2 ^ 32) :
    (ageingSeconds t = 0 ↔ t = 0) ∧
      ageingSeconds t =
        if t + 50 < 2 ^ 32 then
          if t = 0 then 0 else max 1 (min (2 ^ 16 - 1) ((t + 50) / 100))
        else 1 := by
  unfold ageingSeconds u32
  by_cases hw : t + 50 < 2 ^ 32
  · rw [Nat.mod_eq_of_lt hw]
    grind
  · have hm : (t + 50) % 2 ^ 32 < 50 := by omega
    have hz : (t + 50) % 2 ^ 32 / 100 = 0 := by omega
    rw [hz]
    grind

namespace Fdb

variable (env : FdbEnv) (drv : BridgingDriver) (fm : FmDriver) (sends : NeighRequest → Bool)

/-! ## `nl_bridge` -/

/-- `l2_cache` and the flows when the address `a` comes to a port: the end of `add_neigh_to_fdb`. -/
def takeOver (s : Fdb) (ifindex : Int) (port : Nat) (a : L2Addr) (permanent update : Bool) : Fdb :=
  let s := { s with
    l2Cache := s.l2Cache.erase a
    bridging := s.bridging.l2AddrAdd drv fm port a.1 a.2 permanent update }
  if permanent then s
  -- take over dynamic entries from kernel
  else if sends (.add ifindex a) then
    { s with
      requests := s.requests ++ [.add ifindex a]
      l2Cache := s.l2Cache.insert a ifindex }
  else s

/-- `add_neigh_to_fdb`. -/
def addNeighToFdb (s : Fdb) (neigh : RtnlNeigh) (update : Bool) : Fdb :=
  let port := env.portOf neigh.ifindex
  if port = 0 then s
  else
    match neigh.vlan with
    | none => s
    | some vid =>
      if s.l2Cache.lookup (vid, neigh.lladdr) = some neigh.ifindex then s
      else
        s.takeOver drv fm sends neigh.ifindex port (vid, neigh.lladdr) neigh.permanent update

/-- `remove_neigh_from_fdb`. -/
def removeNeighFromFdb (s : Fdb) (neigh : RtnlNeigh) : Fdb :=
  match neigh.vlan with
  | none => s
  | some vid =>
    -- ignore ll addr of bridge on slave
    if env.bridgeAddr = neigh.lladdr then s
    -- if we flushed the entry, we already removed it from cache and flows
    else if neigh.extLearned ∧ (vid, neigh.lladdr) ∉ s.l2Cache then s
    else
      { s with
        l2Cache := if neigh.extLearned then s.l2Cache.erase (vid, neigh.lladdr) else s.l2Cache
        bridging := s.bridging.l2AddrRemove drv (env.portOf neigh.ifindex) vid neigh.lladdr }

/-- `fdb_timeout`, with the lookup of the port before it in `handle_fdb_timeout`. -/
def fdbTimeout (s : Fdb) (portId : Nat) (a : L2Addr) : Fdb :=
  let ifindex := env.ifindexOf portId
  if env.brLink ifindex = some env.bridge ∧ s.l2Cache.lookup a = some ifindex then
    if sends (.delete ifindex a) then
      { s with requests := s.requests ++ [.delete ifindex a], l2Cache := s.l2Cache.erase a }
    else s
  else s

/-- The flags of the entries of `l2_cache`. -/
def cacheFlags : Nat := NTF_MASTER ||| NTF_EXT_LEARNED

/-- The entries that `set_ageing_time` updates. It means to skip the permanent ones, by a test of
the flags for bits of the state. -/
def tracked (s : Fdb) : List (Sigma fun _ : L2Addr => Int) :=
  s.l2Cache.entries.filter fun _ => cacheFlags &&& (NUD_NOARP ||| NUD_PERMANENT) == 0

/-- The update of one entry. The port is that of the ifindex, also for a VLAN interface. -/
def refresh (s : L2Flows) (e : Sigma fun _ : L2Addr => Int) : L2Flows :=
  s.l2AddrAdd drv fm (env.portIdOf e.2) e.1.1 e.1.2 false true

/-- `set_ageing_time`. -/
def setAgeingTime (s : Fdb) (ageingTime : Nat) : Fdb :=
  { s with
    bridging := s.tracked.foldl (refresh env drv fm)
      (s.bridging.l2SetIdleTimeout (ageingSeconds ageingTime)) }

/-- The part of `update_vlans` about addresses, for a port that leaves a VLAN. `master` is what the
cache has as the master of the link by then. -/
def leaveVlan (s : Fdb) (ifindex master : Int) (vid : Nat) : Fdb :=
  let pportNo := env.portOf ifindex
  if pportNo = 0 then s
  else
    { s with
      -- delete all cache entries first; they all have the bridge as their master
      l2Cache := s.l2Cache.filterMap fun a i =>
        if i = ifindex ∧ master = env.bridge ∧ a.1 = vid then none else some i
      -- then delete all FM pointing to this group
      bridging := s.bridging.l2AddrRemoveAllInVlan drv pportNo vid }

/-! ## The overlay -/

/-- `get_access_tunnel_port`. -/
def getAccessTunnelPort (s : Fdb) (pport vid : Nat) : AccessTunnelPort :=
  (s.accessPortIds.lookup (pport, vid)).getD { lportId := 0, tunnelId := 0 }

/-- `add_l2_neigh(neigh, lport, tunnel_id)` of `nl_vxlan`. -/
def addL2NeighPort (s : Fdb) (neigh : RtnlNeigh) (lport tunnelId : Nat) : Int × Fdb :=
  if lport = 0 ∨ tunnelId = 0 then (-EINVAL, s)
  else
    (0, { s with bridging :=
      s.bridging.l2OverlayAddrAdd drv lport tunnelId neigh.lladdr neigh.permanent })

/-- `add_l2_neigh(neigh, link, br_link)` on a link that is no VXLAN interface. The VLAN is a
`uint16_t`. -/
def addL2NeighAccess (s : Fdb) (neigh : RtnlNeigh) : Int × Fdb :=
  -- (silently) ignoring interface address of link
  if (env.getLink neigh.ifindex).any fun link => link.addr = neigh.lladdr then (0, s)
  else
    let pport := env.portIdOf neigh.ifindex
    if pport = 0 then (-EINVAL, s)
    else
      let port := s.getAccessTunnelPort pport (neigh.vlan.getD (2 ^ 16 - 1))
      s.addL2NeighPort drv neigh port.lportId port.tunnelId

/-- The same on a VXLAN interface. The ports that become access ports with the first endpoint are
calls of their own (`createAccessPort`). -/
def addL2NeighVxlan (vx : VxlanFinds) (s : Fdb) (neigh : RtnlNeigh) : Int × Fdb :=
  if neigh.lladdr = vx.link.mac then (0, s)
  else if vx.link.localAddr = none ∨ neigh.dst = none then (-EINVAL, s)
  else if neigh.lladdr = 0 ∧ vx.link.group = neigh.dst then (0, s)
  else
    match vx.tunnelId with
    | none => (-EINVAL, s)
    | some tunnelId =>
      if neigh.lladdr = 0 then
        (vx.endpointRv, vx.endpointNeighs.foldl
          (fun s n => (s.addL2NeighPort drv n vx.endpointPort tunnelId).2) s)
      else
        match vx.lportId with
        | none => (-EINVAL, s)
        | some lport => s.addL2NeighPort drv neigh lport tunnelId

/-- `delete_l2_neigh(neigh, link, br_link)` on a VXLAN interface, which has a UDP port: the flow of an
address goes, the end of an endpoint takes none. -/
def deleteL2NeighVxlan (vx : VxlanFinds) (s : Fdb) (neigh : RtnlNeigh) : Fdb :=
  if !vx.link.localAddr.any Addr.isInet || neigh.dst = none || neigh.lladdr = 0 then s
  else
    match vx.tunnelId with
    | none => s
    | some tunnelId =>
      if tunnelId = 0 then s
      else { s with bridging := s.bridging.l2OverlayAddrRemove drv tunnelId 0 neigh.lladdr }

/-- A port comes to a VLAN that is a VXLAN domain (`update_vlans`): it becomes an access port, and
its addresses stay. -/
def joinDomain (s : Fdb) (ifindex : Int) (vid : Nat) (port : AccessTunnelPort) : Fdb :=
  let pportNo := env.portOf ifindex
  if pportNo = 0 then s
  else { s with accessPortIds := s.accessPortIds.emplace (pportNo, vid) port }

/-- The part of `update_access_ports` about addresses, for a bridge port that becomes an access
port. `port` is what `create_access_port` made, `neighs` are the addresses on the port in the
VLAN. -/
def createAccessPort (s : Fdb) (ifindex : Int) (vid : Nat) (port : Option AccessTunnelPort)
    (neighs : List RtnlNeigh) : Fdb :=
  let pportNo := env.portIdOf ifindex
  if pportNo = 0 then s
  else
    let s := { s with bridging := s.bridging.l2AddrRemoveAllInVlan drv pportNo vid }
    let s :=
      match port with
      | none => s
      | some port => { s with accessPortIds := s.accessPortIds.emplace (pportNo, vid) port }
    (neighs.filter fun n => env.bridgeAddr ≠ n.lladdr).foldl
      (fun s n => (s.addL2NeighAccess env drv n).2) s

/-- The same for an access port that becomes a bridge port again. -/
def deleteAccessPort (s : Fdb) (ifindex : Int) (vid : Nat) (neighs : List RtnlNeigh) : Fdb :=
  let pportNo := env.portIdOf ifindex
  if pportNo = 0 then s
  else
    let s :=
      match s.accessPortIds.lookup (pportNo, vid) with
      | none => s
      | some tp =>
        { s with
          bridging := s.bridging.l2OverlayAddrRemove drv tp.tunnelId tp.lportId (BitVec.allOnes 48)
          accessPortIds := s.accessPortIds.erase (pportNo, vid) }
    (neighs.filter fun n => env.bridgeAddr ≠ n.lladdr).foldl
      (fun s n => s.addNeighToFdb env drv fm sends n false) s

/-! ## `cnetlink` -/

/-- `check_ll_neigh`, with a bridge. -/
def checkLlNeigh (neigh : RtnlNeigh) : Bool :=
  neigh.master = env.bridge && neigh.ifindex ≠ 0 &&
    (env.getLink neigh.ifindex).any fun link => link.addr ≠ neigh.lladdr && !neigh.locked

/-- `neigh_ll_created`. `vx` is the VXLAN interface, if the neighbour is on one. -/
def neighLlCreated (vx : VxlanFinds) (s : Fdb) (neigh : RtnlNeigh) : Fdb :=
  if !checkLlNeigh env neigh then s
  else
    let (rv, s) :=
      if env.isVxlan neigh.ifindex then s.addL2NeighVxlan drv vx neigh
      else s.addL2NeighAccess env drv neigh
    if rv = 0 then s else s.addNeighToFdb env drv fm sends neigh false

/-- `neigh_ll_deleted`. The addresses on an access port are not told from those on others. -/
def neighLlDeleted (vx : VxlanFinds) (s : Fdb) (neigh : RtnlNeigh) : Fdb :=
  if !checkLlNeigh env neigh then s
  else if env.isVxlan neigh.ifindex then s.deleteL2NeighVxlan drv vx neigh
  else s.removeNeighFromFdb env drv neigh

/-- `neigh_ll_updated`. -/
def neighLlUpdated (vx : VxlanFinds) (s : Fdb) (oldNeigh newNeigh : RtnlNeigh) : Fdb :=
  if !checkLlNeigh env oldNeigh && !checkLlNeigh env newNeigh then s
  else if !checkLlNeigh env oldNeigh then s.neighLlCreated env drv fm sends vx newNeigh
  else if !checkLlNeigh env newNeigh then s.neighLlDeleted env drv vx oldNeigh
  else if env.isVxlan oldNeigh.ifindex || env.isVxlan newNeigh.ifindex then s
  else s.addNeighToFdb env drv fm sends newNeigh true

end Fdb

end Basebox
