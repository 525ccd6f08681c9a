import Basebox.Lib.MultiMap
import Basebox.Lib.Run
import Basebox.Lib.Table
import Basebox.OfDpa.Switch

/-!
# VXLAN endpoints and tunnel next hops (`src/netlink/nl_vxlan.cc`)

An endpoint is a tunnel port to a remote, shared by all VXLAN links with the same local and remote
address and UDP port. It counts its references, in total and for each VNI. What the handlers read
from the kernel when an event is processed (routes, neighbours, links) is the argument `Kernel`;
the calls of the switch succeed and are logged in `calls`.

The handlers are those of VXLAN links. Access ports and their map are left out, but for the port
ids they use up.
-/

namespace Basebox

/-- An `nl_addr` of a next hop, a local or a remote. -/
inductive Addr where
  | inet (a : BitVec 32)
  | inet6 (a : BitVec 128)
  deriving DecidableEq

/-- The address is an IPv4 address. -/
def Addr.isInet : Addr → Bool
  | .inet _ => true
  | .inet6 _ => false

/-- The first four bytes of the address, as `memcpy` and `ntohl` give them. -/
def Addr.ipv4 : Addr → Nat
  | .inet a => a.toNat
  | .inet6 a => (a >>> 96).toNat

/-- An address on a link. -/
structure NetParams where
  addr : Addr
  ifindex : Int
  deriving DecidableEq

/-- A next hop, by its address and link. -/
structure NhStub where
  nh : Addr
  ifindex : Int
  nhid : Nat := 0
  deriving DecidableEq

/-- An address and the next hop it is waiting for. -/
structure NhParams where
  np : NetParams
  nh : NhStub
  deriving DecidableEq

/-- Who gets the notification of a callback. -/
inductive Receiver where
  | vxlan
  | l3
  deriving DecidableEq

/-! ## What is read from the kernel -/

/-- A VXLAN link, as libnl has it. -/
structure VxlanLink where
  ifindex : Int
  isVxlan : Bool := true
  vni : Nat
  group : Option Addr
  localAddr : Option Addr
  port : Option Nat
  mac : Mac
  deriving DecidableEq

/-- What the code reads of a next hop. -/
structure NextHop where
  ifindex : Int
  gateway : Option Addr
  via : Option Addr
  deriving DecidableEq

/-- The interface a tunnel next hop goes out of. -/
structure LocalLink where
  portId : Nat
  addr : Option Mac

/-- What the code asks the kernel for. -/
structure Kernel where
  /-- The next hops of the route that `nl_route_query::query_route` finds. -/
  queryRoute : Addr → Option (List NextHop)
  /-- There is a link with this index, and it is an interface of the switch. -/
  isSwitchInterface : Int → Bool
  /-- The neighbour cache: a neighbour with its link-layer address. -/
  getNeighbour : Int → Addr → Option (Option Mac)
  linkByIfindex : Int → Option LocalLink
  /-- `get_link(ifindex, AF_UNSPEC)`. -/
  vxlanLink : Int → Option VxlanLink
  ifindex_vxlanLink : ∀ {ifindex link}, vxlanLink ifindex = some link → link.ifindex = ifindex
  /-- `get_link(ifindex, AF_BRIDGE)` is there and floods. -/
  isPortFlooding : Int → Bool
  /-- The MACs in the neighbour cache on a VXLAN link with a remote. -/
  fdb : Int → Addr → List Mac
  portUntaggedVid : Nat

/-! ## The state -/

/-- The key of an endpoint port. -/
structure EndpointPort where
  localIpv4 : Nat
  remoteIpv4 : Nat
  initiatorUdpDstPort : Nat
  deriving DecidableEq

/-- An endpoint port that has been created. -/
structure EndpointTunnelPort where
  /-- An `int`, taken as unbounded. -/
  refcnt : Int
  lportId : Nat
  nhId : Nat
  /-- `std::map<uint32_t, unsigned>`: counts modulo `2 ^ 32`. -/
  refcntVni : Table Nat Nat

/-- `refcnt_vni[vni]`. -/
def EndpointTunnelPort.vniCount (x : EndpointTunnelPort) (vni : Nat) : Nat :=
  (x.refcntVni.lookup vni).getD 0

/-- The key of a tunnel next hop. -/
structure TunnelNh where
  smac : Mac
  dmac : Mac
  pport : Nat
  vid : Nat
  deriving DecidableEq

/-- A tunnel next hop that has been created. -/
structure TunnelNhPort where
  refcnt : Int
  nhId : Nat

/-- `endpoint_id`, with an account of it that is not part of the program: how many references each
VNI took of an endpoint and has not released. -/
structure Endpoints where
  endpointId : MultiMap EndpointPort EndpointTunnelPort := []
  held : EndpointPort → Nat → Nat := fun _ _ => 0

/-- Calls of the switch. -/
inductive SwCall where
  | tunnelTenantCreate (tunnelId vni : Nat)
  | tunnelTenantDelete (tunnelId : Nat)
  | overlayTunnelAdd (tunnelId : Nat)
  | overlayTunnelRemove (tunnelId : Nat)
  | tunnelNextHopCreate (nhId : Nat) (tnh : TunnelNh)
  | tunnelNextHopDelete (nhId : Nat)
  | tunnelEndpointCreate (lportId : Nat) (ep : EndpointPort) (nhId : Nat)
  | tunnelPortTenantAdd (lportId tunnelId : Nat)
  | tunnelPortTenantRemove (lportId tunnelId : Nat)
  | tunnelPortDelete (lportId : Nat)
  | addL2OverlayFlood (tunnelId lportId : Nat)
  | delL2OverlayFlood (tunnelId lportId : Nat)
  | l2OverlayAddrAdd (lportId tunnelId : Nat) (mac : Mac)
  | l2OverlayAddrRemove (tunnelId lportId : Nat) (mac : Mac)
  | egressBridgePortVlanRemove (pportNo vid : Nat)
  | ingressPortVlanRemove (pportNo vid : Nat) (untagged : Bool)
  | tunnelAccessPortCreate (portId pportNo vid : Nat) (untagged : Bool)

/-- The state of `nl_vxlan`. -/
structure Vxlan where
  endpoints : Endpoints := {}
  tunnelNextHopId : MultiMap TunnelNh TunnelNhPort := []
  tunnelNextHop2tnh : Table Nat TunnelNh := ∅
  vni2tunnel : Table Nat Nat := ∅
  nextHopIdCnt : Nat := 1
  portIdCnt : Nat := 1 <<< 16 ||| 1
  tunnelIdCnt : Nat := 10
  /-- The lists of `nl_l3` that the handlers append to. -/
  netCallbacks : List NetParams := []
  nhCallbacks : List (Receiver × NhParams) := []
  calls : List SwCall := []

/-! ## References -/

namespace Endpoints

/-- The references held for one endpoint and VNI change. -/
def bump (held : EndpointPort → Nat → Nat) (ep : EndpointPort) (vni : Nat) (f : Nat → Nat) :
    EndpointPort → Nat → Nat :=
  fun ep' vni' => if ep' = ep ∧ vni' = vni then f (held ep vni) else held ep' vni'

/-- `refcnt++` and `refcnt_vni[vni]++` of an entry. -/
def ref (e : Endpoints) (ep : EndpointPort) (vni : Nat) : Endpoints where
  endpointId := e.endpointId.modify ep fun x =>
    { x with
      refcnt := x.refcnt + 1
      refcntVni := x.refcntVni.insert vni (u32 (x.vniCount vni + 1)) }
  held := bump e.held ep vni (· + 1)

/-- A new entry, with the reference of the VNI that creates it. -/
def create (e : Endpoints) (ep : EndpointPort) (vni lportId nhId : Nat) : Endpoints where
  endpointId := e.endpointId.emplace ep
    { refcnt := 1, lportId := lportId, nhId := nhId, refcntVni := (∅ : Table Nat Nat).insert vni 1 }
  held := bump e.held ep vni (· + 1)

/-- `refcnt--` and `--refcnt_vni[vni]` of an entry, which goes when `refcnt` reaches zero. -/
def unref (e : Endpoints) (ep : EndpointPort) (vni : Nat) (x : EndpointTunnelPort) : Endpoints where
  endpointId :=
    if x.refcnt - 1 = 0 then e.endpointId.erase ep
    else e.endpointId.modify ep fun x =>
      { x with
        refcnt := x.refcnt - 1
        refcntVni := x.refcntVni.insert vni (pred32 (x.vniCount vni)) }
  held := bump e.held ep vni (· - 1)

end Endpoints

/-- The key of the endpoint of a link to a remote. -/
def VxlanLink.endpointPort (link : VxlanLink) (loc remote : Addr) : EndpointPort where
  localIpv4 := loc.ipv4
  remoteIpv4 := remote.ipv4
  initiatorUdpDstPort := link.port.getD 4789

namespace Vxlan

/-- A call of the switch is noted. -/
def call (s : Vxlan) (c : SwCall) : Vxlan := { s with calls := s.calls ++ [c] }

/-! ## Tunnel next hops -/

/-- `nl_l3::get_nexthops_of_route`. -/
def getNexthopsOfRoute (k : Kernel) (nhs : List NextHop) : List NextHop :=
  nhs.filter fun nh => k.isSwitchInterface nh.ifindex

/-- The search for a next hop with an address: the interface of the last one looked at. -/
def pickNextHop : List NextHop → Int → Int × Option Addr
  | [], ifindex => (ifindex, none)
  | nh :: nhs, _ =>
    match nh.gateway.or nh.via with
    | some addr => (nh.ifindex, some addr)
    | none => pickNextHop nhs nh.ifindex

/-- `create_next_hop(neigh, next_hop_id)`: the result, the id and the state. -/
def createNextHopNeigh (k : Kernel) (s : Vxlan) (ifindex : Int) (dstMac : Mac) :
    Int × Nat × Vxlan :=
  match k.linkByIfindex ifindex with
  | none => (-EINVAL, 0, s)
  | some link =>
    if link.portId = 0 then (-EINVAL, 0, s)
    else
      match link.addr with
      | none => (-EINVAL, 0, s)
      | some srcMac =>
        let tnh : TunnelNh :=
          { smac := srcMac, dmac := dstMac, pport := link.portId, vid := k.portUntaggedVid }
        match s.tunnelNextHopId.find tnh with
        | some x =>
          (0, x.nhId, { s with
            tunnelNextHopId :=
              s.tunnelNextHopId.modify tnh fun x => { x with refcnt := x.refcnt + 1 } })
        | none =>
          let nhId := s.nextHopIdCnt
          let s := s.call (.tunnelNextHopCreate nhId tnh)
          (0, nhId, { s with
            tunnelNextHopId := s.tunnelNextHopId.emplace tnh { refcnt := 1, nhId := nhId }
            tunnelNextHop2tnh := s.tunnelNextHop2tnh.emplace nhId tnh
            nextHopIdCnt := u32 (nhId + 1) })

/-- `create_next_hop(vxlan_link, remote, next_hop_id)`. A next hop that is not resolved is
registered for a notification. -/
def createNextHop (k : Kernel) (s : Vxlan) (link : VxlanLink) (remote : Addr) :
    Int × Nat × Vxlan :=
  match k.queryRoute remote with
  | none => (-EINVAL, 0, s)
  | some route =>
    match getNexthopsOfRoute k route with
    | [] => (-ENETUNREACH, 0, s)
    | nhs =>
      let (ifindex, nhAddr) := pickNextHop nhs 0
      let nhAddr := nhAddr.getD remote
      match k.getNeighbour ifindex nhAddr with
      | some (some mac) =>
        let (rv, nhId, s) := createNextHopNeigh k s ifindex mac
        (if rv < 0 then -EINVAL else rv, nhId, s)
      | _ =>
        let p : NhParams :=
          { np := { addr := remote, ifindex := link.ifindex }
            nh := { nh := nhAddr, ifindex := ifindex } }
        (-EDESTADDRREQ, 0, { s with nhCallbacks := s.nhCallbacks ++ [(.vxlan, p)] })

/-- `delete_next_hop(tnh)`. -/
def deleteNextHopTnh (s : Vxlan) (tnh : TunnelNh) : Int × Vxlan :=
  match s.tunnelNextHopId.find tnh with
  | none => (-EINVAL, s)
  | some x =>
    if x.refcnt - 1 = 0 then
      let s := s.call (.tunnelNextHopDelete x.nhId)
      (0, { s with
        tunnelNextHop2tnh := s.tunnelNextHop2tnh.erase x.nhId
        tunnelNextHopId := s.tunnelNextHopId.erase tnh })
    else
      (0, { s with
        tunnelNextHopId :=
          s.tunnelNextHopId.modify tnh fun x => { x with refcnt := x.refcnt - 1 } })

/-- `delete_next_hop(nh_id)`. -/
def deleteNextHop (s : Vxlan) (nhId : Nat) : Int × Vxlan :=
  match s.tunnelNextHop2tnh.lookup nhId with
  | none => (-ENODATA, s)
  | some tnh => s.deleteNextHopTnh tnh

/-! ## Endpoints -/

/-- `add_l2_neigh(neigh, lport, tunnel_id)`. -/
def addL2NeighPort (s : Vxlan) (mac : Mac) (lport tunnelId : Nat) : Int × Vxlan :=
  if lport = 0 ∨ tunnelId = 0 then (-EINVAL, s)
  else (0, s.call (.l2OverlayAddrAdd lport tunnelId mac))

/-- `create_endpoint(vxlan_link, local, group, next_hop_id, lport_id)`: the port and the state. -/
def createEndpointPort (s : Vxlan) (link : VxlanLink) (loc remote : Addr) (nhId : Nat) :
    Nat × Vxlan :=
  let ep := link.endpointPort loc remote
  match s.endpoints.endpointId.find ep with
  | some x => (x.lportId, { s with endpoints := s.endpoints.ref ep link.vni })
  | none =>
    let s := s.call (.tunnelEndpointCreate s.portIdCnt ep nhId)
    (s.portIdCnt, { s with
      endpoints := s.endpoints.create ep link.vni s.portIdCnt nhId
      portIdCnt := u32 (s.portIdCnt + 1) })

/-- The rest of `create_endpoint(vxlan_link, br_link, remote)` once it has the port: the tenant,
flooding, and the MACs that the neighbour cache has at the remote. -/
def setupEndpoint (k : Kernel) (s : Vxlan) (link : VxlanLink) (remote : Addr) (lport tunnelId : Nat) :
    Int × Vxlan :=
  let s := s.call (.tunnelPortTenantAdd lport tunnelId)
  let s := if k.isPortFlooding link.ifindex then s.call (.addL2OverlayFlood tunnelId lport) else s
  ((k.fdb link.ifindex remote).filter (· ≠ 0)).foldl
    (fun (_, s) mac => s.addL2NeighPort mac lport tunnelId) (0, s)

/-- `create_endpoint(vxlan_link, br_link, remote)`. A remote without a route through the switch is
registered for a notification. -/
def createEndpointRemote (k : Kernel) (s : Vxlan) (link : VxlanLink) (remote : Addr) : Int × Vxlan :=
  if !remote.isInet then (-EINVAL, s)
  else
    match link.localAddr with
    | none => (-EINVAL, s)
    | some loc =>
      if !loc.isInet then (-EINVAL, s)
      else
        let (rv, nhId, s) := createNextHop k s link remote
        if rv = -ENETUNREACH then
          (rv, { s with
            netCallbacks := s.netCallbacks ++ [{ addr := remote, ifindex := link.ifindex }] })
        else if rv < 0 then (rv, s)
        else
          match s.vni2tunnel.lookup link.vni with
          | none => (-EINVAL, s)
          | some tunnelId =>
            let (lport, s) := s.createEndpointPort link loc remote nhId
            setupEndpoint k s link remote lport tunnelId

/-- `create_endpoint(vxlan_link, br_link)`: a link is enslaved to the bridge. -/
def createEndpoint (k : Kernel) (s : Vxlan) (link : VxlanLink) : Int × Vxlan :=
  if !link.isVxlan then (-EINVAL, s)
  else
    match link.group with
    | none => (0, s)
    | some group =>
      if !group.isInet then (-ENOTSUP, s)
      else (0, (createEndpointRemote k s link group).2)

/-- `net_reachable_notification`. -/
def netReachableNotification (k : Kernel) (s : Vxlan) (params : NetParams) : Vxlan :=
  match k.vxlanLink params.ifindex with
  | none => s
  | some link =>
    if !link.isVxlan then s else (createEndpointRemote k s link params.addr).2

/-- The common end of `delete_endpoint` and `delete_l2_neigh_endpoint`: a reference is released. -/
def releaseEndpoint (s : Vxlan) (ep : EndpointPort) (vni tunnelId : Nat) (x : EndpointTunnelPort) :
    Int × Vxlan :=
  let s := { s with endpoints := s.endpoints.unref ep vni x }
  let s :=
    if pred32 (x.vniCount vni) = 0 then
      s.call (.tunnelPortTenantRemove x.lportId tunnelId)
    else s
  if x.refcnt - 1 = 0 then (s.call (.tunnelPortDelete x.lportId)).deleteNextHop x.nhId else (0, s)

/-- `delete_endpoint(vxlan_link, local, remote)`. -/
def deleteEndpointRemote (s : Vxlan) (link : VxlanLink) (loc remote : Addr) : Int × Vxlan :=
  match s.vni2tunnel.lookup link.vni with
  | none => (-EINVAL, s)
  | some tunnelId =>
    let ep := link.endpointPort loc remote
    match s.endpoints.endpointId.find ep with
    | none => (0, s)
    | some x =>
      (s.call (.delL2OverlayFlood tunnelId x.lportId)).releaseEndpoint ep link.vni tunnelId x

/-- `delete_endpoint(vxlan_link)`. -/
def deleteEndpoint (s : Vxlan) (link : VxlanLink) : Int × Vxlan :=
  match link.localAddr with
  | none => (-EINVAL, s)
  | some loc =>
    match link.group with
    | none => (0, s)
    | some remote => (0, (s.deleteEndpointRemote link loc remote).2)

/-! ## Neighbours and links -/

/-- `add_l2_neigh(neigh, link, br_link)` on a VXLAN link, once it has the addresses. -/
def addL2NeighRemote (k : Kernel) (s : Vxlan) (link : VxlanLink) (mac : Mac) (loc remote : Addr)
    (accessPorts : Nat) : Int × Vxlan :=
  if mac = 0 ∧ link.group = some remote then (0, s)
  else
    match s.vni2tunnel.lookup link.vni with
    | none => (-EINVAL, s)
    | some tunnelId =>
      let ep := link.endpointPort loc remote
      let epIt := s.endpoints.endpointId.find ep
      let lport := (epIt.map (·.lportId)).getD 0
      if mac = 0 then
        let (rv, s) :=
          if lport = 0 then createEndpointRemote k s link remote
          else
            let s := s.call (.tunnelPortTenantAdd lport tunnelId)
            let s := { s with endpoints := s.endpoints.ref ep link.vni }
            (0, if k.isPortFlooding link.ifindex then
              s.call (.addL2OverlayFlood tunnelId lport) else s)
        (rv, { s with portIdCnt := u32 (s.portIdCnt + accessPorts) })
      else
        match epIt with
        | none => (-EINVAL, s)
        | some _ =>
          let (rv, s) := s.addL2NeighPort mac lport tunnelId
          if rv < 0 then (rv, s)
          else (rv, { s with endpoints := s.endpoints.ref ep link.vni })

/-- `add_l2_neigh(neigh, link, br_link)` on a VXLAN link. `accessPorts` is the number of port ids
that `update_access_ports` uses up. -/
def addL2Neigh (k : Kernel) (s : Vxlan) (link : VxlanLink) (mac : Mac) (dst : Option Addr)
    (accessPorts : Nat) : Int × Vxlan :=
  if mac = link.mac then (0, s)
  else
    match link.localAddr, dst with
    | some loc, some remote => addL2NeighRemote k s link mac loc remote accessPorts
    | _, _ => (-EINVAL, s)

/-- `delete_l2_neigh_endpoint`. -/
def deleteL2NeighEndpoint (s : Vxlan) (link : VxlanLink) (loc remote : Addr) (mac : Mac) :
    Int × Vxlan :=
  match s.vni2tunnel.lookup link.vni with
  | none => (-EINVAL, s)
  | some tunnelId =>
    if tunnelId = 0 then (-EINVAL, s)
    else
      let s := s.call (.l2OverlayAddrRemove tunnelId 0 mac)
      let ep := link.endpointPort loc remote
      match s.endpoints.endpointId.find ep with
      | none => (-EINVAL, s)
      | some x => (0, (s.releaseEndpoint ep link.vni tunnelId x).2)

/-- `delete_l2_neigh(neigh, link, br_link)` on a VXLAN link. `none` is `LOG(FATAL)`: a link
without a port. -/
def deleteL2Neigh (s : Vxlan) (link : VxlanLink) (mac : Mac) (dst : Option Addr) :
    Option (Int × Vxlan) :=
  match link.port with
  | none => none
  | some _ =>
    match link.localAddr with
    | none => some (-EINVAL, s)
    | some loc =>
      if !loc.isInet then some (-EINVAL, s)
      else
        match dst with
        | none => some (-EINVAL, s)
        | some remote =>
          if mac = 0 then
            if link.group = some remote then some (0, s)
            else some (0, (s.deleteEndpointRemote link loc remote).2)
          else some (0, (s.deleteL2NeighEndpoint link loc remote mac).2)

/-- `create_vni`. -/
def createVni (s : Vxlan) (link : VxlanLink) : Int × Vxlan :=
  if !link.isVxlan then (-EINVAL, s)
  else
    match s.vni2tunnel.lookup link.vni with
    | some _ => (0, s)
    | none =>
      let s := s.call (.tunnelTenantCreate s.tunnelIdCnt link.vni)
      let s := s.call (.overlayTunnelAdd s.tunnelIdCnt)
      (0, { s with
        vni2tunnel := s.vni2tunnel.insert link.vni s.tunnelIdCnt
        tunnelIdCnt := u32 (s.tunnelIdCnt + 1) })

/-- `remove_vni`. -/
def removeVni (s : Vxlan) (link : VxlanLink) : Int × Vxlan :=
  match s.vni2tunnel.lookup link.vni with
  | none => (-EINVAL, s)
  | some tunnelId =>
    let s := s.call (.overlayTunnelRemove tunnelId)
    let s := s.call (.tunnelTenantDelete tunnelId)
    (0, { s with vni2tunnel := s.vni2tunnel.erase link.vni })

/-- `cnetlink::link_deleted` of a VXLAN link. -/
def linkDeleted (s : Vxlan) (link : VxlanLink) : Vxlan :=
  ((s.deleteEndpoint link).2.removeVni link).2

end Vxlan

end Basebox
