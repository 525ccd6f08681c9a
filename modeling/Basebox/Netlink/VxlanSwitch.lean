import Basebox.Netlink.BridgeVlans
import Basebox.Netlink.VxlanRefs

/-!
# `nl_vxlan` when calls of the switch fail (`src/netlink/nl_vxlan.cc`)

The handlers of `Vxlan` once more, with the results of the switch and with the access ports. The
switch answers each call as `SwResults` says, which sees all calls before it: a call that is
repeated may succeed later. A negative result is a failure.

* `createAccessPort`, `deleteAccessPort`: the access ports of a tunnel, which share the counter of
  the port ids with the endpoints.
* `createNextHop` to `removeVni`: as in `Vxlan`, with the paths after a failure. A failure is not
  always undone, and what is undone is sometimes not what was done.

The access ports that `add_l2_neigh` has `nl_bridge` create (`update_access_ports`) are calls of
`createAccessPort` that follow it.
-/

namespace Basebox

/-- The key of an access port. -/
structure PportVlan where
  pport : Nat
  vid : Nat
  deriving DecidableEq

/-- `nl_vxlan` with its access ports and with the calls of the switch that succeeded. -/
structure NlVxlan extends Vxlan where
  accessPortIds : MultiMap PportVlan AccessTunnelPort := []
  done : List SwCall := []

/-- The results of the switch: that of a call, after the calls before it. -/
abbrev SwResults := List SwCall → SwCall → Int

namespace Endpoints

/-- `refcnt--` and `--refcnt_vni[vni]` of an entry, which stays. -/
def dec (e : Endpoints) (ep : EndpointPort) (vni : Nat) : Endpoints where
  endpointId := e.endpointId.modify ep fun x =>
    { x with
      refcnt := x.refcnt - 1
      refcntVni := x.refcntVni.insert vni (pred32 (x.vniCount vni)) }
  held := bump e.held ep vni (· - 1)

/-- The entry of an endpoint goes. -/
def eraseEntry (e : Endpoints) (ep : EndpointPort) : Endpoints :=
  { e with endpointId := e.endpointId.erase ep }

end Endpoints

namespace NlVxlan

variable (r : SwResults)

/-- A call of the switch: its result, and the call in the log. -/
def send (s : NlVxlan) (c : SwCall) : Int × NlVxlan :=
  (r s.calls c, { s with
    calls := s.calls ++ [c]
    done := if 0 ≤ r s.calls c then s.done ++ [c] else s.done })

/-! ## Flooding and access ports -/

/-- `enable_flooding`. -/
def enableFlooding (s : NlVxlan) (tunnelId lportId : Nat) : Int × NlVxlan :=
  let (rv, s) := s.send r (.addL2OverlayFlood tunnelId lportId)
  (if rv < 0 then -EINVAL else rv, s)

/-- `disable_flooding`. -/
def disableFlooding (s : NlVxlan) (tunnelId lportId : Nat) : Int × NlVxlan :=
  let (rv, s) := s.send r (.delL2OverlayFlood tunnelId lportId)
  (if rv < 0 then -EINVAL else rv, s)

/-- `get_access_tunnel_port`. -/
def getAccessTunnelPort (s : NlVxlan) (pport vid : Nat) : AccessTunnelPort :=
  (s.accessPortIds.find ⟨pport, vid⟩).getD { lportId := 0, tunnelId := 0 }

/-- `delete_access_port`. `flooding` is `bridge->is_port_flooding(br_link)`. -/
def deleteAccessPort (s : NlVxlan) (flooding : Bool) (pportNo vid : Nat) (wipeL2Addresses : Bool) :
    Int × NlVxlan :=
  match s.accessPortIds.find ⟨pportNo, vid⟩ with
  | none => (0, s)
  | some tp =>
    let s :=
      if wipeL2Addresses then
        (s.send r (.l2OverlayAddrRemove tp.tunnelId tp.lportId (BitVec.allOnes 48))).2
      else s
    let s := if flooding then (s.disableFlooding r tp.tunnelId tp.lportId).2 else s
    let s := (s.send r (.tunnelPortTenantRemove tp.lportId tp.tunnelId)).2
    let s := (s.send r (.tunnelPortDelete tp.lportId)).2
    (0, { s with accessPortIds := s.accessPortIds.erase ⟨pportNo, vid⟩ })

/-- The loop of `create_access_port`: the call is repeated until it succeeds, `retries` times at
most. -/
def tryAccessPort (pportNo vid : Nat) (untagged : Bool) : Nat → NlVxlan → Int × NlVxlan
  | 0, s => s.send r (.tunnelAccessPortCreate s.portIdCnt pportNo vid untagged)
  | retries + 1, s =>
    let (rv, s) := s.send r (.tunnelAccessPortCreate s.portIdCnt pportNo vid untagged)
    if rv < 0 then tryAccessPort pportNo vid untagged retries s else (rv, s)

/-- `create_access_port`. -/
def createAccessPort (s : NlVxlan) (flooding : Bool) (tunnelId pportNo vid : Nat)
    (untagged : Bool) : Int × NlVxlan :=
  let tp := s.getAccessTunnelPort pportNo vid
  if tp.lportId ≠ 0 ∨ tp.tunnelId ≠ 0 then (-EINVAL, s)
  else
    -- drop all vlans on port
    let s := (s.send r (.egressBridgePortVlanRemove pportNo vid)).2
    let s := (s.send r (.ingressPortVlanRemove pportNo vid untagged)).2
    let (rv, s) := tryAccessPort r pportNo vid untagged 49 s
    if rv < 0 then (rv, s)
    else
      let (rv, s) := s.send r (.tunnelPortTenantAdd s.portIdCnt tunnelId)
      -- Nothing is recorded yet: the port is not found, and stays on the switch.
      if rv < 0 then (rv, (s.deleteAccessPort r flooding pportNo vid false).2)
      else
        let (rv, s) := if flooding then s.enableFlooding r tunnelId s.portIdCnt else (rv, s)
        if rv < 0 then
          let s := (s.disableFlooding r tunnelId s.portIdCnt).2
          let s := (s.send r (.tunnelPortTenantRemove s.portIdCnt tunnelId)).2
          (rv, (s.deleteAccessPort r flooding pportNo vid false).2)
        else
          (0, { s with
            accessPortIds := s.accessPortIds.emplace ⟨pportNo, vid⟩
              { lportId := s.portIdCnt, tunnelId := tunnelId }
            portIdCnt := u32 (s.portIdCnt + 1) })

/-! ## Tunnel next hops -/

/-- `create_next_hop(neigh, next_hop_id)`. -/
def createNextHopNeigh (k : Kernel) (s : NlVxlan) (ifindex : Int) (dstMac : Mac) :
    Int × Nat × NlVxlan :=
  match k.linkByIfindex ifindex with
  | none => (-EINVAL, 0, s)
  | some link =>
    if link.portId = 0 then (-EINVAL, 0, s)
    else
      match link.addr with
      | none => (-EINVAL, 0, s)
      | some srcMac =>
        let tnh : TunnelNh :=
          { smac := srcMac, dmac := dstMac, pport := link.portId, vid := k.portUntaggedVid }
        match s.tunnelNextHopId.find tnh with
        | some x =>
          (0, x.nhId, { s with
            tunnelNextHopId :=
              s.tunnelNextHopId.modify tnh fun x => { x with refcnt := x.refcnt + 1 } })
        | none =>
          let nhId := s.nextHopIdCnt
          let (rv, s) := s.send r (.tunnelNextHopCreate nhId tnh)
          if rv < 0 then (rv, 0, s)
          else
            (rv, nhId, { s with
              tunnelNextHopId := s.tunnelNextHopId.emplace tnh { refcnt := 1, nhId := nhId }
              tunnelNextHop2tnh := s.tunnelNextHop2tnh.emplace nhId tnh
              nextHopIdCnt := u32 (nhId + 1) })

/-- `create_next_hop(vxlan_link, remote, next_hop_id)`. -/
def createNextHop (k : Kernel) (s : NlVxlan) (link : VxlanLink) (remote : Addr) :
    Int × Nat × NlVxlan :=
  match k.queryRoute remote with
  | none => (-EINVAL, 0, s)
  | some route =>
    match Vxlan.getNexthopsOfRoute k route with
    | [] => (-ENETUNREACH, 0, s)
    | nhs =>
      let (ifindex, nhAddr) := Vxlan.pickNextHop nhs 0
      let nhAddr := nhAddr.getD remote
      match k.getNeighbour ifindex nhAddr with
      | some (some mac) =>
        let (rv, nhId, s) := createNextHopNeigh r k s ifindex mac
        (if rv < 0 then -EINVAL else rv, nhId, s)
      | _ =>
        let p : NhParams :=
          { np := { addr := remote, ifindex := link.ifindex }
            nh := { nh := nhAddr, ifindex := ifindex } }
        (-EDESTADDRREQ, 0, { s with nhCallbacks := s.nhCallbacks ++ [(.vxlan, p)] })

/-- `delete_next_hop(tnh)`. The entry goes also if the switch does not delete the next hop. -/
def deleteNextHopTnh (s : NlVxlan) (tnh : TunnelNh) : Int × NlVxlan :=
  match s.tunnelNextHopId.find tnh with
  | none => (-EINVAL, s)
  | some x =>
    if x.refcnt - 1 = 0 then
      let s := (s.send r (.tunnelNextHopDelete x.nhId)).2
      (0, { s with
        tunnelNextHop2tnh := s.tunnelNextHop2tnh.erase x.nhId
        tunnelNextHopId := s.tunnelNextHopId.erase tnh })
    else
      (0, { s with
        tunnelNextHopId :=
          s.tunnelNextHopId.modify tnh fun x => { x with refcnt := x.refcnt - 1 } })

/-- `delete_next_hop(nh_id)`. -/
def deleteNextHop (s : NlVxlan) (nhId : Nat) : Int × NlVxlan :=
  match s.tunnelNextHop2tnh.lookup nhId with
  | none => (-ENODATA, s)
  | some tnh => s.deleteNextHopTnh r tnh

/-- `delete_next_hop(neigh)`. -/
def deleteNextHopNeigh (k : Kernel) (s : NlVxlan) (ifindex : Int) (dstMac : Mac) : Int × NlVxlan :=
  match k.linkByIfindex ifindex with
  | none => (-EINVAL, s)
  | some link =>
    if link.portId = 0 then (-EINVAL, s)
    else
      match link.addr with
      | none => (-EINVAL, s)
      | some srcMac =>
        s.deleteNextHopTnh r
          { smac := srcMac, dmac := dstMac, pport := link.portId, vid := k.portUntaggedVid }

/-! ## Endpoints -/

/-- `add_l2_neigh(neigh, lport, tunnel_id)`. -/
def addL2NeighPort (s : NlVxlan) (mac : Mac) (lport tunnelId : Nat) : Int × NlVxlan :=
  if lport = 0 ∨ tunnelId = 0 then (-EINVAL, s)
  else (0, (s.send r (.l2OverlayAddrAdd lport tunnelId mac)).2)

/-- `create_endpoint(vxlan_link, local, group, next_hop_id, lport_id)`. -/
def createEndpointPort (s : NlVxlan) (link : VxlanLink) (loc remote : Addr) (nhId : Nat) :
    Int × Nat × NlVxlan :=
  let ep := link.endpointPort loc remote
  match s.endpoints.endpointId.find ep with
  | some x => (0, x.lportId, { s with endpoints := s.endpoints.ref ep link.vni })
  | none =>
    let (rv, s) := s.send r (.tunnelEndpointCreate s.portIdCnt ep nhId)
    if rv ≠ 0 then (-EINVAL, 0, s)
    else
      (0, s.portIdCnt, { s with
        endpoints := s.endpoints.create ep link.vni s.portIdCnt nhId
        portIdCnt := u32 (s.portIdCnt + 1) })

/-- The port leaves the tenant when the VNI has no reference left. -/
def leaveTenant (s : NlVxlan) (vni tunnelId : Nat) (x : EndpointTunnelPort) : Int × NlVxlan :=
  if pred32 (x.vniCount vni) = 0 then s.send r (.tunnelPortTenantRemove x.lportId tunnelId)
  else (0, s)

/-- The port goes with the last reference. What came before it is `left`: the entry stays if the
port could not be removed from the tenant. -/
def releasePort (ep : EndpointPort) (x : EndpointTunnelPort) (left : Int × NlVxlan) :
    Int × NlVxlan :=
  if left.1 < 0 then left
  else if x.refcnt - 1 = 0 then
    let s := (left.2.send r (.tunnelPortDelete x.lportId)).2
    let (rv, s) := s.deleteNextHop r x.nhId
    (rv, { s with endpoints := s.endpoints.eraseEntry ep })
  else left

/-- The common end of `delete_endpoint` and `delete_l2_neigh_endpoint`. -/
def releaseEndpoint (s : NlVxlan) (ep : EndpointPort) (vni tunnelId : Nat)
    (x : EndpointTunnelPort) : Int × NlVxlan :=
  releasePort r ep x
    (leaveTenant r { s with endpoints := s.endpoints.dec ep vni } vni tunnelId x)

/-- `delete_endpoint(vxlan_link, local, remote)`. -/
def deleteEndpointRemote (s : NlVxlan) (link : VxlanLink) (loc remote : Addr) : Int × NlVxlan :=
  match s.vni2tunnel.lookup link.vni with
  | none => (-EINVAL, s)
  | some tunnelId =>
    let ep := link.endpointPort loc remote
    match s.endpoints.endpointId.find ep with
    | none => (0, s)
    | some x => (s.disableFlooding r tunnelId x.lportId).2.releaseEndpoint r ep link.vni tunnelId x

/-- The rest of `create_endpoint(vxlan_link, br_link, remote)` once it has the port. What the port
was created with is given back if the port cannot be added to the tenant or to the flooding; in the
second case the neighbours are added all the same. -/
def setupEndpoint (k : Kernel) (s : NlVxlan) (link : VxlanLink) (loc remote : Addr)
    (nhId lport tunnelId : Nat) : Int × NlVxlan :=
  let (rv, s) := s.send r (.tunnelPortTenantAdd lport tunnelId)
  if rv < 0 then
    let s := (s.deleteEndpointRemote r link loc remote).2
    (-EINVAL, (s.deleteNextHop r nhId).2)
  else
    let (rv, s) :=
      if k.isPortFlooding link.ifindex then
        let (rv, s) := s.enableFlooding r tunnelId lport
        if rv < 0 then
          let s := (s.disableFlooding r tunnelId lport).2
          let s := (s.send r (.tunnelPortTenantRemove lport tunnelId)).2
          let s := (s.deleteEndpointRemote r link loc remote).2
          (rv, (s.deleteNextHop r nhId).2)
        else (rv, s)
      else (rv, s)
    ((k.fdb link.ifindex remote).filter (· ≠ 0)).foldl
      (fun (_, s) mac => s.addL2NeighPort r mac lport tunnelId) (rv, s)

/-- `create_endpoint(vxlan_link, br_link, remote)`. -/
def createEndpointRemote (k : Kernel) (s : NlVxlan) (link : VxlanLink) (remote : Addr) :
    Int × NlVxlan :=
  if !remote.isInet then (-EINVAL, s)
  else
    match link.localAddr with
    | none => (-EINVAL, s)
    | some loc =>
      if !loc.isInet then (-EINVAL, s)
      else
        let (rv, nhId, s) := createNextHop r k s link remote
        if rv = -ENETUNREACH then
          (rv, { s with
            netCallbacks := s.netCallbacks ++ [{ addr := remote, ifindex := link.ifindex }] })
        else if rv < 0 then (rv, s)
        else
          match s.vni2tunnel.lookup link.vni with
          | none => (-EINVAL, s)
          | some tunnelId =>
            let (rv, lport, s) := s.createEndpointPort r link loc remote nhId
            if rv < 0 then (-EINVAL, (s.deleteNextHop r nhId).2)
            else setupEndpoint r k s link loc remote nhId lport tunnelId

/-- `create_endpoint(vxlan_link, br_link)`. -/
def createEndpoint (k : Kernel) (s : NlVxlan) (link : VxlanLink) : Int × NlVxlan :=
  if !link.isVxlan then (-EINVAL, s)
  else
    match link.group with
    | none => (0, s)
    | some group =>
      if !group.isInet then (-ENOTSUP, s)
      else (0, (createEndpointRemote r k s link group).2)

/-- `net_reachable_notification`. -/
def netReachableNotification (k : Kernel) (s : NlVxlan) (params : NetParams) : NlVxlan :=
  match k.vxlanLink params.ifindex with
  | none => s
  | some link =>
    if !link.isVxlan then s else (createEndpointRemote r k s link params.addr).2

/-- `delete_endpoint(vxlan_link)`. -/
def deleteEndpoint (s : NlVxlan) (link : VxlanLink) : Int × NlVxlan :=
  match link.localAddr with
  | none => (-EINVAL, s)
  | some loc =>
    match link.group with
    | none => (0, s)
    | some remote => (0, (s.deleteEndpointRemote r link loc remote).2)

/-! ## Neighbours and links -/

/-- `add_l2_neigh(neigh, link, br_link)` on a VXLAN link, once it has the addresses. -/
def addL2NeighRemote (k : Kernel) (s : NlVxlan) (link : VxlanLink) (mac : Mac)
    (loc remote : Addr) : Int × NlVxlan :=
  if mac = 0 ∧ link.group = some remote then (0, s)
  else
    match s.vni2tunnel.lookup link.vni with
    | none => (-EINVAL, s)
    | some tunnelId =>
      let ep := link.endpointPort loc remote
      let epIt := s.endpoints.endpointId.find ep
      let lport := (epIt.map (·.lportId)).getD 0
      if mac = 0 then
        if lport = 0 then createEndpointRemote r k s link remote
        else
          let (rv, s) := s.send r (.tunnelPortTenantAdd lport tunnelId)
          let s := { s with endpoints := s.endpoints.ref ep link.vni }
          if rv < 0 then (rv, s)
          else if k.isPortFlooding link.ifindex then s.enableFlooding r tunnelId lport
          else (rv, s)
      else
        match epIt with
        | none => (-EINVAL, s)
        | some _ =>
          let (rv, s) := s.addL2NeighPort r mac lport tunnelId
          if rv < 0 then (rv, s)
          else (rv, { s with endpoints := s.endpoints.ref ep link.vni })

/-- `add_l2_neigh(neigh, link, br_link)` on a VXLAN link. -/
def addL2Neigh (k : Kernel) (s : NlVxlan) (link : VxlanLink) (mac : Mac) (dst : Option Addr) :
    Int × NlVxlan :=
  if mac = link.mac then (0, s)
  else
    match link.localAddr, dst with
    | some loc, some remote => addL2NeighRemote r k s link mac loc remote
    | _, _ => (-EINVAL, s)

/-- `delete_l2_neigh_endpoint`. -/
def deleteL2NeighEndpoint (s : NlVxlan) (link : VxlanLink) (loc remote : Addr) (mac : Mac) :
    Int × NlVxlan :=
  match s.vni2tunnel.lookup link.vni with
  | none => (-EINVAL, s)
  | some tunnelId =>
    if tunnelId = 0 then (-EINVAL, s)
    else
      let s := (s.send r (.l2OverlayAddrRemove tunnelId 0 mac)).2
      let ep := link.endpointPort loc remote
      match s.endpoints.endpointId.find ep with
      | none => (-EINVAL, s)
      | some x => (0, (s.releaseEndpoint r ep link.vni tunnelId x).2)

/-- `delete_l2_neigh(neigh, link, br_link)` on a VXLAN link. `none` is `LOG(FATAL)`: a link
without a port. -/
def deleteL2Neigh (s : NlVxlan) (link : VxlanLink) (mac : Mac) (dst : Option Addr) :
    Option (Int × NlVxlan) :=
  match link.port with
  | none => none
  | some _ =>
    match link.localAddr with
    | none => some (-EINVAL, s)
    | some loc =>
      if !loc.isInet then some (-EINVAL, s)
      else
        match dst with
        | none => some (-EINVAL, s)
        | some remote =>
          if mac = 0 then
            if link.group = some remote then some (0, s)
            else some (0, (s.deleteEndpointRemote r link loc remote).2)
          else some (0, (s.deleteL2NeighEndpoint r link loc remote mac).2)

/-- `create_vni`. The tenant is deleted again if the tunnel cannot be added. -/
def createVni (s : NlVxlan) (link : VxlanLink) : Int × NlVxlan :=
  if !link.isVxlan then (-EINVAL, s)
  else
    match s.vni2tunnel.lookup link.vni with
    | some _ => (0, s)
    | none =>
      let (rv, s) := s.send r (.tunnelTenantCreate s.tunnelIdCnt link.vni)
      if rv < 0 then (-EINVAL, s)
      else
        let (rv, s) := s.send r (.overlayTunnelAdd s.tunnelIdCnt)
        if rv < 0 then (-EINVAL, (s.send r (.tunnelTenantDelete s.tunnelIdCnt)).2)
        else
          (rv, { s with
            vni2tunnel := s.vni2tunnel.insert link.vni s.tunnelIdCnt
            tunnelIdCnt := u32 (s.tunnelIdCnt + 1) })

/-- `remove_vni`. The tenant is deleted also if the tunnel cannot be removed. -/
def removeVni (s : NlVxlan) (link : VxlanLink) : Int × NlVxlan :=
  if !link.isVxlan then (-EINVAL, s)
  else
    match s.vni2tunnel.lookup link.vni with
    | none => (-EINVAL, s)
    | some tunnelId =>
      let s := (s.send r (.overlayTunnelRemove tunnelId)).2
      let (rv, s) := s.send r (.tunnelTenantDelete tunnelId)
      if rv < 0 then (rv, s)
      else (0, { s with vni2tunnel := s.vni2tunnel.erase link.vni })

/-! ## Events -/

/-- The calls of `nl_vxlan`. -/
inductive Ev where
  | createAccessPort (flooding : Bool) (tunnelId pportNo vid : Nat) (untagged : Bool)
  | deleteAccessPort (flooding : Bool) (pportNo vid : Nat) (wipeL2Addresses : Bool)
  | createEndpoint (k : Kernel) (link : VxlanLink)
  | netReachable (k : Kernel) (params : NetParams)
  | addL2Neigh (k : Kernel) (link : VxlanLink) (mac : Mac) (dst : Option Addr)
  | deleteL2Neigh (link : VxlanLink) (mac : Mac) (dst : Option Addr)
  | deleteEndpoint (link : VxlanLink)
  | createNextHop (k : Kernel) (link : VxlanLink) (remote : Addr)
  | deleteNextHop (nhId : Nat)
  | deleteNextHopNeigh (k : Kernel) (ifindex : Int) (dstMac : Mac)
  | createVni (link : VxlanLink)
  | removeVni (link : VxlanLink)

/-- The state after an event; `none` is `LOG(FATAL)`. -/
def exec (s : NlVxlan) : Ev → Option NlVxlan
  | .createAccessPort flooding tunnelId pportNo vid untagged =>
    some (s.createAccessPort r flooding tunnelId pportNo vid untagged).2
  | .deleteAccessPort flooding pportNo vid wipeL2Addresses =>
    some (s.deleteAccessPort r flooding pportNo vid wipeL2Addresses).2
  | .createEndpoint k link => some (NlVxlan.createEndpoint r k s link).2
  | .netReachable k params => some (netReachableNotification r k s params)
  | .addL2Neigh k link mac dst => some (NlVxlan.addL2Neigh r k s link mac dst).2
  | .deleteL2Neigh link mac dst => (s.deleteL2Neigh r link mac dst).map (·.2)
  | .deleteEndpoint link => some (s.deleteEndpoint r link).2
  | .createNextHop k link remote => some (NlVxlan.createNextHop r k s link remote).2.2
  | .deleteNextHop nhId => some (s.deleteNextHop r nhId).2
  | .deleteNextHopNeigh k ifindex dstMac =>
    some (NlVxlan.deleteNextHopNeigh r k s ifindex dstMac).2
  | .createVni link => some (s.createVni r link).2
  | .removeVni link => some (s.removeVni r link).2

/-- The state after a call, unless the process has aborted. -/
def step : Option NlVxlan → Ev → Option NlVxlan
  | none, _ => none
  | some s, e => s.exec r e

end NlVxlan

end Basebox
