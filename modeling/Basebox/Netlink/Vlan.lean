import Basebox.OfDpa.PortVlan
import Mathlib.Data.List.Sort

/-!
# VLANs of the ports (`src/netlink/nl_vlan.cc`)

`nl_vlan` counts the users of a VLAN on a port (`port_vlan`) and programs it for the first one, as
long as the port is not a bridge port; the VLANs of bridge ports (`bridge_vlan`, `port_pvid`) are
programmed as the bridge says. A VLAN of a bond is programmed on the members too.

* `addVlan`, `removeVlan`, `enableVlans`, `disableVlans`: the VLANs of ports by themselves.
* `addBridgeVlan`, `addIngressPvid` and their counterparts: the VLANs of bridge ports.
* `bondMemberAttached`, `bondMemberDetached`: what a port gets when it joins a bond.
* `vrfAttach`, `vrfDetach`: the VRF of a VLAN.

A link is given by its port id and what `cnetlink` says of it. Every function takes the results of
its calls to the switch (`ok`).
-/

namespace Basebox

/-- What `nl_vlan` uses of its surroundings. -/
structure VlanEnv (M : Type) where
  fm : VlanDriver M
  /-- `get_bond_members_by_port_id`. -/
  members : PortId → List PortId
  members_physical : ∀ bond, ∀ m ∈ members bond, Nbi.isLag m = false
  /-- `FLAGS_port_untagged_vid`. -/
  portUntaggedVid : Nat := 1

/-- The switch of OF-DPA without bonds. -/
def VlanEnv.noBonds : VlanEnv (Nat × List Nat) where
  fm := ofdpaVlanDriver
  members _ := []
  members_physical _ _ h := nomatch h

/-- The ports of a bond, for a port that is one. -/
def VlanEnv.lagMembers {M : Type} (env : VlanEnv M) (port : PortId) : List PortId :=
  if Nbi.isLag port then env.members port else []

/-- The state of `nl_vlan`, and the switch. -/
structure NlVlan (M : Type) where
  portVlan : Table (PortId × Nat) Nat := ∅
  vlanVrf : Table Nat Nat := ∅
  /-- For each VLAN of a bridge port the outer VLAN, and whether it is tagged. -/
  bridgeVlan : Table PortId (Table Nat (Nat × Bool)) := ∅
  portPvid : Table PortId Nat := ∅
  swi : PortSwitch M := {}

namespace NlVlan

/-- `is_vid_valid`. -/
def isVidValid (vid : Nat) : Bool := decide (1 ≤ vid ∧ vid ≤ 0xfff)

variable {M : Type}

/-- `get_vrf_id`. -/
def getVrfId (s : NlVlan M) (vid : Nat) : Nat := (s.vlanVrf.lookup vid).getD 0

/-- The entries of a `std::map`, in its order. -/
def ascending {V : Type} (t : Table Nat V) : List (Nat × V) :=
  (t.entries.map fun e => (e.1, e.2)).insertionSort (·.1 ≤ ·.1)

/-- The VLANs in `port_vlan` of a port, in the order of the map. -/
def vlansOf (s : NlVlan M) (port : PortId) : List Nat :=
  ((s.portVlan.keys.filter fun k => k.1 = port).map (·.2)).insertionSort (· ≤ ·)

section Functions

variable [DecidableEq M] (env : VlanEnv M) (ok : SwiCall → Bool)

/-! ## Ports -/

/-- `remove_ingress_vlan`. -/
def removeIngressVlan (port : PortId) (vid : Nat) (pvid : Bool) (vrfId : Nat) (sw : PortSwitch M) :
    Int × PortSwitch M :=
  let sw := swiEach env.fm ok
    ((env.lagMembers port).map fun mem => .ingressPortVlanRemove mem vid (!pvid) vrfId) sw
  swiCall env.fm ok (.ingressPortVlanRemove port vid (!pvid) vrfId) sw

/-- `add_ingress_vlan`. -/
def addIngressVlan (port : PortId) (vid : Nat) (tagged : Bool) (vrfId : Nat) (sw : PortSwitch M) :
    Int × PortSwitch M :=
  let (rv, sw) := swiCall env.fm ok (.ingressPortVlanAdd port vid (!tagged) vrfId) sw
  if rv < 0 then (rv, sw)
  else
    let (rv, sw) := swiUntilFail env.fm ok rv
      ((env.lagMembers port).map fun mem => .ingressPortVlanAdd mem vid (!tagged) vrfId) sw
    if rv < 0 then (rv, (removeIngressVlan env ok port vid tagged vrfId sw).2) else (rv, sw)

/-- `enable_vlan`. -/
def enableVlan (port : PortId) (vid : Nat) (tagged : Bool) (vrfId : Nat) (sw : PortSwitch M) :
    Int × PortSwitch M :=
  let (rv, sw) := addIngressVlan env ok port vid tagged vrfId sw
  if rv < 0 then (rv, sw)
  else
    let (rv, sw) := swiCall env.fm ok (.egressPortVlanAdd port vid (!tagged) false) sw
    if rv < 0 then (rv, (removeIngressVlan env ok port vid tagged vrfId sw).2)
    else
      let (rv, sw) := swiUntilFail env.fm ok rv
        ((env.lagMembers port).map fun mem => .egressPortVlanAdd mem vid (!tagged) false) sw
      if rv < 0 then
        let sw := swiEach env.fm ok
          ((env.lagMembers port).map fun mem => .egressPortVlanRemove mem vid) sw
        let sw := (swiCall env.fm ok (.egressPortVlanRemove port vid) sw).2
        (rv, (removeIngressVlan env ok port vid tagged vrfId sw).2)
      else (rv, sw)

/-- `disable_vlan`. -/
def disableVlan (port : PortId) (vid : Nat) (tagged : Bool) (vrfId : Nat) (sw : PortSwitch M) :
    Int × PortSwitch M :=
  let (rv, sw) := removeIngressVlan env ok port vid tagged vrfId sw
  if rv < 0 then (rv, sw)
  else
    let (rv, sw) := swiCall env.fm ok (.l2AddrRemoveAllInVlan port vid) sw
    if rv < 0 then (rv, sw)
    else
      let sw := swiEach env.fm ok
        ((env.lagMembers port).map fun mem => .egressPortVlanRemove mem vid) sw
      swiCall env.fm ok (.egressPortVlanRemove port vid) sw

/-- `add_vlan`. A link without a port has id 0; `isBridge` is `is_bridge_interface` of the link. -/
def addVlan (s : NlVlan M) (port : PortId) (isBridge : Bool) (vid : Nat) (tagged : Bool) :
    Int × NlVlan M :=
  if !isVidValid vid then (-EINVAL, s)
  else if port.1 = 0 then (-EINVAL, s)
  else
    match s.portVlan.lookup (port, vid) with
    | some refcount => (0, { s with portVlan := s.portVlan.insert (port, vid) (u32 (refcount + 1)) })
    | none =>
      if isBridge then (0, s)
      else
        let (rv, sw) := enableVlan env ok port vid tagged (s.getVrfId vid) s.swi
        if rv < 0 then (rv, { s with swi := sw })
        else (rv, { s with swi := sw, portVlan := s.portVlan.emplace (port, vid) 1 })

/-- `remove_vlan`. -/
def removeVlan (s : NlVlan M) (port : PortId) (isBridge : Bool) (vid : Nat) (tagged : Bool) :
    Int × NlVlan M :=
  if !isVidValid vid then (-EINVAL, s)
  else if port.1 = 0 then (-EINVAL, s)
  else
    match s.portVlan.lookup (port, vid) with
    | none => (-EINVAL, s)
    | some refcount =>
      if pred32 refcount > 0 then
        (0, { s with portVlan := s.portVlan.insert (port, vid) (pred32 refcount) })
      else
        let s := { s with portVlan := s.portVlan.erase (port, vid) }
        if isBridge then (0, s)
        else
          let (rv, sw) := disableVlan env ok port vid tagged (s.getVrfId vid) s.swi
          (rv, { s with swi := sw })

/-- `enable_vlans`. The default VLAN is taken to be untagged. -/
def enableVlans (s : NlVlan M) (port : PortId) : Int × NlVlan M :=
  if port.1 = 0 then (-EINVAL, s)
  else
    (0, { s with
      swi := (s.vlansOf port).foldl (fun sw vid =>
        (enableVlan env ok port vid (vid != env.portUntaggedVid) (s.getVrfId vid) sw).2) s.swi })

/-- `disable_vlans`. -/
def disableVlans (s : NlVlan M) (port : PortId) : Int × NlVlan M :=
  if port.1 = 0 then (-EINVAL, s)
  else
    (0, { s with
      swi := (s.vlansOf port).foldl (fun sw vid =>
        (disableVlan env ok port vid (vid != env.portUntaggedVid) (s.getVrfId vid) sw).2) s.swi })

/-! ## Bridge ports -/

/-- `add_ingress_pvid`. -/
def addIngressPvid (s : NlVlan M) (port : PortId) (pvid : Nat) : Int × NlVlan M :=
  match s.portPvid.lookup port with
  | some _ => (-EINVAL, s)
  | none =>
    -- The result of the loop over the members is not used.
    let sw := (swiUntilFail env.fm ok 0
      ((env.lagMembers port).map fun mem => .ingressPortPvidAdd mem pvid) s.swi).2
    let (rv, sw) := swiCall env.fm ok (.ingressPortPvidAdd port pvid) sw
    (rv, { s with portPvid := s.portPvid.emplace port pvid, swi := sw })

/-- `remove_ingress_pvid`. -/
def removeIngressPvid (s : NlVlan M) (port : PortId) (pvid : Nat) : Int × NlVlan M :=
  match s.portPvid.lookup port with
  | none => (-EINVAL, s)
  | some configured =>
    if configured ≠ pvid then (-EINVAL, s)
    else
      let sw := (swiUntilFail env.fm ok 0
        ((env.lagMembers port).map fun mem => .ingressPortPvidRemove mem pvid) s.swi).2
      let (rv, sw) := swiCall env.fm ok (.ingressPortPvidRemove port pvid) sw
      (rv, { s with portPvid := s.portPvid.erase port, swi := sw })

/-- The ports that a VLAN of a bridge port is programmed on, in the order of their ids (that of a
bond is above those of its members). -/
def bridgeVlanPorts (port : PortId) : List PortId := env.lagMembers port ++ [port]

/-- `remove_bridge_vlan`, with the VLAN of the link if that is a VLAN interface, else 0. -/
def removeBridgeVlan (s : NlVlan M) (port : PortId) (outerVid vid : Nat) (pvid : Bool) : NlVlan M :=
  if !isVidValid vid then s
  else if port.1 = 0 then s
  else
    let vrfId := s.getVrfId vid
    let bridgeVlan :=
      match s.bridgeVlan.lookup port with
      | none => s.bridgeVlan
      | some vlans =>
        if (vlans.erase vid).entries = [] then s.bridgeVlan.erase port
        else s.bridgeVlan.insert port (vlans.erase vid)
    { s with
      bridgeVlan := bridgeVlan
      portPvid := if pvid then s.portPvid.erase port else s.portPvid
      swi := swiEach env.fm ok
        ((bridgeVlanPorts env port).flatMap fun port =>
          .egressBridgePortVlanRemove port vid ::
            if outerVid > 0 then
              [.ingressPortPopVlanRemove port outerVid vid vrfId,
                .egressPortPushVlanRemove port vid outerVid]
            else [.ingressPortVlanRemove port vid pvid vrfId]) s.swi }

/-- `add_bridge_vlan`. -/
def addBridgeVlan (s : NlVlan M) (port : PortId) (outerVid vid : Nat) (pvid tagged : Bool) :
    Int × NlVlan M :=
  if !isVidValid vid then (-EINVAL, s)
  else if port.1 = 0 then (-EINVAL, s)
  else
    let vrfId := s.getVrfId vid
    let vlans := (s.bridgeVlan.lookup port).getD ∅
    let (rv, sw) := swiUntilFail env.fm ok 0
      ((bridgeVlanPorts env port).flatMap fun port =>
        .egressBridgePortVlanAdd port vid (!tagged) ::
          if outerVid > 0 then
            [.egressPortPushVlanAdd port vid outerVid, .ingressPortPopVlanAdd port outerVid vid vrfId]
          else [.ingressPortVlanAdd port vid pvid vrfId]) s.swi
    let s := { s with
      bridgeVlan := s.bridgeVlan.insert port (vlans.emplace vid (outerVid, tagged))
      portPvid := if pvid then s.portPvid.emplace port vid else s.portPvid
      swi := sw }
    (rv, if rv < 0 then removeBridgeVlan env ok s port outerVid vid pvid else s)

/-- `update_egress_bridge_vlan`. -/
def updateEgressBridgeVlan (s : NlVlan M) (port : PortId) (vid : Nat) (untagged : Bool) :
    Int × NlVlan M :=
  if !isVidValid vid then (-EINVAL, s)
  else if port.1 = 0 then (-EINVAL, s)
  else
    match s.bridgeVlan.lookup port with
    | none => (-EINVAL, s)
    | some vlans =>
      match vlans.lookup vid with
      | none => (-EINVAL, s)
      | some (outerVid, _) =>
        let (rv, sw) := swiUntilFail env.fm ok 0
          ((bridgeVlanPorts env port).map fun port => .egressPortVlanAdd port vid untagged true) s.swi
        (rv, { s with
          bridgeVlan := s.bridgeVlan.insert port (vlans.insert vid (outerVid, !untagged))
          swi := sw })

/-! ## Bonds -/

/-- `bond_member_attached`. `bridged` says that the bond has an `AF_BRIDGE` link. -/
def bondMemberAttached (s : NlVlan M) (bond : PortId) (bridged : Bool) (port : PortId) :
    Int × NlVlan M :=
  if bond.1 = 0 then (-EINVAL, s)
  else if port.1 = 0 then (-EINVAL, s)
  else if bridged then
    match s.bridgeVlan.lookup bond with
    | none => (0, s)
    | some vlans =>
      let pvid := (s.portPvid.lookup bond).getD 0
      (0, { s with
        swi := swiEach env.fm ok
          ((ascending vlans).flatMap fun (vid, outerVid, tagged) =>
            let vrfId := s.getVrfId vid
            [.egressBridgePortVlanAdd port vid (!tagged),
              .ingressPortVlanAdd port vid (vid == pvid) vrfId] ++
            if outerVid > 0 then
              [.egressPortPushVlanAdd port vid outerVid,
                .ingressPortPopVlanAdd port outerVid vid vrfId]
            -- The `uint16_t` is converted to `bool`.
            else [.ingressPortVlanAdd port vid (pvid != 0) vrfId]) s.swi })
  else
    (0, { s with
      swi := (s.vlansOf bond).foldl (fun sw vid =>
        (enableVlan env ok port vid (vid != env.portUntaggedVid) (s.getVrfId vid) sw).2) s.swi })

/-- `bond_member_detached`. -/
def bondMemberDetached (s : NlVlan M) (bond : PortId) (bridged : Bool) (port : PortId) :
    Int × NlVlan M :=
  if bond.1 = 0 then (-EINVAL, s)
  else if port.1 = 0 then (-EINVAL, s)
  else if bridged then
    match s.bridgeVlan.lookup bond with
    | none => (0, s)
    | some vlans =>
      let pvid := (s.portPvid.lookup bond).getD 0
      (0, { s with
        swi := swiEach env.fm ok
          ((ascending vlans).flatMap fun (vid, outerVid, _) =>
            let vrfId := s.getVrfId vid
            .egressBridgePortVlanRemove port vid ::
              if outerVid > 0 then
                [.ingressPortPopVlanRemove port outerVid vid vrfId,
                  .egressPortPushVlanRemove port vid outerVid]
              else [.ingressPortVlanRemove port vid (pvid != 0) vrfId]) s.swi })
  else
    (0, { s with
      swi := (s.vlansOf bond).foldl (fun sw vid =>
        (disableVlan env ok port vid (vid != env.portUntaggedVid) (s.getVrfId vid) sw).2) s.swi })

/-! ## VRFs -/

/-- `get_vid` of a VLAN interface with the given VLAN id. -/
def getVid (port : PortId) (isBridge : Bool) (vid : Nat) : Nat :=
  if !isBridge && port.1 = 0 then 0 else vid

/-- `vrf_attach` of a link with the VLAN `vid` (`get_vid`), to a VRF with the table `tableId`
(`get_vrf_table_id`). `fdb` is the ports of the entries of `search_fdb`. -/
def vrfAttach (s : NlVlan M) (vid tableId : Nat) (fdb : List PortId) : NlVlan M :=
  if vid = 0 then s
  else
    let vrf := if s.getVrfId vid = 0 then tableId else s.getVrfId vid
    let vlanVrf := if s.getVrfId vid = 0 then s.vlanVrf.emplace vid tableId else s.vlanVrf
    let sw := fdb.foldl (fun sw port => (removeIngressVlan env ok port vid true 0 sw).2) s.swi
    { s with
      vlanVrf := vlanVrf
      swi := fdb.foldl (fun sw port => (addIngressVlan env ok port vid true vrf sw).2) sw }

/-- `vrf_detach`. -/
def vrfDetach (s : NlVlan M) (vid : Nat) (fdb : List PortId) : NlVlan M :=
  if vid = 0 then s
  else
    match s.vlanVrf.lookup vid with
    | none => s
    | some vrf =>
      let sw := fdb.foldl (fun sw port => (removeIngressVlan env ok port vid true vrf sw).2) s.swi
      { s with
        vlanVrf := s.vlanVrf.erase vid
        swi := fdb.foldl (fun sw port => (addIngressVlan env ok port vid true 0 sw).2) sw }

end Functions

end NlVlan

end Basebox
