import Basebox.Lib.IdMap
import Basebox.Lib.SharedIds
import Basebox.Netlink.VxlanSwitch

/-!
# The ids of `nl_vxlan` (`src/netlink/nl_vxlan.cc`)

Access ports and endpoints take their port ids from one counter, tunnel next hops take theirs from
another. The counters are 32 bits wide, and an id is not used again when its port goes.

* `Ports`, `Hops`: all that a handler does to the ports and to the next hops of the maps, whatever
  the switch answers. A handler records one port at most.
* `idsDistinct_of_along`: as long as no counter has wrapped, no key is twice in a map, no port id is
  in use twice, and the two maps of next hops are inverse to each other.
* `goodIds_iff`: the port ids stay among those of VXLAN ports for the first 65535 ports. The next
  one is the id of a LAG.
-/

namespace Basebox

namespace NlVxlan

/-! ## The ports in the maps -/

/-- The keys and the ports of `access_port_ids`. -/
def accessLports (s : NlVxlan) : List (PportVlan × Nat) :=
  s.accessPortIds.map fun e => (e.1, e.2.lportId)

/-- The keys and the ports of `endpoint_id`. -/
def endpointLports (s : NlVxlan) : List (EndpointPort × Nat) :=
  s.endpoints.endpointId.map fun e => (e.1, e.2.lportId)

/-- The ids of the ports of both maps. -/
def lports (s : NlVxlan) : List Nat :=
  s.accessLports.map (·.2) ++ s.endpointLports.map (·.2)

theorem accessLports_keys (s : NlVxlan) : s.accessLports.map (·.1) = s.accessPortIds.keys := by
  simp [accessLports, MultiMap.keys, Function.comp_def]

theorem endpointLports_keys (s : NlVxlan) :
    s.endpointLports.map (·.1) = s.endpoints.endpointId.keys := by
  simp [endpointLports, MultiMap.keys, Function.comp_def]

/-- Access and endpoint ports share one counter without sharing an id. -/
def PortsInv (s : NlVxlan) : Prop :=
  SharedIds (2 ^ 32) s.accessLports s.endpointLports s.portIdCnt

/-- The maps of the ports are not touched. -/
structure PortsSame (s s' : NlVxlan) : Prop where
  access : s'.accessPortIds = s.accessPortIds
  endpoints : s'.endpoints = s.endpoints
  cnt : s'.portIdCnt = s.portIdCnt

/-- No port is recorded; some may go. -/
structure PortsKept (s s' : NlVxlan) : Prop where
  access : s'.accessLports.Sublist s.accessLports
  endpoints : s'.endpointLports.Sublist s.endpointLports
  cnt : s'.portIdCnt = s.portIdCnt

/-- One port at most is recorded, under a new key and with the value of the counter. -/
inductive Ports (s s' : NlVxlan) : Prop
  | kept (h : PortsKept s s')
  | access (key : PportVlan) (hkey : s.accessPortIds.find key = none)
      (hcnt : s'.portIdCnt = u32 (s.portIdCnt + 1))
      (haccess : s'.accessLports.Sublist (s.accessLports ++ [(key, s.portIdCnt)]))
      (hendpoints : s'.endpointLports.Sublist s.endpointLports)
  | endpoint (key : EndpointPort) (hkey : s.endpoints.endpointId.find key = none)
      (hcnt : s'.portIdCnt = u32 (s.portIdCnt + 1))
      (haccess : s'.accessLports.Sublist s.accessLports)
      (hendpoints : s'.endpointLports.Sublist (s.endpointLports ++ [(key, s.portIdCnt)]))

variable {s s' s'' : NlVxlan}

namespace PortsKept

theorem refl (s : NlVxlan) : PortsKept s s := ⟨.refl _, .refl _, rfl⟩

theorem of_same (h : PortsSame s s') : PortsKept s s' where
  access := by rw [accessLports, accessLports, h.access]
  endpoints := by rw [endpointLports, endpointLports, h.endpoints]
  cnt := h.cnt

theorem of_eq (ha : s'.accessPortIds = s.accessPortIds) (he : s'.endpoints = s.endpoints)
    (hc : s'.portIdCnt = s.portIdCnt) : PortsKept s s' := of_same ⟨ha, he, hc⟩

theorem trans (h : PortsKept s s') (h' : PortsKept s' s'') : PortsKept s s'' where
  access := h'.access.trans h.access
  endpoints := h'.endpoints.trans h.endpoints
  cnt := h'.cnt.trans h.cnt

end PortsKept

namespace Ports

theorem trans_kept (h : Ports s s') (h' : PortsKept s' s'') : Ports s s'' := by
  cases h with
  | kept h => exact .kept (h.trans h')
  | access key hkey hcnt ha he =>
    exact .access key hkey (h'.cnt.trans hcnt) (h'.access.trans ha) (h'.endpoints.trans he)
  | endpoint key hkey hcnt ha he =>
    exact .endpoint key hkey (h'.cnt.trans hcnt) (h'.access.trans ha) (h'.endpoints.trans he)

theorem of_same (h : PortsSame s s') (h' : Ports s' s'') : Ports s s'' := by
  cases h' with
  | kept h' => exact .kept ((PortsKept.of_same h).trans h')
  | access key hkey hcnt ha he =>
    rw [h.access] at hkey
    rw [h.cnt] at hcnt ha
    exact .access key hkey hcnt (ha.trans ((PortsKept.of_same h).access.append_right _))
      (he.trans (PortsKept.of_same h).endpoints)
  | endpoint key hkey hcnt ha he =>
    rw [h.endpoints] at hkey
    rw [h.cnt] at hcnt he
    exact .endpoint key hkey hcnt (ha.trans (PortsKept.of_same h).access)
      (he.trans ((PortsKept.of_same h).endpoints.append_right _))

/-- The ports stay distinct while the counter has not wrapped. -/
theorem inv (h : Ports s s') (hi : PortsInv s) (hc : s.portIdCnt ≠ 0) : PortsInv s' := by
  unfold PortsInv at hi ⊢
  cases h with
  | kept h =>
    rw [h.cnt]
    exact hi.sublist h.access h.endpoints
  | access key hkey hcnt ha he =>
    rw [hcnt]
    refine (hi.concat_left hc ?_).sublist ha he
    rw [accessLports_keys]
    exact MultiMap.find_eq_none.mp hkey
  | endpoint key hkey hcnt ha he =>
    rw [hcnt]
    refine (hi.concat_right hc ?_).sublist ha he
    rw [endpointLports_keys]
    exact MultiMap.find_eq_none.mp hkey

end Ports

/-! ## Tunnel next hops -/

/-- The next hops of both maps, and the counter of their ids. -/
def HopsInv (s : NlVxlan) : Prop :=
  IdMap TunnelNhPort.nhId (2 ^ 32) s.tunnelNextHopId s.tunnelNextHop2tnh s.nextHopIdCnt

/-- No next hop is recorded; some may go. -/
structure HopsKept (s s' : NlVxlan) : Prop where
  inv : HopsInv s → HopsInv s'
  cnt : s'.nextHopIdCnt = s.nextHopIdCnt

/-- What is kept while the counter has not wrapped. -/
def Hops (s s' : NlVxlan) : Prop := HopsInv s → s.nextHopIdCnt ≠ 0 → HopsInv s'

namespace HopsKept

theorem refl (s : NlVxlan) : HopsKept s s := ⟨id, rfl⟩

theorem of_eq (h : s'.tunnelNextHopId = s.tunnelNextHopId)
    (h2 : s'.tunnelNextHop2tnh = s.tunnelNextHop2tnh) (hc : s'.nextHopIdCnt = s.nextHopIdCnt) :
    HopsKept s s' where
  inv hi := by
    unfold HopsInv
    rw [h, h2, hc]
    exact hi
  cnt := hc

theorem trans (h : HopsKept s s') (h' : HopsKept s' s'') : HopsKept s s'' :=
  ⟨fun hi => h'.inv (h.inv hi), h'.cnt.trans h.cnt⟩

theorem hops (h : HopsKept s s') : Hops s s' := fun hi _ => h.inv hi

end HopsKept

theorem Hops.trans_kept (h : Hops s s') (h' : HopsKept s' s'') : Hops s s'' :=
  fun hi hc => h'.inv (h hi hc)

/-! ## Handlers that record nothing -/

/-- Ports and next hops may go; none is recorded. -/
structure Frees (s s' : NlVxlan) : Prop where
  ports : PortsKept s s'
  hops : HopsKept s s'

namespace Frees

theorem refl (s : NlVxlan) : Frees s s := ⟨.refl s, .refl s⟩

theorem trans (h : Frees s s') (h' : Frees s' s'') : Frees s s'' :=
  ⟨h.ports.trans h'.ports, h.hops.trans h'.hops⟩

/-- The result of a handler does not matter. -/
theorem snd {rv : Int} (h : Frees s s') : Frees s (rv, s').2 := h

end Frees

section Frees

variable (r : SwResults) (s : NlVxlan)

theorem frees_send (c : SwCall) : Frees s (s.send r c).2 := ⟨.of_eq rfl rfl rfl, .of_eq rfl rfl rfl⟩

theorem frees_enableFlooding (tunnelId lportId : Nat) :
    Frees s (s.enableFlooding r tunnelId lportId).2 := frees_send r s _

theorem frees_disableFlooding (tunnelId lportId : Nat) :
    Frees s (s.disableFlooding r tunnelId lportId).2 := frees_send r s _

theorem frees_eraseAccessPort (key : PportVlan) :
    Frees s { s with accessPortIds := s.accessPortIds.erase key } where
  ports := { access := List.eraseP_sublist.map _, endpoints := .refl _, cnt := rfl }
  hops := .of_eq rfl rfl rfl

theorem frees_deleteAccessPort (flooding : Bool) (pportNo vid : Nat) (wipe : Bool) :
    Frees s (s.deleteAccessPort r flooding pportNo vid wipe).2 := by
  unfold deleteAccessPort
  cases s.accessPortIds.find ⟨pportNo, vid⟩ with
  | none => exact .refl s
  | some tp =>
    have hwipe : Frees s (if wipe then
        (s.send r (.l2OverlayAddrRemove tp.tunnelId tp.lportId (BitVec.allOnes 48))).2 else s) := by
      split
      · exact frees_send r s _
      · exact .refl s
    refine .trans (.trans (.trans (hwipe.trans ?_) (frees_send r _ _)) (frees_send r _ _))
      (frees_eraseAccessPort _ _)
    cases flooding
    · exact .refl _
    · exact frees_disableFlooding r _ _ _

theorem frees_tryAccessPort (pportNo vid : Nat) (untagged : Bool) (retries : Nat) :
    Frees s (tryAccessPort r pportNo vid untagged retries s).2 := by
  induction retries generalizing s with
  | zero => exact frees_send r s _
  | succ n ih =>
    simp only [tryAccessPort]
    split
    · exact (frees_send r s _).trans (ih _)
    · exact frees_send r s _

theorem frees_deleteNextHopTnh (tnh : TunnelNh) : Frees s (s.deleteNextHopTnh r tnh).2 := by
  unfold deleteNextHopTnh
  cases hx : s.tunnelNextHopId.find tnh with
  | none => exact .refl s
  | some x =>
    simp only
    split
    · refine (frees_send r s (.tunnelNextHopDelete x.nhId)).trans ⟨.of_eq rfl rfl rfl, ?_, rfl⟩
      exact fun h => IdMap.erase h hx
    · exact ⟨.of_eq rfl rfl rfl, fun h =>
        IdMap.modify h tnh (fun x => { x with refcnt := x.refcnt - 1 }) fun _ => rfl, rfl⟩

theorem frees_deleteNextHop (nhId : Nat) : Frees s (s.deleteNextHop r nhId).2 := by
  unfold deleteNextHop
  cases s.tunnelNextHop2tnh.lookup nhId with
  | none => exact .refl s
  | some tnh => exact frees_deleteNextHopTnh r s tnh

theorem frees_deleteNextHopNeigh (k : Kernel) (ifindex : Int) (dstMac : Mac) :
    Frees s (deleteNextHopNeigh r k s ifindex dstMac).2 := by
  unfold deleteNextHopNeigh
  cases k.linkByIfindex ifindex with
  | none => exact .refl s
  | some link =>
    simp only
    split
    · exact .refl s
    · cases link.addr with
      | none => exact .refl s
      | some srcMac => exact frees_deleteNextHopTnh r s _

theorem frees_addL2NeighPort (mac : Mac) (lport tunnelId : Nat) :
    Frees s (s.addL2NeighPort r mac lport tunnelId).2 := by
  unfold addL2NeighPort
  split
  · exact .refl s
  · exact frees_send r s _

/-- An update of an endpoint that keeps its port. -/
theorem frees_modifyEndpoint (ep : EndpointPort) (f : EndpointTunnelPort → EndpointTunnelPort)
    (held : EndpointPort → Nat → Nat) (hf : ∀ x, (f x).lportId = x.lportId) :
    Frees s { s with endpoints := ⟨s.endpoints.endpointId.modify ep f, held⟩ } where
  ports :=
    { access := .refl _
      endpoints := by
        have hmap : List.map (fun e => (e.1, e.2.lportId)) (s.endpoints.endpointId.modify ep f) =
            List.map (fun e => (e.1, e.2.lportId)) s.endpoints.endpointId :=
          map_modifyFirst fun x _ _ => by rw [hf]
        simp only [endpointLports, hmap]
        exact .refl _
      cnt := rfl }
  hops := .of_eq rfl rfl rfl

theorem frees_ref (ep : EndpointPort) (vni : Nat) :
    Frees s { s with endpoints := s.endpoints.ref ep vni } :=
  frees_modifyEndpoint s ep _ _ fun _ => rfl

theorem frees_dec (ep : EndpointPort) (vni : Nat) :
    Frees s { s with endpoints := s.endpoints.dec ep vni } :=
  frees_modifyEndpoint s ep _ _ fun _ => rfl

theorem frees_eraseEntry (ep : EndpointPort) :
    Frees s { s with endpoints := s.endpoints.eraseEntry ep } where
  ports := { access := .refl _, endpoints := List.eraseP_sublist.map _, cnt := rfl }
  hops := .of_eq rfl rfl rfl

theorem frees_leaveTenant (vni tunnelId : Nat) (x : EndpointTunnelPort) :
    Frees s (s.leaveTenant r vni tunnelId x).2 := by
  unfold leaveTenant
  split
  · exact frees_send r s _
  · exact .refl s

theorem frees_releasePort (ep : EndpointPort) (x : EndpointTunnelPort) {left : Int × NlVxlan}
    (h : Frees s left.2) : Frees s (releasePort r ep x left).2 := by
  unfold releasePort
  split
  · exact h
  · split
    · exact ((h.trans (frees_send r _ _)).trans (frees_deleteNextHop r _ _)).trans
        (frees_eraseEntry _ _)
    · exact h

theorem frees_releaseEndpoint (ep : EndpointPort) (vni tunnelId : Nat) (x : EndpointTunnelPort) :
    Frees s (s.releaseEndpoint r ep vni tunnelId x).2 :=
  frees_releasePort r s ep x
    ((frees_dec s ep vni).trans (frees_leaveTenant r _ vni tunnelId x))

theorem frees_deleteEndpointRemote (link : VxlanLink) (loc remote : Addr) :
    Frees s (s.deleteEndpointRemote r link loc remote).2 := by
  unfold deleteEndpointRemote
  cases s.vni2tunnel.lookup link.vni with
  | none => exact .refl s
  | some tunnelId =>
    simp only
    cases s.endpoints.endpointId.find (link.endpointPort loc remote) with
    | none => exact .refl s
    | some x => exact (frees_disableFlooding r s _ _).trans (frees_releaseEndpoint r _ _ _ _ _)

/-- The neighbours at a remote, one after the other. -/
theorem frees_addL2NeighPorts (macs : List Mac) (lport tunnelId : Nat) (rv : Int) :
    Frees s (macs.foldl (fun (_, s) mac => s.addL2NeighPort r mac lport tunnelId) (rv, s)).2 := by
  induction macs generalizing s rv with
  | nil => exact .refl s
  | cons mac macs ih =>
    rw [List.foldl_cons]
    exact (frees_addL2NeighPort r s mac lport tunnelId).trans (ih _ _)

theorem frees_setupEndpoint (k : Kernel) (link : VxlanLink) (loc remote : Addr)
    (nhId lport tunnelId : Nat) :
    Frees s (setupEndpoint r k s link loc remote nhId lport tunnelId).2 := by
  have hadd := frees_send r s (.tunnelPortTenantAdd lport tunnelId)
  unfold setupEndpoint
  simp only
  split
  · exact (hadd.trans (frees_deleteEndpointRemote r _ _ _ _)).trans (frees_deleteNextHop r _ _)
  · refine .trans ?_ (frees_addL2NeighPorts r _ _ _ _ _)
    split
    · have hflood := hadd.trans (frees_enableFlooding r _ tunnelId lport)
      split
      · exact (((hflood.trans (frees_disableFlooding r _ _ _)).trans (frees_send r _ _)).trans
          (frees_deleteEndpointRemote r _ _ _ _)).trans (frees_deleteNextHop r _ _)
      · exact hflood
    · exact hadd

theorem frees_deleteEndpoint (link : VxlanLink) : Frees s (s.deleteEndpoint r link).2 := by
  unfold deleteEndpoint
  cases link.localAddr with
  | none => exact .refl s
  | some loc =>
    cases link.group with
    | none => exact .refl s
    | some remote => exact frees_deleteEndpointRemote r s link loc remote

theorem frees_deleteL2NeighEndpoint (link : VxlanLink) (loc remote : Addr) (mac : Mac) :
    Frees s (s.deleteL2NeighEndpoint r link loc remote mac).2 := by
  unfold deleteL2NeighEndpoint
  cases s.vni2tunnel.lookup link.vni with
  | none => exact .refl s
  | some tunnelId =>
    simp only
    split
    · exact .refl s
    · have hremove := frees_send r s (.l2OverlayAddrRemove tunnelId 0 mac)
      split
      · exact hremove
      · exact .snd (hremove.trans (frees_releaseEndpoint r _ _ _ _ _))

theorem frees_deleteL2Neigh (link : VxlanLink) (mac : Mac) (dst : Option Addr)
    {res : Int × NlVxlan} (h : s.deleteL2Neigh r link mac dst = some res) : Frees s res.2 := by
  unfold deleteL2Neigh at h
  repeat' split at h
  all_goals cases h
  all_goals first
    | exact frees_deleteEndpointRemote r s link _ _
    | exact frees_deleteL2NeighEndpoint r s link _ _ mac
    | exact .refl s

theorem frees_createVni (link : VxlanLink) : Frees s (s.createVni r link).2 := by
  unfold createVni
  cases link.isVxlan with
  | false => exact .refl s
  | true =>
    cases s.vni2tunnel.lookup link.vni with
    | some tunnelId => exact .refl s
    | none =>
      have hcreate := frees_send r s (.tunnelTenantCreate s.tunnelIdCnt link.vni)
      simp only [Bool.not_true, Bool.false_eq_true, if_false]
      split
      · exact hcreate
      · have hadd := hcreate.trans (frees_send r _ (.overlayTunnelAdd s.tunnelIdCnt))
        split
        · exact hadd.trans (frees_send r _ _)
        · exact hadd.trans ⟨.of_eq rfl rfl rfl, .of_eq rfl rfl rfl⟩

theorem frees_removeVni (link : VxlanLink) : Frees s (s.removeVni r link).2 := by
  unfold removeVni
  cases link.isVxlan with
  | false => exact .refl s
  | true =>
    cases s.vni2tunnel.lookup link.vni with
    | none => exact .refl s
    | some tunnelId =>
      have hdelete := (frees_send r s (.overlayTunnelRemove tunnelId)).trans
        (frees_send r _ (.tunnelTenantDelete tunnelId))
      simp only [Bool.not_true, Bool.false_eq_true, if_false]
      split
      · exact hdelete
      · exact hdelete.trans ⟨.of_eq rfl rfl rfl, .of_eq rfl rfl rfl⟩

end Frees

/-! ## Handlers that record a port or a next hop -/

/-- What a handler may do: record a port and a next hop, and let others go. -/
structure Changes (s s' : NlVxlan) : Prop where
  ports : Ports s s'
  hops : Hops s s'

theorem Frees.changes (h : Frees s s') : Changes s s' := ⟨.kept h.ports, h.hops.hops⟩

theorem Changes.trans_frees (h : Changes s s') (h' : Frees s' s'') : Changes s s'' :=
  ⟨h.ports.trans_kept h'.ports, h.hops.trans_kept h'.hops⟩

section Changes

variable (r : SwResults) (s : NlVxlan)

/-- Every access port in the map has a port id that is not zero. -/
theorem PortsInv.lport_ne_zero (h : PortsInv s) {key : PportVlan} {tp : AccessTunnelPort}
    (htp : s.accessPortIds.find key = some tp) : tp.lportId ≠ 0 := by
  have hmem : (key, tp) ∈ s.accessPortIds :=
    (MultiMap.mem_iff_find (by
      unfold MultiMap.NodupKeys
      rw [← accessLports_keys]
      exact h.left)).mpr htp
  have hid : tp.lportId ∈ s.lports := by
    simp only [lports, accessLports, List.mem_append, List.mem_map]
    exact .inl ⟨_, ⟨_, hmem, rfl⟩, rfl⟩
  exact (h.pos _ hid).ne'

/-- An access port is recorded. -/
theorem changes_recordAccessPort (h : Frees s s') {key : PportVlan}
    (hkey : s.accessPortIds.find key = none) (tunnelId : Nat) :
    Changes s { s' with
      accessPortIds := s'.accessPortIds.emplace key { lportId := s'.portIdCnt, tunnelId := tunnelId }
      portIdCnt := u32 (s'.portIdCnt + 1) } where
  ports := by
    refine .access key hkey (by rw [h.ports.cnt]) ?_ h.ports.endpoints
    have hlports : (s'.accessPortIds.emplace key ⟨s'.portIdCnt, tunnelId⟩).map
        (fun e => (e.1, e.2.lportId)) = s'.accessLports ++ [(key, s.portIdCnt)] := by
      rw [← h.ports.cnt]
      exact List.map_append
    simp only [accessLports] at hlports ⊢
    rw [hlports]
    exact h.ports.access.append_right _
  hops := h.hops.hops.trans_kept (.of_eq rfl rfl rfl)

theorem changes_createAccessPort (hs : PortsInv s) (flooding : Bool) (tunnelId pportNo vid : Nat)
    (untagged : Bool) :
    Changes s (s.createAccessPort r flooding tunnelId pportNo vid untagged).2 := by
  unfold createAccessPort
  simp only [getAccessTunnelPort]
  cases hfind : s.accessPortIds.find ⟨pportNo, vid⟩ with
  | some tp =>
    -- A port that is recorded is not zero, so the search finds it.
    simp only [Option.getD_some, hs.lport_ne_zero s hfind, ne_eq, not_false_iff, true_or, if_true]
    exact (Frees.refl s).changes
  | none =>
    simp only [Option.getD_none, ne_eq, not_true_eq_false, or_self, if_false]
    have htry := ((frees_send r s (.egressBridgePortVlanRemove pportNo vid)).trans
      (frees_send r _ (.ingressPortVlanRemove pportNo vid untagged))).trans
      (frees_tryAccessPort r _ pportNo vid untagged 49)
    generalize tryAccessPort r pportNo vid untagged 49 _ = tried at htry ⊢
    split
    · exact htry.changes
    · have hadd := htry.trans (frees_send r _ (.tunnelPortTenantAdd tried.2.portIdCnt tunnelId))
      generalize tried.2.send r (.tunnelPortTenantAdd tried.2.portIdCnt tunnelId) = added
        at hadd ⊢
      split
      · exact (hadd.trans (frees_deleteAccessPort r _ _ _ _ _)).changes
      · cases flooding with
        | false =>
          simp only [Bool.false_eq_true, if_false]
          split
          · next hneg hpos => exact absurd hpos hneg
          · exact changes_recordAccessPort s hadd hfind tunnelId
        | true =>
          simp only [if_true]
          have hflood := hadd.trans (frees_enableFlooding r _ tunnelId added.2.portIdCnt)
          generalize added.2.enableFlooding r tunnelId added.2.portIdCnt = flooded at hflood ⊢
          split
          · exact (((hflood.trans (frees_disableFlooding r _ _ _)).trans (frees_send r _ _)).trans
              (frees_deleteAccessPort r _ _ _ _ _)).changes
          · exact changes_recordAccessPort s hflood hfind tunnelId

theorem createNextHopNeigh_ids (k : Kernel) (ifindex : Int) (dstMac : Mac) :
    PortsSame s (createNextHopNeigh r k s ifindex dstMac).2.2 ∧
      Hops s (createNextHopNeigh r k s ifindex dstMac).2.2 := by
  unfold createNextHopNeigh
  cases k.linkByIfindex ifindex with
  | none => exact ⟨⟨rfl, rfl, rfl⟩, (HopsKept.refl s).hops⟩
  | some link =>
    simp only
    split
    · exact ⟨⟨rfl, rfl, rfl⟩, (HopsKept.refl s).hops⟩
    · cases link.addr with
      | none => exact ⟨⟨rfl, rfl, rfl⟩, (HopsKept.refl s).hops⟩
      | some srcMac =>
        simp only
        generalize (⟨srcMac, dstMac, link.portId, k.portUntaggedVid⟩ : TunnelNh) = tnh
        cases hx : s.tunnelNextHopId.find tnh with
        | some x =>
          exact ⟨⟨rfl, rfl, rfl⟩, fun h _ =>
            IdMap.modify h tnh (fun x => { x with refcnt := x.refcnt + 1 }) fun _ => rfl⟩
        | none =>
          have hsend := frees_send r s (.tunnelNextHopCreate s.nextHopIdCnt tnh)
          simp only
          split
          · exact ⟨⟨rfl, rfl, rfl⟩, hsend.hops.hops⟩
          · exact ⟨⟨rfl, rfl, rfl⟩, fun h hc =>
              (hsend.hops.inv h).emplace hc hx rfl⟩

theorem createNextHop_ids (k : Kernel) (link : VxlanLink) (remote : Addr) :
    PortsSame s (createNextHop r k s link remote).2.2 ∧
      Hops s (createNextHop r k s link remote).2.2 := by
  unfold createNextHop
  cases k.queryRoute remote with
  | none => exact ⟨⟨rfl, rfl, rfl⟩, (HopsKept.refl s).hops⟩
  | some route =>
    simp only
    split
    · exact ⟨⟨rfl, rfl, rfl⟩, (HopsKept.refl s).hops⟩
    · split
      · exact createNextHopNeigh_ids r s k _ _
      · exact ⟨⟨rfl, rfl, rfl⟩, HopsKept.hops (.of_eq rfl rfl rfl)⟩

theorem createEndpointPort_ids (link : VxlanLink) (loc remote : Addr) (nhId : Nat) :
    Ports s (s.createEndpointPort r link loc remote nhId).2.2 ∧
      HopsKept s (s.createEndpointPort r link loc remote nhId).2.2 := by
  unfold createEndpointPort
  simp only
  generalize link.endpointPort loc remote = ep
  cases hx : s.endpoints.endpointId.find ep with
  | some x =>
    have href := frees_ref s ep link.vni
    exact ⟨.kept href.ports, href.hops⟩
  | none =>
    have hsend := frees_send r s (.tunnelEndpointCreate s.portIdCnt ep nhId)
    simp only
    split
    · exact ⟨.kept hsend.ports, hsend.hops⟩
    · refine ⟨.endpoint ep hx rfl (.refl _) ?_, .of_eq rfl rfl rfl⟩
      have hlports : (s.endpoints.endpointId.emplace ep ⟨1, s.portIdCnt, nhId,
          (∅ : Table Nat Nat).insert link.vni 1⟩).map (fun e => (e.1, e.2.lportId)) =
          s.endpointLports ++ [(ep, s.portIdCnt)] := List.map_append
      rw [← hlports]
      exact .refl _

theorem changes_createEndpointRemote (k : Kernel) (link : VxlanLink) (remote : Addr) :
    Changes s (createEndpointRemote r k s link remote).2 := by
  unfold createEndpointRemote
  split
  · exact (Frees.refl s).changes
  · cases link.localAddr with
    | none => exact (Frees.refl s).changes
    | some loc =>
      simp only
      split
      · exact (Frees.refl s).changes
      · have hhop := createNextHop_ids r s k link remote
        generalize createNextHop r k s link remote = nh at hhop ⊢
        obtain ⟨rv, nhId, s₁⟩ := nh
        have hchanges : Changes s s₁ := ⟨.kept (.of_same hhop.1), hhop.2⟩
        simp only
        split
        · exact hchanges.trans_frees ⟨.of_eq rfl rfl rfl, .of_eq rfl rfl rfl⟩
        · split
          · exact hchanges
          · cases s₁.vni2tunnel.lookup link.vni with
            | none => exact hchanges
            | some tunnelId =>
              have hport := createEndpointPort_ids r s₁ link loc remote nhId
              generalize s₁.createEndpointPort r link loc remote nhId = port at hport ⊢
              obtain ⟨rv, lport, s₂⟩ := port
              have hboth : Changes s s₂ := ⟨.of_same hhop.1 hport.1, hhop.2.trans_kept hport.2⟩
              simp only
              split
              · exact hboth.trans_frees (frees_deleteNextHop r s₂ nhId)
              · exact hboth.trans_frees (frees_setupEndpoint r s₂ k link loc remote nhId _ _)

theorem changes_createEndpoint (k : Kernel) (link : VxlanLink) :
    Changes s (createEndpoint r k s link).2 := by
  unfold createEndpoint
  split
  · exact (Frees.refl s).changes
  · cases link.group with
    | none => exact (Frees.refl s).changes
    | some group =>
      simp only
      split
      · exact (Frees.refl s).changes
      · exact changes_createEndpointRemote r s k link group

theorem changes_netReachableNotification (k : Kernel) (params : NetParams) :
    Changes s (netReachableNotification r k s params) := by
  unfold netReachableNotification
  cases k.vxlanLink params.ifindex with
  | none => exact (Frees.refl s).changes
  | some link =>
    simp only
    split
    · exact (Frees.refl s).changes
    · exact changes_createEndpointRemote r s k link params.addr

theorem changes_addL2NeighRemote (k : Kernel) (link : VxlanLink) (mac : Mac) (loc remote : Addr) :
    Changes s (addL2NeighRemote r k s link mac loc remote).2 := by
  unfold addL2NeighRemote
  split
  · exact (Frees.refl s).changes
  · cases s.vni2tunnel.lookup link.vni with
    | none => exact (Frees.refl s).changes
    | some tunnelId =>
      simp only
      generalize ((s.endpoints.endpointId.find (link.endpointPort loc remote)).map
        (·.lportId)).getD 0 = lport
      split
      · split
        · exact changes_createEndpointRemote r s k link remote
        · have href := (frees_send r s (.tunnelPortTenantAdd lport tunnelId)).trans
            (frees_ref _ (link.endpointPort loc remote) link.vni)
          split
          · exact href.changes
          · split
            · exact (href.trans (frees_enableFlooding r _ _ _)).changes
            · exact href.changes
      · split
        · exact (Frees.refl s).changes
        · have hadd := frees_addL2NeighPort r s mac lport tunnelId
          split
          · exact hadd.changes
          · exact (hadd.trans (frees_ref _ _ _)).changes

theorem changes_addL2Neigh (k : Kernel) (link : VxlanLink) (mac : Mac) (dst : Option Addr) :
    Changes s (addL2Neigh r k s link mac dst).2 := by
  unfold addL2Neigh
  split
  · exact (Frees.refl s).changes
  · split
    · exact changes_addL2NeighRemote r s k link mac _ _
    · exact (Frees.refl s).changes

/-- What an event does to the ports and to the next hops. -/
theorem changes_exec (hs : PortsInv s) {e : Ev} (h : s.exec r e = some s') : Changes s s' := by
  cases e with
  | createAccessPort flooding tunnelId pportNo vid untagged =>
    cases h
    exact changes_createAccessPort r s hs flooding tunnelId pportNo vid untagged
  | deleteAccessPort flooding pportNo vid wipe =>
    cases h
    exact (frees_deleteAccessPort r s flooding pportNo vid wipe).changes
  | createEndpoint k link => cases h; exact changes_createEndpoint r s k link
  | netReachable k params => cases h; exact changes_netReachableNotification r s k params
  | addL2Neigh k link mac dst => cases h; exact changes_addL2Neigh r s k link mac dst
  | deleteL2Neigh link mac dst =>
    obtain ⟨res, hres, rfl⟩ := Option.map_eq_some_iff.mp h
    exact (frees_deleteL2Neigh r s link mac dst hres).changes
  | deleteEndpoint link => cases h; exact (frees_deleteEndpoint r s link).changes
  | createNextHop k link remote =>
    cases h
    have hids := createNextHop_ids r s k link remote
    exact ⟨.kept (.of_same hids.1), hids.2⟩
  | deleteNextHop nhId => cases h; exact (frees_deleteNextHop r s nhId).changes
  | deleteNextHopNeigh k ifindex dstMac =>
    cases h
    exact (frees_deleteNextHopNeigh r s k ifindex dstMac).changes
  | createVni link => cases h; exact (frees_createVni r s link).changes
  | removeVni link => cases h; exact (frees_removeVni r s link).changes

end Changes

/-! ## Runs -/

/-- No counter has come round to zero. -/
def NotWrapped : Option NlVxlan → Ev → Prop
  | none, _ => True
  | some s, _ => s.portIdCnt ≠ 0 ∧ s.nextHopIdCnt ≠ 0

/-- What the keys and the ids of the maps are to be. -/
structure IdsDistinct (s : NlVxlan) : Prop where
  access : s.accessPortIds.NodupKeys
  nextHops : s.tunnelNextHopId.NodupKeys
  endpoints : s.endpoints.endpointId.NodupKeys
  back : ∀ id tnh, s.tunnelNextHop2tnh.lookup id = some tnh ↔
    ∃ x, (tnh, x) ∈ s.tunnelNextHopId ∧ x.nhId = id
  lports : s.lports.Nodup

/-- A state in which the ids are in order. -/
def IdsInv : Option NlVxlan → Prop
  | none => True
  | some s => s.PortsInv ∧ s.HopsInv

theorem IdsInv.init : IdsInv (some {}) :=
  ⟨SharedIds.empty (by decide), IdMap.empty (by decide)⟩

theorem IdsInv.step {r : SwResults} {o : Option NlVxlan} {e : Ev} (h : IdsInv o)
    (hw : NotWrapped o e) : IdsInv (step r o e) := by
  cases o with
  | none => trivial
  | some s =>
    cases hx : s.exec r e with
    | none => simp [NlVxlan.step, hx, IdsInv]
    | some s' =>
      have hchanges := changes_exec r s h.1 hx
      simp only [NlVxlan.step, hx]
      exact ⟨hchanges.ports.inv h.1 hw.1, hchanges.hops h.2 hw.2⟩

theorem IdsInv.distinct {s : NlVxlan} (h : IdsInv (some s)) : IdsDistinct s where
  access := by
    unfold MultiMap.NodupKeys
    rw [← accessLports_keys]
    exact h.1.left
  nextHops := h.2.nodup
  endpoints := by
    unfold MultiMap.NodupKeys
    rw [← endpointLports_keys]
    exact h.1.right
  back id tnh := by
    rw [h.2.back, Option.map_eq_some_iff]
    simp only [MultiMap.mem_iff_find h.2.nodup]
  lports := h.1.ids

/-- **The ids of `nl_vxlan`.** Whatever the switch answers, as long as no counter has wrapped, no
key is twice in a map, `tunnel_next_hop2tnh` has exactly the ids of the next hops with their keys,
and no port id is recorded twice. -/
theorem idsDistinct_of_along (r : SwResults) (es : List Ev)
    (h : Along (NlVxlan.step r) NotWrapped (some {}) es) {s : NlVxlan}
    (hs : run (NlVxlan.step r) (some {}) es = some s) : IdsDistinct s := by
  have hinv : IdsInv (run (NlVxlan.step r) (some {}) es) :=
    run_inv IdsInv.init (fun _ _ hi hw => hi.step hw) h
  rw [hs] at hinv
  exact hinv.distinct

instance NotWrapped.decidable : ∀ o e, Decidable (NotWrapped o e)
  | none, _ => .isTrue trivial
  | some s, _ => inferInstanceAs (Decidable (s.portIdCnt ≠ 0 ∧ s.nextHopIdCnt ≠ 0))

/-- One port of each kind. -/
def recordBoth : List Ev :=
  [.createVni (Vxlan.tunnelLink 1), .createAccessPort true 10 1 5 false,
    .createEndpoint Vxlan.reachableKernel (Vxlan.tunnelLink 1)]

/-- An access port and an endpoint. -/
theorem idsDistinct_recordBoth : ∃ s, run (NlVxlan.step fun _ _ => 0) (some {}) recordBoth = some s ∧
    s.lports = [65537, 65538] ∧ IdsDistinct s :=
  ⟨_, rfl, by decide, idsDistinct_of_along (fun _ _ => 0) recordBoth (by decide) rfl⟩

/-! ## The range of the port ids -/

/-- The port id that an event takes. -/
def allocated (r : SwResults) (o : Option NlVxlan) (e : Ev) : Option Nat :=
  match o, NlVxlan.step r o e with
  | some s, some s' => if s'.portIdCnt = s.portIdCnt then none else some s.portIdCnt
  | _, _ => none

/-- How many port ids a run takes. -/
def allocations (r : SwResults) : Option NlVxlan → List Ev → Nat
  | _, [] => 0
  | o, e :: es => (allocated r o e).toList.length + allocations r (NlVxlan.step r o e) es

/-- The id of a VXLAN port that no LAG and no port of the maps has. -/
structure GoodId (s : NlVxlan) (id : Nat) : Prop where
  type : Nbi.getPortType id = Nbi.PortType.vxlan.code
  num : Nbi.getPortNum id ≠ 0
  notLag : ∀ n, id ≠ Nbi.combinePortType n .lag
  unused : id ∉ s.lports

/-- If the event takes a port id, it is a good one. -/
def TakesGood (r : SwResults) (o : Option NlVxlan) (e : Ev) : Prop :=
  ∀ s id, o = some s → allocated r o e = some id → GoodId s id

section Range

variable {r : SwResults}

theorem allocations_none (es : List Ev) : allocations r none es = 0 := by
  induction es with
  | nil => rfl
  | cons e es ih => simpa [allocations, allocated, NlVxlan.step] using ih

theorem along_takesGood_none (es : List Ev) : Along (NlVxlan.step r) (TakesGood r) none es := by
  induction es with
  | nil => trivial
  | cons e es ih => exact ⟨fun _ _ h => (by cases h), ih⟩

/-- The ids of the first 65535 ports are those from 65537 to 131071. -/
theorem goodId_iff {s : NlVxlan} {n : Nat} (hinv : PortsInv s) (hcnt : s.portIdCnt = 65537 + n)
    (hn : n ≤ 65535) : GoodId s s.portIdCnt ↔ n < 65535 := by
  constructor
  · intro h
    have htype := h.type
    rw [Nbi.getPortType_eq, hcnt] at htype
    simp only [Nbi.PortType.code] at htype
    omega
  · intro hlt
    have htype : Nbi.getPortType s.portIdCnt = Nbi.PortType.vxlan.code := by
      rw [Nbi.getPortType_eq, hcnt]
      simp only [Nbi.PortType.code]
      omega
    refine ⟨htype, ?_, fun k hk => ?_, hinv.notMem (by omega)⟩
    · rw [Nbi.getPortNum_eq, hcnt]
      omega
    · rw [hk, Nbi.getPortType_combine] at htype
      cases htype

/-- From a state in which `n` ids have been taken. -/
theorem along_takesGood_iff {s : NlVxlan} {n : Nat} (hinv : PortsInv s)
    (hcnt : s.portIdCnt = 65537 + n) (hn : n ≤ 65535) (es : List Ev) :
    Along (NlVxlan.step r) (TakesGood r) (some s) es ↔ n + allocations r (some s) es ≤ 65535 := by
  induction es generalizing s n with
  | nil => simpa [Along, allocations] using hn
  | cons e es ih =>
    simp only [Along, allocations]
    cases hx : s.exec r e with
    | none =>
      have hstep : NlVxlan.step r (some s) e = none := hx
      have hnone : allocated r (some s) e = none := by simp [allocated, hstep]
      simp [TakesGood, hnone, hstep, allocations_none, along_takesGood_none, hn]
    | some s' =>
      have hstep : NlVxlan.step r (some s) e = some s' := hx
      have hports := (changes_exec r s hinv hx).ports
      have hinv' : PortsInv s' := hports.inv hinv (by omega)
      have hmoved : s'.portIdCnt = s.portIdCnt ∨ s'.portIdCnt = u32 (s.portIdCnt + 1) := by
        cases hports with
        | kept h => exact .inl h.cnt
        | access _ _ h => exact .inr h
        | endpoint _ _ h => exact .inr h
      by_cases hsame : s'.portIdCnt = s.portIdCnt
      · have hnone : allocated r (some s) e = none := by simp [allocated, hstep, hsame]
        simpa [TakesGood, hnone, hstep] using ih hinv' (hsame.trans hcnt) hn
      · have htaken : allocated r (some s) e = some s.portIdCnt := by
          simp [allocated, hstep, hsame]
        have hnext : s'.portIdCnt = 65537 + (n + 1) := by
          rw [hmoved.resolve_left hsame, hcnt]
          unfold u32
          omega
        have hgood : TakesGood r (some s) e ↔ n < 65535 := by
          rw [← goodId_iff hinv hcnt hn, TakesGood, htaken]
          simp
        rw [hgood, hstep, htaken, Option.toList_some, List.length_singleton]
        constructor
        · rintro ⟨hlt, hrest⟩
          have := (ih hinv' hnext hlt).mp hrest
          omega
        · intro hle
          have hlt : n < 65535 := by omega
          exact ⟨hlt, (ih hinv' hnext hlt).mpr (by omega)⟩

/-- **The range of the port ids.** All port ids that a run takes are those of VXLAN ports, with a
number, not of a LAG and not in use, exactly if it takes 65535 at most. -/
theorem goodIds_iff (r : SwResults) (es : List Ev) :
    Along (NlVxlan.step r) (TakesGood r) (some {}) es ↔ allocations r (some {}) es ≤ 65535 := by
  have h := along_takesGood_iff (r := r) (s := {}) (n := 0) IdsInv.init.1 rfl (by decide) es
  rwa [Nat.zero_add] at h

/-- An access port is created and deleted `n` times. -/
def churn (n : Nat) : List Ev :=
  (List.replicate n [.createAccessPort false 10 1 5 false, .deleteAccessPort false 1 5 false]).flatten

theorem createAccessPort_empty {s : NlVxlan} (hnone : s.accessPortIds = []) :
    (s.createAccessPort (fun _ _ => 0) false 10 1 5 false).2.accessPortIds =
      [(⟨1, 5⟩, ⟨s.portIdCnt, 10⟩)] ∧
    (s.createAccessPort (fun _ _ => 0) false 10 1 5 false).2.portIdCnt = u32 (s.portIdCnt + 1) := by
  simp [createAccessPort, getAccessTunnelPort, hnone, send, tryAccessPort, MultiMap.emplace]

theorem deleteAccessPort_only {s : NlVxlan} {tp : AccessTunnelPort}
    (hone : s.accessPortIds = [(⟨1, 5⟩, tp)]) :
    (s.deleteAccessPort (fun _ _ => 0) false 1 5 false).2.accessPortIds = [] ∧
    (s.deleteAccessPort (fun _ _ => 0) false 1 5 false).2.portIdCnt = s.portIdCnt := by
  simp [deleteAccessPort, hone, MultiMap.find_cons, send, MultiMap.erase]

/-- Each time takes an id. -/
theorem allocations_churn {s : NlVxlan} (hnone : s.accessPortIds = []) (n : Nat)
    (hn : s.portIdCnt + n < 2 ^ 32) :
    allocations (fun _ _ => 0) (some s) (churn n) = n := by
  induction n generalizing s with
  | zero => rfl
  | succ n ih =>
    obtain ⟨hports, hcnt⟩ := createAccessPort_empty hnone
    obtain ⟨hports', hcnt'⟩ := deleteAccessPort_only hports
    have hnext : u32 (s.portIdCnt + 1) = s.portIdCnt + 1 := Nat.mod_eq_of_lt (by omega)
    have hrest := ih hports' (by rw [hcnt', hcnt, hnext]; omega)
    simp only [churn, List.replicate_succ, List.flatten_cons, List.cons_append, List.nil_append,
      allocations, allocated, NlVxlan.step, exec, hcnt, hcnt', hnext] at hrest ⊢
    rw [hrest]
    simp
    omega

/-- After 65535 access ports the next one has the id of LAG 0. -/
theorem churn65536_not_good :
    ¬ Along (NlVxlan.step fun _ _ => 0) (TakesGood fun _ _ => 0) (some {}) (churn 65536) := by
  have h := along_takesGood_iff (r := fun _ _ => 0) (s := {}) (n := 0) IdsInv.init.1 rfl (by decide)
    (churn 65536)
  rw [h, allocations_churn rfl 65536 (by decide)]
  decide

end Range

end NlVxlan

end Basebox
