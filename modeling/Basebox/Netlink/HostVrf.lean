import Basebox.Netlink.L3HostSets
import Basebox.Netlink.L3InterfaceIds
import Basebox.Netlink.Vlan
import Basebox.OfDpa.Routing

/-!
# The VRF of a host entry (`src/netlink/nl_l3.cc`, `src/of-dpa/controller.cc`)

The same address can be a host in several VRFs, each with an entry of its own on the switch. The VRF
id of an entry goes through parameters that may be left out: `l3_unicast_host_remove` of the
controller leaves it out for IPv6 towards the driver, and `del_l3_neigh` leaves it out towards the
controller. `add_l3_neigh` passes the VRF of the VLAN of a bridge interface.

* `neighVrfId`, `hostAddCall`, `hostRemoveCall`: the calls for the host entry of a neighbour.
* `Isolated`: a removal takes out what the addition put in, and nothing else.
* `hostVrf_iff`: this holds for IPv4 addresses and in VRF 0; and the entry of a neighbour is removed
  where it was added exactly if it was added in VRF 0.
-/

namespace Basebox

/-- Whatever is on the switch: after the host is added and removed its entry is gone, and every other
entry is as it was. -/
def Isolated (driverVrf : Nat) (dst : Addr) (vrfId : Nat) : Prop :=
  ∀ (t : Flows) (l3InterfaceId : Nat) (isEcmp updateRoute : Bool),
    let t' := Flows.call driverVrf
      (Flows.call driverVrf t (.l3UnicastHostAdd dst l3InterfaceId isEcmp updateRoute vrfId))
      (.l3UnicastHostRemove dst vrfId)
    t'.lookup ⟨dst, none, vrfId⟩ = none ∧
      ∀ e, e ≠ ⟨dst, none, vrfId⟩ → t'.lookup e = t.lookup e

namespace L3

section Calls

variable {M : Type} (vlan : NlVlan M) (o : Seen) (x : Hosts)

/-- The VRF id of `add_l3_neigh` after `add_l3_neigh_egress`, which writes it for a bridge only. -/
def neighVrfId (n : Int × Addr) (obj : NeighObj) : Nat :=
  if obj.state = .failed ∨ obj.state = .incomplete then 0
  else
    match o.env.link n.1 with
    | some link => if link.isBridge then vlan.getVrfId link.vid else 0
    | none => 0

/-- The call of `add_l3_neigh` for the host entry. -/
def hostAddCall (n : Int × Addr) (obj : NeighObj) : Option SwRoute :=
  if n.2.cmpPrefix ipv6Ll = .eq then none
  else if o.isL3NeighRoutable n then
    let s := (x.setRoutable (NhStub.Set.emplace x.l3.routableL3Neighs (Hosts.stub n))).l3
    (o.addL3NeighEgress s n obj).bind fun (rv, _) =>
      if rv < 0 then none
      else some (.l3UnicastHostAdd n.2 ((o.egressId s n obj).getD 0) false false
        (neighVrfId vlan o n obj))
  else none

/-- The call of `del_l3_neigh` for the host entry: 0 is the default of the parameter. -/
def hostRemoveCall (n : Int × Addr) (obj : NeighObj) : Option SwRoute :=
  if obj.state = .failed ∨ obj.state = .incomplete ∨ o.env.link n.1 = none then none
  else if Hosts.stub n ∈ x.l3.unroutableL3Neighs then none
  else if n.2 ∈ o.env.l3Addrs n.1 then none
  else if n.2.cmpPrefix ipv6Ll = .eq then none
  else some (.l3UnicastHostRemove n.2 0)

end Calls

/-! ## What the calls are for -/

section Hosts

variable {M : Type} {vlan : NlVlan M} {o : Seen} {x x' : Hosts} {n : Int × Addr} {obj : NeighObj}

theorem hosts_of_notifyReachable (h : x.notifyReachable o n obj = some x') : x'.hosts = x.hosts := by
  obtain ⟨s, -, rfl⟩ := Option.map_eq_some_iff.mp h
  rfl

/-- `add_l3_neigh` changes the host entries by its call only. -/
theorem hosts_addL3Neigh (vlan : NlVlan M) (h : x.addL3Neigh o n obj = some x') :
    x'.hosts = if (hostAddCall vlan o x n obj).isSome ∧ 0 ≤ o.sw.hostAdd n.2 then x.hosts.insert n.2
      else x.hosts := by
  unfold Hosts.addL3Neigh at h
  unfold hostAddCall
  by_cases hll : n.2.cmpPrefix ipv6Ll = .eq
  · rw [if_pos hll] at h
    simpa [hll] using hosts_of_notifyReachable h
  · rw [if_neg hll] at h
    cases hr : o.isL3NeighRoutable n with
    | false =>
      rw [hr] at h
      cases h
      simp [hll, Hosts.setUnroutable]
    | true =>
      rw [hr, if_pos rfl, Hosts.addHost, Option.bind_eq_some_iff] at h
      obtain ⟨⟨rv, y⟩, hy, h⟩ := h
      obtain ⟨⟨rv', s⟩, hs, heq⟩ := Option.map_eq_some_iff.mp hy
      simp only [Prod.mk.injEq] at heq
      obtain ⟨rfl, rfl⟩ := heq
      rw [if_neg hll, if_pos rfl]
      simp only [hs, Option.bind_some]
      by_cases hrv : rv' < 0
      · simp only [hrv, if_true, Option.some.injEq] at h
        subst h
        simp [hrv, Hosts.setRoutable]
      · by_cases hadd : o.sw.hostAdd n.2 < 0
        · simp only [hrv, hadd, if_true, if_false, Option.some.injEq] at h
          subst h
          simp [hadd, Hosts.setRoutable]
        · simp only [hrv, hadd, if_false] at h
          rw [hosts_of_notifyReachable h]
          simp [hrv, not_lt.mp hadd, Hosts.setRoutable]

theorem hosts_of_notifyUnreachable (h : x.notifyUnreachable o n obj = some x') :
    x'.hosts = x.hosts := by
  obtain ⟨s, -, rfl⟩ := Option.map_eq_some_iff.mp h
  rfl

theorem hosts_of_delL3NeighEgress (h : x.delL3NeighEgress o n obj = some x') :
    x'.hosts = x.hosts := by
  obtain ⟨s, -, rfl⟩ := Option.map_eq_some_iff.mp h
  rfl

/-- `del_l3_neigh` changes the host entries by its call only. -/
theorem hosts_delL3Neigh (h : x.delL3Neigh o n obj = some x') :
    x'.hosts = if (hostRemoveCall o x n obj).isSome ∧ 0 ≤ o.sw.hostRemove n.2 then x.hosts.erase n.2
      else x.hosts := by
  unfold Hosts.delL3Neigh at h
  unfold hostRemoveCall
  split
  · next hskip =>
    rw [if_pos hskip] at h
    cases h
    simp
  · next hskip =>
    rw [if_neg hskip] at h
    split
    · next hun =>
      rw [if_pos hun] at h
      cases h
      simp [Hosts.setUnroutable]
    · next hun =>
      rw [if_neg hun, Hosts.removeHost] at h
      split
      · next haddr =>
        rw [if_pos haddr] at h
        obtain ⟨y, hy, h⟩ := Option.bind_eq_some_iff.mp h
        rw [hosts_of_notifyUnreachable h, hosts_of_delL3NeighEgress hy]
        simp [Hosts.setRoutable]
      · next haddr =>
        rw [if_neg haddr] at h
        split
        · next hll =>
          rw [if_pos hll] at h
          rw [hosts_of_notifyUnreachable h]
          simp [Hosts.setRoutable]
        · next hll =>
          rw [if_neg hll] at h
          split at h
          · next hrv =>
            cases h
            simp [hrv, Hosts.setRoutable]
          · next hrv =>
            obtain ⟨y, hy, h⟩ := Option.bind_eq_some_iff.mp h
            rw [hosts_of_notifyUnreachable h, hosts_of_delL3NeighEgress hy]
            simp [not_lt.mp hrv, Hosts.setRoutable]

end Hosts

end L3

/-! ## Isolation -/

theorem isolated_of_entry {dst : Addr} {vrfId : Nat}
    (h : (SwRoute.l3UnicastHostRemove dst vrfId).entry 0 = ⟨dst, none, vrfId⟩) :
    Isolated 0 dst vrfId := by
  intro t l3InterfaceId isEcmp updateRoute t'
  have ht' (s : Flows) : Flows.call 0 s (.l3UnicastHostRemove dst vrfId) =
      s.erase ⟨dst, none, vrfId⟩ := by
    rw [← h]
    rfl
  simp only [t', ht']
  refine ⟨AList.lookup_erase _ _, fun e he => ?_⟩
  rw [AList.lookup_erase_ne he]
  exact Flows.lookup_call_of_ne t (.l3UnicastHostAdd dst l3InterfaceId isEcmp updateRoute vrfId) he

/-- The removal of an IPv6 host goes to VRF 0. -/
theorem isolated_iff (dst : Addr) (vrfId : Nat) :
    Isolated 0 dst vrfId ↔ dst.isInet = true ∨ vrfId = 0 := by
  constructor
  · intro h
    by_contra hne
    obtain ⟨hinet, hvrf⟩ := not_or.mp hne
    cases dst with
    | inet a => exact hinet rfl
    | inet6 a =>
      have hgone := (h ∅ 1 false false).1
      have hthere : (Flows.call 0 ∅ (.l3UnicastHostAdd (.inet6 a) 1 false false vrfId)).lookup
          ⟨.inet6 a, none, vrfId⟩ = some (.l3Unicast 1) := AList.lookup_insert _
      -- The entry that was added is not the one that is removed.
      have hent : (⟨.inet6 a, none, vrfId⟩ : RouteEntry) ≠
          (SwRoute.l3UnicastHostRemove (.inet6 a) vrfId).entry 0 := by
        simp [SwRoute.entry, hvrf]
      rw [Flows.lookup_call_of_ne _ _ hent, hthere] at hgone
      cases hgone
  · rintro (hinet | rfl)
    · cases dst with
      | inet a => exact isolated_of_entry rfl
      | inet6 a => cases hinet
    · cases dst with
      | inet a => exact isolated_of_entry rfl
      | inet6 a => exact isolated_of_entry rfl

namespace L3

theorem entry_hostAddCall {M : Type} {vlan : NlVlan M} {o : Seen} {x : Hosts} {n : Int × Addr}
    {obj : NeighObj} {c : SwRoute} (h : hostAddCall vlan o x n obj = some c) :
    c.entry 0 = ⟨n.2, none, neighVrfId vlan o n obj⟩ := by
  unfold hostAddCall at h
  split at h
  · cases h
  · split at h
    · obtain ⟨⟨rv, s⟩, -, h⟩ := Option.bind_eq_some_iff.mp h
      dsimp only at h
      split at h
      · cases h
      · cases h
        rfl
    · cases h

theorem entry_hostRemoveCall {o : Seen} {x : Hosts} {n : Int × Addr} {obj : NeighObj} {c : SwRoute}
    (h : hostRemoveCall o x n obj = some c) : c.entry 0 = ⟨n.2, none, 0⟩ := by
  unfold hostRemoveCall at h
  split_ifs at h
  cases h
  rcases n with ⟨i, a | a⟩ <;> rfl

/-- **Host entries and VRFs.** With VRF 0 the default of the driver: a host that is added in a VRF is
removed from it, and from no other, exactly if it is an IPv4 address or the VRF is 0. And where a
neighbour was added by one call and is removed by another, whatever happened in between, both are for
one entry exactly if `add_l3_neigh` had VRF 0 for it. -/
theorem hostVrf_iff {M : Type} :
    (∀ dst vrfId, Isolated 0 dst vrfId ↔ dst.isInet = true ∨ vrfId = 0) ∧
    ∀ (vlan : NlVlan M) (o o' : Seen) (x x' : Hosts) (n : Int × Addr) (obj obj' : NeighObj)
      (c c' : SwRoute), hostAddCall vlan o x n obj = some c → hostRemoveCall o' x' n obj' = some c' →
      (c'.entry 0 = c.entry 0 ↔ neighVrfId vlan o n obj = 0) := by
  refine ⟨isolated_iff, fun vlan o o' x x' n obj obj' c c' hadd hdel => ?_⟩
  rw [entry_hostAddCall hadd, entry_hostRemoveCall hdel]
  simp [eq_comm]

/-! ## VRF 7 -/

/-- Interfaces 5 and 6 are VLANs 10 and 20 on a bridge, whose FDB has the neighbours on port 1,
interface 3. -/
def sviEnv : L3Env where
  link ifindex :=
    if ifindex = 5 then some { ownPortId := 0, portId := 0, vid := 10, addr := 1, isBridge := true }
    else if ifindex = 6 then
      some { ownPortId := 0, portId := 0, vid := 20, addr := 1, isBridge := true }
    else if ifindex = 3 then
      some { ownPortId := 1, portId := 1, vid := 1, addr := 1, isBridge := true }
    else none
  neigh _ := none
  searchFdb vid mac := if (vid = 10 ∨ vid = 20) ∧ mac = 2 then some 3 else none
  nhById _ := none
  l3Addrs _ := []
  ifindexByPortId _ := 3
  scopeLink r := r.nexthops.all fun nh => nh.gateway.isNone && nh.via.isNone
  fibMatch := longestPrefix
  queryRoute := longestPrefix
  keyOrder := portEnv.keyOrder
  uninit := 0
  portId_eq h hport := by
    split_ifs at h
    · cases h
      exact absurd rfl hport
    · cases h
      exact absurd rfl hport
    · cases h
      rfl
  searchFdb_isBridge h hl := by
    split_ifs at h
    cases h
    cases hl
    rfl

/-- What is seen of a VLAN interface of a VRF. -/
def sviSeen : Seen where
  env := sviEnv
  queryRoute _ := some (kernelRoute 1)

/-- 2001:db8::2 on it. -/
def sviNeigh : Int × Addr := (5, .inet6 0x20010db8000000000000000000000002)

/-- The VRF of VLAN 10. -/
def vrf7 : NlVlan (Nat × List Nat) := { vlanVrf := (∅ : Table Nat Nat).insert 10 7 }

section Examples

open Hosts (reachableNeigh)

/-- The same address in VLAN 20, which has no VRF, and in VLAN 10. -/
theorem hostVrf_iff_vlans :
    (∃ c c', hostAddCall vrf7 sviSeen {} (6, sviNeigh.2) reachableNeigh = some c ∧
      hostRemoveCall sviSeen {} (6, sviNeigh.2) reachableNeigh = some c' ∧
      c'.entry 0 = c.entry 0) ∧
    ∃ c c', hostAddCall vrf7 sviSeen {} sviNeigh reachableNeigh = some c ∧
      hostRemoveCall sviSeen {} sviNeigh reachableNeigh = some c' ∧ c'.entry 0 ≠ c.entry 0 := by
  refine ⟨⟨.l3UnicastHostAdd sviNeigh.2 1 false false 0, .l3UnicastHostRemove sviNeigh.2 0, rfl, rfl,
    ?_⟩, .l3UnicastHostAdd sviNeigh.2 1 false false 7, .l3UnicastHostRemove sviNeigh.2 0, rfl, rfl,
    ?_⟩
  · exact (hostVrf_iff.2 vrf7 sviSeen sviSeen {} {} (6, sviNeigh.2) reachableNeigh reachableNeigh _ _
      rfl rfl).mpr rfl
  · exact fun h => absurd ((hostVrf_iff.2 vrf7 sviSeen sviSeen {} {} sviNeigh reachableNeigh
      reachableNeigh _ _ rfl rfl).mp h) (by decide)

/-- An IPv6 address in VRF 7: its entry stays when it is removed, and `del_l3_neigh` removes another
one than `add_l3_neigh` installed. -/
theorem hostV6_vrf7_stays :
    ¬ Isolated 0 sviNeigh.2 7 ∧
    ∃ c c', hostAddCall vrf7 sviSeen {} sviNeigh reachableNeigh = some c ∧
      hostRemoveCall sviSeen {} sviNeigh reachableNeigh = some c' ∧
      c.entry 0 = ⟨sviNeigh.2, none, 7⟩ ∧ c'.entry 0 = ⟨sviNeigh.2, none, 0⟩ := by
  refine ⟨fun h => by simpa [sviNeigh, Addr.isInet] using (isolated_iff _ _).mp h,
    .l3UnicastHostAdd sviNeigh.2 1 false false 7, .l3UnicastHostRemove sviNeigh.2 0, ?_, ?_, rfl,
    rfl⟩
  · rfl
  · rfl

end Examples

end L3

end Basebox
