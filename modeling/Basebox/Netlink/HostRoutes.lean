import Basebox.Netlink.L3NotifyRuns
import Basebox.OfDpa.Routing

/-!
# Host routes and routes to prefixes (`src/netlink/nl_l3.cc`, `src/of-dpa/controller.cc`)

A route is programmed when it is added or changed, and again by the two notifications. A destination
that is a single address goes to other functions of the controller than a prefix, and these do not
accept ECMP group 0, which stands for the controller while no next hop is resolved.

* `Seen.addRoute`: `add_l3_unicast_route`, up to the call that programs the route.
* `Attaches`: the next hop is resolved and gets an egress group.
* `SameTarget`: what a step programs, it programs alike for the host and for any shorter prefix.
* `hostRoutes_run`: in every run of additions, notifications and everything else, all steps program
  alike exactly if all of them meet their conditions.
-/

namespace Basebox

/-- The length of an address of the family. -/
def Addr.bits : Addr → Nat
  | .inet _ => 32
  | .inet6 _ => 128

/-- Two calls that add an entry succeed and point their entries to the same target. -/
def SwRoute.Alike (driverVrf : Nat) (updateRoute : Bool) (c c' : SwRoute) : Prop :=
  ∃ target, c.flowMsg driverVrf = (0, some (.enable (c.entry driverVrf) target updateRoute)) ∧
    c'.flowMsg driverVrf = (0, some (.enable (c'.entry driverVrf) target updateRoute))

/-- The entries have the same target afterwards, if they had before. -/
theorem Flows.lookup_call_of_alike {driverVrf : Nat} {updateRoute : Bool} {c c' : SwRoute}
    (h : SwRoute.Alike driverVrf updateRoute c c') {t t' : Flows}
    (ht : t.lookup (c.entry driverVrf) = t'.lookup (c'.entry driverVrf)) :
    (Flows.call driverVrf t c).lookup (c.entry driverVrf) =
      (Flows.call driverVrf t' c').lookup (c'.entry driverVrf) := by
  obtain ⟨target, hc, hc'⟩ := h
  have hmem : c.entry driverVrf ∈ t ↔ c'.entry driverVrf ∈ t' := by
    rw [Table.mem_iff_lookup, Table.mem_iff_lookup, ht]
  unfold Flows.call
  rw [hc, hc']
  simp only [Flows.apply, hmem]
  split_ifs
  · exact ht
  · rw [AList.lookup_insert, AList.lookup_insert]

namespace L3

/-- As a host, a destination is programmed like as any shorter prefix, exactly if the id is in range
and not ECMP group 0. -/
theorem alike_iff (driverVrf : Nat) (dst : Addr) (id : Nat) (isEcmp updateRoute : Bool)
    (vrfId : Nat) :
    (∀ len < dst.bits, SwRoute.Alike driverVrf updateRoute
      (addL3UnicastRouteDst ⟨dst, dst.bits⟩ id isEcmp updateRoute vrfId)
      (addL3UnicastRouteDst ⟨dst, len⟩ id isEcmp updateRoute vrfId)) ↔
      id ≤ 0x0fffffff ∧ (isEcmp = true → id ≠ 0) := by
  constructor
  · intro h
    cases dst with
    | inet a =>
      obtain ⟨target, hhost, hroute⟩ := h 0 (by decide : 0 < 32)
      exact (hostTarget_iff _ _ id isEcmp updateRoute vrfId).mp ⟨target, _, _, hhost, hroute⟩
    | inet6 a =>
      obtain ⟨target, hhost, hroute⟩ := h 0 (by decide : 0 < 128)
      exact (hostTarget_iff _ _ id isEcmp updateRoute vrfId).mp ⟨target, _, _, hhost, hroute⟩
  · rintro ⟨hid, hecmp⟩ len hlen
    have hrange : ¬ id > 0x0fffffff := by omega
    have hzero : ¬ (isEcmp && id == 0) = true := by simpa using hecmp
    refine ⟨flowTarget id isEcmp, ?_⟩
    cases dst with
    | inet a =>
      have hne : len ≠ 32 := Nat.ne_of_lt hlen
      simp [addL3UnicastRouteDst, Addr.bits, hne, SwRoute.flowMsg, l3UnicastHostAdd,
        l3UnicastRouteAdd, hrange, hzero, SwRoute.entry]
    | inet6 a =>
      have hne : len ≠ 128 := Nat.ne_of_lt hlen
      simp [addL3UnicastRouteDst, Addr.bits, hne, SwRoute.flowMsg, l3UnicastHostAdd,
        l3UnicastRouteAdd, hrange, hzero, SwRoute.entry]

/-! ## The target of a route that is added -/

namespace Seen

variable (o : Seen)

/-- The id that a next hop of a route gives, if it is resolved and `add_l3_neigh_egress` does not
fail. The variable for it starts as 0. -/
def nextHopId (s : L3) (nh : NhStub) : Option Nat :=
  (o.neigh nh.neigh).bind fun obj =>
    if obj.lladdr = none then none
    else (o.addL3NeighEgress s nh.neigh obj).bind fun (rv, _) =>
      if rv < 0 then none else some ((o.egressId s nh.neigh obj).getD 0)

/-- The body of the loop of `add_l3_unicast_route`, with `l3_interfaces`. -/
def addNextHopId (dst : Prefix) (y : L3 × List Nat) (nh : NhStub) : L3 × List Nat :=
  (y.1.addNextHop o.routeEnv o.sw dst nh, y.2 ++ (o.nextHopId y.1 nh).toList)

/-- `add_l3_unicast_route`, up to the call that programs the route. With one next hop there is one id
at most. -/
def addRoute (s : L3) (r : L3Route) : L3 × Notified :=
  if duplicate o.env s.installed r then (s, .noRoute)
  else
    match getNeighboursOfRoute o.env r with
    | none => (s, .aborted)
    | some (rv, nhs) =>
      if rv < 0 then (s, .noRoute)
      else
        let (s, ids) := nhs.foldl (o.addNextHopId r.dst) (s, [])
        if nhs.length ≤ 1 then (s, .programs (ids.map some) false (some (ids.headD 0)))
        else
          let (_, id, groups) := s.groups.addL3EcmpGroup nhs.toFinset 0
          ({ s with groups := groups },
            .programs (ids.map some) true (some (if ids = [] then 0 else id)))

/-- The next hop is resolved and `add_l3_neigh_egress` does not fail: it is on a port with a VLAN, or
on a bridge whose FDB does not have it, with an unwritten result that is not negative. -/
def Attaches (nh : NhStub) : Prop :=
  ∃ obj dMac link, o.neigh nh.neigh = some obj ∧ obj.lladdr = some dMac ∧
    o.env.link nh.ifindex = some link ∧
    ((egressIfindex o.env link nh.neigh dMac = none ∧ 0 ≤ o.env.uninit) ∨
      ∃ ifindex, egressIfindex o.env link nh.neigh dMac = some ifindex ∧
        isVidValid link.vid = true ∧ (∃ l, o.vlanLink link ifindex = some l ∧ l.portId ≠ 0) ∧
        getPortId o.env ifindex ≠ 0)

end Seen

theorem foldl_addNextHopId_fst (o : Seen) (dst : Prefix) (nhs : NhStub.Set) (s : L3)
    (ids : List Nat) : (nhs.foldl (o.addNextHopId dst) (s, ids)).1 =
      nhs.foldl (L3.addNextHop o.routeEnv o.sw dst) s := by
  induction nhs generalizing s ids with
  | nil => rfl
  | cons nh nhs ih => exact ih _ _

/-- What `add_l3_unicast_route` does to `nl_l3` until it programs the route. -/
theorem addL3UnicastRoute_eq {o : Seen} (x : Hosts) {r : L3Route}
    (hdup : duplicate o.env x.l3.installed r = false) {rv : Int} {nhs : NhStub.Set}
    (hnhs : getNeighboursOfRoute o.env r = some (rv, nhs)) (hrv : 0 ≤ rv) :
    x.addL3UnicastRoute o r =
      Hosts.enableNeighs o { x with
        l3 := (o.addRoute { x.l3 with active := x.l3.active ++ [r] } r).1 } r := by
  unfold Hosts.addL3UnicastRoute Seen.addRoute
  simp only [hdup, hnhs, not_lt.mpr hrv, Bool.false_eq_true, if_false]
  rw [← foldl_addNextHopId_fst o r.dst nhs _ []]
  split_ifs <;> rfl

section NextHops

variable {o : Seen} {s s' : L3} {nh : NhStub} {obj : NeighObj} {dMac : Mac}

theorem nud_of_lladdr (hobj : o.neigh nh.neigh = some obj) (hll : obj.lladdr = some dMac) :
    obj.nud = some (.valid dMac) := by
  obtain ⟨hf, hi⟩ := o.formed nh.neigh obj hobj (by rw [hll, Option.isSome_some])
  exact NeighObj.nud_eq_valid_iff.mpr ⟨hll, hf, hi⟩

theorem resolved_or (o : Seen) (nh : NhStub) :
    (∃ obj dMac, o.neigh nh.neigh = some obj ∧ obj.lladdr = some dMac) ∨
      ∀ obj, o.neigh nh.neigh = some obj → obj.lladdr = none := by
  by_cases hres : ∃ obj dMac, o.neigh nh.neigh = some obj ∧ obj.lladdr = some dMac
  · exact .inl hres
  · refine .inr fun obj hobj => ?_
    by_contra hll
    obtain ⟨dMac, hll⟩ := Option.ne_none_iff_exists'.mp hll
    exact hres ⟨obj, dMac, hobj, hll⟩

/-- A next hop that is resolved: its neighbour takes a reference. -/
theorem addNextHop_resolved (s : L3) (dst : Prefix) (hobj : o.neigh nh.neigh = some obj)
    (hll : obj.lladdr = some dMac) : ∃ rv s', o.addL3NeighEgress s nh.neigh obj = some (rv, s') ∧
      (s.addNextHop o.routeEnv o.sw dst nh).groups = s'.groups ∧
      o.nextHopId s nh = if rv < 0 then none else some ((o.egressId s nh.neigh obj).getD 0) := by
  have hadd : o.addL3NeighEgress s nh.neigh obj =
      some (s.addL3NeighEgress o.env o.sw nh.neigh (.valid dMac)) := by
    unfold Seen.addL3NeighEgress
    rw [nud_of_lladdr hobj hll]
  refine ⟨(s.addL3NeighEgress o.env o.sw nh.neigh (.valid dMac)).1,
    (s.addL3NeighEgress o.env o.sw nh.neigh (.valid dMac)).2, hadd, ?_, ?_⟩
  · have hneigh : o.routeEnv.neigh nh.neigh = some (.valid dMac) := by
      simp [Seen.routeEnv, hobj, NeighObj.resolution, hll]
    simp only [L3.addNextHop, hneigh]
    split <;> rfl
  · simp [Seen.nextHopId, hobj, hll, hadd]

theorem addNextHop_unresolved (dst : Prefix)
    (h : ∀ obj, o.neigh nh.neigh = some obj → obj.lladdr = none) :
    (s.addNextHop o.routeEnv o.sw dst nh).groups = s.groups ∧ o.nextHopId s nh = none ∧
      ¬ o.Attaches nh := by
  have hneigh : ∀ dMac, o.routeEnv.neigh nh.neigh ≠ some (.valid dMac) := by
    intro dMac hv
    obtain ⟨obj, hobj, hres⟩ := Option.map_eq_some_iff.mp hv
    unfold NeighObj.resolution at hres
    rw [h obj hobj] at hres
    cases hres
  refine ⟨?_, ?_, ?_⟩
  · unfold L3.addNextHop
    dsimp only
    split
    · next dMac hv => exact absurd hv (hneigh dMac)
    · split <;> rfl
  · unfold Seen.nextHopId
    cases hobj : o.neigh nh.neigh with
    | none => rfl
    | some obj => simp [h obj hobj]
  · rintro ⟨obj, dMac, -, hobj, hll, -⟩
    rw [h obj hobj] at hll
    cases hll

/-- With a switch that does what it is asked for, the VLAN and the group are added if there is a port
for them. -/
theorem addVlanEgress_nonneg_iff (hok : o.sw.Ok) (s : L3) (vlanLink : Option L3Link) (ifindex : Int)
    (vid : Nat) (sMac dMac : Mac) :
    0 ≤ (s.addVlanEgress o.env o.sw vlanLink ifindex vid sMac dMac).1 ↔
      isVidValid vid = true ∧ (∃ l, vlanLink = some l ∧ l.portId ≠ 0) ∧
        getPortId o.env ifindex ≠ 0 := by
  have hvlan : 0 ≤ (s.addVlan o.sw vlanLink vid).1 ↔
      isVidValid vid = true ∧ ∃ l, vlanLink = some l ∧ l.portId ≠ 0 := by
    rw [addVlan_nonneg_iff]
    refine and_congr_right fun _ => exists_congr fun l => and_congr_right fun _ => ?_
    exact and_iff_left (.inr (.inr (hok.enableVlan _)))
  unfold addVlanEgress
  dsimp only
  by_cases hneg : (s.addVlan o.sw vlanLink vid).1 < 0
  · rw [if_pos hneg]
    refine iff_of_false (not_le.mpr hneg) fun h => absurd (hvlan.mpr ⟨h.1, h.2.1⟩) (not_le.mpr hneg)
  · rw [if_neg hneg]
    obtain ⟨hvid, hlink⟩ := hvlan.mp (not_lt.mp hneg)
    simp only [hvid, hlink, true_and]
    by_cases hport : getPortId o.env ifindex = 0
    · simp [L3.addL3Egress, L3Groups.addL3Egress, hport, EINVAL]
    · rw [addL3Egress_rv _ _ _ _ _ hport]
      refine iff_of_true ?_ hport
      split_ifs
      · exact le_refl 0
      · exact hok.egressCreate _

/-- A next hop that is resolved gives an id exactly if it attaches. -/
theorem nextHopId_isSome_iff (hok : o.sw.Ok) (s : L3) (nh : NhStub) :
    (o.nextHopId s nh).isSome ↔ o.Attaches nh := by
  rcases resolved_or o nh with ⟨obj, dMac, hobj, hll⟩ | hnone
  · have hnud := nud_of_lladdr hobj hll
    obtain ⟨rv, s', hadd, -, hid⟩ := addNextHop_resolved s ⟨nh.nh, 0⟩ hobj hll
    have hsome : (o.nextHopId s nh).isSome ↔ 0 ≤ rv := by
      rw [hid]
      split_ifs with h
      · simp [h]
      · simp [not_lt.mp h]
    have hattaches : o.Attaches nh ↔ ∃ link, o.env.link nh.ifindex = some link ∧
        ((egressIfindex o.env link nh.neigh dMac = none ∧ 0 ≤ o.env.uninit) ∨
          ∃ ifindex, egressIfindex o.env link nh.neigh dMac = some ifindex ∧
            isVidValid link.vid = true ∧ (∃ l, o.vlanLink link ifindex = some l ∧ l.portId ≠ 0) ∧
            getPortId o.env ifindex ≠ 0) := by
      unfold Seen.Attaches
      constructor
      · rintro ⟨obj', dMac', link, hobj', hll', h⟩
        rw [hobj, Option.some.injEq] at hobj'
        subst hobj'
        rw [hll, Option.some.injEq] at hll'
        subst hll'
        exact ⟨link, h⟩
      · rintro ⟨link, h⟩
        exact ⟨obj, dMac, link, hobj, hll, h⟩
    rw [hsome, hattaches]
    cases hlink : o.env.link nh.ifindex with
    | none =>
      have hrv : rv = -EINVAL := by
        simp only [Seen.addL3NeighEgress, hnud, L3.addL3NeighEgress, NhStub.neigh, hlink,
          Option.some.injEq, Prod.mk.injEq] at hadd
        exact hadd.1.symm
      simp [hrv, EINVAL]
    | some link =>
      simp only [Option.some.injEq, exists_eq_left']
      cases hi : egressIfindex o.env link nh.neigh dMac with
      | none =>
        have hrv : rv = o.env.uninit := by
          unfold egressIfindex at hi
          split at hi
          · next hb =>
            simp only [Seen.addL3NeighEgress, hnud, L3.addL3NeighEgress, NhStub.neigh, hlink, hb,
              if_true, hi, Option.some.injEq, Prod.mk.injEq] at hadd
            exact hadd.1.symm
          · cases hi
        simp [hrv]
      | some ifindex =>
        rw [addL3NeighEgress_port_eq hnud hlink hi, Option.some.injEq] at hadd
        have hrv := congrArg (fun y : Int × L3 => y.1) hadd
        dsimp only at hrv
        rw [← hrv, addVlanEgress_nonneg_iff hok]
        simp
  · obtain ⟨-, hid, hatt⟩ := addNextHop_unresolved (s := s) ⟨nh.nh, 0⟩ hnone
    simp [hid, hatt]

/-- The id of a next hop is that of a group, or 0 where none was written. -/
theorem nextHopId_mem (hok : o.sw.Ok) (hcreate : ∀ k, o.sw.egressCreate k ≤ 0) (s : L3)
    (dst : Prefix) {id : Nat} (h : o.nextHopId s nh = some id) :
    id = 0 ∨ ∃ k x, (s.addNextHop o.routeEnv o.sw dst nh).groups.l3InterfaceMapping.lookup k = some x ∧
      x.id = id := by
  rcases resolved_or o nh with ⟨obj, dMac, hobj, hll⟩ | hnone
  · have hnud := nud_of_lladdr hobj hll
    obtain ⟨rv, s', hadd, hgroups, hid⟩ := addNextHop_resolved s dst hobj hll
    rw [h] at hid
    split_ifs at hid with hneg
    rw [Option.some.injEq] at hid
    rw [hgroups]
    by_cases hport : ∃ link ifindex, o.env.link nh.ifindex = some link ∧
        egressIfindex o.env link nh.neigh dMac = some ifindex
    · obtain ⟨link, ifindex, hlink, hi⟩ := hport
      -- The switch returns 0, and then the id is written.
      have hjoins : o.Joins s nh.neigh obj := by
        rw [joins_iff hnud hlink hi, ← addVlan_nonneg_iff]
        rw [addL3NeighEgress_port_eq hnud hlink hi, Option.some.injEq] at hadd
        have hrv := congrArg (fun y : Int × L3 => y.1) hadd
        have hnonneg := (addVlanEgress_nonneg_iff hok s (o.vlanLink link ifindex) ifindex link.vid
          link.addr dMac).mp (by rw [hadd]; exact not_lt.mp hneg)
        refine ⟨?_, hnonneg.2.2, .inr (le_antisymm (hcreate _) (hok.egressCreate _))⟩
        rw [addVlan_nonneg_iff]
        obtain ⟨hvid, ⟨l, hl, hlport⟩, -⟩ := hnonneg
        exact ⟨hvid, l, hl, hlport, .inr (.inr (hok.enableVlan _))⟩
      obtain ⟨-, -, hwritten, -⟩ := addL3NeighEgress_written hadd
      obtain ⟨i, hi', k, x, hx, rfl⟩ := hwritten hjoins
      rw [hi'] at hid
      exact .inr ⟨k, x, hx, hid.symm⟩
    · obtain ⟨-, -, hnone⟩ := addL3NeighEgress_noPort (fun dMac' link hnud' hlink => by
        rw [hnud, Option.some.injEq, Nud.valid.injEq] at hnud'
        subst hnud'
        by_contra hi
        obtain ⟨ifindex, hi⟩ := Option.ne_none_iff_exists'.mp hi
        exact hport ⟨link, ifindex, hlink, hi⟩) hadd
      rw [hnone] at hid
      exact .inl hid
  · rw [(addNextHop_unresolved dst hnone).2.1] at h
    cases h

end NextHops

/-! ## The destination does not matter -/

/-- The tables that decide whether a next hop gets an id are the same. -/
structure SameTables (s t : L3) : Prop where
  groups : s.groups = t.groups
  portVlan : s.portVlan = t.portVlan

namespace SameTables

variable {s t : L3}

theorem addVlan (h : SameTables s t) (sw : L3Switch) (link : Option L3Link) (vid : Nat) :
    (s.addVlan sw link vid).1 = (t.addVlan sw link vid).1 ∧
      SameTables (s.addVlan sw link vid).2 (t.addVlan sw link vid).2 := by
  unfold L3.addVlan
  rw [h.portVlan]
  split
  · exact ⟨rfl, h⟩
  · split
    · exact ⟨rfl, h⟩
    · next l =>
      split
      · exact ⟨rfl, h⟩
      · split
        · exact ⟨rfl, ⟨h.groups, rfl⟩⟩
        · by_cases hb : l.isBridge
          · simp only [hb, if_true]
            exact ⟨trivial, h⟩
          · by_cases hn : sw.enableVlan (l.portId, vid) < 0
            · simp [hb, hn]
              exact h
            · simp [hb, hn]
              exact ⟨h.groups, rfl⟩

theorem addVlanEgress (h : SameTables s t) (env : L3Env) (sw : L3Switch) (link : Option L3Link)
    (ifindex : Int) (vid : Nat) (sMac dMac : Mac) :
    (s.addVlanEgress env sw link ifindex vid sMac dMac).1 =
        (t.addVlanEgress env sw link ifindex vid sMac dMac).1 ∧
      SameTables (s.addVlanEgress env sw link ifindex vid sMac dMac).2
        (t.addVlanEgress env sw link ifindex vid sMac dMac).2 := by
  obtain ⟨hrv, hv⟩ := h.addVlan sw link vid
  unfold L3.addVlanEgress
  dsimp only
  rw [hrv]
  split
  · exact ⟨rfl, hv⟩
  · unfold L3.addL3Egress
    rw [hv.groups]
    exact ⟨rfl, ⟨rfl, hv.portVlan⟩⟩

theorem addL3NeighEgress (h : SameTables s t) (env : L3Env) (sw : L3Switch) (n : Int × Addr)
    (nud : Nud) : (s.addL3NeighEgress env sw n nud).1 = (t.addL3NeighEgress env sw n nud).1 ∧
      SameTables (s.addL3NeighEgress env sw n nud).2 (t.addL3NeighEgress env sw n nud).2 := by
  rcases addL3NeighEgress_cases env sw n nud with
    ⟨-, link, ifindex, vid, sMac, dMac, he⟩ | ⟨-, rv, he⟩
  · rw [he, he]
    exact h.addVlanEgress env sw link ifindex vid sMac dMac
  · rw [he, he]
    exact ⟨rfl, h⟩

theorem egressId (h : SameTables s t) (o : Seen) (n : Int × Addr) (obj : NeighObj) :
    o.egressId s n obj = o.egressId t n obj := by
  unfold Seen.egressId
  split
  · next dMac link _ _ =>
    refine congrArg _ (funext fun ifindex => ?_)
    obtain ⟨hrv, hv⟩ := h.addVlan o.sw (o.vlanLink link ifindex) link.vid
    dsimp only
    rw [hrv, hv.groups]
  · rfl

/-- A next hop of two routes. -/
theorem addNextHop (h : SameTables s t) (o : Seen) (dst dst' : Prefix) (nh : NhStub) :
    SameTables (s.addNextHop o.routeEnv o.sw dst nh) (t.addNextHop o.routeEnv o.sw dst' nh) := by
  unfold L3.addNextHop
  dsimp only
  split
  · next dMac _ =>
    obtain ⟨hrv, hs⟩ := h.addL3NeighEgress o.routeEnv o.sw nh.neigh (.valid dMac)
    rw [hrv]
    split <;> exact ⟨hs.groups, hs.portVlan⟩
  · split <;> split <;> exact ⟨h.groups, h.portVlan⟩

theorem nextHopId (h : SameTables s t) (o : Seen) (nh : NhStub) :
    o.nextHopId s nh = o.nextHopId t nh := by
  unfold Seen.nextHopId
  cases hobj : o.neigh nh.neigh with
  | none => rfl
  | some obj =>
    simp only [Option.bind_some]
    cases hll : obj.lladdr with
    | none => rfl
    | some dMac =>
      have hnud := nud_of_lladdr hobj hll
      have hadd := h.addL3NeighEgress o.env o.sw nh.neigh (.valid dMac)
      simp only [reduceCtorEq, if_false, Seen.addL3NeighEgress, hnud, Option.bind_some]
      rw [hadd.1, h.egressId o nh.neigh obj]

theorem foldl (h : SameTables s t) (o : Seen) (dst dst' : Prefix) (nhs : NhStub.Set)
    (ids : List Nat) :
    SameTables (nhs.foldl (o.addNextHopId dst) (s, ids)).1
        (nhs.foldl (o.addNextHopId dst') (t, ids)).1 ∧
      (nhs.foldl (o.addNextHopId dst) (s, ids)).2 =
        (nhs.foldl (o.addNextHopId dst') (t, ids)).2 := by
  induction nhs generalizing s t ids with
  | nil => exact ⟨h, rfl⟩
  | cons nh nhs ih =>
    rw [List.foldl_cons, List.foldl_cons, Seen.addNextHopId, Seen.addNextHopId, h.nextHopId o nh]
    exact ih (h.addNextHop o dst dst' nh) _

end SameTables

/-- A route to another destination with the same next hops is programmed with the same id, where the
kernel has no route of its own to either. -/
theorem addRoute_dst (o : Seen) (s : L3) (r : L3Route) (dst : Prefix)
    (hdup : duplicate o.env s.installed r = false)
    (hdup' : duplicate o.env s.installed { r with dst := dst } = false) :
    (o.addRoute s { r with dst := dst }).2 = (o.addRoute s r).2 := by
  have hsame : getNeighboursOfRoute o.env { r with dst := dst } = getNeighboursOfRoute o.env r := rfl
  unfold Seen.addRoute
  simp only [hdup, hdup', hsame, Bool.false_eq_true, if_false]
  cases getNeighboursOfRoute o.env r with
  | none => rfl
  | some y =>
    obtain ⟨rv, nhs⟩ := y
    dsimp only
    split
    · rfl
    · obtain ⟨htables, hids⟩ := SameTables.foldl ⟨rfl, rfl⟩ o dst r.dst nhs [] (s := s) (t := s)
      rw [hids, htables.groups]
      split <;> rfl

/-! ## The loop -/

section Loop

variable {o : Seen} {s : L3}

/-- The counters stay in the range of the ids, with `n` more ids. -/
def Small (g : L3Groups NhStub) (n : Nat) : Prop :=
  g.egress.next + n ≤ 2 ^ 28 ∧ g.ecmp.next + n ≤ 2 ^ 28

theorem Small.spare {g : L3Groups NhStub} {n : Nat} (h : Small g n) : L3Groups.Spare g := by
  obtain ⟨h₁, h₂⟩ := h
  unfold L3Groups.Spare
  omega

/-- What a route leaves of the groups: `n` next hops may have taken an id each. -/
structure Taken (g g' : L3Groups NhStub) (n : Nat) : Prop where
  inv : L3Groups.Inv g'
  next : g'.egress.next ≤ g.egress.next + n
  ecmp : g'.ecmp = g.ecmp
  mapping : g'.nhGrpToL3EcmpMapping = g.nhGrpToL3EcmpMapping

theorem Taken.small {g g' : L3Groups NhStub} {n m : Nat} (h : Taken g g' n) (hs : Small g (n + m)) :
    Small g' m := by
  have hnext := h.next
  obtain ⟨h₁, h₂⟩ := hs
  refine ⟨by omega, ?_⟩
  rw [h.ecmp]
  omega

theorem ecmp_addL3Egress (g : L3Groups NhStub) (k : EgressKey) (send : Int) :
    (g.step (.addL3Egress k send)).ecmp = g.ecmp ∧
      (g.step (.addL3Egress k send)).nhGrpToL3EcmpMapping = g.nhGrpToL3EcmpMapping := by
  simp only [L3Groups.step, L3Groups.addL3Egress, IdPool.create]
  split
  · exact ⟨rfl, rfl⟩
  · split
    · by_cases hneg : send < 0 <;> simp [hneg]
    · exact ⟨rfl, rfl⟩

theorem taken_addL3NeighEgress {n : Int × Addr} {obj : NeighObj} {rv : Int} {s' : L3}
    (hinv : L3Groups.Inv s.groups) (hs : Small s.groups 1)
    (h : o.addL3NeighEgress s n obj = some (rv, s')) : Taken s.groups s'.groups 1 := by
  rcases addL3NeighEgress_evs h with ⟨-, hg⟩ | ⟨k, -, hg, -⟩
  · rw [hg]
    exact ⟨hinv, Nat.le_succ _, rfl, rfl⟩
  · rw [hg]
    obtain ⟨hecmp, hmapping⟩ := ecmp_addL3Egress s.groups k (o.sw.egressCreate k)
    refine ⟨hinv.step _ (L3Groups.notWrapped_step hinv hs.spare _), ?_, hecmp, hmapping⟩
    rcases (L3Groups.next_step s.groups (.addL3Egress k (o.sw.egressCreate k))).1 with hn | hn
    · omega
    · rw [hn]
      exact IdPool.next_take_le _ _

theorem taken_addNextHop (hinv : L3Groups.Inv s.groups) (hs : Small s.groups 1) (dst : Prefix)
    (nh : NhStub) : Taken s.groups (s.addNextHop o.routeEnv o.sw dst nh).groups 1 := by
  rcases resolved_or o nh with ⟨obj, dMac, hobj, hll⟩ | hnone
  · obtain ⟨rv, s', hadd, hgroups, -⟩ := addNextHop_resolved s dst hobj hll
    rw [hgroups]
    exact taken_addL3NeighEgress hinv hs hadd
  · rw [(addNextHop_unresolved dst hnone).1]
    exact ⟨hinv, Nat.le_succ _, rfl, rfl⟩

theorem taken_foldl (o : Seen) (dst : Prefix) (nhs : NhStub.Set) {s : L3} (ids : List Nat)
    (hinv : L3Groups.Inv s.groups) (hs : Small s.groups nhs.length) :
    Taken s.groups (nhs.foldl (o.addNextHopId dst) (s, ids)).1.groups nhs.length := by
  induction nhs generalizing s ids with
  | nil => exact ⟨hinv, le_refl _, rfl, rfl⟩
  | cons nh nhs ih =>
    rw [List.length_cons, Nat.add_comm] at hs
    have hone : Small s.groups 1 := ⟨by have := hs.1; omega, by have := hs.2; omega⟩
    have hfirst := taken_addNextHop (o := o) hinv hone dst nh
    have hrest := ih (ids ++ (o.nextHopId s nh).toList) hfirst.inv (hfirst.small hs)
    rw [List.foldl_cons]
    refine ⟨hrest.inv, ?_, hrest.ecmp.trans hfirst.ecmp, hrest.mapping.trans hfirst.mapping⟩
    have h₁ := hfirst.next
    have h₂ := hrest.next
    rw [List.length_cons]
    exact h₂.trans (by omega)

/-- There is an id exactly if a next hop attaches. -/
theorem foldl_ids_ne_nil (hok : o.sw.Ok) (dst : Prefix) (nhs : NhStub.Set) (s : L3)
    (ids : List Nat) : (nhs.foldl (o.addNextHopId dst) (s, ids)).2 ≠ [] ↔
      ids ≠ [] ∨ ∃ nh ∈ nhs, o.Attaches nh := by
  induction nhs generalizing s ids with
  | nil => simp
  | cons nh nhs ih =>
    rw [List.foldl_cons]
    refine (ih _ _).trans ?_
    have hsome := nextHopId_isSome_iff hok s nh
    have hhead : ids ++ (o.nextHopId s nh).toList ≠ [] ↔ ids ≠ [] ∨ o.Attaches nh := by
      rw [← hsome]
      cases o.nextHopId s nh <;> simp
    rw [hhead]
    simp [or_assoc]

end Loop

/-! ## When a step programs alike -/

/-- A condition on the id that a route is programmed with, whatever is in a variable that was not
written. -/
def Notified.ForWritten (P : Nat → Bool → Prop) : Notified → Prop
  | .programs _ isEcmp routeDst => ∀ junk, P (routeDst.getD junk) isEcmp
  | _ => True

/-- The id is in range and not ECMP group 0. -/
def InRange (id : Nat) (isEcmp : Bool) : Prop := id ≤ 0x0fffffff ∧ (isEcmp = true → id ≠ 0)

/-- If the route has several next hops, one of them attaches. -/
def Seen.RouteAttaches (o : Seen) (s : L3) (r : L3Route) : Prop :=
  duplicate o.env s.installed r = false → ∀ rv nhs, getNeighboursOfRoute o.env r = some (rv, nhs) →
    0 ≤ rv → 1 < nhs.length → ∃ nh ∈ nhs, o.Attaches nh

section Steps

variable {o : Seen} {s : L3} {r : L3Route}

/-- The id of an ECMP group is not 0 and in range. -/
theorem ecmpId_inRange {g : L3Groups NhStub} (hinv : L3Groups.Inv g) (hs : Small g 1)
    (nhs : Finset NhStub) : InRange (g.addL3EcmpGroup nhs 0).2.1 true := by
  unfold L3Groups.addL3EcmpGroup
  cases hl : g.nhGrpToL3EcmpMapping.lookup nhs with
  | some x =>
    obtain ⟨hpos, hlt, -⟩ := hinv.ecmp.ids nhs x hl
    have hnext := hs.2
    exact ⟨by dsimp only; omega, fun _ => hpos.ne'⟩
  | none =>
    have hw := L3Groups.next_take hs.spare.2 hinv.ecmp.next_pos
    obtain ⟨-, hpos, hlt, -⟩ := hinv.ecmp.take hw
    have hnext := IdPool.next_take_le (2 ^ 32) g.ecmp
    have hsmall := hs.2
    refine ⟨?_, fun _ => hpos.ne'⟩
    change (g.ecmp.take (2 ^ 32)).1 ≤ _
    omega

/-- The id of an egress group is in range. -/
theorem egressId_le {g : L3Groups NhStub} {n : Nat} (hinv : L3Groups.Inv g) (hs : Small g n)
    (k : EgressKey) (x : Counted) (hx : g.l3InterfaceMapping.lookup k = some x) :
    x.id ≤ 0x0fffffff := by
  obtain ⟨-, hlt, -⟩ := hinv.egress.ids k x hx
  have hnext := hs.1
  omega

theorem forWritten_iff {ids : List (Option Nat)} {isEcmp : Bool} {d : Option Nat} :
    (Notified.programs ids isEcmp d).ForWritten InRange ↔ ∃ i, d = some i ∧ InRange i isEcmp := by
  unfold Notified.ForWritten
  cases d with
  | none =>
    refine iff_of_false (fun h => ?_) (by simp)
    have hle := (h (2 ^ 28)).1
    simp at hle
  | some i => simp

/-- The id of one next hop at most. -/
theorem headD_le (hok : o.sw.Ok) (hcreate : ∀ k, o.sw.egressCreate k ≤ 0) (dst : Prefix)
    {nhs : NhStub.Set} (hlen : nhs.length ≤ 1) (hinv : L3Groups.Inv s.groups)
    (hs : Small s.groups 1) :
    (nhs.foldl (o.addNextHopId dst) (s, [])).2.headD 0 ≤ 0x0fffffff := by
  match nhs, hlen with
  | [], _ => exact Nat.zero_le _
  | [nh], _ =>
    have htaken := taken_addNextHop (o := o) hinv hs dst nh
    simp only [List.foldl_cons, List.foldl_nil, Seen.addNextHopId, List.nil_append]
    cases hid : o.nextHopId s nh with
    | none => exact Nat.zero_le _
    | some id =>
      rcases nextHopId_mem hok hcreate s dst hid with rfl | ⟨k, x, hx, rfl⟩
      · exact Nat.zero_le _
      · exact egressId_le (n := 0) htaken.inv (htaken.small (m := 0) hs) k x hx

/-- `add_l3_unicast_route`. -/
theorem addRoute_iff (hok : o.sw.Ok) (hcreate : ∀ k, o.sw.egressCreate k ≤ 0)
    (hinv : L3Groups.Inv s.groups)
    (hs : ∀ rv nhs, getNeighboursOfRoute o.env r = some (rv, nhs) →
      Small s.groups (nhs.length + 1)) :
    (o.addRoute s r).2.ForWritten InRange ↔ o.RouteAttaches s r := by
  unfold Seen.addRoute Seen.RouteAttaches
  cases hdup : duplicate o.env s.installed r with
  | true => exact iff_of_true trivial fun h => by cases h
  | false =>
    simp only [Bool.false_eq_true, if_false, forall_const]
    cases hnhs : getNeighboursOfRoute o.env r with
    | none => exact iff_of_true trivial fun _ _ h => by cases h
    | some y =>
      obtain ⟨rv, nhs⟩ := y
      have hsmall := hs rv nhs hnhs
      dsimp only
      by_cases hneg : rv < 0
      · rw [if_pos hneg]
        refine iff_of_true trivial fun rv' nhs' h hrv' _ => ?_
        cases h
        exact absurd hneg (not_lt.mpr hrv')
      · rw [if_neg hneg]
        have htaken := taken_foldl o r.dst nhs [] hinv ⟨by have := hsmall.1; omega, by
          have := hsmall.2; omega⟩
        have hnil := foldl_ids_ne_nil hok r.dst nhs s []
        by_cases hlen : nhs.length ≤ 1
        · have hhead := headD_le hok hcreate r.dst hlen hinv ⟨by have := hsmall.1; omega, by
            have := hsmall.2; omega⟩
          rw [if_pos hlen]
          refine iff_of_true (forWritten_iff.mpr ⟨_, rfl, hhead, by simp⟩) ?_
          intro rv' nhs' h _ hlt
          cases h
          exact absurd hlen (not_le.mpr hlt)
        · rw [if_neg hlen]
          have hecmp := ecmpId_inRange htaken.inv (htaken.small hsmall) nhs.toFinset
          refine forWritten_iff.trans ⟨?_, fun h => ?_⟩
          · rintro ⟨i, hi, hr⟩ rv' nhs' h - -
            cases h
            refine (hnil.mp fun hids => ?_).resolve_left (by simp)
            rw [if_pos hids] at hi
            cases hi
            exact hr.2 rfl rfl
          · have hne := hnil.mpr (.inr (h rv nhs rfl (not_lt.mp hneg) (not_le.mp hlen)))
            exact ⟨_, rfl, by rw [if_neg hne]; exact hecmp⟩

end Steps

/-! ## The notifications -/

/-- The condition on a neighbour that became reachable, where the loop ends with an id: several next
hops are a group of `nl_l3`, and for one an id is written. -/
def Seen.ReachableAlike (o : Seen) (s : L3) (n : Int × Addr) (obj : NeighObj) (p : L3Params) : Prop :=
  o.ForNextHops s p fun nhs =>
    o.Returns s nhs p → (p.nh ∈ nhs → (o.addL3NeighEgress s n obj).isSome) →
      (p.nh ∈ nhs ∧ (o.Joins s n obj ∨ o.LeavesId n obj) ∨
        ∃ rnh ∈ nhs, rnh ≠ p.nh ∧ o.Resolved s rnh) →
      (1 < nhs.length → nhs.toFinset ∈ s.groups.nhGrpToL3EcmpMapping) ∧
      (nhs.length ≤ 1 → p.nh ∈ nhs → ¬ o.LeavesId n obj)

/-- The condition on a neighbour that became unreachable: several next hops are a group of `nl_l3` and
another one has an id, and otherwise none has. -/
def Seen.UnreachableAlike (o : Seen) (s : L3) (p : L3Params) : Prop :=
  o.ForNextHops s p fun nhs =>
    o.Returns s nhs p →
      ((∃ rnh ∈ nhs, rnh ≠ p.nh ∧ o.Resolved s rnh) ↔ 1 < nhs.length) ∧
      (1 < nhs.length → nhs.toFinset ∈ s.groups.nhGrpToL3EcmpMapping)

section Notifications

variable {o : Seen} {s s' : L3} {n : Int × Addr} {obj : NeighObj} {p : L3Params}
  {nhs : NhStub.Set} {ids : List (Option Nat)}

theorem taken_collected (hinv : L3Groups.Inv s.groups) (hs : Small s.groups 1)
    (h : Collected o s n obj p nhs s' ids) : Taken s.groups s'.groups 1 := by
  by_cases hmem : p.nh ∈ nhs
  · obtain ⟨rv, hadd⟩ := h.added hmem
    exact taken_addL3NeighEgress hinv hs hadd
  · rw [h.same hmem]
    exact ⟨hinv, Nat.le_succ _, rfl, rfl⟩

/-- The group of several next hops is written and in range exactly if it is in the table. -/
theorem ecmpGroup_inRange_iff (nhs : NhStub.Set) (hinv : L3Groups.Inv s.groups) {n : Nat}
    (hs : Small s.groups n) :
    (∃ d, s.getL3EcmpGroup nhs = some d ∧ InRange d true) ↔
      nhs.toFinset ∈ s.groups.nhGrpToL3EcmpMapping := by
  refine getL3EcmpGroup_iff (Q := fun d => InRange d true) (fun nhs x hx => ?_) nhs
  obtain ⟨hpos, hlt, -⟩ := hinv.ecmp.ids nhs x hx
  have hnext := hs.2
  exact ⟨by omega, fun _ => hpos.ne'⟩

/-- There is an id exactly if `add_l3_neigh_egress` returns 0 or another next hop has one. -/
theorem ids_ne_nil_iff (h : Collected o s n obj p nhs s' ids) :
    ids ≠ [] ↔ p.nh ∈ nhs ∧ (o.Joins s n obj ∨ o.LeavesId n obj) ∨
      ∃ rnh ∈ nhs, rnh ≠ p.nh ∧ o.Resolved s rnh := by
  rw [h.nonempty]
  refine or_congr (and_congr_right fun hmem => ?_) Iff.rfl
  obtain ⟨rv, hadd⟩ := h.added hmem
  obtain ⟨hrv, -⟩ := addL3NeighEgress_written hadd
  rw [hadd]
  simp only [Option.some.injEq, Prod.mk.injEq, and_true]
  exact hrv

/-- `nh_reachable_notification`. -/
theorem nhReachable_alike_iff (hcreate : ∀ k, o.sw.egressCreate k ≤ 0)
    (hinv : L3Groups.Inv s.groups) (hs : Small s.groups 1) :
    (o.nhReachable s n obj p).ForWritten InRange ↔ o.ReachableAlike s n obj p := by
  rcases nhReachable_cases s n obj p hcreate with
    ⟨hends, hok⟩ | ⟨route, rv, nhs, s₁, ids, hroute, hnhs, hcol, hpoint⟩
  · refine iff_of_true ?_ (hok _)
    rcases hends with h | h <;> rw [h] <;> trivial
  · have htaken := taken_collected hinv hs hcol
    have hsmall := htaken.small (m := 0) hs
    rw [hpoint, Seen.ReachableAlike, forNextHops_iff hroute hnhs, ← ids_ne_nil_iff hcol]
    have hwritten := hcol.written_iff (Q := fun i => i ≤ 0x0fffffff)
      (fun k x hx => egressId_le hinv hs k x hx) fun k x hx => egressId_le htaken.inv hsmall k x hx
    have hgroup := ecmpGroup_inRange_iff nhs htaken.inv hsmall
    rw [htaken.mapping] at hgroup
    have hlength := hcol.length
    have hret := hcol.returns
    have hsome := hcol.isSome
    cases ids with
    | nil => exact iff_of_true trivial fun _ _ h => absurd rfl h
    | cons id ids =>
      rw [pointTo]
      by_cases hlen : nhs.length > 1
      · rw [if_pos hlen, forWritten_iff, hgroup]
        exact ⟨fun h _ _ _ => ⟨fun _ => h, fun hle => absurd hlen (not_lt.mpr hle)⟩,
          fun h => (h hret hsome (by simp)).1 hlen⟩
      · have hnil : ids = [] := by
          rw [List.length_cons] at hlength
          exact List.length_eq_zero_iff.mp (by omega)
        subst hnil
        rw [if_neg hlen, forWritten_iff]
        simp only [List.mem_singleton, forall_eq] at hwritten
        have hid : (∃ i, id = some i ∧ InRange i false) ↔ (p.nh ∈ nhs → ¬ o.LeavesId n obj) := by
          rw [← hwritten]
          simp [InRange]
        rw [hid]
        exact ⟨fun h _ _ _ => ⟨fun hlt => absurd hlt hlen, fun _ => h⟩,
          fun h => (h hret hsome (by simp)).2 (not_lt.mp hlen)⟩

/-- `nh_unreachable_notification`. -/
theorem nhUnreachable_alike_iff (hinv : L3Groups.Inv s.groups) (hs : Small s.groups 0) :
    (o.nhUnreachable s p).ForWritten InRange ↔ o.UnreachableAlike s p := by
  rcases nhUnreachable_cases (o := o) (s := s) (p := p) with
    ⟨hends, hok⟩ | ⟨route, rv, nhs, ids, hroute, hnhs, hret, hlook, hne, hprog⟩
  · refine iff_of_true ?_ (hok _)
    rcases hends with h | h <;> rw [h] <;> trivial
  · rw [hprog, Seen.UnreachableAlike, forNextHops_iff hroute hnhs, ← hne, forWritten_iff]
    simp only [hret, forall_const]
    have hgroup := ecmpGroup_inRange_iff nhs hinv hs
    by_cases hnil : ids = []
    · subst hnil
      by_cases hlen : nhs.length > 1
      · simp [hlen, InRange]
      · simp [hlen, InRange]
    · rw [if_neg (by rwa [List.length_eq_zero_iff])]
      by_cases hlen : nhs.length > 1
      · simp only [hlen, if_true, decide_true, hgroup]
        simp [hnil]
      · simp [hlen, hnil]

end Notifications

/-! ## Runs -/

/-- A route is added or changed, up to the call that programs it, or one of the steps of `Notifier`
happens. What `add_l3_unicast_route` does afterwards is among those. -/
inductive RouteEv where
  | addRoute (o : Seen) (r : L3Route) (updateRoute : Bool)
  | other (e : Notifier.Ev)

namespace RouteEv

/-- The state after an event, unless the process aborts. -/
def next (s : L3) : RouteEv → Option L3
  | .addRoute o r _ => if (o.addRoute s r).2 = .aborted then none else some (o.addRoute s r).1
  | .other e => Notifier.next { l3 := s } e

/-- `none` is for a process that has crashed. -/
def step : Option L3 → RouteEv → Option L3
  | none, _ => none
  | some s, e => next s e

/-- What a notification programs for the route it finds, it programs alike for the host and for any
shorter prefix. -/
def NotifiesAlike (driverVrf : Nat) (s : L3) (p : L3Params) (notified : Notified) : Prop :=
  ∀ route, getRouteByNhParams s.installed p = some route → notified.ForWritten fun id isEcmp =>
    ∀ len < p.dst.addr.bits, SwRoute.Alike driverVrf true
      (nhNotificationCall { p with dst := ⟨p.dst.addr, p.dst.addr.bits⟩ } route id isEcmp)
      (nhNotificationCall { p with dst := ⟨p.dst.addr, len⟩ } route id isEcmp)

/-- What a step programs, it programs alike for the host and for any shorter prefix. -/
def SameTarget (driverVrf : Nat) (s : L3) : RouteEv → Prop
  | .addRoute o r updateRoute => (o.addRoute s r).2.ForWritten fun id isEcmp =>
    ∀ len < r.dst.addr.bits, SwRoute.Alike driverVrf updateRoute
      (addL3UnicastRouteCall { r with dst := ⟨r.dst.addr, r.dst.addr.bits⟩ } id isEcmp updateRoute)
      (addL3UnicastRouteCall { r with dst := ⟨r.dst.addr, len⟩ } id isEcmp updateRoute)
  | .other (.nhReachable o n obj p) => NotifiesAlike driverVrf s p (o.nhReachable s n obj p)
  | .other (.nhUnreachable o _ _ p) => NotifiesAlike driverVrf s p (o.nhUnreachable s p)
  | .other _ => True

/-- The condition of a step. -/
def Ok (s : L3) : RouteEv → Prop
  | .addRoute o r _ => o.RouteAttaches s r
  | .other (.nhReachable o n obj p) => o.ReachableAlike s n obj p
  | .other (.nhUnreachable o _ _ p) => o.UnreachableAlike s p
  | .other _ => True

/-- The switch does what it is asked for when a route is added, it returns 0 or an error, and the
counters stay in the range of the ids. -/
def Serves (s : L3) : RouteEv → Prop
  | .addRoute o r _ => o.sw.Ok ∧ (∀ k, o.sw.egressCreate k ≤ 0) ∧
    ∀ rv nhs, getNeighboursOfRoute o.env r = some (rv, nhs) → Small s.groups (nhs.length + 1)
  | .other (.nhReachable o _ _ _) => Small s.groups 1 ∧ ∀ k, o.sw.egressCreate k ≤ 0
  | .other _ => Small s.groups 1

end RouteEv

section Runs

variable {o : Seen} {s s' : L3} {p : L3Params}

theorem notifiesAlike_iff (driverVrf : Nat) {notified : Notified}
    (hnone : getRouteByNhParams s.installed p = none → notified = .noRoute) :
    RouteEv.NotifiesAlike driverVrf s p notified ↔ notified.ForWritten InRange := by
  unfold RouteEv.NotifiesAlike
  cases hroute : getRouteByNhParams s.installed p with
  | none =>
    rw [hnone hroute]
    exact iff_of_true (fun _ h => by cases h) trivial
  | some route =>
    simp only [Option.some.injEq, forall_eq', nhNotificationCall, alike_iff]
    rfl

theorem sameTarget_iff (driverVrf : Nat) {e : RouteEv} (hinv : L3Groups.Inv s.groups)
    (hs : RouteEv.Serves s e) : RouteEv.SameTarget driverVrf s e ↔ RouteEv.Ok s e := by
  cases e with
  | addRoute o r updateRoute =>
    obtain ⟨hok, hcreate, hsmall⟩ := hs
    refine Iff.trans ?_ (addRoute_iff hok hcreate hinv hsmall)
    simp only [RouteEv.SameTarget, addL3UnicastRouteCall, alike_iff]
    rfl
  | other e =>
    cases e with
    | groups e => exact Iff.rfl
    | rest l3 => exact Iff.rfl
    | nhReachable o n obj p =>
      refine (notifiesAlike_iff driverVrf fun h => ?_).trans (nhReachable_alike_iff hs.2 hinv hs.1)
      unfold Seen.nhReachable
      rw [h]
    | nhUnreachable o n obj p =>
      refine (notifiesAlike_iff driverVrf fun h => ?_).trans
        (nhUnreachable_alike_iff hinv ⟨by have := hs.1; omega, by have := hs.2; omega⟩)
      unfold Seen.nhUnreachable
      rw [h]

theorem inv_addRoute {r : L3Route} (hinv : L3Groups.Inv s.groups)
    (hs : ∀ rv nhs, getNeighboursOfRoute o.env r = some (rv, nhs) →
      Small s.groups (nhs.length + 1)) : L3Groups.Inv (o.addRoute s r).1.groups := by
  unfold Seen.addRoute
  split
  · exact hinv
  · cases hnhs : getNeighboursOfRoute o.env r with
    | none => exact hinv
    | some y =>
      obtain ⟨rv, nhs⟩ := y
      have hsmall := hs rv nhs hnhs
      have htaken := taken_foldl o r.dst nhs [] hinv ⟨by have := hsmall.1; omega, by
        have := hsmall.2; omega⟩
      dsimp only
      split
      · exact hinv
      · split
        · exact htaken.inv
        · have hspare := (htaken.small hsmall).spare
          exact htaken.inv.step (.addL3EcmpGroup nhs.toFinset 0)
            (L3Groups.notWrapped_step htaken.inv hspare _)

theorem inv_next {e : RouteEv} (hinv : L3Groups.Inv s.groups) (hs : RouteEv.Serves s e)
    (h : RouteEv.next s e = some s') : L3Groups.Inv s'.groups := by
  cases e with
  | addRoute o r updateRoute =>
    simp only [RouteEv.next] at h
    split_ifs at h
    cases h
    exact inv_addRoute hinv hs.2.2
  | other e =>
    rw [Notifier.groups_next h]
    have hstep : L3Groups.Spare s.groups → ∀ ev, L3Groups.Inv (s.groups.step ev) :=
      fun hspare ev => hinv.step ev (L3Groups.notWrapped_step hinv hspare ev)
    cases e with
    | groups e => exact hstep hs.spare e
    | rest l3 => exact hinv
    | nhReachable o n obj p =>
      rcases Notifier.groupEvs_nhReachable o n obj p { l3 := s } with
        he | ⟨k, he⟩
      · rw [he]
        exact hinv
      · rw [he]
        exact hstep hs.1.spare (.addL3Egress k _)
    | nhUnreachable o n obj p =>
      simp only [Notifier.groupEvs]
      rcases Notifier.releaseEvs_eq o s n obj with he | ⟨k, he⟩
      · rw [he]
        exact hinv
      · rw [he]
        exact hstep hs.spare (.delL3Egress k 0)

/-- In a run whose steps the switch serves, all of them program hosts and prefixes alike exactly if
all of them meet their conditions. -/
theorem hostRoutes_run (driverVrf : Nat) {es : List RouteEv}
    (hs : Along RouteEv.step (Running RouteEv.Serves) (some {}) es) :
    Along RouteEv.step (Running (RouteEv.SameTarget driverVrf)) (some {}) es ↔
      Along RouteEv.step (Running RouteEv.Ok) (some {}) es :=
  along_running_congr (I := fun s => L3Groups.Inv s.groups) L3Groups.inv_init (fun _ => rfl)
    (fun _ _ _ hinv hs h => inv_next hinv hs h) (fun _ _ hinv hs => sameTarget_iff driverVrf hinv hs)
    hs

/-! ## Two runs -/

/-- A route to one address by 10.0.1.2 and 10.0.1.3. -/
def ecmpRoute : L3Route where
  dst := { addr := .inet 0x0a000201, len := 32 }
  priority := 20
  protocol := 186
  nexthops := [{ ifindex := 3, gateway := some (.inet 0x0a000102), via := none },
    { ifindex := 3, gateway := some (.inet 0x0a000103), via := none }]

/-- 10.0.1.2 is in the neighbour cache as `obj`, and 10.0.1.3 is not. -/
def seesEcmpRoute (obj : NeighObj) (h : obj.Formed) : Seen :=
  { Hosts.seesNoRoute obj h with installed := [ecmpRoute] }

theorem small_init (n : Nat) (hn : n + 1 ≤ 2 ^ 28) : Small ({} : L3Groups NhStub) n :=
  ⟨by rw [Nat.add_comm]; exact hn, by rw [Nat.add_comm]; exact hn⟩

theorem getNeighboursOfRoute_ecmpRoute : getNeighboursOfRoute portEnv ecmpRoute =
    some (2, [{ nh := .inet 0x0a000102, ifindex := 3 }, { nh := .inet 0x0a000103, ifindex := 3 }]) := by
  decide

theorem serves_ecmpRoute (obj : NeighObj) (h : obj.Formed) (updateRoute : Bool) :
    Along RouteEv.step (Running RouteEv.Serves) (some {})
      [.addRoute (seesEcmpRoute obj h) ecmpRoute updateRoute] := by
  refine ⟨fun s hs => ?_, trivial⟩
  cases hs
  refine ⟨ok_default, fun k => le_refl 0, fun rv nhs hnhs => ?_⟩
  cases getNeighboursOfRoute_ecmpRoute.symm.trans hnhs
  exact small_init 3 (by decide)

/-- `hostRoutes_run` where one of the next hops is resolved. -/
theorem hostRoutes_run_resolved :
    Along RouteEv.step (Running (RouteEv.SameTarget 0)) (some {})
      [.addRoute (seesEcmpRoute Hosts.reachableNeigh Hosts.formed_reachableNeigh) ecmpRoute
        false] := by
  refine (hostRoutes_run 0 (serves_ecmpRoute _ _ false)).mpr ⟨fun s hs => ?_, trivial⟩
  cases hs
  intro _ rv nhs hnhs _ _
  cases getNeighboursOfRoute_ecmpRoute.symm.trans hnhs
  refine ⟨{ nh := .inet 0x0a000102, ifindex := 3 }, List.mem_cons_self, Hosts.reachableNeigh, 2,
    { ownPortId := 1, portId := 1, vid := 1, addr := 1 }, rfl, rfl, rfl, .inr ⟨3, rfl, rfl, ?_, ?_⟩⟩
  · exact ⟨_, rfl, by decide⟩
  · decide

/-- None of the next hops is resolved: as a host the route is not programmed, and later, when one of
them is, there is no entry to be modified. As a prefix it points to the controller first and to the
group later. -/
theorem ecmpHost_unresolved :
    let o := seesEcmpRoute Hosts.incompleteNeigh Hosts.formed_incompleteNeigh
    let host := addL3UnicastRouteCall ecmpRoute
    let shorter := addL3UnicastRouteCall { ecmpRoute with dst := ⟨ecmpRoute.dst.addr, 24⟩ }
    (o.addRoute {} ecmpRoute).2 = .programs [] true (some 0) ∧
    Along RouteEv.step (Running RouteEv.Serves) (some {}) [.addRoute o ecmpRoute false] ∧
    ¬ Along RouteEv.step (Running (RouteEv.SameTarget 0)) (some {}) [.addRoute o ecmpRoute false] ∧
    (host 0 true false).flowMsg 0 = (-EINVAL, none) ∧
    (Flows.call 0 (Flows.call 0 ∅ (host 0 true false)) (host 1 true true)).lookup
      ((host 1 true true).entry 0) = none ∧
    (Flows.call 0 (Flows.call 0 ∅ (shorter 0 true false)) (shorter 1 true true)).lookup
      ((shorter 1 true true).entry 0) = some (.l3Ecmp 1) := by
  intro o host shorter
  have hprog : (o.addRoute {} ecmpRoute).2 = .programs [] true (some 0) := by decide
  have hhost : (host 0 true false).flowMsg 0 = (-EINVAL, none) := by decide
  refine ⟨hprog, serves_ecmpRoute _ _ false, fun h => ?_, hhost, by decide, by decide⟩
  have hsame := h.1 {} rfl
  simp only [RouteEv.SameTarget, hprog, Notified.ForWritten] at hsame
  obtain ⟨target, hmsg, -⟩ := hsame 0 24 (by decide)
  have hnone := congrArg Prod.snd (hhost.symm.trans hmsg)
  cases hnone

end Runs

end L3

end Basebox
