import Basebox.Netlink.L3HostSets

/-!
# The life cycle of a neighbour (`src/netlink/nl_l3.cc`)

A neighbour is added, updated any number of times and deleted. `add_l3_neigh` and `del_l3_neigh` go
by the state of the neighbour, `update_l3_neigh` by its link-layer address: an address that comes is
an addition, and one that goes is a deletion.

* `lifeCycle`: the calls for a sequence of objects, each the new one of an update and the old one of
  the next.
* `Steady`: a port of the switch, a kernel that gives the same answer each time, and a switch that
  does what it is told.
* `Gone`: the neighbour is in neither set, the switch has no host entry for it, and what was taken
  for it was given back once.
* `Clear`, `Moves`, `Answered`: what the calls find. The callbacks of the routes that wait for the
  neighbour find an id, which `nh_reachable_notification` asserts.
* `gone_lifeCycle_iff`: so it ends exactly if the neighbour is resolved at some time, provided that its
  state is one that its link-layer address is valid in, that no new address is one that another
  neighbour of the port has, and that the callbacks find an id.
* `failedNeigh_not_gone`: a neighbour that is never resolved stays in its set, with a host entry.
-/

namespace Basebox

namespace L3

namespace Hosts

/-! ## The calls -/

/-- The updates from an object on, and the deletion. -/
def updates (n : Int × Addr) : NeighObj → List NeighObj → List Call
  | obj, [] => [.delL3Neigh n obj]
  | obj, obj' :: objs => .updateL3Neigh n obj obj' :: updates n obj' objs

/-- The calls for a neighbour that is added as `obj`, changes to each of `objs` and is deleted. -/
def lifeCycle (n : Int × Addr) (obj : NeighObj) (objs : List NeighObj) : List Call :=
  .addL3Neigh n obj :: updates n obj objs

/-- What a call finds: the interface is a port of the switch and not one of a bridge, the kernel
answers `routable`, and the switch does what it is told. The creation of an egress group is answered
by 0 then. -/
structure Steady (n : Int × Addr) (link : L3Link) (routable : Bool) (o : Seen) : Prop where
  found : o.env.link n.1 = some link
  isSwitch : link.isSwitch = true
  isBridge : link.isBridge = false
  port : link.ownPortId ≠ 0
  vid : isVidValid link.vid = true
  answer : o.isL3NeighRoutable n = routable
  sw : o.sw.Ok
  egressCreate : ∀ k, o.sw.egressCreate k = 0
  egressUpdate : ∀ k, 0 ≤ o.egressUpdate k

/-- Nothing is known of the neighbour. -/
structure Unknown (n : Int × Addr) (x : Hosts) : Prop where
  routable : stub n ∉ x.l3.routableL3Neighs
  unroutable : stub n ∉ x.l3.unroutableL3Neighs
  hosts : n.2 ∉ x.hosts
  egress : x.egress.of n = []
  vlans : x.vlans.of n = []

/-- Nothing is left of the neighbour, and nothing was given back that it did not hold. -/
structure Gone (n : Int × Addr) (x x' : Hosts) : Prop extends Unknown n x' where
  egressOverdrawn : x'.egress.overdrawn = x.egress.overdrawn
  vlansOverdrawn : x'.vlans.overdrawn = x.vlans.overdrawn

/-! ## What holds between the calls -/

section Phases

variable (n : Int × Addr) (link : L3Link) (x₀ x : Hosts)

/-- The egress group of the neighbour. -/
def portKey (dMac : Mac) : EgressKey where
  portId := link.ownPortId
  vid := link.vid
  srcMac := link.addr
  dstMac := dMac

/-- What the notes have of the neighbour. -/
structure Holds (egress : List EgressKey) (vlans : List (Nat × Nat)) : Prop where
  egress : x.egress.of n = egress
  vlans : x.vlans.of n = vlans
  egressOverdrawn : x.egress.overdrawn = x₀.egress.overdrawn
  vlansOverdrawn : x.vlans.overdrawn = x₀.vlans.overdrawn

/-- As before the neighbour was added. -/
structure Idle : Prop extends Holds n x₀ x [] [] where
  routable : x.l3.routableL3Neighs = x₀.l3.routableL3Neighs
  unroutable : x.l3.unroutableL3Neighs = x₀.l3.unroutableL3Neighs
  hosts : x.hosts = x₀.hosts

/-- Unroutable. -/
structure Waiting : Prop extends Holds n x₀ x [] [] where
  routable : x.l3.routableL3Neighs = x₀.l3.routableL3Neighs
  unroutable : x.l3.unroutableL3Neighs = NhStub.Set.emplace x₀.l3.unroutableL3Neighs (stub n)
  hosts : x.hosts = x₀.hosts

/-- Routable, without a link-layer address up to now. -/
structure Pending : Prop extends Holds n x₀ x [] [] where
  routable : x.l3.routableL3Neighs = x₀.l3.routableL3Neighs ∨
    x.l3.routableL3Neighs = NhStub.Set.emplace x₀.l3.routableL3Neighs (stub n)
  unroutable : x.l3.unroutableL3Neighs = x₀.l3.unroutableL3Neighs
  hosts : x.hosts = x₀.hosts ∨ x.hosts = x₀.hosts.insert n.2

/-- Routable, with the link-layer address `dMac`. -/
structure Alive (dMac : Mac) : Prop extends
    Holds n x₀ x [portKey link dMac] [(link.ownPortId, link.vid)] where
  routable : x.l3.routableL3Neighs = NhStub.Set.emplace x₀.l3.routableL3Neighs (stub n)
  unroutable : x.l3.unroutableL3Neighs = x₀.l3.unroutableL3Neighs
  hosts : x.hosts = x₀.hosts.insert n.2
  mem : portKey link dMac ∈ x.l3.groups.l3InterfaceMapping

end Phases

section Steps

variable {n : Int × Addr} {link : L3Link} {routable : Bool} {o : Seen} {obj : NeighObj}
  {x₀ x x' : Hosts} {dMac : Mac}

theorem Idle.gone (h : Idle n x₀ x) (h₀ : Unknown n x₀) : Gone n x₀ x where
  routable := by rw [h.routable]; exact h₀.routable
  unroutable := by rw [h.unroutable]; exact h₀.unroutable
  hosts := by rw [h.hosts]; exact h₀.hosts
  egress := h.egress
  vlans := h.vlans
  egressOverdrawn := h.egressOverdrawn
  vlansOverdrawn := h.vlansOverdrawn

theorem Idle.pending (h : Idle n x₀ x) : Pending n x₀ x :=
  ⟨h.toHolds, .inl h.routable, h.unroutable, .inl h.hosts⟩

/-! ### What the port gives -/

theorem Steady.portId (h : Steady n link routable o) : link.portId = link.ownPortId :=
  o.env.portId_eq h.found h.port

theorem Steady.getPortId (h : Steady n link routable o) :
    L3.getPortId o.env n.1 = link.ownPortId := by
  rw [L3.getPortId, h.found]
  rfl

theorem Steady.egressKeyAt (h : Steady n link routable o) (dMac : Mac) :
    L3.egressKeyAt o.env link n.1 dMac = portKey link dMac := by
  rw [L3.egressKeyAt, h.getPortId]
  rfl

theorem Steady.egressIfindex (h : Steady n link routable o) (dMac : Mac) :
    L3.egressIfindex o.env link n dMac = some n.1 := by
  simp [L3.egressIfindex, h.isBridge]

theorem Steady.addL3NeighEgress (h : Steady n link routable o) (s : L3) (dMac : Mac) :
    s.addL3NeighEgress o.env o.sw n (.valid dMac) =
      s.addVlanEgress o.env o.sw (some link) n.1 link.vid link.addr dMac := by
  simp [L3.addL3NeighEgress, addVlanEgress, h.found, h.isBridge]

/-- On a port the result of `add_l3_neigh_egress` is 0, unless the neighbour failed. -/
theorem Steady.rv_eq_zero (h : Steady n link routable o) {nud : Nud} (hnud : nud ≠ .failed)
    (t : L3) : (t.addL3NeighEgress o.env o.sw n nud).1 = 0 := by
  cases nud with
  | failed => exact absurd rfl hnud
  | incomplete => rfl
  | valid dMac =>
    have hport : link.portId ≠ 0 := by rw [h.portId]; exact h.port
    have hvlan : ¬ (t.addVlan o.sw (some link) link.vid).1 < 0 := by
      rw [addVlan_rv t link h.vid hport, not_lt]
      split
      · exact le_refl 0
      · exact h.sw.enableVlan _
    rw [h.addL3NeighEgress]
    unfold addVlanEgress
    dsimp only
    rw [if_neg hvlan, addL3Egress_rv _ n.1 link.vid link.addr dMac
      (by rw [h.getPortId]; exact h.port)]
    split
    · rfl
    · exact h.egressCreate _

/-- On a port the references are always taken. -/
theorem Steady.takes (h : Steady n link routable o) (s : L3) (dMac : Mac) :
    s.takes o.env o.sw n (.valid dMac) = true := by
  have hrv : (s.addL3NeighEgress o.env o.sw n (.valid dMac)).1 = 0 :=
    h.rv_eq_zero (by simp) s
  simp [L3.takes, findsPort, h.found, h.isBridge, hrv]

theorem Steady.takesEgress (h : Steady n link routable o) (hnud : obj.nud = some (.valid dMac))
    (s : L3) : o.takesEgress s n obj = some (portKey link dMac) := by
  simp [Seen.takesEgress, hnud, h.found, h.takes, h.egressIfindex, h.egressKeyAt]

theorem Steady.takesVlan (h : Steady n link routable o) (hnud : obj.nud = some (.valid dMac))
    (s : L3) : o.takesVlan s n obj = some (link.ownPortId, link.vid) := by
  simp [Seen.takesVlan, hnud, h.found, h.egressIfindex, h.isBridge, takenVlan, h.vid, h.portId,
    h.port, h.sw.enableVlan]

theorem Steady.releasedAt (h : Steady n link routable o) (s : L3) (dMac : Mac) :
    s.releasedAt o.env link n dMac = some (n.1, some link) := by
  simp [L3.releasedAt, h.isBridge]

theorem Steady.givesEgress (h : Steady n link routable o) (hll : obj.lladdr = some dMac)
    (s : L3) : o.givesEgress s n obj = some (portKey link dMac) := by
  simp [Seen.givesEgress, hll, h.found, h.releasedAt, h.getPortId, h.port, h.egressKeyAt]

theorem Steady.givesVlan (h : Steady n link routable o) (hll : obj.lladdr = some dMac)
    (s : L3) : o.givesVlan s n obj = some (link.ownPortId, link.vid) := by
  simp [Seen.givesVlan, hll, h.found, h.releasedAt, givenVlan, h.vid, h.portId, h.port]

theorem mem_addL3Egress {g : L3Groups NhStub} {k : EgressKey} {send : Int}
    (h : 0 ≤ (g.addL3Egress k send).1) : k ∈ (g.addL3Egress k send).2.2.l3InterfaceMapping := by
  unfold L3Groups.addL3Egress at h ⊢
  by_cases hport : k.portId = 0
  · simp [hport, EINVAL] at h
  · simp only [hport, if_false] at h ⊢
    cases hl : g.l3InterfaceMapping.lookup k with
    | none =>
      simp only [hl] at h ⊢
      split
      · next hneg =>
        rw [if_pos hneg] at h
        exact absurd hneg (not_lt.mpr h)
      · exact (AList.mem_insert _).mpr (.inl rfl)
    | some c => exact (AList.mem_insert _).mpr (.inl rfl)

/-- `add_l3_neigh_egress` on a port returns a result that is not negative, and the group is there. -/
theorem Steady.addL3NeighEgress_spec (h : Steady n link routable o)
    (hnud : obj.nud = some (.valid dMac)) (s : L3) :
    ∃ rv s', o.addL3NeighEgress s n obj = some (rv, s') ∧ 0 ≤ rv ∧
      portKey link dMac ∈ s'.groups.l3InterfaceMapping := by
  have htakes := h.takes s dMac
  unfold L3.takes at htakes
  rw [Bool.and_eq_true, decide_eq_true_eq] at htakes
  have hmem : portKey link dMac ∈
      (s.addL3NeighEgress o.env o.sw n (.valid dMac)).2.groups.l3InterfaceMapping := by
    have hrv := htakes.2
    rw [h.addL3NeighEgress] at hrv ⊢
    unfold addVlanEgress at hrv ⊢
    dsimp only at hrv ⊢
    split
    · next hneg =>
      rw [if_pos hneg] at hrv
      exact absurd hneg (not_lt.mpr hrv)
    · next hneg =>
      rw [if_neg hneg] at hrv
      rw [← h.egressKeyAt]
      exact mem_addL3Egress hrv
  exact ⟨_, _, seen_addL3NeighEgress hnud s, htakes.2, hmem⟩

/-! ### Callbacks that return -/

/-- The callbacks that `add_l3_neigh` runs for the neighbour, if it gets that far, find an id. -/
def Served (o : Seen) (routable : Bool) (n : Int × Addr) (obj : NeighObj) (s : L3) : Prop :=
  ∀ nud, obj.nud = some nud →
    (n.2.cmpPrefix ipv6Ll = .eq ∨ routable = true ∧ nud ≠ .failed) →
      ∀ p ∈ s.nhCallbacks, p.nh.neigh = n → s.Answers o.routeEnv nud p

theorem Steady.notifyReachable (h : Steady n link routable o) {s : L3} {nud : Nud}
    (hnud : obj.nud = some nud)
    (ha : ∀ p ∈ s.nhCallbacks, p.nh.neigh = n → s.Answers o.routeEnv nud p) :
    ∃ s', o.notifyReachable s n obj = some s' := by
  rw [seen_notifyReachable hnud]
  exact notifyReachable_returns ha fun hne t => h.rv_eq_zero hne t

theorem seen_notifyUnreachable_returns {s : L3}
    (hr : ∀ route ∈ s.installed, LooksUp o.routeEnv route) (hll : obj.lladdr = some dMac) :
    ∃ s', o.notifyUnreachable s n obj = some s' := by
  rw [seen_notifyUnreachable hll]
  exact notifyUnreachable_returns (fun route hmem _ => hr route hmem) dMac

theorem emplace_emplace (l : NhStub.Set) (m : NhStub) :
    NhStub.Set.emplace (NhStub.Set.emplace l m) m = NhStub.Set.emplace l m :=
  if_pos (mem_emplace.mpr (.inl rfl))

theorem erase_emplace {l : NhStub.Set} {m : NhStub} (h : m ∉ l) :
    List.erase (NhStub.Set.emplace l m) m = l := by
  unfold NhStub.Set.emplace
  rw [if_neg h]
  exact List.erase_orderedInsert_of_notMem h

theorem erase_insert {l : List Addr} {a : Addr} (h : a ∉ l) : (l.insert a).erase a = l := by
  rw [List.insert_of_not_mem h, List.erase_cons_head]

/-! ### What the calls do on a port -/

/-- A neighbour with a link-layer address gets its host entry. -/
theorem Steady.addHost (hs : Steady n link routable o) (x : Hosts)
    (hnud : obj.nud = some (.valid dMac))
    (ha : ∀ p ∈ x.l3.nhCallbacks, p.nh.neigh = n → x.l3.Answers o.routeEnv (.valid dMac) p) :
    ∃ x', x.addHost o n obj = some x' ∧ Kept x.l3 x'.l3 ∧ x'.hosts = x.hosts.insert n.2 ∧
      x'.egress = x.egress.take n (some (portKey link dMac)) ∧
      x'.vlans = x.vlans.take n (some (link.ownPortId, link.vid)) ∧
      portKey link dMac ∈ x'.l3.groups.l3InterfaceMapping := by
  obtain ⟨rv, s, hadd, hrv, hmem⟩ := hs.addL3NeighEgress_spec hnud x.l3
  obtain ⟨hkept, hgrows₀⟩ := kept_addL3NeighEgress hadd
  have hwaiting : s.nhCallbacks = x.l3.nhCallbacks := by
    rw [seen_addL3NeighEgress hnud, Option.some.injEq] at hadd
    obtain ⟨g, pv, hgp, -⟩ := L3.addL3NeighEgress_spec o.env o.sw x.l3 n (.valid dMac)
    rw [hadd] at hgp
    have hcallbacks := congrArg L3.nhCallbacks hgp
    exact hcallbacks
  have ha' : ∀ p ∈ s.nhCallbacks, p.nh.neigh = n → s.Answers o.routeEnv (.valid dMac) p := by
    intro p hp hpn
    rw [hwaiting] at hp
    exact (ha p hp hpn).mono hgrows₀ hkept.installed
  obtain ⟨s', hs'⟩ := hs.notifyReachable hnud ha'
  obtain ⟨hkept', hgrows⟩ := kept_notifyReachable hs'
  unfold Hosts.addHost Hosts.addL3NeighEgress Hosts.notifyReachable
  simp only [hadd, Option.map_some, Option.bind_some, not_lt.mpr hrv, if_false,
    not_lt.mpr (hs.sw.hostAdd n.2), hs', hs.takesEgress hnud, hs.takesVlan hnud]
  exact ⟨_, rfl, hkept.trans hkept', rfl, rfl, rfl, hgrows.egress _ hmem⟩

/-- A neighbour without one may get a host entry, and takes nothing. -/
theorem Steady.addHost_of_none (hs : Steady n link routable o) (x : Hosts) {nud : Nud}
    (hnud : obj.nud = some nud) (hnone : ∀ dMac, nud ≠ .valid dMac)
    (ha : nud ≠ .failed →
      ∀ p ∈ x.l3.nhCallbacks, p.nh.neigh = n → x.l3.Answers o.routeEnv nud p) :
    ∃ x', x.addHost o n obj = some x' ∧ Kept x.l3 x'.l3 ∧
      (x'.hosts = x.hosts ∨ x'.hosts = x.hosts.insert n.2) ∧
      x'.egress = x.egress ∧ x'.vlans = x.vlans := by
  obtain ⟨rv, hadd, hneg⟩ : ∃ rv, x.l3.addL3NeighEgress o.env o.sw n nud = (rv, x.l3) ∧
      (nud = .failed → rv < 0) := by
    cases nud with
    | valid dMac => exact absurd rfl (hnone dMac)
    | failed => exact ⟨-EINVAL, rfl, fun _ => by decide⟩
    | incomplete => exact ⟨0, rfl, by simp⟩
  have htakes : o.takesEgress x.l3 n obj = none ∧ o.takesVlan x.l3 n obj = none := by
    unfold Seen.takesEgress Seen.takesVlan
    rw [hnud]
    cases nud with
    | valid dMac => exact absurd rfl (hnone dMac)
    | _ => exact ⟨rfl, rfl⟩
  unfold Hosts.addHost Hosts.addL3NeighEgress Hosts.notifyReachable
  simp only [seen_addL3NeighEgress hnud, hadd, Option.map_some, Option.bind_some, htakes.1,
    htakes.2, Ledger.take, not_lt.mpr (hs.sw.hostAdd n.2), if_false]
  split
  · exact ⟨_, rfl, .refl _, .inl rfl, rfl, rfl⟩
  · next hrv =>
    obtain ⟨s', hs'⟩ := hs.notifyReachable hnud (ha fun h => hrv (hneg h))
    rw [hs']
    exact ⟨_, rfl, (kept_notifyReachable hs').1, .inr rfl, rfl, rfl⟩

/-- A neighbour with a link-layer address gives back its references with the host entry. -/
theorem Steady.removeHost (hs : Steady n link routable o) (x : Hosts)
    (hr : ∀ route ∈ x.l3.installed, LooksUp o.routeEnv route)
    (hll : n.2.cmpPrefix ipv6Ll ≠ .eq) (haddr : n.2 ∉ o.env.l3Addrs n.1)
    (hmac : obj.lladdr = some dMac) :
    ∃ x', x.removeHost o n obj = some x' ∧ Kept x.l3 x'.l3 ∧ x'.hosts = x.hosts.erase n.2 ∧
      x'.egress = x.egress.give n (some (portKey link dMac)) ∧
      x'.vlans = x.vlans.give n (some (link.ownPortId, link.vid)) := by
  have hdel := seen_delL3NeighEgress (o := o) (n := n) hmac x.l3
  have hkept := kept_delL3NeighEgress hdel
  have hr' : ∀ route ∈ (x.l3.delL3NeighEgress o.env n dMac).installed,
      LooksUp o.routeEnv route := by
    rw [hkept.installed]
    exact hr
  obtain ⟨s', hs'⟩ := seen_notifyUnreachable_returns (n := n) hr' hmac
  unfold Hosts.removeHost Hosts.delL3NeighEgress notifyUnreachable
  simp only [haddr, hll, if_false, not_lt.mpr (hs.sw.hostRemove n.2), hdel, Option.map_some,
    Option.bind_some, hs', hs.givesEgress hmac, hs.givesVlan hmac]
  exact ⟨_, rfl, hkept.trans (kept_notifyUnreachable hs'), rfl, rfl, rfl⟩

theorem Holds.congr {egress : List EgressKey} {vlans : List (Nat × Nat)}
    (h : Holds n x₀ x egress vlans) (he : x'.egress = x.egress) (hv : x'.vlans = x.vlans) :
    Holds n x₀ x' egress vlans :=
  ⟨he ▸ h.egress, hv ▸ h.vlans, he ▸ h.egressOverdrawn, hv ▸ h.vlansOverdrawn⟩

/-- What was taken is held. -/
theorem Holds.take (h : Holds n x₀ x [] []) {k : EgressKey} {v : Nat × Nat}
    (he : x'.egress = x.egress.take n (some k)) (hv : x'.vlans = x.vlans.take n (some v)) :
    Holds n x₀ x' [k] [v] where
  egress := by
    rw [he, Ledger.of_take, if_pos rfl, h.egress]
    rfl
  vlans := by
    rw [hv, Ledger.of_take, if_pos rfl, h.vlans]
    rfl
  egressOverdrawn := by
    rw [he, Ledger.overdrawn_take]
    exact h.egressOverdrawn
  vlansOverdrawn := by
    rw [hv, Ledger.overdrawn_take]
    exact h.vlansOverdrawn

/-- What is held is given back, and nothing else. -/
theorem Holds.give {k : EgressKey} {v : Nat × Nat} (h : Holds n x₀ x [k] [v])
    (he : x'.egress = x.egress.give n (some k)) (hv : x'.vlans = x.vlans.give n (some v)) :
    Holds n x₀ x' [] [] where
  egress := by
    rw [he, Ledger.of_give, if_pos rfl, h.egress]
    simp
  vlans := by
    rw [hv, Ledger.of_give, if_pos rfl, h.vlans]
    simp
  egressOverdrawn := by
    rw [he, Ledger.overdrawn_give _ _ (by rw [h.egress]; exact List.mem_singleton_self k)]
    exact h.egressOverdrawn
  vlansOverdrawn := by
    rw [hv, Ledger.overdrawn_give _ _ (by rw [h.vlans]; exact List.mem_singleton_self v)]
    exact h.vlansOverdrawn

/-! ### A routable neighbour -/

/-- A neighbour that has a link-layer address is added, whether or not it was before without one. -/
theorem Pending.addL3Neigh (h : Pending n x₀ x) (hs : Steady n link true o)
    (hll : n.2.cmpPrefix ipv6Ll ≠ .eq) (ha : Served o true n obj x.l3)
    (hnud : obj.nud = some (.valid dMac)) :
    ∃ x', x.addL3Neigh o n obj = some x' ∧ Alive n link x₀ x' dMac := by
  obtain ⟨x', hx', hkept, hhosts, he, hv, hmem⟩ := hs.addHost
    (x.setRoutable (NhStub.Set.emplace x.l3.routableL3Neighs (stub n))) hnud
    (ha (.valid dMac) hnud (.inr ⟨rfl, by simp⟩))
  refine ⟨x', ?_, h.toHolds.take he hv, ?_, hkept.unroutable.trans h.unroutable, ?_, hmem⟩
  · rw [Hosts.addL3Neigh, if_neg hll, if_pos hs.answer, hx']
  · rw [hkept.routable]
    change NhStub.Set.emplace x.l3.routableL3Neighs (stub n) = _
    rcases h.routable with hx | hx
    · rw [hx]
    · rw [hx, emplace_emplace]
  · rw [hhosts]
    change x.hosts.insert n.2 = x₀.hosts.insert n.2
    rcases h.hosts with hx | hx
    · rw [hx]
    · rw [hx]
      exact List.insert_of_mem List.mem_insert_self

/-- A neighbour without a link-layer address is added. -/
theorem Idle.addL3Neigh (h : Idle n x₀ x) (hs : Steady n link true o)
    (hll : n.2.cmpPrefix ipv6Ll ≠ .eq) (ha : Served o true n obj x.l3) {nud : Nud}
    (hnud : obj.nud = some nud) (hnone : ∀ dMac, nud ≠ .valid dMac) :
    ∃ x', x.addL3Neigh o n obj = some x' ∧ Pending n x₀ x' := by
  obtain ⟨x', hx', hkept, hhosts, he, hv⟩ := hs.addHost_of_none
    (x.setRoutable (NhStub.Set.emplace x.l3.routableL3Neighs (stub n))) hnud hnone
    (fun hne => ha nud hnud (.inr ⟨rfl, hne⟩))
  refine ⟨x', ?_, h.toHolds.congr he hv, .inr ?_, hkept.unroutable.trans h.unroutable, ?_⟩
  · rw [Hosts.addL3Neigh, if_neg hll, if_pos hs.answer, hx']
  · rw [hkept.routable, ← h.routable]
    rfl
  · rw [← h.hosts]
    exact hhosts

/-- A neighbour that is deleted leaves what was there before it. -/
theorem Alive.delL3Neigh (h : Alive n link x₀ x dMac) (h₀ : Unknown n x₀)
    (hs : Steady n link true o) (hll : n.2.cmpPrefix ipv6Ll ≠ .eq)
    (haddr : n.2 ∉ o.env.l3Addrs n.1) (hr : ∀ route ∈ x.l3.installed, LooksUp o.routeEnv route)
    (hnud : obj.nud = some (.valid dMac)) :
    ∃ x', x.delL3Neigh o n obj = some x' ∧ Idle n x₀ x' := by
  obtain ⟨hmac, hf, hi⟩ := NeighObj.nud_eq_valid_iff.mp hnud
  obtain ⟨x', hx', hkept, hhosts, he, hv⟩ := hs.removeHost
    (x.setRoutable (x.l3.routableL3Neighs.erase (stub n))) hr hll haddr hmac
  have hun : stub n ∉ x.l3.unroutableL3Neighs := by
    rw [h.unroutable]
    exact h₀.unroutable
  refine ⟨x', ?_, h.toHolds.give he hv, ?_, hkept.unroutable.trans h.unroutable, ?_⟩
  · rw [Hosts.delL3Neigh, if_neg (by simp [hf, hi, hs.found]), if_neg hun, hx']
  · rw [hkept.routable]
    change x.l3.routableL3Neighs.erase (stub n) = _
    rw [h.routable, erase_emplace h₀.routable]
  · rw [hhosts]
    change x.hosts.erase n.2 = x₀.hosts
    rw [h.hosts, erase_insert h₀.hosts]

/-- Without a link-layer address in a state that says so, `del_l3_neigh` does nothing. -/
theorem delL3Neigh_of_none {nud : Nud} (hnud : obj.nud = some nud)
    (hnone : ∀ dMac, nud ≠ .valid dMac) (x : Hosts) : x.delL3Neigh o n obj = some x := by
  unfold Hosts.delL3Neigh
  refine if_pos ?_
  cases nud with
  | valid dMac => exact absurd rfl (hnone dMac)
  | failed => exact .inl (NeighObj.nud_eq_failed_iff.mp hnud)
  | incomplete => exact .inr (.inl (NeighObj.nud_eq_incomplete_iff.mp hnud))

theorem mem_updateL3NeighLl {g : L3Groups NhStub} {portId vid : Nat} {sMac llOld llNew : Mac}
    {send : Int} (hne : llOld ≠ llNew)
    (hold : (⟨portId, vid, sMac, llOld⟩ : EgressKey) ∈ g.l3InterfaceMapping) (hsend : 0 ≤ send)
    (hnew : (⟨portId, vid, sMac, llNew⟩ : EgressKey) ∉ g.l3InterfaceMapping) :
    (⟨portId, vid, sMac, llNew⟩ : EgressKey) ∈
      (g.updateL3NeighLl false true portId vid sMac llOld llNew send).2.l3InterfaceMapping := by
  obtain ⟨c, hc⟩ := Table.mem_iff_lookup.mp hold
  unfold L3Groups.updateL3NeighLl
  simp only [hne, if_false, Bool.not_true, Bool.or_self, Bool.false_eq_true, hc, not_lt.mpr hsend,
    hnew]
  rw [Table.mem_iff_lookup, Table.lookup_emplace, if_pos rfl]
  exact ⟨_, rfl⟩

/-- The reference moves with the address. -/
theorem Alive.updateLl {llOld llNew : Mac} (h : Alive n link x₀ x llOld)
    (hs : Steady n link true o) (hne : llOld ≠ llNew)
    (hfree : portKey link llNew ∉ x.l3.groups.l3InterfaceMapping) :
    Alive n link x₀ (x.updateLl o link n.1 llOld llNew) llNew := by
  have hmoves : (x.updateLl o link n.1 llOld llNew).egress =
      x.egress.move (portKey link llOld) (portKey link llNew) := by
    unfold Hosts.updateLl
    rw [hs.egressKeyAt, hs.egressKeyAt]
    exact if_pos ⟨h.mem, hs.egressUpdate _, hfree⟩
  refine ⟨⟨?_, h.vlans, ?_, h.vlansOverdrawn⟩, h.routable, h.unroutable, h.hosts, ?_⟩
  · rw [hmoves, Ledger.of_move, h.egress]
    simp
  · rw [hmoves]
    exact h.egressOverdrawn
  · unfold Hosts.updateLl
    rw [hs.egressKeyAt, hs.egressKeyAt, hs.getPortId]
    exact mem_updateL3NeighLl hne h.mem (hs.egressUpdate _) hfree

theorem Steady.isSwitchInterface (hs : Steady n link routable o) :
    L3.isSwitchInterface o.env n.1 = true := by
  simp [L3.isSwitchInterface, hs.found, hs.isSwitch]

/-- `update_l3_neigh` on a port. -/
theorem Steady.updateL3Neigh (hs : Steady n link routable o) (x : Hosts) (nOld nNew : NeighObj) :
    x.updateL3Neigh o n nOld nNew =
      match nOld.lladdr, nNew.lladdr with
      | none, none => some x
      | none, some _ => x.addL3Neigh o n nNew
      | some _, none => x.delL3Neigh o n nOld
      | some llOld, some llNew =>
        if llOld = llNew ∨ stub n ∈ x.l3.unroutableL3Neighs then some x
        else some (x.updateLl o link n.1 llOld llNew) := by
  unfold Hosts.updateL3Neigh
  rw [hs.isSwitchInterface]
  simp only [Bool.not_true, Bool.false_eq_true, if_false, hs.found, hs.egressIfindex,
    Option.map_some]
  cases nOld.lladdr with
  | none => cases nNew.lladdr <;> rfl
  | some llOld =>
    cases nNew.lladdr with
    | none => rfl
    | some llNew =>
      dsimp only
      split_ifs <;> simp_all

end Steps

/-! ## Whole life cycles -/

/-- The neighbour is not at an address of the interface itself, and the callbacks of the routes over
it find next hops that can be looked up. That matters where the host entry or the callbacks are
touched. -/
def Clear (n : Int × Addr) (routable : Bool) (o : Seen) : Prop :=
  n.2.cmpPrefix ipv6Ll = .eq ∨ routable = true →
    n.2 ∉ o.env.l3Addrs n.1 ∧ ∀ route ∈ o.installed, LooksUp o.routeEnv route

/-- A new link-layer address of a routable neighbour is not that of another egress group of the
port. -/
def Moves (n : Int × Addr) (link : L3Link) (y : Option Hosts) (e : Seen × Call) : Prop :=
  ∀ x ∈ y,
    match e.2 with
    | .updateL3Neigh _ nOld nNew => ∀ llNew ∈ nNew.lladdr,
      nOld.lladdr ≠ none → nOld.lladdr ≠ some llNew → stub n ∈ x.l3.routableL3Neighs →
        portKey link llNew ∉ x.l3.groups.l3InterfaceMapping
    | _ => True

/-- Whenever `add_l3_neigh` gets to the callbacks that wait for the neighbour, they find an id. -/
def Answered (n : Int × Addr) (routable : Bool) (y : Option Hosts) (e : Seen × Call) : Prop :=
  ∀ x ∈ y,
    match e.2 with
    | .addL3Neigh _ obj => Served e.1 routable n obj (x.sees e.1).l3
    | .updateL3Neigh _ nOld nNew => nOld.lladdr = none → nNew.lladdr ≠ none →
      Served e.1 routable n nNew (x.sees e.1).l3
    | _ => True

section Runs

variable {n : Int × Addr} {link : L3Link} {routable : Bool} {o : Seen} {x₀ x : Hosts}

/-- The rule for life cycles: `P seen obj x` is what holds between the calls, where `seen` says
whether there was a link-layer address so far. -/
theorem run_updates {P : Bool → NeighObj → Hosts → Prop} {Q : Hosts → Prop} {G : Seen → Prop}
    {C : Option Hosts → Seen × Call → Prop}
    (hupd : ∀ seen nOld nNew o x, G o → C (some x) (o, .updateL3Neigh n nOld nNew) →
      nOld.Formed → nNew.Formed → (nOld.lladdr.isSome = true → seen = true) → P seen nOld x →
      ∃ x', x.call o (.updateL3Neigh n nOld nNew) = some x' ∧
        P (seen || nNew.lladdr.isSome) nNew x')
    (hdel : ∀ obj o x, G o → obj.Formed → obj.nud ≠ none → P true obj x →
      ∃ x', x.call o (.delL3Neigh n obj) = some x' ∧ Q x')
    (objs : List NeighObj) {seen : Bool} {obj : NeighObj} {es : List (Seen × Call)} {x : Hosts}
    (hes : es.map Prod.snd = updates n obj objs) (hG : ∀ e ∈ es, G e.1)
    (hC : Along step C (some x) es) (hformed : ∀ obj' ∈ obj :: objs, obj'.Formed)
    (hlast : ((obj :: objs).getLast (List.cons_ne_nil _ _)).nud ≠ none)
    (hobj : obj.lladdr.isSome = true → seen = true)
    (hseen : seen = true ∨ ∃ obj' ∈ objs, obj'.lladdr.isSome = true) (hP : P seen obj x) :
    ∃ x', run step (some x) es = some x' ∧ Q x' := by
  induction objs generalizing seen obj es x with
  | nil =>
    obtain ⟨⟨o, c⟩, rfl, hc⟩ := List.map_eq_singleton_iff.mp hes
    dsimp only at hc
    subst hc
    have hseen' : seen = true := hseen.resolve_right (by simp)
    subst hseen'
    exact hdel obj o x (hG _ List.mem_cons_self) (hformed obj List.mem_cons_self) hlast hP
  | cons obj' objs ih =>
    obtain ⟨⟨o, c⟩, es', rfl, hc, hes'⟩ := List.map_eq_cons_iff.mp hes
    dsimp only at hc
    subst hc
    obtain ⟨hobjf, hrestf⟩ := List.forall_mem_cons.mp hformed
    obtain ⟨x', hx', hP'⟩ := hupd seen obj obj' o x (hG _ List.mem_cons_self) hC.1 hobjf
      (hrestf obj' List.mem_cons_self) hobj hP
    have hrest : Along step C (some x') es' := by
      rw [← hx']
      exact hC.2
    have hrun : run step (some x) ((o, .updateL3Neigh n obj obj') :: es') =
        run step (some x') es' := by
      rw [run_cons, ← hx']
      rfl
    rw [hrun]
    refine ih hes' (fun e he => hG e (List.mem_cons_of_mem _ he)) hrest hrestf ?_
      (fun h => by rw [h, Bool.or_true]) ?_ hP'
    · rw [List.getLast_cons (List.cons_ne_nil _ _)] at hlast
      exact hlast
    · rcases hseen with h | ⟨obj'', hmem, h⟩
      · exact .inl (by rw [h, Bool.true_or])
      · rcases List.mem_cons.mp hmem with rfl | hmem
        · exact .inl (by rw [h, Bool.or_true])
        · exact .inr ⟨obj'', hmem, h⟩

/-! ### The three kinds of neighbours -/

/-- A routable neighbour between the calls. -/
structure Routed (n : Int × Addr) (link : L3Link) (x₀ : Hosts) (seen : Bool) (obj : NeighObj)
    (x : Hosts) : Prop where
  alive : ∀ dMac, obj.lladdr = some dMac → Alive n link x₀ x dMac
  pending : obj.lladdr = none → Pending n x₀ x
  idle : obj.lladdr = none → seen = true → Idle n x₀ x

/-- An unroutable neighbour between the calls. -/
structure Unrouted (n : Int × Addr) (x₀ : Hosts) (seen : Bool) (obj : NeighObj) (x : Hosts) :
    Prop where
  waiting : obj.lladdr ≠ none ∨ seen = false → Waiting n x₀ x
  idle : obj.lladdr = none → seen = true → Idle n x₀ x

theorem nud_of_lladdr {obj : NeighObj} (hf : obj.Formed) {dMac : Mac} (h : obj.lladdr = some dMac) :
    obj.nud = some (.valid dMac) := by
  obtain ⟨h1, h2⟩ := hf (by rw [h, Option.isSome_some])
  exact NeighObj.nud_eq_valid_iff.mpr ⟨h, h1, h2⟩

/-- An object without a link-layer address does not have a state that takes one. -/
theorem nud_of_none {obj : NeighObj} (hn : obj.nud ≠ none) (h : obj.lladdr = none) :
    ∃ nud, obj.nud = some nud ∧ ∀ dMac, nud ≠ .valid dMac := by
  obtain ⟨nud, hnud⟩ := Option.ne_none_iff_exists'.mp hn
  refine ⟨nud, hnud, ?_⟩
  rintro dMac rfl
  rw [(NeighObj.nud_eq_valid_iff.mp hnud).1] at h
  cases h

theorem Idle.sees (h : Idle n x₀ x) (o : Seen) : Idle n x₀ (x.sees o) :=
  ⟨h.toHolds.congr rfl rfl, h.routable, h.unroutable, h.hosts⟩

theorem Pending.sees (h : Pending n x₀ x) (o : Seen) : Pending n x₀ (x.sees o) :=
  ⟨h.toHolds.congr rfl rfl, h.routable, h.unroutable, h.hosts⟩

theorem Waiting.sees (h : Waiting n x₀ x) (o : Seen) : Waiting n x₀ (x.sees o) :=
  ⟨h.toHolds.congr rfl rfl, h.routable, h.unroutable, h.hosts⟩

theorem Alive.sees {dMac : Mac} (h : Alive n link x₀ x dMac) (o : Seen) :
    Alive n link x₀ (x.sees o) dMac :=
  ⟨h.toHolds.congr rfl rfl, h.routable, h.unroutable, h.hosts, h.mem⟩

theorem Routed.of_alive {seen : Bool} {obj : NeighObj} {dMac : Mac} (hobj : obj.lladdr = some dMac)
    (h : Alive n link x₀ x dMac) : Routed n link x₀ seen obj x where
  alive dMac' hd := by
    rw [hobj, Option.some.injEq] at hd
    exact hd ▸ h
  pending hd := by simp [hobj] at hd
  idle hd := by simp [hobj] at hd

theorem Routed.of_idle {seen : Bool} {obj : NeighObj} (hobj : obj.lladdr = none)
    (h : Idle n x₀ x) : Routed n link x₀ seen obj x where
  alive dMac hd := by simp [hobj] at hd
  pending _ := h.pending
  idle _ _ := h

/-- A routable neighbour changes. -/
theorem Routed.updateL3Neigh {seen : Bool} {nOld nNew : NeighObj} (h : Routed n link x₀ seen nOld x)
    (h₀ : Unknown n x₀) (hll : n.2.cmpPrefix ipv6Ll ≠ .eq) (hs : Steady n link true o)
    (hclear : Clear n true o) (hmoves : Moves n link (some x) (o, .updateL3Neigh n nOld nNew))
    (ha : Answered n true (some x) (o, .updateL3Neigh n nOld nNew))
    (hfo : nOld.Formed) (hfn : nNew.Formed) :
    ∃ x', x.call o (.updateL3Neigh n nOld nNew) = some x' ∧
      Routed n link x₀ (seen || nNew.lladdr.isSome) nNew x' := by
  obtain ⟨haddr, hread⟩ := hclear (.inr rfl)
  change ∃ x', (x.sees o).updateL3Neigh o n nOld nNew = some x' ∧ _
  rw [hs.updateL3Neigh]
  cases hold : nOld.lladdr with
  | none =>
    cases hnew : nNew.lladdr with
    | none =>
      refine ⟨_, rfl, fun dMac hd => by simp [hnew] at hd, fun _ => (h.pending hold).sees o,
        fun _ hseen => ?_⟩
      exact (h.idle hold (by simpa using hseen)).sees o
    | some llNew =>
      obtain ⟨x', hx', halive⟩ := ((h.pending hold).sees o).addL3Neigh hs hll
        (ha x rfl hold (by simp [hnew])) (nud_of_lladdr hfn hnew)
      exact ⟨x', hx', .of_alive hnew halive⟩
  | some llOld =>
    have halive := (h.alive llOld hold).sees o
    cases hnew : nNew.lladdr with
    | none =>
      obtain ⟨x', hx', hidle⟩ := halive.delL3Neigh h₀ hs hll haddr hread (nud_of_lladdr hfo hold)
      exact ⟨x', hx', .of_idle hnew hidle⟩
    | some llNew =>
      dsimp only
      by_cases hne : llOld = llNew
      · rw [if_pos (.inl hne)]
        exact ⟨_, rfl, .of_alive hnew (hne ▸ halive)⟩
      · have hun : stub n ∉ (x.sees o).l3.unroutableL3Neighs := by
          rw [halive.unroutable]
          exact h₀.unroutable
        have hmem : stub n ∈ (x.sees o).l3.routableL3Neighs := by
          rw [halive.routable]
          exact mem_emplace.mpr (.inl rfl)
        have hfree := hmoves x rfl llNew hnew (by simp [hold]) (by simp [hold, hne]) hmem
        rw [if_neg (not_or.mpr ⟨hne, hun⟩)]
        exact ⟨_, rfl, .of_alive hnew (halive.updateLl hs hne hfree)⟩

/-- A routable neighbour that had a link-layer address goes. -/
theorem Routed.delL3Neigh {obj : NeighObj} (h : Routed n link x₀ true obj x) (h₀ : Unknown n x₀)
    (hll : n.2.cmpPrefix ipv6Ll ≠ .eq) (hs : Steady n link true o) (hclear : Clear n true o)
    (hf : obj.Formed) (hnud : obj.nud ≠ none) :
    ∃ x', x.call o (.delL3Neigh n obj) = some x' ∧ Gone n x₀ x' := by
  obtain ⟨haddr, hread⟩ := hclear (.inr rfl)
  change ∃ x', (x.sees o).delL3Neigh o n obj = some x' ∧ _
  cases hobj : obj.lladdr with
  | none =>
    obtain ⟨nud, hn, hnone⟩ := nud_of_none hnud hobj
    exact ⟨_, delL3Neigh_of_none hn hnone _, ((h.idle hobj rfl).sees o).gone h₀⟩
  | some dMac =>
    obtain ⟨x', hx', hidle⟩ := ((h.alive dMac hobj).sees o).delL3Neigh h₀ hs hll haddr hread
      (nud_of_lladdr hf hobj)
    exact ⟨x', hx', hidle.gone h₀⟩

/-! ### Unroutable neighbours -/

theorem Waiting.addL3Neigh (obj : NeighObj) (hll : n.2.cmpPrefix ipv6Ll ≠ .eq)
    (hs : Steady n link false o) (h : Idle n x₀ x ∨ Waiting n x₀ x) :
    ∃ x', x.addL3Neigh o n obj = some x' ∧ Waiting n x₀ x' := by
  refine ⟨_, by rw [Hosts.addL3Neigh, if_neg hll, if_neg (by simp [hs.answer])], ?_⟩
  rcases h with h | h
  · refine ⟨h.toHolds.congr rfl rfl, h.routable, ?_, h.hosts⟩
    rw [← h.unroutable]
    rfl
  · refine ⟨h.toHolds.congr rfl rfl, h.routable, ?_, h.hosts⟩
    change NhStub.Set.emplace x.l3.unroutableL3Neighs (stub n) = _
    rw [h.unroutable, emplace_emplace]

theorem Waiting.mem (h : Waiting n x₀ x) : stub n ∈ x.l3.unroutableL3Neighs := by
  rw [h.unroutable]
  exact mem_emplace.mpr (.inl rfl)

theorem Waiting.delL3Neigh {obj : NeighObj} {dMac : Mac} (h : Waiting n x₀ x) (h₀ : Unknown n x₀)
    (hs : Steady n link false o) (hnud : obj.nud = some (.valid dMac)) :
    ∃ x', x.delL3Neigh o n obj = some x' ∧ Idle n x₀ x' := by
  obtain ⟨-, hf, hi⟩ := NeighObj.nud_eq_valid_iff.mp hnud
  refine ⟨_, by rw [Hosts.delL3Neigh, if_neg (by simp [hf, hi, hs.found]), if_pos h.mem], ?_⟩
  refine ⟨h.toHolds.congr rfl rfl, h.routable, ?_, h.hosts⟩
  change x.l3.unroutableL3Neighs.erase (stub n) = _
  rw [h.unroutable, erase_emplace h₀.unroutable]

theorem Unrouted.updateL3Neigh {seen : Bool} {nOld nNew : NeighObj}
    (h : Unrouted n x₀ seen nOld x) (h₀ : Unknown n x₀) (hll : n.2.cmpPrefix ipv6Ll ≠ .eq)
    (hs : Steady n link false o) (hfo : nOld.Formed)
    (hseen : nOld.lladdr.isSome = true → seen = true) :
    ∃ x', x.call o (.updateL3Neigh n nOld nNew) = some x' ∧
      Unrouted n x₀ (seen || nNew.lladdr.isSome) nNew x' := by
  change ∃ x', (x.sees o).updateL3Neigh o n nOld nNew = some x' ∧ _
  rw [hs.updateL3Neigh]
  cases hold : nOld.lladdr with
  | none =>
    cases hnew : nNew.lladdr with
    | none =>
      refine ⟨_, rfl, fun hw => ?_, fun _ hsn => ?_⟩
      · exact (h.waiting (.inr (by simpa [hnew] using hw))).sees o
      · exact (h.idle hold (by simpa using hsn)).sees o
    | some llNew =>
      have hor : Idle n x₀ (x.sees o) ∨ Waiting n x₀ (x.sees o) := by
        cases seen with
        | true => exact .inl ((h.idle hold rfl).sees o)
        | false => exact .inr ((h.waiting (.inr rfl)).sees o)
      obtain ⟨x', hx', hw⟩ := Waiting.addL3Neigh nNew hll hs hor
      exact ⟨x', hx', fun _ => hw, fun hd => by simp [hnew] at hd⟩
  | some llOld =>
    have hw := (h.waiting (.inl (by simp [hold]))).sees o
    have hsn : seen = true := hseen (by rw [hold, Option.isSome_some])
    cases hnew : nNew.lladdr with
    | none =>
      obtain ⟨x', hx', hidle⟩ := hw.delL3Neigh h₀ hs (nud_of_lladdr hfo hold)
      exact ⟨x', hx', fun hd => by simp [hnew, hsn] at hd, fun _ _ => hidle⟩
    | some llNew =>
      dsimp only
      rw [if_pos (.inr hw.mem)]
      exact ⟨_, rfl, fun _ => hw, fun hd => by simp [hnew] at hd⟩

theorem Unrouted.delL3Neigh {obj : NeighObj} (h : Unrouted n x₀ true obj x) (h₀ : Unknown n x₀)
    (hs : Steady n link false o) (hf : obj.Formed) (hnud : obj.nud ≠ none) :
    ∃ x', x.call o (.delL3Neigh n obj) = some x' ∧ Gone n x₀ x' := by
  change ∃ x', (x.sees o).delL3Neigh o n obj = some x' ∧ _
  cases hobj : obj.lladdr with
  | none =>
    obtain ⟨nud, hn, hnone⟩ := nud_of_none hnud hobj
    exact ⟨_, delL3Neigh_of_none hn hnone _, ((h.idle hobj rfl).sees o).gone h₀⟩
  | some dMac =>
    obtain ⟨x', hx', hidle⟩ := ((h.waiting (.inl (by simp [hobj]))).sees o).delL3Neigh h₀ hs
      (nud_of_lladdr hf hobj)
    exact ⟨x', hx', hidle.gone h₀⟩

/-! ### Neighbours at link-local addresses -/

theorem Idle.kept {s : L3} (h : Idle n x₀ x) (hk : Kept x.l3 s) : Idle n x₀ { x with l3 := s } :=
  ⟨h.toHolds.congr rfl rfl, hk.routable.trans h.routable,
    hk.unroutable.trans h.unroutable, h.hosts⟩

theorem Idle.addLl {obj : NeighObj} (h : Idle n x₀ x) (hll : n.2.cmpPrefix ipv6Ll = .eq)
    (hso : Steady n link routable o) (ha : Served o routable n obj x.l3) (hnud : obj.nud ≠ none) :
    ∃ x', x.addL3Neigh o n obj = some x' ∧ Idle n x₀ x' := by
  obtain ⟨nud, hnud⟩ := Option.ne_none_iff_exists'.mp hnud
  obtain ⟨s, hs⟩ := hso.notifyReachable hnud (ha nud hnud (.inl hll))
  refine ⟨_, ?_, h.kept (kept_notifyReachable hs).1⟩
  rw [Hosts.addL3Neigh, if_pos hll, Hosts.notifyReachable, hs]
  rfl

theorem Idle.delLl {obj : NeighObj} {dMac : Mac} (h : Idle n x₀ x) (h₀ : Unknown n x₀)
    (hll : n.2.cmpPrefix ipv6Ll = .eq) (hs : Steady n link routable o)
    (haddr : n.2 ∉ o.env.l3Addrs n.1) (hr : ∀ route ∈ x.l3.installed, LooksUp o.routeEnv route)
    (hnud : obj.nud = some (.valid dMac)) :
    ∃ x', x.delL3Neigh o n obj = some x' ∧ Idle n x₀ x' := by
  obtain ⟨hmac, hf, hi⟩ := NeighObj.nud_eq_valid_iff.mp hnud
  have hun : stub n ∉ x.l3.unroutableL3Neighs := by
    rw [h.unroutable]
    exact h₀.unroutable
  have hnot : stub n ∉ x.l3.routableL3Neighs := by
    rw [h.routable]
    exact h₀.routable
  obtain ⟨s, hs'⟩ := seen_notifyUnreachable_returns (n := n) hr hmac
  refine ⟨_, ?_, h.kept (kept_notifyUnreachable hs')⟩
  rw [Hosts.delL3Neigh, if_neg (by simp [hf, hi, hs.found]), if_neg hun, List.erase_of_not_mem hnot,
    Hosts.removeHost, if_neg haddr, if_pos hll]
  unfold Hosts.notifyUnreachable
  change (o.notifyUnreachable x.l3 n obj).map _ = _
  rw [hs']
  rfl

theorem Idle.updateLl (h : Idle n x₀ x) (link : L3Link) (ifindex : Int) (llOld llNew : Mac) :
    Idle n x₀ (x.updateLl o link ifindex llOld llNew) := by
  refine ⟨⟨?_, h.vlans, ?_, h.vlansOverdrawn⟩, h.routable, h.unroutable, h.hosts⟩
  · unfold Hosts.updateLl
    dsimp only
    split
    · rw [Ledger.of_move, h.egress, List.map_nil]
    · exact h.egress
  · unfold Hosts.updateLl
    dsimp only
    split
    · exact h.egressOverdrawn
    · exact h.egressOverdrawn

theorem Idle.updateLlNeigh {nOld nNew : NeighObj} (h : Idle n x₀ x) (h₀ : Unknown n x₀)
    (hll : n.2.cmpPrefix ipv6Ll = .eq) (hs : Steady n link routable o)
    (hclear : Clear n routable o) (ha : Answered n routable (some x) (o, .updateL3Neigh n nOld nNew))
    (hfo : nOld.Formed) (hfn : nNew.Formed) :
    ∃ x', x.call o (.updateL3Neigh n nOld nNew) = some x' ∧ Idle n x₀ x' := by
  obtain ⟨haddr, hread⟩ := hclear (.inl hll)
  change ∃ x', (x.sees o).updateL3Neigh o n nOld nNew = some x' ∧ _
  rw [hs.updateL3Neigh]
  cases hold : nOld.lladdr with
  | none =>
    cases hnew : nNew.lladdr with
    | none => exact ⟨_, rfl, h.sees o⟩
    | some llNew =>
      exact (h.sees o).addLl hll hs (ha x rfl hold (by simp [hnew]))
        (by simp [nud_of_lladdr hfn hnew])
  | some llOld =>
    cases hnew : nNew.lladdr with
    | none => exact (h.sees o).delLl h₀ hll hs haddr hread (nud_of_lladdr hfo hold)
    | some llNew =>
      dsimp only
      split
      · exact ⟨_, rfl, h.sees o⟩
      · exact ⟨_, rfl, (h.sees o).updateLl link n.1 llOld llNew⟩

theorem Idle.delLlNeigh {obj : NeighObj} (h : Idle n x₀ x) (h₀ : Unknown n x₀)
    (hll : n.2.cmpPrefix ipv6Ll = .eq) (hs : Steady n link routable o)
    (hclear : Clear n routable o) (hf : obj.Formed) (hnud : obj.nud ≠ none) :
    ∃ x', x.call o (.delL3Neigh n obj) = some x' ∧ Gone n x₀ x' := by
  obtain ⟨haddr, hread⟩ := hclear (.inl hll)
  change ∃ x', (x.sees o).delL3Neigh o n obj = some x' ∧ _
  cases hobj : obj.lladdr with
  | none =>
    obtain ⟨nud, hn, hnone⟩ := nud_of_none hnud hobj
    exact ⟨_, delL3Neigh_of_none hn hnone _, (h.sees o).gone h₀⟩
  | some dMac =>
    obtain ⟨x', hx', hidle⟩ := (h.sees o).delLl h₀ hll hs haddr hread (nud_of_lladdr hf hobj)
    exact ⟨x', hx', hidle.gone h₀⟩

/-! ### From the addition to the deletion -/

/-- The objects have a link-layer address only in states that it is valid in, and where the address
is read there is one, or a state that says so. -/
structure Shown (n : Int × Addr) (routable : Bool) (obj : NeighObj) (objs : List NeighObj) :
    Prop where
  formed : ∀ obj' ∈ obj :: objs, obj'.Formed
  first : n.2.cmpPrefix ipv6Ll = .eq ∨ routable = true → obj.nud ≠ none
  last : ((obj :: objs).getLast (List.cons_ne_nil _ _)).nud ≠ none

theorem Unknown.idle (h₀ : Unknown n x₀) : Idle n x₀ x₀ :=
  ⟨⟨h₀.egress, h₀.vlans, rfl, rfl⟩, rfl, rfl, rfl⟩

/-- The first call of a routable neighbour. -/
theorem Unknown.addRouted {obj : NeighObj} (h₀ : Unknown n x₀) (hll : n.2.cmpPrefix ipv6Ll ≠ .eq)
    (hs : Steady n link true o) (ha : Answered n true (some x₀) (o, .addL3Neigh n obj))
    (hf : obj.Formed) (hnud : obj.nud ≠ none) :
    ∃ x', x₀.call o (.addL3Neigh n obj) = some x' ∧
      Routed n link x₀ obj.lladdr.isSome obj x' ∧ stub n ∈ x'.l3.routableL3Neighs := by
  have hserved := ha x₀ rfl
  have hidle := h₀.idle.sees o
  change ∃ x', (x₀.sees o).addL3Neigh o n obj = some x' ∧ _
  cases hobj : obj.lladdr with
  | none =>
    obtain ⟨nud, hn, hnone⟩ := nud_of_none hnud hobj
    obtain ⟨x', hx', hpending⟩ := hidle.addL3Neigh hs hll hserved hn hnone
    refine ⟨x', hx', ⟨fun dMac hd => by simp [hobj] at hd, fun _ => hpending,
      fun _ hd => by simp at hd⟩, ?_⟩
    rcases addL3Neigh_cases hx' with ⟨h, -⟩ | ⟨-, -, hr, -⟩ | ⟨-, h, -⟩
    · exact absurd h hll
    · rw [hr]
      exact mem_emplace.mpr (.inl rfl)
    · rw [hs.answer] at h
      cases h
  | some dMac =>
    obtain ⟨x', hx', halive⟩ := hidle.pending.addL3Neigh hs hll hserved (nud_of_lladdr hf hobj)
    refine ⟨x', hx', .of_alive hobj halive, ?_⟩
    rw [halive.routable]
    exact mem_emplace.mpr (.inl rfl)

/-- Objects without a link-layer address leave everything as the addition did. -/
theorem run_updates_of_none (objs : List NeighObj) {obj : NeighObj} {es : List (Seen × Call)}
    (hes : es.map Prod.snd = updates n obj objs) (hs : ∀ e ∈ es, Steady n link routable e.1)
    (hnone : ∀ obj' ∈ obj :: objs, obj'.lladdr = none)
    (hlast : ((obj :: objs).getLast (List.cons_ne_nil _ _)).nud ≠ none) :
    ∃ x', run step (some x) es = some x' ∧
      x'.l3.routableL3Neighs = x.l3.routableL3Neighs ∧
      x'.l3.unroutableL3Neighs = x.l3.unroutableL3Neighs := by
  induction objs generalizing obj es x with
  | nil =>
    obtain ⟨⟨o, c⟩, rfl, hc⟩ := List.map_eq_singleton_iff.mp hes
    dsimp only at hc
    subst hc
    obtain ⟨nud, hn, hnv⟩ := nud_of_none hlast (hnone obj List.mem_cons_self)
    exact ⟨_, delL3Neigh_of_none hn hnv _, rfl, rfl⟩
  | cons obj' objs ih =>
    obtain ⟨⟨o, c⟩, es', rfl, hc, hes'⟩ := List.map_eq_cons_iff.mp hes
    dsimp only at hc
    subst hc
    obtain ⟨hobj, hrest⟩ := List.forall_mem_cons.mp hnone
    have hcall : step (some x) (o, .updateL3Neigh n obj obj') = some (x.sees o) := by
      change (x.sees o).updateL3Neigh o n obj obj' = _
      rw [(hs _ List.mem_cons_self).updateL3Neigh, hobj, hrest obj' List.mem_cons_self]
    rw [run_cons, hcall]
    refine ih (x := x.sees o) hes' (fun e he => hs e (List.mem_cons_of_mem _ he)) hrest ?_
    rw [List.getLast_cons (List.cons_ne_nil _ _)] at hlast
    exact hlast

/-- The rule for life cycles, from the addition on. -/
theorem gone_of_added {P : Bool → NeighObj → Hosts → Prop} {obj : NeighObj} {objs : List NeighObj}
    {es : List (Seen × Call)} {x₁ : Hosts} {seen : Bool}
    (hx₁ : x₀.call o (.addL3Neigh n obj) = some x₁) (hes : es.map Prod.snd = updates n obj objs)
    (hG : ∀ e ∈ es, Steady n link routable e.1 ∧ Clear n routable e.1)
    (hmoves : Along step (fun y e => Moves n link y e ∧ Answered n routable y e) (some x₀)
      ((o, .addL3Neigh n obj) :: es))
    (hshown : Shown n routable obj objs)
    (hupd : ∀ seen nOld nNew o x, Steady n link routable o ∧ Clear n routable o →
      Moves n link (some x) (o, .updateL3Neigh n nOld nNew) ∧
        Answered n routable (some x) (o, .updateL3Neigh n nOld nNew) →
      nOld.Formed → nNew.Formed → (nOld.lladdr.isSome = true → seen = true) → P seen nOld x →
      ∃ x', x.call o (.updateL3Neigh n nOld nNew) = some x' ∧
        P (seen || nNew.lladdr.isSome) nNew x')
    (hdel : ∀ obj o x, Steady n link routable o ∧ Clear n routable o → obj.Formed →
      obj.nud ≠ none → P true obj x → ∃ x', x.call o (.delL3Neigh n obj) = some x' ∧ Gone n x₀ x')
    (hobj : obj.lladdr.isSome = true → seen = true)
    (hseen : seen = true ∨ ∃ obj' ∈ objs, obj'.lladdr.isSome = true) (hP : P seen obj x₁) :
    ∃ x', run step (some x₀) ((o, .addL3Neigh n obj) :: es) = some x' ∧ Gone n x₀ x' := by
  have hrest : Along step (fun y e => Moves n link y e ∧ Answered n routable y e) (some x₁) es := by
    rw [← hx₁]
    exact hmoves.2
  have hrun : run step (some x₀) ((o, .addL3Neigh n obj) :: es) = run step (some x₁) es := by
    rw [run_cons, ← hx₁]
    rfl
  rw [hrun]
  exact run_updates hupd hdel objs hes hG hrest hshown.formed hshown.last hobj hseen hP

/-- **Life cycles.** A neighbour on a port of the switch is added, changes in any way and is deleted,
while the kernel's answer stays the same and the switch does what it is told. Then it is gone with
all that was taken for it exactly if it had a link-layer address at some time or its address is
link-local, provided that a link-layer address comes in a state that it is valid in only, that where
one is read there is one, that the neighbour is not at an address of the interface itself, that a
new link-layer address is not that of another egress group of the port, and that the callbacks of the
routes that wait for the neighbour find an id. -/
theorem gone_lifeCycle_iff {obj : NeighObj} {objs : List NeighObj} {es : List (Seen × Call)}
    (hes : es.map Prod.snd = lifeCycle n obj objs) (hs : ∀ e ∈ es, Steady n link routable e.1)
    (h₀ : Unknown n x) (hshown : Shown n routable obj objs) (hclear : ∀ e ∈ es, Clear n routable e.1)
    (hmoves : Along step (fun y e => Moves n link y e ∧ Answered n routable y e) (some x) es) :
    (∃ x', run step (some x) es = some x' ∧ Gone n x x') ↔
      n.2.cmpPrefix ipv6Ll = .eq ∨ ∃ obj' ∈ obj :: objs, obj'.lladdr.isSome = true := by
  obtain ⟨⟨o, c⟩, es', rfl, hc, hes'⟩ := List.map_eq_cons_iff.mp hes
  dsimp only at hc
  subst hc
  have hso := hs _ List.mem_cons_self
  have hco := hclear _ List.mem_cons_self
  have hG : ∀ e ∈ es', Steady n link routable e.1 ∧ Clear n routable e.1 := fun e he =>
    ⟨hs e (List.mem_cons_of_mem _ he), hclear e (List.mem_cons_of_mem _ he)⟩
  have hf := hshown.formed obj List.mem_cons_self
  by_cases hll : n.2.cmpPrefix ipv6Ll = .eq
  · refine iff_of_true ?_ (.inl hll)
    obtain ⟨x₁, hx₁, hidle⟩ := (h₀.idle.sees o).addLl hll hso (hmoves.1.2 x rfl)
      (hshown.first (.inl hll))
    exact gone_of_added (P := fun _ _ y => Idle n x y) hx₁ hes' hG hmoves hshown
      (fun _ nOld nNew o y hg hm hfo hfn _ hP =>
        hP.updateLlNeigh h₀ hll hg.1 hg.2 hm.2 hfo hfn)
      (fun obj o y hg hf hnud hP => hP.delLlNeigh h₀ hll hg.1 hg.2 hf hnud)
      (fun _ => rfl) (.inl rfl) hidle
  · -- What the addition does, and what holds from then on if there is a link-layer address.
    obtain ⟨x₁, hx₁, hin, hgone⟩ : ∃ x₁, x.call o (.addL3Neigh n obj) = some x₁ ∧
        (stub n ∈ x₁.l3.routableL3Neighs ∨ stub n ∈ x₁.l3.unroutableL3Neighs) ∧
        ((∃ obj' ∈ obj :: objs, obj'.lladdr.isSome = true) →
          ∃ x', run step (some x) ((o, .addL3Neigh n obj) :: es') = some x' ∧ Gone n x x') := by
      cases routable with
      | true =>
        obtain ⟨x₁, hx₁, hrouted, hmem⟩ := h₀.addRouted hll hso hmoves.1.2 hf (hshown.first (.inr rfl))
        refine ⟨x₁, hx₁, .inl hmem, fun hres => ?_⟩
        exact gone_of_added (P := Routed n link x) hx₁ hes' hG hmoves hshown
          (fun _ nOld nNew o y hg hm hfo hfn _ hP =>
            hP.updateL3Neigh h₀ hll hg.1 hg.2 hm.1 hm.2 hfo hfn)
          (fun obj o y hg hf hnud hP => hP.delL3Neigh h₀ hll hg.1 hg.2 hf hnud)
          id (by simpa using hres) hrouted
      | false =>
        obtain ⟨x₁, hx₁, hw⟩ := Waiting.addL3Neigh obj hll hso (.inl (h₀.idle.sees o))
        refine ⟨x₁, hx₁, .inr hw.mem, fun hres => ?_⟩
        exact gone_of_added (P := Unrouted n x) hx₁ hes' hG hmoves hshown
          (fun _ nOld nNew o y hg _ hfo _ hsn hP => hP.updateL3Neigh h₀ hll hg.1 hfo hsn)
          (fun obj o y hg hf hnud hP => hP.delL3Neigh h₀ hg.1 hf hnud)
          id (by simpa using hres) ⟨fun _ => hw, fun h1 h2 => by simp [h1] at h2⟩
    constructor
    · rintro ⟨x', hx', hx'gone⟩
      refine .inr ?_
      by_contra hres
      have hnone : ∀ obj' ∈ obj :: objs, obj'.lladdr = none := by
        intro obj' hmem
        by_contra hne
        exact hres ⟨obj', hmem, Option.isSome_iff_ne_none.mpr hne⟩
      obtain ⟨x₂, hx₂, hr, hu⟩ := run_updates_of_none (x := x₁) objs hes'
        (fun e he => (hG e he).1) hnone hshown.last
      have hrun : run step (some x) ((o, .addL3Neigh n obj) :: es') = run step (some x₁) es' := by
        rw [run_cons, ← hx₁]
        rfl
      rw [hrun, hx₂, Option.some.injEq] at hx'
      subst hx'
      rcases hin with hin | hin
      · exact hx'gone.routable (hr ▸ hin)
      · exact hx'gone.unroutable (hu ▸ hin)
    · rintro (h | hres)
      · exact absurd h hll
      · exact hgone hres

end Runs

/-! ## Two neighbours of port 1 -/

/-- Port 1 of `portEnv`. -/
def portLink : L3Link where
  ownPortId := 1
  portId := 1
  vid := 1
  addr := 1

theorem steady_portNeigh {obj : NeighObj} (h : obj.Formed) :
    Steady portNeigh portLink true (seesRoute obj h) where
  found := rfl
  isSwitch := rfl
  isBridge := rfl
  port := by decide
  vid := rfl
  answer := rfl
  sw := ok_default
  egressCreate _ := rfl
  egressUpdate _ := le_refl 0

theorem clear_portNeigh {obj : NeighObj} (h : obj.Formed) :
    Clear portNeigh true (seesRoute obj h) := by
  refine fun _ => ⟨by simp [seesRoute, seesNoRoute, portEnv], fun route hroute => ?_⟩
  rw [List.mem_singleton.mp hroute]
  exact ⟨0, [], rfl, fun nh hnh => absurd hnh List.not_mem_nil⟩

theorem unknown_init (n : Int × Addr) : Unknown n {} :=
  ⟨List.not_mem_nil, List.not_mem_nil, List.not_mem_nil, rfl, rfl⟩

/-- A life cycle of the neighbour on port 1, with a route to it. -/
def portLife (obj : NeighObj) (objs : List NeighObj) : List (Seen × Call) :=
  (lifeCycle portNeigh obj objs).map fun c => (seesRoute incompleteNeigh formed_incompleteNeigh, c)

theorem steady_portLife (obj : NeighObj) (objs : List NeighObj) :
    ∀ e ∈ portLife obj objs, Steady portNeigh portLink true e.1 := by
  intro e he
  obtain ⟨c, -, rfl⟩ := List.mem_map.mp he
  exact steady_portNeigh formed_incompleteNeigh

theorem clear_portLife (obj : NeighObj) (objs : List NeighObj) :
    ∀ e ∈ portLife obj objs, Clear portNeigh true e.1 := by
  intro e he
  obtain ⟨c, -, rfl⟩ := List.mem_map.mp he
  exact clear_portNeigh formed_incompleteNeigh

/-- The neighbour is resolved, gets another link-layer address, is lost and comes back. -/
def changedObjs : List NeighObj :=
  [⟨.reachable, some 2⟩, ⟨.stale, some 3⟩, ⟨.failed, none⟩, ⟨.probe, some 3⟩]

theorem moves_changedObjs :
    Along step (fun y e => Moves portNeigh portLink y e ∧ Answered portNeigh true y e) (some {})
      (portLife incompleteNeigh changedObjs) := by
  unfold portLife lifeCycle changedObjs updates updates updates updates updates
  refine ⟨⟨fun _ _ => trivial, fun x hx nud _ _ p hp => ?_⟩,
    ⟨fun x hx llNew hll h => absurd rfl h, fun x hx _ _ nud _ _ p hp => ?_⟩,
    ⟨fun x hx llNew hll _ _ _ => ?_, fun x hx h => ?_⟩, ⟨fun x hx llNew hll => ?_, fun x hx h => ?_⟩,
    ⟨fun x hx llNew hll h => absurd rfl h, fun x hx _ _ nud _ _ p hp => ?_⟩,
    ⟨fun _ _ => trivial, fun _ _ => trivial⟩, trivial⟩
  · cases hx
    cases hp
  · cases hx
    cases hp
  · cases hx
    cases hll
    decide
  · cases h
  · cases hll
  · cases h
  · cases hx
    cases hp

/-- `gone_lifeCycle_iff` on a neighbour with two link-layer addresses. -/
theorem gone_lifeCycle_iff_changed :
    ∃ x', run step (some {}) (portLife incompleteNeigh changedObjs) = some x' ∧
      Gone portNeigh {} x' := by
  have hes : (portLife incompleteNeigh changedObjs).map Prod.snd =
      lifeCycle portNeigh incompleteNeigh changedObjs := rfl
  have hshown : Shown portNeigh true incompleteNeigh changedObjs :=
    ⟨by simp [changedObjs, incompleteNeigh, NeighObj.Formed], fun _ => by decide, by decide⟩
  exact (gone_lifeCycle_iff hes (steady_portLife _ _) (unknown_init _) hshown (clear_portLife _ _)
    moves_changedObjs).mpr (.inr ⟨⟨.reachable, some 2⟩, by decide, rfl⟩)

/-- A neighbour that never answers is added, found to be unreachable and deleted: it stays in
`routable_l3_neighs`, and the switch keeps the host entry that sends its packets to the
controller. -/
theorem failedNeigh_not_gone :
    (∀ e ∈ portLife incompleteNeigh [⟨.failed, none⟩], Steady portNeigh portLink true e.1) ∧
      Unknown portNeigh {} ∧
      ∃ x', run step (some {}) (portLife incompleteNeigh [⟨.failed, none⟩]) = some x' ∧
        stub portNeigh ∈ x'.l3.routableL3Neighs ∧ portNeigh.2 ∈ x'.hosts ∧
        ¬ Gone portNeigh {} x' := by
  refine ⟨steady_portLife _ _, unknown_init _, _, rfl, by decide, by decide, fun h => ?_⟩
  exact h.routable (by decide)

end Hosts

end L3

end Basebox
