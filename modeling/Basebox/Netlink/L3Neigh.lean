import Basebox.Netlink.L3Egress
import Basebox.Netlink.Vxlan
import Mathlib.Data.List.Sort

/-!
# L3 neighbours and the references they take (`src/netlink/nl_l3.cc`, `src/netlink/nl_vlan.cc`)

A neighbour that is reachable over a link-scope route gets a host entry, for which it takes a
reference of an egress group and of a VLAN on its port. A route takes the same two references for
each of its next hops. When a neighbour goes away, `nl_l3` tells the routes over it to give theirs
back (`nh_unreach_callbacks`); when it comes, they take them again (`nh_callbacks`).

What is read from the caches of libnl, from the kernel and from the ports is the argument `L3Env`;
the results of the switch are in `L3Switch`. The entries of the switch's routing tables, and the
ids written into them, are left out. Reference counts are taken as unbounded.

* `addL3NeighEgress`, `delL3NeighEgress`: the references of a neighbour.
* `nhReachableNotification`, `nhUnreachableNotification`: what a route does when its next hop comes
  or goes.
* `addL3Neigh`, `delL3Neigh`: what is done for the neighbour itself.

`none` stands for a null pointer that is read, such as a next hop object without a gateway, and for
an assertion that fails.
-/

namespace Basebox

/-! ## Addresses -/

/-- A destination: an `nl_addr` with its prefix length. -/
structure Prefix where
  addr : Addr
  len : Nat
  deriving DecidableEq

/-- `nl_addr_cmp_prefix` of a whole address and a prefix. -/
def Addr.cmpPrefix (a : Addr) (p : Prefix) : Ordering :=
  match a, p.addr with
  | .inet a, .inet b => compare (a.toNat >>> (32 - p.len)) (b.toNat >>> (32 - p.len))
  | .inet6 a, .inet6 b => compare (a.toNat >>> (128 - p.len)) (b.toNat >>> (128 - p.len))
  | .inet _, .inet6 _ => .lt
  | .inet6 _, .inet _ => .gt

/-- `fe80::/10`. -/
def ipv6Ll : Prefix := { addr := .inet6 (0xfe80 <<< 112), len := 10 }

/-- `ff00::/8`. -/
def ipv6Mc : Prefix := { addr := .inet6 (0xff00 <<< 112), len := 8 }

/-- `nl_addr_cmp_prefix` of two prefixes is zero: the bits that both have are equal. -/
def Prefix.overlaps (p q : Prefix) : Bool := p.addr.cmpPrefix { q with len := min p.len q.len } == .eq

namespace NhStub

/-- `nl_addr_cmp`, as a key: the family, then the bytes. -/
def addrKey (n : NhStub) : Nat × Nat :=
  match n.nh with
  | .inet a => (2, a.toNat)
  | .inet6 a => (10, a.toNat)

/-- `nh_stub::operator<`, or equal. -/
def le (m n : NhStub) : Bool :=
  match compare m.addrKey.1 n.addrKey.1 with
  | .lt => true
  | .gt => false
  | .eq =>
    match compare m.addrKey.2 n.addrKey.2 with
    | .lt => true
    | .gt => false
    | .eq =>
      match compare m.nhid n.nhid with
      | .lt => true
      | .gt => false
      | .eq => m.ifindex ≤ n.ifindex

/-- The elements of a `std::set<nh_stub>`, in their order. -/
abbrev Set := List NhStub

/-- `std::set::emplace`. -/
def Set.emplace (l : Set) (n : NhStub) : Set :=
  if n ∈ l then l else l.orderedInsert (fun a b => le a b = true) n

/-- The next hop without its id: what a neighbour is found by. -/
def neigh (n : NhStub) : Int × Addr := (n.ifindex, n.nh)

end NhStub

/-! ## What is read from outside -/

/-- The state of a neighbour. The kernel gives a link-layer address exactly in those states that
are neither `NUD_INCOMPLETE` nor `NUD_FAILED`. -/
inductive Nud where
  | incomplete
  | failed
  | valid (lladdr : Mac)
  deriving DecidableEq

/-- What the code reads of a link. -/
structure L3Link where
  /-- `get_port_id(ifindex)`: the port of a link that is a port or a bond. -/
  ownPortId : Nat
  /-- `get_port_id(link)`: for a VLAN interface, that of the link below. -/
  portId : Nat
  vid : Nat
  addr : Mac
  isBridge : Bool := false
  isSwitch : Bool := true

/-- A next hop object of the kernel, or a group of them. -/
structure NhObject where
  oif : Int
  gateway : Option Addr
  group : List Nat := []

/-- A route, as libnl has it. -/
structure L3Route where
  isUnicast : Bool := true
  dst : Prefix
  table : Nat := 254
  priority : Nat
  protocol : Nat
  nexthops : List NextHop
  nhid : Nat := 0
  deriving DecidableEq

/-- The route was installed by the kernel. -/
def RTPROT_KERNEL : Nat := 2

/-- What the code looks up in the caches of libnl. -/
structure L3Env where
  link : Int → Option L3Link
  neigh : Int × Addr → Option Nud
  /-- `search_fdb`: one port at most, as `del_l3_neigh_egress` asserts. -/
  searchFdb : Nat → Mac → Option Int
  nhById : Nat → Option NhObject
  /-- The addresses of a link. -/
  l3Addrs : Int → List Addr
  ifindexByPortId : Nat → Int
  /-- `rtnl_route_guess_scope` is `RT_SCOPE_LINK`. -/
  scopeLink : L3Route → Bool
  /-- `query_route` with `RTM_F_FIB_MATCH`, of the routes that are installed. -/
  fibMatch : List L3Route → Addr → Option L3Route
  /-- `query_route` without flags. -/
  queryRoute : List L3Route → Addr → Option L3Route
  /-- The order of the unordered map `l3_interface_mapping`. -/
  keyOrder : Table.VisitOrder EgressKey
  /-- What is in a variable that was not written. -/
  uninit : Int
  /-- A VLAN interface is not a port itself. -/
  portId_eq : ∀ {ifindex l}, link ifindex = some l → l.ownPortId ≠ 0 → l.portId = l.ownPortId
  /-- The port of an FDB entry is one of the bridge. -/
  searchFdb_isBridge : ∀ {vid mac ifindex l},
    searchFdb vid mac = some ifindex → link ifindex = some l → l.isBridge = true

/-- The results of the switch during an event. -/
structure L3Switch where
  egressCreate : EgressKey → Int := fun _ => 0
  enableVlan : Nat × Nat → Int := fun _ => 0
  hostAdd : Addr → Int := fun _ => 0
  hostRemove : Addr → Int := fun _ => 0

/-- The parameters of a callback of `nl_l3`: the destination of the route and the next hop. -/
structure L3Params where
  dst : Prefix
  nh : NhStub
  deriving DecidableEq

/-- The state of `nl_l3`, with the routes of the kernel, and with an account that is not part of
the program: the references that routes took and have not given back, and the routes whose
addition was not skipped. -/
structure L3 where
  installed : List L3Route := []
  groups : L3Groups NhStub := {}
  /-- `port_vlan` of `nl_vlan`. -/
  portVlan : Table (Nat × Nat) Nat := ∅
  routableL3Neighs : NhStub.Set := []
  unroutableL3Neighs : NhStub.Set := []
  nhCallbacks : List L3Params := []
  nhUnreachCallbacks : List L3Params := []
  owners : List L3Params := []
  active : List L3Route := []

namespace L3

variable (env : L3Env) (sw : L3Switch)

/-! ## References -/

/-- `is_vid_valid`. -/
def isVidValid (vid : Nat) : Bool := decide (1 ≤ vid ∧ vid ≤ 0xfff)

/-- `nl_vlan::add_vlan`, with counts that do not wrap at 32 bits. -/
def addVlan (s : L3) (link : Option L3Link) (vid : Nat) : Int × L3 :=
  if !isVidValid vid then (-EINVAL, s)
  else
    match link with
    | none => (-EINVAL, s)
    | some link =>
      if link.portId = 0 then (-EINVAL, s)
      else
        match s.portVlan.lookup (link.portId, vid) with
        | some c => (0, { s with portVlan := s.portVlan.insert (link.portId, vid) (c + 1) })
        | none =>
          if link.isBridge then (0, s)
          else
            let rv := sw.enableVlan (link.portId, vid)
            if rv < 0 then (rv, s)
            else (rv, { s with portVlan := s.portVlan.insert (link.portId, vid) 1 })

/-- `nl_vlan::remove_vlan`. -/
def removeVlan (s : L3) (link : Option L3Link) (vid : Nat) : L3 :=
  if !isVidValid vid then s
  else
    match link with
    | none => s
    | some link =>
      if link.portId = 0 then s
      else
        match s.portVlan.lookup (link.portId, vid) with
        | none => s
        | some c =>
          if c - 1 > 0 then { s with portVlan := s.portVlan.insert (link.portId, vid) (c - 1) }
          else { s with portVlan := s.portVlan.erase (link.portId, vid) }

/-- `get_port_id(ifindex)`. -/
def getPortId (ifindex : Int) : Nat := ((env.link ifindex).map (·.ownPortId)).getD 0

/-- `add_l3_egress`. -/
def addL3Egress (s : L3) (ifindex : Int) (vid : Nat) (sMac dMac : Mac) : Int × L3 :=
  let k : EgressKey :=
    { portId := getPortId env ifindex, vid := vid, srcMac := sMac, dstMac := dMac }
  let (rv, _, groups) := s.groups.addL3Egress k (sw.egressCreate k)
  (rv, { s with groups := groups })

/-- `del_l3_egress`. -/
def delL3Egress (s : L3) (ifindex : Int) (vid : Nat) (sMac dMac : Mac) : L3 :=
  let k : EgressKey :=
    { portId := getPortId env ifindex, vid := vid, srcMac := sMac, dstMac := dMac }
  { s with groups := (s.groups.delL3Egress k 0).2 }

/-- `add_l3_neigh_egress`. On a bridge interface the references are those of the port that the FDB
has for the neighbour. -/
def addL3NeighEgress (s : L3) (n : Int × Addr) (nud : Nud) : Int × L3 :=
  match nud with
  | .failed => (-EINVAL, s)
  | .incomplete => (0, s)
  | .valid dMac =>
    match env.link n.1 with
    | none => (-EINVAL, s)
    | some link =>
      if link.isBridge then
        match env.searchFdb link.vid dMac with
        | none => (env.uninit, s)
        | some ifindex =>
          let (rv, s) := s.addVlan sw (env.link ifindex) link.vid
          if rv < 0 then (rv, s)
          else s.addL3Egress env sw ifindex link.vid link.addr dMac
      else
        let (rv, s) := s.addVlan sw (some link) link.vid
        if rv < 0 then (rv, s)
        else s.addL3Egress env sw n.1 link.vid link.addr dMac

/-- The port of an egress group with this VLAN and these MACs: that of the first one in the map. -/
def egressPort (s : L3) (vid : Nat) (sMac dMac : Mac) : Option Nat :=
  ((env.keyOrder.1 s.groups.l3InterfaceMapping.keys).find? fun k =>
    k.vid == vid && k.srcMac == sMac && k.dstMac == dMac).map (·.portId)

/-- `del_l3_neigh_egress`. -/
def delL3NeighEgress (s : L3) (n : Int × Addr) (dMac : Mac) : L3 :=
  match env.link n.1 with
  | none => s
  | some link =>
    if link.isBridge then
      match env.searchFdb link.vid dMac with
      | some ifindex =>
        (s.delL3Egress env ifindex link.vid link.addr dMac).removeVlan (some link) link.vid
      | none =>
        -- gone from the FDB already: the port is that of an egress group
        match s.egressPort env link.vid link.addr dMac with
        | none | some 0 => s
        | some portId =>
          let ifindex := env.ifindexByPortId portId
          (s.delL3Egress env ifindex link.vid link.addr dMac).removeVlan (env.link ifindex) link.vid
    else (s.delL3Egress env n.1 link.vid link.addr dMac).removeVlan (some link) link.vid

/-! ## Next hops of routes -/

/-- There is such a link, and it is an interface of the switch. -/
def isSwitchInterface (ifindex : Int) : Bool :=
  (env.link ifindex).any (·.isSwitch)

/-- `get_neighbours_of_route`: the result and the set of next hops. -/
def getNeighboursOfRoute (r : L3Route) : Option (Int × NhStub.Set) :=
  if r.nexthops.length > 0 then
    let rnhs := r.nexthops.filter fun nh => isSwitchInterface env nh.ifindex
    if rnhs.length = 0 then some (-ENETUNREACH, [])
    else
      let nhs := rnhs.foldl (fun nhs nh =>
        match nh.gateway.or nh.via with
        | none => nhs
        | some addr => NhStub.Set.emplace nhs { nh := addr, ifindex := nh.ifindex, nhid := r.nhid }) []
      some (nhs.length, nhs)
  else if r.nhid = 0 then some (-EINVAL, [])
  else
    match env.nhById r.nhid with
    | none => some (-EINVAL, [])
    | some routeNh =>
      let rnhs :=
        if routeNh.group.length > 0 then routeNh.group.filterMap env.nhById else [routeNh]
      let rnhs := rnhs.filter fun nh => isSwitchInterface env nh.oif
      let nhs := rnhs.foldlM (fun nhs nh => nh.gateway.map fun addr =>
        NhStub.Set.emplace nhs { nh := addr, ifindex := nh.oif, nhid := r.nhid }) []
      nhs.map fun nhs => ((nhs.length : Int), nhs)

/-- `get_route_by_nh_params`: the first route in the cache to the destination, by the id of the next
hop, or else by its interface. The search among the old objects of the events in the queue, which
follows if the cache has none, is left out. -/
def getRouteByNhParams (installed : List L3Route) (p : L3Params) : Option L3Route :=
  installed.find? fun r =>
    r.isUnicast && r.dst == p.dst &&
      if p.nh.nhid > 0 then r.nhid == p.nh.nhid
      else r.nexthops.any fun nh => nh.ifindex == p.nh.ifindex

/-- The egress group that `get_l3_interface_id` searches for a next hop, if it gets that far. `none`
is for a link that is not there, and for an FDB without an entry, which is asserted. -/
def searchedEgress (nh : NhStub) : Option (Option EgressKey) :=
  match env.neigh nh.neigh with
  | some (.valid dMac) =>
    (env.link nh.ifindex).bind fun link =>
      (if link.isBridge then env.searchFdb link.vid dMac else some nh.ifindex).map fun ifindex =>
        (env.link ifindex).map fun port =>
          { portId := getPortId env ifindex
            vid := if link.vid = 0 then port.vid else link.vid
            srcMac := link.addr
            dstMac := dMac }
  | _ => some none

/-- `get_l3_interface_id` for a next hop returns 0. -/
def hasL3InterfaceId (s : L3) (nh : NhStub) : Option Bool :=
  (searchedEgress env nh).map fun k => k.any fun k => decide (k ∈ s.groups.l3InterfaceMapping)

/-- The body of the loop of `nh_reachable_notification`, on the state and on whether there is an id in
`l3_interface_ids`. -/
def collectInterface (n : Int × Addr) (nud : Nud) (p : L3Params) (y : L3 × Bool) (rnh : NhStub) :
    Option (L3 × Bool) :=
  if rnh = p.nh then
    let (rv, s) := y.1.addL3NeighEgress env sw n nud
    some (s, y.2 || rv == 0)
  else (hasL3InterfaceId env y.1 rnh).map fun found => (y.1, y.2 || found)

/-- `nl_l3::nh_reachable_notification`: the route takes its references again. -/
def nhReachableNotification (s : L3) (n : Int × Addr) (nud : Nud) (p : L3Params) : Option L3 :=
  match getRouteByNhParams s.installed p with
  | none => some s
  | some route => do
    let (_, nhs) ← getNeighboursOfRoute env route
    let (s', found) ← nhs.foldlM (collectInterface env sw n nud p) (s, false)
    -- It is asserted that there is an id.
    if found then
      some { s' with
        owners := if p.nh ∈ nhs then s.owners ++ [p] else s.owners
        nhUnreachCallbacks := s'.nhUnreachCallbacks ++ [p] }
    else none

/-- The loop of `nh_unreachable_notification`, which looks up the other next hops. -/
def lookUpOthers (s : L3) (nhs : NhStub.Set) (p : L3Params) : Option (List Bool) :=
  (nhs.filter fun rnh => rnh ≠ p.nh).mapM (hasL3InterfaceId env s)

/-- `nl_l3::nh_unreachable_notification`: the route gives its references back. -/
def nhUnreachableNotification (s : L3) (n : Int × Addr) (dMac : Mac) (p : L3Params) : Option L3 :=
  match getRouteByNhParams s.installed p with
  | none => some { s.delL3NeighEgress env n dMac with owners := s.owners.erase p }
  | some route => do
    let (_, nhs) ← getNeighboursOfRoute env route
    let _ ← lookUpOthers env s nhs p
    return { s.delL3NeighEgress env n dMac with
      nhCallbacks := s.nhCallbacks ++ [p]
      owners := s.owners.erase p }

/-! ## Neighbours -/

/-- `is_l3_neigh_routable`. -/
def isL3NeighRoutable (s : L3) (n : Int × Addr) : Bool :=
  (env.queryRoute s.installed n.2).any env.scopeLink

/-- The loop over `nh_callbacks`. The callbacks append to `nh_unreach_callbacks` only, so it goes
over the list as it was. -/
def notifyReachable (s : L3) (n : Int × Addr) (nud : Nud) : Option L3 := do
  let s' ← (s.nhCallbacks.filter fun p => p.nh.neigh == n).foldlM
    (fun s p => s.nhReachableNotification env sw n nud p) s
  return { s' with nhCallbacks := s.nhCallbacks.filter fun p => p.nh.neigh != n }

/-- The loop over `nh_unreach_callbacks`. The callbacks append to `nh_callbacks` only. -/
def notifyUnreachable (s : L3) (n : Int × Addr) (dMac : Mac) : Option L3 := do
  let s' ← (s.nhUnreachCallbacks.filter fun p => p.nh.neigh == n).foldlM
    (fun s p => s.nhUnreachableNotification env n dMac p) s
  return { s' with nhUnreachCallbacks := s.nhUnreachCallbacks.filter fun p => p.nh.neigh != n }

/-- `add_l3_neigh`. -/
def addL3Neigh (s : L3) (n : Int × Addr) (nud : Nud) : Option L3 :=
  let nh : NhStub := { nh := n.2, ifindex := n.1 }
  if n.2.cmpPrefix ipv6Ll == .eq then s.notifyReachable env sw n nud
  else if s.isL3NeighRoutable env n then
    let s := { s with routableL3Neighs := NhStub.Set.emplace s.routableL3Neighs nh }
    let (rv, s) := s.addL3NeighEgress env sw n nud
    if rv < 0 then some s
    else if sw.hostAdd n.2 < 0 then some s
    else s.notifyReachable env sw n nud
  else some { s with unroutableL3Neighs := NhStub.Set.emplace s.unroutableL3Neighs nh }

/-- `del_l3_neigh`. -/
def delL3Neigh (s : L3) (n : Int × Addr) (nud : Nud) : Option L3 :=
  let nh : NhStub := { nh := n.2, ifindex := n.1 }
  match nud, env.link n.1 with
  | .failed, _ | .incomplete, _ | .valid _, none => some s
  | .valid dMac, some _ =>
    if nh ∈ s.unroutableL3Neighs then
      some { s with unroutableL3Neighs := s.unroutableL3Neighs.erase nh }
    else
      let s := { s with routableL3Neighs := s.routableL3Neighs.erase nh }
      let skipAddrRemove := decide (n.2 ∈ env.l3Addrs n.1)
      let skipEgressRemove := !skipAddrRemove && n.2.cmpPrefix ipv6Ll == .eq
      if !skipAddrRemove && !skipEgressRemove && decide (sw.hostRemove n.2 < 0) then some s
      else
        let s := if skipEgressRemove then s else s.delL3NeighEgress env n dMac
        s.notifyUnreachable env n dMac

/-! ## What comes out -/

section Outcomes

variable {env : L3Env} {sw : L3Switch} {s s' : L3} {r : L3Route} {rv : Int} {nhs : NhStub.Set}

theorem mem_emplace {l : NhStub.Set} {m n : NhStub} :
    m ∈ NhStub.Set.emplace l n ↔ m = n ∨ m ∈ l := by
  unfold NhStub.Set.emplace
  split
  · next h =>
    constructor
    · exact .inr
    · rintro (rfl | hm)
      · exact h
      · exact hm
  · rw [(List.perm_orderedInsert _ n l).mem_iff, List.mem_cons]

theorem nodup_emplace {l : NhStub.Set} (h : l.Nodup) (n : NhStub) :
    (NhStub.Set.emplace l n).Nodup := by
  unfold NhStub.Set.emplace
  split
  · exact h
  · next hn =>
    rw [(List.perm_orderedInsert _ n l).nodup_iff]
    exact List.nodup_cons.mpr ⟨hn, h⟩

theorem nodup_foldlM_emplace {objs : List NhObject} {l : NhStub.Set} (hl : l.Nodup)
    (h : objs.foldlM (fun nhs nh => nh.gateway.map fun addr =>
      NhStub.Set.emplace nhs { nh := addr, ifindex := nh.oif, nhid := r.nhid }) l = some nhs) :
    nhs.Nodup := by
  induction objs generalizing l with
  | nil =>
    cases h
    exact hl
  | cons nh objs ih =>
    obtain ⟨l', hl', h⟩ := Option.bind_eq_some_iff.mp h
    obtain ⟨addr, -, rfl⟩ := Option.map_eq_some_iff.mp hl'
    exact ih (nodup_emplace hl _) h

theorem getNeighboursOfRoute_spec (hg : getNeighboursOfRoute env r = some (rv, nhs)) :
    nhs.Nodup ∧ (rv < 0 → nhs = []) := by
  unfold getNeighboursOfRoute at hg
  split at hg
  · simp only at hg
    split at hg
    · cases hg
      exact ⟨List.nodup_nil, fun _ => rfl⟩
    · cases hg
      refine ⟨?_, fun h => by omega⟩
      refine List.foldlRecOn _ _ List.nodup_nil fun nhs hnhs nh _ => ?_
      split
      · exact hnhs
      · exact nodup_emplace hnhs _
  · split at hg
    · cases hg
      exact ⟨List.nodup_nil, fun _ => rfl⟩
    · split at hg
      · cases hg
        exact ⟨List.nodup_nil, fun _ => rfl⟩
      · simp only [Option.map_eq_some_iff] at hg
        obtain ⟨nhs', hfold, heq⟩ := hg
        cases heq
        exact ⟨nodup_foldlM_emplace List.nodup_nil hfold, fun h => by omega⟩

/-- The loop of `nh_reachable_notification` takes the references of the next hop, if the route has
it. -/
theorem foldlM_collectInterface {n : Int × Addr} {nud : Nud} {p : L3Params} {y y' : L3 × Bool}
    (hn : nhs.Nodup) (h : nhs.foldlM (collectInterface env sw n nud p) y = some y') :
    y'.1 = if p.nh ∈ nhs then (y.1.addL3NeighEgress env sw n nud).2 else y.1 := by
  induction nhs generalizing y with
  | nil =>
    cases h
    simp
  | cons rnh nhs ih =>
    obtain ⟨hnew, hn⟩ := List.nodup_cons.mp hn
    rw [List.foldlM_cons] at h
    obtain ⟨z, hz, h⟩ := Option.bind_eq_some_iff.mp h
    rw [ih hn h]
    unfold collectInterface at hz
    split at hz
    · next heq =>
      subst heq
      rw [if_neg hnew, if_pos List.mem_cons_self]
      generalize y.1.addL3NeighEgress env sw n nud = t at hz ⊢
      rw [← Option.some.inj hz]
    · next hne =>
      obtain ⟨found, -, rfl⟩ := Option.map_eq_some_iff.mp hz
      simp [Ne.symm hne]

/-- What `nh_reachable_notification` does to the state, where it returns. -/
theorem nhReachableNotification_cases {n : Int × Addr} {nud : Nud} {p : L3Params}
    (h : s.nhReachableNotification env sw n nud p = some s') :
    (getRouteByNhParams s.installed p = none ∧ s' = s) ∨
    ∃ route rv nhs, getRouteByNhParams s.installed p = some route ∧
      getNeighboursOfRoute env route = some (rv, nhs) ∧
      let t := if p.nh ∈ nhs then
          { (s.addL3NeighEgress env sw n nud).2 with owners := s.owners ++ [p] }
        else s
      s' = { t with nhUnreachCallbacks := t.nhUnreachCallbacks ++ [p] } := by
  unfold nhReachableNotification at h
  split at h
  · next hroute =>
    cases h
    exact .inl ⟨hroute, rfl⟩
  · next route hroute =>
    obtain ⟨⟨rv, nhs⟩, hg, h⟩ := Option.bind_eq_some_iff.mp h
    obtain ⟨⟨t, found⟩, hfold, h⟩ := Option.bind_eq_some_iff.mp h
    dsimp only at h
    split at h
    · cases h
      refine .inr ⟨route, rv, nhs, hroute, hg, ?_⟩
      have ht : t = if p.nh ∈ nhs then (s.addL3NeighEgress env sw n nud).2 else s :=
        foldlM_collectInterface (getNeighboursOfRoute_spec hg).1 hfold
      subst ht
      by_cases hmem : p.nh ∈ nhs
      · simp only [hmem, if_true]
      · simp only [hmem, if_false]
    · cases h

/-- What `nh_unreachable_notification` does to the state, where it returns. -/
theorem nhUnreachableNotification_cases {n : Int × Addr} {dMac : Mac} {p : L3Params}
    (h : s.nhUnreachableNotification env n dMac p = some s') :
    (getRouteByNhParams s.installed p = none ∧
      s' = { s.delL3NeighEgress env n dMac with owners := s.owners.erase p }) ∨
    ∃ route, getRouteByNhParams s.installed p = some route ∧
      getNeighboursOfRoute env route ≠ none ∧
      s' = { s.delL3NeighEgress env n dMac with
        nhCallbacks := s.nhCallbacks ++ [p]
        owners := s.owners.erase p } := by
  unfold nhUnreachableNotification at h
  split at h
  · next hroute =>
    cases h
    exact .inl ⟨hroute, rfl⟩
  · next route hroute =>
    obtain ⟨⟨rv, nhs⟩, hg, h⟩ := Option.bind_eq_some_iff.mp h
    obtain ⟨l, -, h⟩ := Option.bind_eq_some_iff.mp h
    cases h
    exact .inr ⟨route, hroute, by simp [hg], rfl⟩

theorem removeVlan_frame (s : L3) (link : Option L3Link) (vid : Nat) :
    ∃ pv, s.removeVlan link vid = { s with portVlan := pv } := by
  unfold removeVlan
  split
  · exact ⟨_, rfl⟩
  · cases link with
    | none => exact ⟨_, rfl⟩
    | some link =>
      dsimp only
      split
      · exact ⟨_, rfl⟩
      · cases s.portVlan.lookup (link.portId, vid) with
        | none => exact ⟨_, rfl⟩
        | some c =>
          dsimp only
          split
          · exact ⟨_, rfl⟩
          · exact ⟨_, rfl⟩

/-- `del_l3_neigh_egress` changes the two tables only. -/
theorem delL3NeighEgress_frame (env : L3Env) (s : L3) (n : Int × Addr) (dMac : Mac) :
    ∃ g pv, s.delL3NeighEgress env n dMac = { s with groups := g, portVlan := pv } := by
  have hboth (ifindex : Int) (vid : Nat) (sMac dMac : Mac) (link : Option L3Link) :
      ∃ g pv, (s.delL3Egress env ifindex vid sMac dMac).removeVlan link vid =
        { s with groups := g, portVlan := pv } := by
    obtain ⟨pv, hpv⟩ := removeVlan_frame (s.delL3Egress env ifindex vid sMac dMac) link vid
    exact ⟨_, pv, hpv⟩
  unfold delL3NeighEgress
  cases env.link n.1 with
  | none => exact ⟨_, _, rfl⟩
  | some link =>
    dsimp only
    split
    · cases env.searchFdb link.vid dMac with
      | some ifindex => exact hboth _ _ _ _ _
      | none =>
        dsimp only
        split
        · exact ⟨_, _, rfl⟩
        · exact ⟨_, _, rfl⟩
        · exact hboth _ _ _ _ _
    · exact hboth _ _ _ _ _

/-- `get_route_by_nh_params` finds a unicast route of the cache. -/
theorem mem_of_getRouteByNhParams {installed : List L3Route} {p : L3Params} {route : L3Route}
    (h : getRouteByNhParams installed p = some route) :
    route ∈ installed ∧ route.isUnicast = true := by
  refine ⟨List.mem_of_find?_eq_some h, ?_⟩
  have hp := List.find?_some h
  simp only [Bool.and_eq_true] at hp
  exact hp.1.1

/-- The next hops of the route are read, and each of them can be looked up. -/
def LooksUp (env : L3Env) (r : L3Route) : Prop :=
  ∃ rv nhs, getNeighboursOfRoute env r = some (rv, nhs) ∧
    ∀ nh ∈ nhs, (searchedEgress env nh).isSome = true

theorem lookUpOthers_isSome (h : ∀ nh ∈ nhs, (searchedEgress env nh).isSome = true) (s : L3)
    (p : L3Params) : (lookUpOthers env s nhs p).isSome = true := by
  unfold lookUpOthers
  induction nhs with
  | nil => rfl
  | cons nh nhs ih =>
    obtain ⟨hnh, hnhs⟩ := List.forall_mem_cons.mp h
    obtain ⟨l, hl⟩ := Option.isSome_iff_exists.mp (ih hnhs)
    obtain ⟨k, hk⟩ := Option.isSome_iff_exists.mp hnh
    rw [List.filter_cons]
    split
    · rw [List.mapM_cons, hasL3InterfaceId, hk, hl]
      rfl
    · rw [hl]
      rfl

/-- `nh_unreachable_notification` returns where it reads next hops that can be looked up. -/
theorem nhUnreachableNotification_returns {p : L3Params}
    (h : ∀ route, getRouteByNhParams s.installed p = some route → LooksUp env route)
    (n : Int × Addr) (dMac : Mac) :
    ∃ s', s.nhUnreachableNotification env n dMac p = some s' := by
  unfold nhUnreachableNotification
  cases hroute : getRouteByNhParams s.installed p with
  | none => exact ⟨_, rfl⟩
  | some route =>
    obtain ⟨rv, nhs, hg, hall⟩ := h route hroute
    obtain ⟨l, hl⟩ := Option.isSome_iff_exists.mp (lookUpOthers_isSome hall s p)
    simp [hg, hl]

end Outcomes

end L3

end Basebox
