import Basebox.Lib.Run
import Basebox.Netlink.L3Neigh

/-!
# Adding and deleting routes (`src/netlink/nl_l3.cc`)

The kernel installs or removes a route, and then `add_l3_route` or `del_l3_route` is called. Both
ask the kernel whether it has a route of its own to the same destination, and do nothing if so.
Nothing records how `add_l3_route` decided.

* `addL3UnicastRoute`, `delL3UnicastRoute`: the two functions for unicast routes. Updates of routes
  are left out, and so are the callbacks of `nl_vxlan`, which take no reference here.
* `step`: an event. It also keeps the account: a route that is deleted holds nothing any more.
-/

namespace Basebox

namespace L3

variable (env : L3Env) (sw : L3Switch)

/-- `get_l3_neighs_of_prefix`: `std::equal_range` on a set that is sorted by address. -/
def getL3NeighsOfPrefix (l : NhStub.Set) (p : Prefix) : List NhStub :=
  (l.dropWhile fun nh => nh.nh.cmpPrefix p == .lt).takeWhile fun nh => nh.nh.cmpPrefix p != .gt

/-- The check of both functions: the kernel has a route of its own to the same destination. -/
def duplicate (installed : List L3Route) (r : L3Route) : Bool :=
  decide (r.priority > 0) && r.protocol != RTPROT_KERNEL &&
    (env.fibMatch installed r.dst.addr).any fun route =>
      route.protocol == RTPROT_KERNEL && route.dst == r.dst

/-- A next hop of a route that is added. -/
def addNextHop (dst : Prefix) (s : L3) (nh : NhStub) : L3 :=
  let p : L3Params := { dst := dst, nh := nh }
  match env.neigh nh.neigh with
  | some (.valid dMac) =>
    let (rv, s) := s.addL3NeighEgress env sw nh.neigh (.valid dMac)
    let s := { s with owners := s.owners ++ [p] }
    if rv < 0 then s else { s with nhUnreachCallbacks := s.nhUnreachCallbacks ++ [p] }
  | _ =>
    if !dst.overlaps ipv6Ll && !dst.overlaps ipv6Mc then
      { s with nhCallbacks := s.nhCallbacks ++ [p] }
    else s

/-- A neighbour that a new link-scope route makes routable. -/
def enableNeigh (s : L3) (n : NhStub) : Option L3 :=
  match env.neigh n.neigh with
  | none => some s
  | some nud =>
    { s with unroutableL3Neighs := s.unroutableL3Neighs.erase n }.addL3Neigh env sw n.neigh nud

/-- `add_l3_unicast_route(r, false)`. -/
def addL3UnicastRoute (s : L3) (r : L3Route) : Option L3 :=
  if duplicate env s.installed r then some s
  else
    let s := { s with active := s.active ++ [r] }
    match getNeighboursOfRoute env r with
    | none => none
    | some (rv, nhs) =>
      if rv < 0 then some s
      else
        let s := nhs.foldl (addNextHop env sw r.dst) s
        let s :=
          if nhs.length ≤ 1 then s
          else { s with groups := (s.groups.addL3EcmpGroup nhs.toFinset 0).2.2 }
        if env.scopeLink r then
          (getL3NeighsOfPrefix s.unroutableL3Neighs r.dst).foldlM (enableNeigh env sw) s
        else some s

/-- Another interface of the switch has a link-scope route to the same IPv6 link-local prefix. -/
def isIpv6LlKept (installed : List L3Route) (r : L3Route) : Bool :=
  r.dst.overlaps ipv6Ll && installed.any fun route =>
    route.isUnicast && route.dst == r.dst && route.table == r.table && env.scopeLink route &&
      match route.nexthops with
      | [nh] => isSwitchInterface env nh.ifindex
      | _ => false

/-- A neighbour that is no longer routable without a link-scope route. -/
def disableNeigh (s : L3) (n : NhStub) : Option L3 :=
  match env.neigh n.neigh with
  | none => some s
  | some nud => (s.delL3Neigh env sw n.neigh nud).map fun s =>
    { s with unroutableL3Neighs := NhStub.Set.emplace s.unroutableL3Neighs n }

/-- The neighbours that a link-scope route made routable. -/
def disableNeighs (s : L3) (r : L3Route) : Option L3 :=
  if env.scopeLink r then
    (getL3NeighsOfPrefix s.routableL3Neighs r.dst).foldlM (disableNeigh env sw) s
  else some s

/-- A next hop of a route that is deleted. -/
def delNextHop (dst : Prefix) (s : L3) (nh : NhStub) : L3 :=
  let p : L3Params := { dst := dst, nh := nh }
  match env.neigh nh.neigh with
  | some (.valid dMac) =>
    { s with nhUnreachCallbacks := s.nhUnreachCallbacks.erase p }.delL3NeighEgress env nh.neigh dMac
  | _ => { s with nhCallbacks := s.nhCallbacks.erase p }

/-- `del_l3_unicast_route(r, false)`. -/
def delL3UnicastRoute (s : L3) (r : L3Route) : Option L3 :=
  if duplicate env s.installed r then some s
  else if isIpv6LlKept env s.installed r then some s
  else do
    let s ← s.disableNeighs env sw r
    let (rv, nhs) ← getNeighboursOfRoute env r
    if rv < 0 then return s
    else
      let s :=
        if nhs.length > 1 then { s with groups := (s.groups.delL3EcmpGroup nhs.toFinset 0).2 } else s
      return nhs.foldl (delNextHop env r.dst) s

/-! ## Events -/

/-- A route of the kernel comes or goes. -/
inductive Ev where
  | addL3Route (r : L3Route) (sw : L3Switch)
  | delL3Route (r : L3Route) (sw : L3Switch)

/-- The references that the addition of a route takes. -/
def refsOfRoute (r : L3Route) : List L3Params :=
  ((getNeighboursOfRoute env r).map fun (_, nhs) => nhs.map fun nh => { dst := r.dst, nh := nh }).getD []

/-- A route that is deleted is struck off the account. -/
def settle (r : L3Route) (active : List L3Route) (s : L3) : L3 :=
  { s with
    owners := if r ∈ active then s.owners.diff (refsOfRoute env r) else s.owners
    active := active.erase r }

/-- A route is handled; there is no result when the process aborts. -/
def exec (s : L3) : Ev → Option L3
  | .addL3Route r sw =>
    let s := { s with installed := s.installed ++ [r] }
    if r.isUnicast then s.addL3UnicastRoute env sw r else some s
  | .delL3Route r sw =>
    let s := { s with installed := s.installed.erase r }
    if r.isUnicast then (s.delL3UnicastRoute env sw r).map (settle env r s.active) else some s

/-- `none` is for a process that has crashed. -/
def step : Option L3 → Ev → Option L3
  | none, _ => none
  | some s, e => s.exec env e

end L3

end Basebox
