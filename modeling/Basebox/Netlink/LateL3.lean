import Basebox.Lib.AheadCache
import Basebox.Lib.Run
import Basebox.Netlink.HostRoutes
import Basebox.Netlink.NextHopObjects
import Basebox.Netlink.TermMacs

/-!
# Addresses and routes of a new bridge (`src/netlink/cnetlink.cc`, `nl_l3.cc`)

Addresses and routes over a bridge are left out while the bridge is not followed. When it gets its
first port, `add_l3_configuration` adds those that the caches have then, once for each interface of
the bridge that they are found by. Notes about them may still wait in the queue.

* `isSwitchInterface`, `nextHops`: what `get_neighbours_of_route` finds, with the links looked up.
* `addL3Addr`, `delL3Addr`: an address is set up, or a host entry added for one of the loopback.
* `addL3Route`, `updateL3Route`, `delL3Route`: a turn of a loop for each next hop, unless the route
  is skipped as the duplicate of a route of the kernel, or kept for another interface. `held` counts
  the turns.
* `addL3Configuration`: the scan; `handleNote`: what `route_addr_apply` and `route_route_apply` do.

A link is what its ifindex says. Late bonds, which have a scan of their own, and VRFs are left out.
The calls to the switch succeed.
-/

namespace Basebox

/-- What tells routes apart in the cache. -/
structure RouteId where
  dst : Prefix
  table : Nat := 254
  priority : Nat := 0
  deriving DecidableEq

/-- A route of the cache. -/
structure CachedRoute where
  id : RouteId
  isUnicast : Bool := true
  protocol : Nat := 0
  rtnl : RtnlRoute

/-- What tells the objects of the caches apart. -/
inductive L3Key where
  | link (ifindex : Int)
  | addr (a : IfAddr)
  | route (id : RouteId)
  deriving DecidableEq

/-- An object of the caches. -/
inductive L3Obj where
  | link (ifindex : Int)
  | addr (a : IfAddr)
  | route (r : CachedRoute)

/-- What it is kept under. -/
def L3Obj.key : L3Obj → L3Key
  | .link ifindex => .link ifindex
  | .addr a => .addr a
  | .route r => .route r.id

/-- The route, if it is one. -/
def L3Obj.asRoute : L3Obj → Option CachedRoute
  | .route r => some r
  | _ => none

/-- What the handlers find outside. -/
structure LateEnv where
  /-- The link below a VLAN interface, and `0` for others. -/
  lower : Int → Int
  /-- The interface has a port id, or a tunnel id. -/
  onPort : Int → Bool
  /-- The interface with `IFF_LOOPBACK`. -/
  lo : Int := 1
  nhById : Nat → Option RtnlNh

/-- What `cnetlink` and `nl_l3` have of it. -/
structure LateL3 where
  cache : AheadCache L3Key L3Obj := {}
  /-- The ifindex of `bridge`. -/
  bridge : Option Int := none
  /-- The addresses that are set up, but for those of the loopback. -/
  addrs : Finset IfAddr := ∅
  /-- The addresses of the loopback that have host entries. -/
  loHosts : Finset Addr := ∅
  /-- The turns made for a next hop of a route where it was added, less those where it was deleted. -/
  held : RouteId → NlStub → Int := fun _ _ => 0

namespace LateL3

variable (env : LateEnv) (s : LateL3)

/-! ## Interfaces of the switch -/

/-- `get_link_by_ifindex` finds a link. -/
def hasLink (i : Int) : Bool := (s.cache.find (.link i)).isSome

/-- The interface itself, or the link below a VLAN interface. -/
def base (i : Int) : Int := if env.lower i = 0 then i else env.lower i

/-- What `is_switch_interface` asks of the link that it has come to. -/
def ours (bridge : Option Int) (i : Int) : Bool :=
  env.onPort (base env i) || decide (bridge = some (base env i))

/-- `is_switch_interface`, where callers skip an interface without a link. -/
def isSwitchInterface (i : Int) : Bool :=
  s.hasLink i && s.hasLink (base env i) && ours env s.bridge i

/-- `get_neighbours_of_route` of a unicast route. Others have no next hops. -/
def nextHops (r : CachedRoute) : Finset NlStub :=
  if r.isUnicast then (r.rtnl.getNeighboursOfRoute (isSwitchInterface env s) env.nhById).2 else ∅

/-- The next hops of an object of a note. -/
def objHops (o : Option L3Obj) : Finset NlStub := (o.bind L3Obj.asRoute).elim ∅ (nextHops env s)

/-! ## Addresses -/

/-- `127.0.0.0/8`, `::1/128`. -/
def loPrefix : Addr → Prefix
  | .inet _ => { addr := .inet 0x7f000000, len := 8 }
  | .inet6 _ => { addr := .inet6 1, len := 128 }

/-- What `add_l3_addr` does for the loopback, and `add_lo_addr_v6`. -/
def addLoAddr (a : IfAddr) : LateL3 :=
  if a.loc.overlaps (loPrefix a.loc.addr) then s
  else if a.prefixlen = a.loc.addr.bits then { s with loHosts := insert a.loc.addr s.loHosts }
  else s

/-- `add_l3_addr` and `add_l3_addr_v6`. -/
def addL3Addr (a : IfAddr) : LateL3 :=
  if !s.hasLink a.ifindex then s
  else if a.ifindex = env.lo then s.addLoAddr a
  else if isSwitchInterface env s a.ifindex then { s with addrs := insert a s.addrs }
  else s

/-- `del_l3_addr`. For the loopback it looks at the length of the local address. -/
def delL3Addr (a : IfAddr) : LateL3 :=
  if !s.hasLink a.ifindex then s
  else if a.ifindex = env.lo then
    if a.loc.len = a.loc.addr.bits then { s with loHosts := s.loHosts.erase a.loc.addr } else s
  else if isSwitchInterface env s a.ifindex then { s with addrs := s.addrs.erase a }
  else s

/-! ## Routes -/

/-- The turns of a loop over next hops are counted. -/
def hold (id : RouteId) (nhs : Finset NlStub) (turns : Int) : LateL3 :=
  { s with held := fun id' nh => s.held id' nh + if id' = id ∧ nh ∈ nhs then turns else 0 }

/-- A loop over the next hops of a route, which looks up the neighbour of each. -/
def useNextHops (r : CachedRoute) (turns : Int) : Option LateL3 :=
  if ∀ nh ∈ nextHops env s r, nh.nh ≠ none then some (s.hold r.id (nextHops env s r) turns)
  else none

/-- The kernel has a route of its own to the destination. `fib` is what `nl_route_query` says. -/
def duplicate (fib : Prefix → Bool) (r : CachedRoute) : Bool :=
  decide (r.id.priority > 0) && r.protocol != RTPROT_KERNEL && fib r.id.dst

variable (fib : Prefix → Bool)

/-- `add_l3_unicast_route`. -/
def addL3UnicastRoute (r : CachedRoute) : Option LateL3 :=
  if duplicate fib r then some s else useNextHops env s r 1

/-- The interfaces of the link-scope routes to the same destination. -/
def linkScopes (r : CachedRoute) : List Int :=
  s.cache.cache.entries.filterMap fun x =>
    match x.2 with
    | .route r' =>
      match r'.rtnl.nexthops with
      | [nh] =>
        if r'.isUnicast ∧ r'.id.dst = r.id.dst ∧ r'.id.table = r.id.table ∧ nh.gateway = none then
          some nh.ifindex
        else none
      | _ => none
    | _ => none

/-- Another interface has the IPv6 link-local route. `is_switch_interface` asserts here that the
link is found. -/
def keepRoute (r : CachedRoute) : Option Bool :=
  if r.id.dst.overlaps ipv6Ll then
    (s.linkScopes r).foldlM
      (fun keep i =>
        if keep then some true
        else if s.hasLink i then some (isSwitchInterface env s i)
        else none)
      false
  else some false

/-- `del_l3_unicast_route`. -/
def delL3UnicastRoute (r : CachedRoute) (keep : Bool) : Option LateL3 :=
  if duplicate fib r then some s
  else if keep then useNextHops env s r (-1)
  else (keepRoute env s r).bind fun kept => if kept then some s else useNextHops env s r (-1)

/-- `update_l3_unicast_route`. -/
def updateL3UnicastRoute (old new : CachedRoute) : Option LateL3 :=
  (addL3UnicastRoute env s fib new).bind fun s => delL3UnicastRoute env s fib old true

/-- `add_l3_route`. -/
def addL3Route (r : CachedRoute) : Option LateL3 :=
  if r.isUnicast then addL3UnicastRoute env s fib r else some s

/-- `update_l3_route`. -/
def updateL3Route (old new : CachedRoute) : Option LateL3 :=
  if old.isUnicast && new.isUnicast then updateL3UnicastRoute env s fib old new else some s

/-- `del_l3_route`. -/
def delL3Route (r : CachedRoute) : Option LateL3 :=
  if r.isUnicast then delL3UnicastRoute env s fib r false else some s

/-! ## A new bridge -/

/-- `get_vlan_links`. -/
def getVlanLinks (ifindex : Int) : List Int :=
  s.cache.cache.entries.filterMap fun x =>
    match x.2 with
    | .link i => if env.lower i = ifindex then some i else none
    | _ => none

/-- The filter of `get_l3_routes`: some next hop is on the interface. -/
def via (ifindex : Int) (r : CachedRoute) : Bool :=
  r.isUnicast && r.rtnl.nexthops.any fun nh => decide (nh.ifindex = ifindex)

/-- `get_l3_addrs`. -/
def getL3Addrs (ifindex : Int) : List IfAddr :=
  s.cache.cache.entries.filterMap fun x =>
    match x.2 with
    | .addr a => if a.ifindex = ifindex then some a else none
    | _ => none

/-- `get_l3_routes`. -/
def getL3Routes (ifindex : Int) : List CachedRoute :=
  s.cache.cache.entries.filterMap fun x =>
    match x.2 with
    | .route r => if via ifindex r then some r else none
    | _ => none

/-- `add_l3_addresses`. -/
def addL3Addresses (ifindex : Int) : LateL3 := (s.getL3Addrs ifindex).foldl (addL3Addr env) s

/-- `add_l3_routes`. -/
def addL3Routes (ifindex : Int) : Option LateL3 :=
  (s.getL3Routes ifindex).foldlM (fun s r => addL3Route env s fib r) s

/-- `add_l3_configuration`. -/
def addL3Configuration (ifindex : Int) : Option LateL3 :=
  (ifindex :: s.getVlanLinks env ifindex).foldlM
    (fun s link => addL3Routes env (s.addL3Addresses env link) fib link) s

/-! ## Events -/

/-- What `handle_wakeup` does with a note. -/
def handleNote (s : LateL3) : CacheNote L3Key L3Obj → Option LateL3
  | .new _ (.addr a) => some (s.addL3Addr env a)
  | .new _ (.route r) => s.addL3Route env fib r
  | .change _ (.route old) (.route new) => s.updateL3Route env fib old new
  | .del _ (.addr a) => some (s.delL3Addr env a)
  | .del _ (.route r) => s.delL3Route env fib r
  | .del _ (.link i) => some (if s.bridge = some i then { s with bridge := none } else s)
  | _ => some s

/-- What happens. With the handlers come the answers of the kernel while they run. -/
inductive Ev where
  /-- An object is new or changed. -/
  | report (o : L3Obj)
  | gone (k : L3Key)
  | handle (fib : Prefix → Bool)
  /-- The bridge gets its first port. -/
  | newBridge (ifindex : Int) (fib : Prefix → Bool)

/-- The state in which a note is handled. -/
def popped : LateL3 := { s with cache := s.cache.handle }

/-- The bridge is followed. -/
def follow (b : Int) : LateL3 := { s with bridge := some b }

/-- libnl reports an object, or the next note is handled. -/
def exec (s : LateL3) : Ev → Option LateL3
  | .report o => some { s with cache := s.cache.put o.key o }
  | .gone k => some { s with cache := s.cache.remove k }
  | .handle fib =>
    match s.cache.pending with
    | [] => some s
    | n :: _ => handleNote env fib s.popped n
  | .newBridge b fib =>
    if s.bridge = none ∧ s.hasLink b = true then addL3Configuration env (s.follow b) fib b
    else some s

/-- `none` is for a process that has crashed. -/
def step : Option LateL3 → Ev → Option LateL3
  | none, _ => none
  | some s, e => exec env s e

/-- `nl_l3::init`: the IPv4 addresses of interface 1. -/
def initL3 : LateL3 :=
  ((s.getL3Addrs 1).filter fun a => a.loc.addr.isInet).foldl (addL3Addr env) s

/-- The state when the switch connects: nothing is reported of what the caches have then. -/
def init (w : Table L3Key L3Obj) : LateL3 := initL3 env { cache := { seen := w, cache := w } }

/-! ## What the handlers leave alone -/

section Frames

variable {env : LateEnv} {s t : LateL3} {fib : Prefix → Bool}

theorem hasLink_iff {i : Int} : s.hasLink i = true ↔ s.cache.find (.link i) ≠ none := by
  rw [hasLink, Option.isSome_iff_ne_none]

/-- Where the same links are found and the same bridge is followed, interfaces are those of the
switch alike. -/
theorem isSwitchInterface_congr
    (hlinks : ∀ i, t.cache.find (.link i) ≠ none ↔ s.cache.find (.link i) ≠ none)
    (hbridge : t.bridge = s.bridge) : isSwitchInterface env t = isSwitchInterface env s := by
  have hlink : ∀ i, t.hasLink i = s.hasLink i := fun i => by
    rw [Bool.eq_iff_iff, hasLink_iff, hasLink_iff, hlinks]
  funext i
  rw [isSwitchInterface, isSwitchInterface, hlink, hlink, hbridge]

theorem nextHops_congr (h : isSwitchInterface env t = isSwitchInterface env s) :
    nextHops env t = nextHops env s := by
  funext r
  rw [nextHops, nextHops, h]

/-- Only the addresses change. -/
structure SameButAddrs (s t : LateL3) : Prop where
  cache : t.cache = s.cache
  bridge : t.bridge = s.bridge
  held : t.held = s.held

/-- Only the count changes. -/
structure SameButHeld (s t : LateL3) : Prop where
  cache : t.cache = s.cache
  bridge : t.bridge = s.bridge
  addrs : t.addrs = s.addrs
  loHosts : t.loHosts = s.loHosts

theorem SameButHeld.refl (s : LateL3) : SameButHeld s s := ⟨rfl, rfl, rfl, rfl⟩

theorem SameButHeld.trans {s t u : LateL3} (h : SameButHeld s t) (h' : SameButHeld t u) :
    SameButHeld s u :=
  ⟨h'.cache.trans h.cache, h'.bridge.trans h.bridge, h'.addrs.trans h.addrs,
    h'.loHosts.trans h.loHosts⟩

theorem SameButHeld.nextHops (h : SameButHeld s t) : nextHops env t = nextHops env s :=
  nextHops_congr (isSwitchInterface_congr (fun i => by rw [h.cache]) h.bridge)

theorem SameButAddrs.refl (s : LateL3) : SameButAddrs s s := ⟨rfl, rfl, rfl⟩

theorem SameButAddrs.trans {s t u : LateL3} (h : SameButAddrs s t) (h' : SameButAddrs t u) :
    SameButAddrs s u :=
  ⟨h'.cache.trans h.cache, h'.bridge.trans h.bridge, h'.held.trans h.held⟩

theorem SameButAddrs.nextHops (h : SameButAddrs s t) : nextHops env t = nextHops env s :=
  nextHops_congr (isSwitchInterface_congr (fun i => by rw [h.cache]) h.bridge)

variable (env s) in
theorem sameButAddrs_addL3Addr (a : IfAddr) : SameButAddrs s (s.addL3Addr env a) := by
  unfold addL3Addr addLoAddr
  split_ifs <;> exact ⟨rfl, rfl, rfl⟩

variable (env s) in
theorem sameButAddrs_delL3Addr (a : IfAddr) : SameButAddrs s (s.delL3Addr env a) := by
  unfold delL3Addr
  split_ifs <;> exact ⟨rfl, rfl, rfl⟩

variable (env s) in
theorem sameButAddrs_foldl (as : List IfAddr) : SameButAddrs s (as.foldl (addL3Addr env) s) := by
  induction as generalizing s with
  | nil => exact .refl s
  | cons a as ih => exact (sameButAddrs_addL3Addr env s a).trans (ih (s.addL3Addr env a))

/-- What is taken for a route that is added, or given back where it is not kept. -/
def taken (env : LateEnv) (s : LateL3) (fib : Prefix → Bool) (r : CachedRoute) : Finset NlStub :=
  if duplicate fib r then ∅ else nextHops env s r

/-- What is given back for a route that is deleted. -/
def given (env : LateEnv) (s : LateL3) (fib : Prefix → Bool) (r : CachedRoute) : Finset NlStub :=
  if keepRoute env s r = some true then ∅ else taken env s fib r

@[simp] theorem hold_empty (s : LateL3) (id : RouteId) (turns : Int) :
    s.hold id ∅ turns = s := by
  simp [hold]

theorem sameButHeld_hold (s : LateL3) (id : RouteId) (nhs : Finset NlStub) (turns : Int) :
    SameButHeld s (s.hold id nhs turns) := ⟨rfl, rfl, rfl, rfl⟩

theorem useNextHops_eq {r : CachedRoute} {turns : Int} (h : useNextHops env s r turns = some t) :
    t = s.hold r.id (nextHops env s r) turns := by
  unfold useNextHops at h
  split_ifs at h
  exact (Option.some.inj h).symm

theorem nextHops_of_not_unicast {r : CachedRoute} (hr : ¬ r.isUnicast = true) :
    nextHops env s r = ∅ := if_neg hr

theorem addL3UnicastRoute_eq {r : CachedRoute} (h : addL3UnicastRoute env s fib r = some t) :
    t = s.hold r.id (taken env s fib r) 1 := by
  unfold addL3UnicastRoute at h
  unfold taken
  split_ifs at h ⊢
  · rw [hold_empty, Option.some.inj h]
  · exact useNextHops_eq h

theorem addL3Route_eq {r : CachedRoute} (h : addL3Route env s fib r = some t) :
    t = s.hold r.id (taken env s fib r) 1 := by
  unfold addL3Route at h
  split_ifs at h with hr
  · exact addL3UnicastRoute_eq h
  · rw [taken, nextHops_of_not_unicast hr, ite_self, hold_empty, Option.some.inj h]

theorem delL3Route_eq {r : CachedRoute} (h : delL3Route env s fib r = some t) :
    t = s.hold r.id (given env s fib r) (-1) := by
  unfold delL3Route delL3UnicastRoute at h
  unfold given taken
  simp only [Bool.false_eq_true, if_false] at h
  split_ifs at h with hr hdup
  · rw [if_pos hdup, ite_self, hold_empty, Option.some.inj h]
  · obtain ⟨kept, hkept, h⟩ := Option.bind_eq_some_iff.mp h
    rw [hkept, if_neg hdup]
    cases kept with
    | true => rw [if_pos rfl, hold_empty, Option.some.inj h]
    | false => exact useNextHops_eq h
  · rw [nextHops_of_not_unicast hr, ite_self, ite_self, hold_empty, Option.some.inj h]

theorem updateL3Route_eq {old new : CachedRoute} (h : updateL3Route env s fib old new = some t)
    (htype : old.isUnicast = true ∧ new.isUnicast = true) :
    t = (s.hold new.id (taken env s fib new) 1).hold old.id (taken env s fib old) (-1) := by
  rw [taken, taken]
  unfold updateL3Route updateL3UnicastRoute delL3UnicastRoute at h
  rw [if_pos (by simp [htype])] at h
  obtain ⟨u, hu, h⟩ := Option.bind_eq_some_iff.mp h
  obtain rfl := addL3UnicastRoute_eq hu
  have hhops : nextHops env (s.hold new.id (taken env s fib new) 1) = nextHops env s :=
    (sameButHeld_hold s _ _ _).nextHops
  rw [← hhops]
  by_cases hdup : duplicate fib old = true
  · rw [if_pos hdup] at h
    rw [if_pos hdup, hold_empty]
    exact (Option.some.inj h).symm
  · rw [if_neg hdup, if_pos rfl] at h
    rw [if_neg hdup]
    exact useNextHops_eq h

theorem sameButHeld_updateL3Route {old new : CachedRoute}
    (h : updateL3Route env s fib old new = some t) : SameButHeld s t := by
  by_cases htype : old.isUnicast = true ∧ new.isUnicast = true
  · rw [updateL3Route_eq h htype]
    exact (sameButHeld_hold s _ _ _).trans (sameButHeld_hold _ _ _ _)
  · unfold updateL3Route at h
    rw [if_neg (by simpa using htype), Option.some.injEq] at h
    exact h ▸ .refl s

theorem sameButHeld_foldlM {rs : List CachedRoute}
    (h : rs.foldlM (fun s r => addL3Route env s fib r) s = some t) : SameButHeld s t := by
  induction rs generalizing s with
  | nil => exact Option.some.inj h ▸ .refl s
  | cons r rs ih =>
    rw [List.foldlM_cons] at h
    obtain ⟨u, hu, h⟩ := Option.bind_eq_some_iff.mp h
    rw [addL3Route_eq hu] at h
    exact (sameButHeld_hold s _ _ _).trans (ih h)

/-- The handlers leave the caches alone. -/
theorem cache_handleNote {n : CacheNote L3Key L3Obj} (h : handleNote env fib s n = some t) :
    t.cache = s.cache := by
  unfold handleNote at h
  split at h
  · exact Option.some.inj h ▸ (sameButAddrs_addL3Addr env s _).cache
  · exact addL3Route_eq h ▸ rfl
  · exact (sameButHeld_updateL3Route h).cache
  · exact Option.some.inj h ▸ (sameButAddrs_delL3Addr env s _).cache
  · exact delL3Route_eq h ▸ rfl
  · rw [← Option.some.inj h]
    split_ifs <;> rfl
  · exact Option.some.inj h ▸ rfl

end Frames

/-! ## A bridge with a VLAN interface -/

/-- Bridge `10` with the VLAN interface `11`. -/
def bridgeWithVlan : LateEnv where
  lower i := if i = 11 then 10 else 0
  onPort _ := false
  nhById _ := none

/-- The kernel has no route of its own. -/
def noFib (_ : Prefix) : Bool := false

end LateL3

end Basebox
