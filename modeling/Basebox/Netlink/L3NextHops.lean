import Basebox.Netlink.L3Tables

/-!
# The next hops of routes, while the neighbour cache runs ahead (`src/netlink/nl_l3.cc`)

`add_l3_unicast_route` and `del_l3_unicast_route` ask the neighbour cache whether a next hop is
resolved. libnl changes the cache when a message arrives, and `nl_l3` handles its event later, so
the two may find different answers for the same route, with no event on the neighbour in between.

* `Outside`: what a call finds in the caches of libnl, and how the switch answers.
* `Tracked`: the state of `nl_l3`, with the references that routes hold for their next hops. Its
  functions are those of `nl_l3`, and note beside that who took a reference and who gave one back.
* `l3_call`: without the notes they are the functions of `nl_l3`.
-/

namespace Basebox

namespace L3

/-! ## The calls -/

section Calls

variable (env : L3Env) (sw : L3Switch)

/-- The end of `del_l3_unicast_route`. -/
def releaseNextHops (s : L3) (r : L3Route) : Option L3 :=
  (getNeighboursOfRoute env r).map fun (rv, nhs) =>
    if rv < 0 then s
    else
      let s :=
        if nhs.length > 1 then { s with groups := (s.groups.delL3EcmpGroup nhs.toFinset 0).2 } else s
      nhs.foldl (delNextHop env r.dst) s

/-- `del_l3_unicast_route(r, keep_route)`; `update_l3_unicast_route` keeps the route. -/
def delL3UnicastRouteKeep (s : L3) (r : L3Route) (keepRoute : Bool) : Option L3 :=
  if duplicate env s.installed r then some s
  else if !keepRoute && isIpv6LlKept env s.installed r then some s
  else (s.disableNeighs env sw r).bind fun s => s.releaseNextHops env r

theorem delL3UnicastRouteKeep_false (s : L3) (r : L3Route) :
    s.delL3UnicastRouteKeep env sw r false = s.delL3UnicastRoute env sw r := by
  unfold delL3UnicastRouteKeep delL3UnicastRoute releaseNextHops
  split
  · rfl
  · simp only [Bool.not_false, Bool.true_and]
    split
    · rfl
    · congr 1
      funext s
      cases getNeighboursOfRoute env r with
      | none => rfl
      | some x =>
        simp only [Option.map_some, Option.bind_eq_bind, Option.bind_some]
        split <;> rfl

/-- `update_l3_neigh`, with the result of `l3_egress_update`. -/
def updateL3Neigh (s : L3) (n : Int × Addr) (nOld nNew : Nud) (send : Int) : Option L3 :=
  if !isSwitchInterface env n.1 then some s
  else
    match nOld, nNew with
    | .valid llOld, .valid llNew =>
      let unroutable := decide ({ nh := n.2, ifindex := n.1 } ∈ s.unroutableL3Neighs)
      match env.link n.1 with
      | none => some s
      | some link =>
        -- On a bridge interface, the port is that of the new address in the FDB, which is asserted.
        if link.isBridge && decide (llOld ≠ llNew) && !unroutable then
          (env.searchFdb link.vid llNew).map fun ifindex =>
            { s with groups := (s.groups.updateL3NeighLl unroutable true (getPortId env ifindex)
                link.vid link.addr llOld llNew send).2 }
        else
          some { s with groups := (s.groups.updateL3NeighLl unroutable true (getPortId env n.1)
            link.vid link.addr llOld llNew send).2 }
    | .valid llOld, _ => s.delL3Neigh env sw n (.valid llOld)
    | _, .valid llNew => s.addL3Neigh env sw n (.valid llNew)
    | _, _ => some s

end Calls

/-- What a call finds outside: the neighbour cache, the route cache, and the switch. -/
structure Outside where
  neigh : Int × Addr → Option Nud
  installed : List L3Route
  sw : L3Switch := {}

/-- The environment of a call. -/
def Outside.env (o : Outside) (env : L3Env) : L3Env := { env with neigh := o.neigh }

/-- The calls for the events of the queue. An update of a route is an addition and a deletion that
keeps the route. -/
inductive Call where
  | addL3UnicastRoute (r : L3Route)
  | delL3UnicastRoute (r : L3Route) (keepRoute : Bool)
  | addL3Neigh (n : Int × Addr) (nud : Nud)
  | updateL3Neigh (n : Int × Addr) (nOld nNew : Nud) (send : Int)
  | delL3Neigh (n : Int × Addr) (nud : Nud)

/-- One call. A route that is deleted is no longer one of the `active` ones. -/
def call (env : L3Env) (s : L3) (o : Outside) (c : Call) : Option L3 :=
  let s := { s with installed := o.installed }
  match c with
  | .addL3UnicastRoute r => s.addL3UnicastRoute (o.env env) o.sw r
  | .delL3UnicastRoute r keepRoute =>
    (s.delL3UnicastRouteKeep (o.env env) o.sw r keepRoute).map fun s =>
      { s with active := s.active.erase r }
  | .addL3Neigh n nud => s.addL3Neigh (o.env env) o.sw n nud
  | .updateL3Neigh n nOld nNew send => s.updateL3Neigh (o.env env) o.sw n nOld nNew send
  | .delL3Neigh n nud => s.delL3Neigh (o.env env) o.sw n nud

/-! ## References -/

section Takes

variable (env : L3Env) (sw : L3Switch)

/-- The cache has a link-layer address for the next hop. -/
def resolved (nh : NhStub) : Bool :=
  match env.neigh nh.neigh with
  | some (.valid _) => true
  | _ => false

end Takes

/-- What was taken for a next hop. -/
structure NextHopRefs where
  params : L3Params
  refs : Multiset L3Ref
  deriving DecidableEq

/-- The state of `nl_l3`, with notes on the references of the routes, which are read off the
tables. -/
structure Tracked where
  l3 : L3 := {}
  /-- One for each time that a reference was taken and not given back. -/
  taken : List NextHopRefs := []
  /-- What the tables lost for the next hops of routes that were deleted. -/
  released : Multiset (L3Params × L3Ref) := 0

namespace Tracked

/-- The next hops that a reference is held for. -/
def held (x : Tracked) : List L3Params := x.taken.map NextHopRefs.params

/-- What is held for a next hop: that of one route, if there are several. -/
def refsOf (x : Tracked) (p : L3Params) : Multiset L3Ref :=
  ((x.taken.find? fun t => t.params = p).map NextHopRefs.refs).getD 0

/-- The state `s` comes after `add_l3_neigh_egress` was called for a next hop. If it took a reference,
what the tables have gained is noted. -/
def take (x : Tracked) (s : L3) (p : L3Params) (takes : Bool) : Tracked :=
  { x with
    l3 := s
    taken := if takes then x.taken ++ [{ params := p, refs := s.refs - x.l3.refs }] else x.taken }

/-- The state `s` comes after `del_l3_neigh_egress` was called for a next hop. A reference that was
taken is given back if the tables have lost just that. -/
def give (x : Tracked) (s : L3) (p : L3Params) : Tracked :=
  { x with l3 := s, taken := x.taken.erase { params := p, refs := x.l3.refs - s.refs } }

/-- An egress group that has gone from the table, and the new one there. -/
def movedKey (s s' : L3) (k : EgressKey) : EgressKey :=
  if k ∈ s'.groups.l3InterfaceMapping then k
  else (s'.groups.l3InterfaceMapping.keys.find? (· ∉ s.groups.l3InterfaceMapping)).getD k

/-- The state `s` comes after a group may have got another key. Who held it holds it under that. -/
def move (x : Tracked) (s : L3) : Tracked :=
  { x with
    l3 := s
    taken := x.taken.map fun t => { t with refs := t.refs.map (L3Ref.mapKey (movedKey x.l3 s)) } }

section Notes

variable (x : Tracked) (s : L3) (p : L3Params)

@[simp] theorem l3_take (takes : Bool) : (x.take s p takes).l3 = s := rfl

@[simp] theorem l3_give : (x.give s p).l3 = s := rfl

@[simp] theorem l3_move : (x.move s).l3 = s := rfl

@[simp] theorem held_take (takes : Bool) :
    (x.take s p takes).held = if takes then x.held ++ [p] else x.held := by
  cases takes <;> simp [take, held]

@[simp] theorem held_move : (x.move s).held = x.held := by
  simp [move, held, Function.comp_def]

/-- A reference is given back where the tables have lost what is held for the next hop. -/
theorem held_give (h : ∀ t ∈ x.taken, t.params = p → t.refs = x.l3.refs - s.refs) :
    (x.give s p).held = x.held.erase p := by
  unfold give held
  generalize x.taken = l at h
  dsimp only
  induction l with
  | nil => rfl
  | cons t l ih =>
    obtain ⟨ht, hl⟩ := List.forall_mem_cons.mp h
    by_cases hp : t.params = p
    · have heq : t = { params := p, refs := x.l3.refs - s.refs } := by
        rw [← ht hp, ← hp]
      rw [heq, List.erase_cons_head, List.map_cons, List.erase_cons_head]
    · have hne : t ≠ { params := p, refs := x.l3.refs - s.refs } := fun e => hp (e ▸ rfl)
      rw [List.erase_cons_tail (by simpa using hne), List.map_cons, List.map_cons,
        List.erase_cons_tail (by simpa using hp), ih hl]

/-- What is held for another next hop stays. -/
theorem refsOf_give {q : L3Params} (hq : q ≠ p) : (x.give s p).refsOf q = x.refsOf q := by
  unfold give refsOf
  generalize x.taken = l
  dsimp only
  induction l with
  | nil => rfl
  | cons t l ih =>
    by_cases ht : t = { params := p, refs := x.l3.refs - s.refs }
    · have hp : t.params ≠ q := by
        rw [ht]
        exact Ne.symm hq
      rw [ht, List.erase_cons_head, ← ht, List.find?_cons_of_neg (by simpa using hp)]
    · rw [List.erase_cons_tail (by simpa using ht), List.find?_cons, List.find?_cons]
      by_cases hp : t.params = q
      · simp [hp]
      · simpa [hp] using ih

variable {x p} in
theorem refsOf_of_not_mem (h : p ∉ x.held) : x.refsOf p = 0 := by
  have hfind : x.taken.find? (fun t => t.params = p) = none := by
    rw [List.find?_eq_none]
    intro t ht htp
    exact h (List.mem_map.mpr ⟨t, ht, by simpa using htp⟩)
  rw [refsOf, hfind]
  rfl

variable {x p} in
theorem refsOf_of_mem (h : p ∈ x.held) : ∃ t ∈ x.taken, t.params = p ∧ x.refsOf p = t.refs := by
  obtain ⟨t, ht, htp⟩ := List.mem_map.mp h
  obtain ⟨t', hfind⟩ : ∃ t', x.taken.find? (fun t => t.params = p) = some t' := by
    rw [← Option.isSome_iff_exists, List.find?_isSome]
    exact ⟨t, ht, by simpa using htp⟩
  refine ⟨t', List.mem_of_find?_eq_some hfind, ?_, by rw [refsOf, hfind]; rfl⟩
  simpa using List.find?_some hfind

theorem taken_give_subset : (x.give s p).taken ⊆ x.taken := List.erase_subset

end Notes

section Functions

variable (env : L3Env) (sw : L3Switch)

/-- `nh_reachable_notification`; the next hop takes its references. -/
def nhReachableNotification (x : Tracked) (n : Int × Addr) (nud : Nud) (p : L3Params) :
    Option Tracked :=
  (x.l3.nhReachableNotification env sw n nud p).map fun s =>
    x.take s p (((getRouteByNhParams x.l3.installed p).bind (getNeighboursOfRoute env)).any
      fun (_, nhs) => decide (p.nh ∈ nhs) && x.l3.takes env sw n nud)

/-- `nh_unreachable_notification`; the next hop gives them back. -/
def nhUnreachableNotification (x : Tracked) (n : Int × Addr) (dMac : Mac) (p : L3Params) :
    Option Tracked :=
  (x.l3.nhUnreachableNotification env n dMac p).map fun s => x.give s p

/-- The loop over `nh_callbacks`. -/
def notifyReachable (x : Tracked) (n : Int × Addr) (nud : Nud) : Option Tracked := do
  let x' ← (x.l3.nhCallbacks.filter fun p => p.nh.neigh == n).foldlM
    (fun x p => x.nhReachableNotification env sw n nud p) x
  return { x' with
    l3 := { x'.l3 with nhCallbacks := x.l3.nhCallbacks.filter fun p => p.nh.neigh != n } }

/-- The loop over `nh_unreach_callbacks`. -/
def notifyUnreachable (x : Tracked) (n : Int × Addr) (dMac : Mac) : Option Tracked := do
  let x' ← (x.l3.nhUnreachCallbacks.filter fun p => p.nh.neigh == n).foldlM
    (fun x p => x.nhUnreachableNotification env n dMac p) x
  return { x' with
    l3 := { x'.l3 with
      nhUnreachCallbacks := x.l3.nhUnreachCallbacks.filter fun p => p.nh.neigh != n } }

/-- `add_l3_neigh`. -/
def addL3Neigh (x : Tracked) (n : Int × Addr) (nud : Nud) : Option Tracked :=
  let nh : NhStub := { nh := n.2, ifindex := n.1 }
  if n.2.cmpPrefix ipv6Ll == .eq then x.notifyReachable env sw n nud
  else if x.l3.isL3NeighRoutable env n then
    let s := { x.l3 with routableL3Neighs := NhStub.Set.emplace x.l3.routableL3Neighs nh }
    let (rv, s) := s.addL3NeighEgress env sw n nud
    if rv < 0 then some { x with l3 := s }
    else if sw.hostAdd n.2 < 0 then some { x with l3 := s }
    else { x with l3 := s }.notifyReachable env sw n nud
  else
    some { x with
      l3 := { x.l3 with unroutableL3Neighs := NhStub.Set.emplace x.l3.unroutableL3Neighs nh } }

/-- `del_l3_neigh`. -/
def delL3Neigh (x : Tracked) (n : Int × Addr) (nud : Nud) : Option Tracked :=
  let nh : NhStub := { nh := n.2, ifindex := n.1 }
  match nud, env.link n.1 with
  | .failed, _ | .incomplete, _ | .valid _, none => some x
  | .valid dMac, some _ =>
    if nh ∈ x.l3.unroutableL3Neighs then
      some { x with
        l3 := { x.l3 with unroutableL3Neighs := x.l3.unroutableL3Neighs.erase nh } }
    else
      let s := { x.l3 with routableL3Neighs := x.l3.routableL3Neighs.erase nh }
      let skipAddrRemove := decide (n.2 ∈ env.l3Addrs n.1)
      let skipEgressRemove := !skipAddrRemove && n.2.cmpPrefix ipv6Ll == .eq
      if !skipAddrRemove && !skipEgressRemove && decide (sw.hostRemove n.2 < 0) then
        some { x with l3 := s }
      else
        let s := if skipEgressRemove then s else s.delL3NeighEgress env n dMac
        { x with l3 := s }.notifyUnreachable env n dMac

/-- `update_l3_neigh`. -/
def updateL3Neigh (x : Tracked) (n : Int × Addr) (nOld nNew : Nud) (send : Int) :
    Option Tracked :=
  if isSwitchInterface env n.1 then
    match nOld, nNew with
    | .valid llOld, .valid llNew =>
      (x.l3.updateL3Neigh env sw n (.valid llOld) (.valid llNew) send).map x.move
    | .valid llOld, _ => x.delL3Neigh env sw n (.valid llOld)
    | _, .valid llNew => x.addL3Neigh env sw n (.valid llNew)
    | _, _ => some x
  else some x

/-- A neighbour that a new link-scope route makes routable. -/
def enableNeigh (x : Tracked) (n : NhStub) : Option Tracked :=
  match env.neigh n.neigh with
  | none => some x
  | some nud =>
    { x with l3 := { x.l3 with unroutableL3Neighs := x.l3.unroutableL3Neighs.erase n } }.addL3Neigh
      env sw n.neigh nud

/-- A neighbour that is no longer routable without a link-scope route. -/
def disableNeigh (x : Tracked) (n : NhStub) : Option Tracked :=
  match env.neigh n.neigh with
  | none => some x
  | some nud => (x.delL3Neigh env sw n.neigh nud).map fun x =>
    { x with
      l3 := { x.l3 with unroutableL3Neighs := NhStub.Set.emplace x.l3.unroutableL3Neighs n } }

/-- The loop of `del_l3_unicast_route`. -/
def disableNeighs (x : Tracked) (r : L3Route) : Option Tracked :=
  if env.scopeLink r then
    (getL3NeighsOfPrefix x.l3.routableL3Neighs r.dst).foldlM (disableNeigh env sw) x
  else some x

/-- A next hop of a new route. -/
def addNextHop (dst : Prefix) (x : Tracked) (nh : NhStub) : Tracked :=
  x.take (x.l3.addNextHop env sw dst nh) { dst := dst, nh := nh }
    (match env.neigh nh.neigh with
    | some (.valid dMac) => x.l3.takes env sw nh.neigh (.valid dMac)
    | _ => false)

/-- A next hop of a route that goes. -/
def delNextHop (dst : Prefix) (x : Tracked) (nh : NhStub) : Tracked :=
  let p : L3Params := { dst := dst, nh := nh }
  let s := x.l3.delNextHop env dst nh
  let x' := if resolved env nh then x.give s p else { x with l3 := s }
  { x' with released := x.released + (x.l3.refs - s.refs).map (Prod.mk p) }

/-- `add_l3_unicast_route`. -/
def addL3UnicastRoute (x : Tracked) (r : L3Route) : Option Tracked :=
  if duplicate env x.l3.installed r then some x
  else
    let x := { x with l3 := { x.l3 with active := x.l3.active ++ [r] } }
    match getNeighboursOfRoute env r with
    | none => none
    | some (rv, nhs) =>
      if rv < 0 then some x
      else
        let x := nhs.foldl (addNextHop env sw r.dst) x
        let x :=
          if nhs.length ≤ 1 then x
          else { x with l3 := { x.l3 with
            groups := (x.l3.groups.addL3EcmpGroup nhs.toFinset 0).2.2 } }
        if env.scopeLink r then
          (getL3NeighsOfPrefix x.l3.unroutableL3Neighs r.dst).foldlM (enableNeigh env sw) x
        else some x

/-- The next hops of a route that goes are given back. -/
def releaseNextHops (x : Tracked) (r : L3Route) : Option Tracked :=
  (getNeighboursOfRoute env r).map fun (rv, nhs) =>
    if rv < 0 then x
    else
      let x :=
        if nhs.length > 1 then
          { x with l3 := { x.l3 with groups := (x.l3.groups.delL3EcmpGroup nhs.toFinset 0).2 } }
        else x
      nhs.foldl (delNextHop env r.dst) x

/-- `del_l3_unicast_route`. -/
def delL3UnicastRoute (x : Tracked) (r : L3Route) (keepRoute : Bool) : Option Tracked :=
  if duplicate env x.l3.installed r then some x
  else if !keepRoute && isIpv6LlKept env x.l3.installed r then some x
  else (x.disableNeighs env sw r).bind fun x => x.releaseNextHops env r

end Functions

/-- A call of the netlink thread, with what it sees. -/
def call (env : L3Env) (x : Tracked) (o : Outside) (c : Call) : Option Tracked :=
  let x := { x with l3 := { x.l3 with installed := o.installed } }
  match c with
  | .addL3UnicastRoute r => x.addL3UnicastRoute (o.env env) o.sw r
  | .delL3UnicastRoute r keepRoute =>
    (x.delL3UnicastRoute (o.env env) o.sw r keepRoute).map fun x =>
      { x with l3 := { x.l3 with active := x.l3.active.erase r } }
  | .addL3Neigh n nud => x.addL3Neigh (o.env env) o.sw n nud
  | .updateL3Neigh n nOld nNew send => x.updateL3Neigh (o.env env) o.sw n nOld nNew send
  | .delL3Neigh n nud => x.delL3Neigh (o.env env) o.sw n nud

/-! ## Without the notes -/

section Erase

variable {env : L3Env} {sw : L3Switch}

theorem l3_nhReachableNotification (x : Tracked) (n : Int × Addr) (nud : Nud) (p : L3Params) :
    (x.nhReachableNotification env sw n nud p).map Tracked.l3 =
      x.l3.nhReachableNotification env sw n nud p := by
  simp [nhReachableNotification, Function.comp_def]

theorem l3_nhUnreachableNotification (x : Tracked) (n : Int × Addr) (dMac : Mac) (p : L3Params) :
    (x.nhUnreachableNotification env n dMac p).map Tracked.l3 =
      x.l3.nhUnreachableNotification env n dMac p := by
  simp [nhUnreachableNotification, Function.comp_def]

theorem l3_notifyReachable (x : Tracked) (n : Int × Addr) (nud : Nud) :
    (x.notifyReachable env sw n nud).map Tracked.l3 = x.l3.notifyReachable env sw n nud := by
  unfold notifyReachable L3.notifyReachable
  rw [← map_foldlM_option fun x p => l3_nhReachableNotification x n nud p]
  cases (x.l3.nhCallbacks.filter fun p => p.nh.neigh == n).foldlM
    (fun x p => x.nhReachableNotification env sw n nud p) x <;> rfl

theorem l3_notifyUnreachable (x : Tracked) (n : Int × Addr) (dMac : Mac) :
    (x.notifyUnreachable env n dMac).map Tracked.l3 = x.l3.notifyUnreachable env n dMac := by
  unfold notifyUnreachable L3.notifyUnreachable
  rw [← map_foldlM_option fun x p => l3_nhUnreachableNotification x n dMac p]
  cases (x.l3.nhUnreachCallbacks.filter fun p => p.nh.neigh == n).foldlM
    (fun x p => x.nhUnreachableNotification env n dMac p) x <;> rfl

theorem l3_addL3Neigh (x : Tracked) (n : Int × Addr) (nud : Nud) :
    (x.addL3Neigh env sw n nud).map Tracked.l3 = x.l3.addL3Neigh env sw n nud := by
  unfold addL3Neigh L3.addL3Neigh
  split
  · exact l3_notifyReachable x n nud
  · dsimp only
    split
    · split
      · rfl
      · split
        · rfl
        · exact l3_notifyReachable _ n nud
    · rfl

theorem l3_delL3Neigh (x : Tracked) (n : Int × Addr) (nud : Nud) :
    (x.delL3Neigh env sw n nud).map Tracked.l3 = x.l3.delL3Neigh env sw n nud := by
  unfold delL3Neigh L3.delL3Neigh
  cases nud with
  | failed => rfl
  | incomplete => rfl
  | valid dMac =>
    cases env.link n.1 with
    | none => rfl
    | some link =>
      dsimp only
      split
      · rfl
      · split
        · rfl
        · exact l3_notifyUnreachable _ n dMac

theorem l3_updateL3Neigh (x : Tracked) (n : Int × Addr) (nOld nNew : Nud) (send : Int) :
    (x.updateL3Neigh env sw n nOld nNew send).map Tracked.l3 =
      x.l3.updateL3Neigh env sw n nOld nNew send := by
  unfold updateL3Neigh
  cases hsw : isSwitchInterface env n.1 with
  | false => simp [L3.updateL3Neigh, hsw]
  | true =>
    cases nOld <;> cases nNew <;>
      simp [L3.updateL3Neigh, hsw, l3_addL3Neigh, l3_delL3Neigh, Function.comp_def]

theorem l3_enableNeigh (x : Tracked) (n : NhStub) :
    (x.enableNeigh env sw n).map Tracked.l3 = x.l3.enableNeigh env sw n := by
  unfold enableNeigh L3.enableNeigh
  cases env.neigh n.neigh with
  | none => rfl
  | some nud => exact l3_addL3Neigh _ _ _

theorem l3_disableNeigh (x : Tracked) (n : NhStub) :
    (x.disableNeigh env sw n).map Tracked.l3 = x.l3.disableNeigh env sw n := by
  unfold disableNeigh L3.disableNeigh
  cases env.neigh n.neigh with
  | none => rfl
  | some nud =>
    dsimp only
    rw [← l3_delL3Neigh]
    cases x.delL3Neigh env sw n.neigh nud <;> rfl

theorem l3_disableNeighs (x : Tracked) (r : L3Route) :
    (x.disableNeighs env sw r).map Tracked.l3 = x.l3.disableNeighs env sw r := by
  unfold disableNeighs L3.disableNeighs
  split
  · exact map_foldlM_option l3_disableNeigh _ x
  · rfl

theorem l3_addNextHops (dst : Prefix) (nhs : List NhStub) (x : Tracked) :
    (nhs.foldl (addNextHop env sw dst) x).l3 = nhs.foldl (L3.addNextHop env sw dst) x.l3 :=
  (List.foldl_hom Tracked.l3 fun _ _ => rfl).symm

theorem l3_delNextHop (dst : Prefix) (x : Tracked) (nh : NhStub) :
    (delNextHop env dst x nh).l3 = x.l3.delNextHop env dst nh := by
  unfold delNextHop
  dsimp only
  split <;> rfl

theorem l3_delNextHops (dst : Prefix) (nhs : List NhStub) (x : Tracked) :
    (nhs.foldl (delNextHop env dst) x).l3 = nhs.foldl (L3.delNextHop env dst) x.l3 :=
  (List.foldl_hom Tracked.l3 fun _ _ => (l3_delNextHop dst _ _).symm).symm

theorem l3_addL3UnicastRoute (x : Tracked) (r : L3Route) :
    (x.addL3UnicastRoute env sw r).map Tracked.l3 = x.l3.addL3UnicastRoute env sw r := by
  unfold addL3UnicastRoute L3.addL3UnicastRoute
  split
  · rfl
  · cases getNeighboursOfRoute env r with
    | none => rfl
    | some y =>
      obtain ⟨rv, nhs⟩ := y
      dsimp only
      by_cases hrv : rv < 0
      · rw [if_pos hrv, if_pos hrv]
        rfl
      · have hfold : (nhs.foldl (addNextHop env sw r.dst)
            { x with l3 := { x.l3 with active := x.l3.active ++ [r] } }).l3 =
            nhs.foldl (L3.addNextHop env sw r.dst) { x.l3 with active := x.l3.active ++ [r] } :=
          l3_addNextHops _ _ _
        rw [if_neg hrv, if_neg hrv, ← hfold]
        generalize nhs.foldl (addNextHop env sw r.dst)
          { x with l3 := { x.l3 with active := x.l3.active ++ [r] } } = y
        by_cases hlen : nhs.length ≤ 1
        · simp only [if_pos hlen]
          split
          · exact map_foldlM_option l3_enableNeigh _ y
          · rfl
        · simp only [if_neg hlen]
          split
          · exact map_foldlM_option l3_enableNeigh _ _
          · rfl

theorem l3_releaseNextHops (x : Tracked) (r : L3Route) :
    (x.releaseNextHops env r).map Tracked.l3 = x.l3.releaseNextHops env r := by
  unfold releaseNextHops L3.releaseNextHops
  cases getNeighboursOfRoute env r with
  | none => rfl
  | some y =>
    simp only [Option.map_some, Option.some.injEq]
    split
    · rfl
    · rw [l3_delNextHops]
      split <;> rfl

theorem l3_delL3UnicastRoute (x : Tracked) (r : L3Route) (keepRoute : Bool) :
    (x.delL3UnicastRoute env sw r keepRoute).map Tracked.l3 =
      x.l3.delL3UnicastRouteKeep env sw r keepRoute := by
  unfold delL3UnicastRoute L3.delL3UnicastRouteKeep
  split
  · rfl
  · split
    · rfl
    · rw [← l3_disableNeighs]
      cases x.disableNeighs env sw r with
      | none => rfl
      | some y => exact l3_releaseNextHops y r

/-- A call with the notes does what the call of `nl_l3` does. -/
theorem l3_call (x : Tracked) (o : Outside) (c : Call) :
    (x.call env o c).map Tracked.l3 = x.l3.call env o c := by
  unfold call L3.call
  cases c with
  | addL3UnicastRoute r => exact l3_addL3UnicastRoute _ r
  | delL3UnicastRoute r keepRoute =>
    dsimp only
    rw [← l3_delL3UnicastRoute { x with l3 := { x.l3 with installed := o.installed } },
      Option.map_map, Option.map_map]
    rfl
  | addL3Neigh n nud => exact l3_addL3Neigh _ n nud
  | updateL3Neigh n nOld nNew send => exact l3_updateL3Neigh _ n nOld nNew send
  | delL3Neigh n nud => exact l3_delL3Neigh _ n nud

end Erase

end Tracked

end L3

end Basebox
