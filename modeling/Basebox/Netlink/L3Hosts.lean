import Basebox.Lib.Ledger
import Basebox.Netlink.L3NextHopSteps

/-!
# The host entries of neighbours (`src/netlink/nl_l3.cc`)

A neighbour that is routable gets a host entry on the switch, and for it references of an egress
group and of a VLAN of its own, beside those of the routes over it. Whether it is routable is asked
of the kernel, whose answer may run ahead of the events in the queue.

* `NeighObj`: a neighbour as libnl has it, with its state and its link-layer address, which the
  functions look at independently of each other.
* `Seen`: what a call finds outside: the caches of libnl, the answers of the kernel and of the
  switch. Every call has its own.
* `Hosts`: the state of `nl_l3`, with the host entries of the switch and with notes on who holds
  the references taken for them. Its functions are those of `nl_l3` for any `NeighObj`.
* `l3_addL3Neigh`, `l3_updateL3Neigh`, `l3_delL3Neigh`: without the notes, and on objects as the
  kernel sends them, they are the functions of `L3`.

`none` stands for a failed assertion or a null pointer that is read. An object without a link-layer
address that is neither `NUD_FAILED` nor `NUD_INCOMPLETE` leads there: `add_l3_egress` and
`del_l3_egress` assert the address.
-/

namespace Basebox

/-- The states of a neighbour. -/
inductive NudState where
  | none
  | incomplete
  | reachable
  | stale
  | delay
  | probe
  | failed
  | noarp
  | permanent
  deriving DecidableEq

/-- A neighbour, as libnl has it. -/
structure NeighObj where
  state : NudState
  lladdr : Option Mac
  deriving DecidableEq

namespace NeighObj

/-- What `add_l3_neigh_egress` tells apart: `none` is for an address that it reads and that is not
there. -/
def nud (obj : NeighObj) : Option Nud :=
  match obj.state, obj.lladdr with
  | .failed, _ => some .failed
  | .incomplete, _ => some .incomplete
  | _, some lladdr => some (.valid lladdr)
  | _, none => none

theorem nud_eq_valid_iff {obj : NeighObj} {dMac : Mac} : obj.nud = some (.valid dMac) ↔
    obj.lladdr = some dMac ∧ obj.state ≠ .failed ∧ obj.state ≠ .incomplete := by
  obtain ⟨state, lladdr⟩ := obj
  cases state <;> cases lladdr <;> simp [nud]

/-- There is a link-layer address, and the state does not keep it from being used. -/
def isUsable (obj : NeighObj) : Bool :=
  obj.lladdr.isSome && obj.state != .failed && obj.state != .incomplete

theorem isUsable_of_nud {obj : NeighObj} {dMac : Mac} (h : obj.nud = some (.valid dMac)) :
    obj.isUsable = true := by
  obtain ⟨hll, hf, hi⟩ := nud_eq_valid_iff.mp h
  simp [isUsable, hll, hf, hi]

theorem nud_eq_failed_iff {obj : NeighObj} : obj.nud = some .failed ↔ obj.state = .failed := by
  obtain ⟨state, lladdr⟩ := obj
  cases state <;> cases lladdr <;> simp [nud]

theorem nud_eq_incomplete_iff {obj : NeighObj} :
    obj.nud = some .incomplete ↔ obj.state = .incomplete := by
  obtain ⟨state, lladdr⟩ := obj
  cases state <;> cases lladdr <;> simp [nud]

/-- A link-layer address only comes with a state in which it is valid. -/
def Formed (obj : NeighObj) : Prop :=
  obj.lladdr.isSome → obj.state ≠ .failed ∧ obj.state ≠ .incomplete

/-- What the functions for routes tell apart. -/
def resolution (obj : NeighObj) : Nud :=
  match obj.lladdr with
  | some lladdr => .valid lladdr
  | none => .incomplete

end NeighObj

namespace L3

/-- What a call finds outside. -/
structure Seen where
  env : L3Env
  /-- The neighbour cache. -/
  neigh : Int × Addr → Option NeighObj := fun _ => none
  /-- The route cache. -/
  installed : List L3Route := []
  /-- The answer of the kernel when it is asked for a route to the neighbour. -/
  queryRoute : Int × Addr → Option L3Route
  /-- `search_fdb` without a link-layer address: the first entry of a VLAN. -/
  fdbOfVlan : Nat → Option Int := fun _ => none
  sw : L3Switch := {}
  /-- The results of `l3_egress_update`. -/
  egressUpdate : EgressKey → Int := fun _ => 0
  formed : ∀ n obj, neigh n = some obj → obj.Formed := by simp

namespace Seen

variable (o : Seen)

/-- What the functions for routes and for the callbacks of next hops find. -/
def routeEnv : L3Env := { o.env with neigh := fun n => (o.neigh n).map NeighObj.resolution }

@[simp] theorem link_routeEnv : o.routeEnv.link = o.env.link := rfl

@[simp] theorem searchFdb_routeEnv : o.routeEnv.searchFdb = o.env.searchFdb := rfl

@[simp] theorem l3Addrs_routeEnv : o.routeEnv.l3Addrs = o.env.l3Addrs := rfl

@[simp] theorem getPortId_routeEnv : getPortId o.routeEnv = getPortId o.env := rfl

@[simp] theorem isSwitchInterface_routeEnv :
    isSwitchInterface o.routeEnv = isSwitchInterface o.env := rfl

@[simp] theorem addL3NeighEgress_routeEnv :
    L3.addL3NeighEgress o.routeEnv = L3.addL3NeighEgress o.env := rfl

@[simp] theorem delL3NeighEgress_routeEnv :
    L3.delL3NeighEgress o.routeEnv = L3.delL3NeighEgress o.env := rfl

/-- `is_l3_neigh_routable`. -/
def isL3NeighRoutable (n : Int × Addr) : Bool := (o.queryRoute n).any o.env.scopeLink

/-- `add_l3_neigh_egress`. -/
def addL3NeighEgress (s : L3) (n : Int × Addr) (obj : NeighObj) : Option (Int × L3) :=
  match obj.nud with
  | some nud => some (s.addL3NeighEgress o.env o.sw n nud)
  | none =>
    match o.env.link n.1 with
    | none => some (-EINVAL, s)
    | some link =>
      if link.isBridge then
        match o.fdbOfVlan link.vid with
        | none => some (o.env.uninit, s)
        | some ifindex =>
          let (rv, s) := s.addVlan o.sw (o.env.link ifindex) link.vid
          if rv < 0 then some (rv, s) else none
      else
        let (rv, s) := s.addVlan o.sw (some link) link.vid
        if rv < 0 then some (rv, s) else none

/-- `del_l3_neigh_egress`. -/
def delL3NeighEgress (s : L3) (n : Int × Addr) (obj : NeighObj) : Option L3 :=
  match obj.lladdr, o.env.link n.1 with
  | some dMac, _ => some (s.delL3NeighEgress o.env n dMac)
  | none, none => some s
  | none, some _ => none

/-- The body of the loop of `nh_reachable_notification`. -/
def collectInterface (n : Int × Addr) (obj : NeighObj) (p : L3Params) (y : L3 × Bool)
    (rnh : NhStub) : Option (L3 × Bool) :=
  if rnh = p.nh then
    (o.addL3NeighEgress y.1 n obj).map fun (rv, s) => (s, y.2 || rv == 0)
  else (hasL3InterfaceId o.routeEnv y.1 rnh).map fun found => (y.1, y.2 || found)

/-- `nl_l3::nh_reachable_notification`. -/
def nhReachableNotification (s : L3) (n : Int × Addr) (obj : NeighObj) (p : L3Params) :
    Option L3 :=
  match getRouteByNhParams s.installed p with
  | none => some s
  | some route => do
    let (_, nhs) ← getNeighboursOfRoute o.routeEnv route
    let (s', found) ← nhs.foldlM (o.collectInterface n obj p) (s, false)
    -- It is asserted that there is an id.
    if found then
      some { s' with
        owners := if p.nh ∈ nhs then s.owners ++ [p] else s.owners
        nhUnreachCallbacks := s'.nhUnreachCallbacks ++ [p] }
    else none

/-- `nl_l3::nh_unreachable_notification`. -/
def nhUnreachableNotification (s : L3) (n : Int × Addr) (obj : NeighObj) (p : L3Params) :
    Option L3 :=
  match getRouteByNhParams s.installed p with
  | none => (o.delL3NeighEgress s n obj).map fun s' => { s' with owners := s.owners.erase p }
  | some route => do
    let (_, nhs) ← getNeighboursOfRoute o.routeEnv route
    let _ ← lookUpOthers o.routeEnv s nhs p
    let s' ← o.delL3NeighEgress s n obj
    return { s' with nhCallbacks := s.nhCallbacks ++ [p], owners := s.owners.erase p }

/-- The loop over `nh_callbacks`. -/
def notifyReachable (s : L3) (n : Int × Addr) (obj : NeighObj) : Option L3 := do
  let s' ← (s.nhCallbacks.filter fun p => p.nh.neigh == n).foldlM
    (fun s p => o.nhReachableNotification s n obj p) s
  return { s' with nhCallbacks := s.nhCallbacks.filter fun p => p.nh.neigh != n }

/-- The loop over `nh_unreach_callbacks`. -/
def notifyUnreachable (s : L3) (n : Int × Addr) (obj : NeighObj) : Option L3 := do
  let s' ← (s.nhUnreachCallbacks.filter fun p => p.nh.neigh == n).foldlM
    (fun s p => o.nhUnreachableNotification s n obj p) s
  return { s' with nhUnreachCallbacks := s.nhUnreachCallbacks.filter fun p => p.nh.neigh != n }

end Seen

namespace Seen

variable (o : Seen)

/-- The egress group that `add_l3_neigh_egress` takes a reference of. -/
def takesEgress (s : L3) (n : Int × Addr) (obj : NeighObj) : Option EgressKey :=
  match obj.nud, o.env.link n.1 with
  | some (.valid dMac), some link =>
    if s.takes o.env o.sw n (.valid dMac) then
      (egressIfindex o.env link n dMac).map fun ifindex => egressKeyAt o.env link ifindex dMac
    else none
  | _, _ => none

/-- The VLAN that `add_l3_neigh_egress` takes a reference of. -/
def takesVlan (s : L3) (n : Int × Addr) (obj : NeighObj) : Option (Nat × Nat) :=
  match obj.nud, o.env.link n.1 with
  | some (.valid dMac), some link =>
    (egressIfindex o.env link n dMac).bind fun ifindex =>
      s.takenVlan o.sw (if link.isBridge then o.env.link ifindex else some link) link.vid
  | _, _ => none

/-- The egress group that `del_l3_neigh_egress` gives a reference of back. -/
def givesEgress (s : L3) (n : Int × Addr) (obj : NeighObj) : Option EgressKey :=
  match obj.lladdr, o.env.link n.1 with
  | some dMac, some link =>
    (s.releasedAt o.env link n dMac).bind fun (ifindex, _) =>
      if getPortId o.env ifindex = 0 then none else some (egressKeyAt o.env link ifindex dMac)
  | _, _ => none

/-- The VLAN that `del_l3_neigh_egress` gives a reference of back. -/
def givesVlan (s : L3) (n : Int × Addr) (obj : NeighObj) : Option (Nat × Nat) :=
  match obj.lladdr, o.env.link n.1 with
  | some dMac, some link =>
    (s.releasedAt o.env link n dMac).bind fun (_, vlanLink) => givenVlan vlanLink link.vid
  | _, _ => none

end Seen

section Notes

variable {s s' : L3}

/-- What is noted for `del_l3_neigh_egress` is what the tables lose, if they have it. -/
theorem refs_delL3NeighEgress {o : Seen} {n : Int × Addr} {obj : NeighObj}
    (h : o.delL3NeighEgress s n obj = some s') :
    (∀ k, egressRefs s'.groups k = egressRefs s.groups k -
        if o.givesEgress s n obj = some k ∧ k ∈ s.groups.l3InterfaceMapping then 1 else 0) ∧
      ∀ k, s'.vlanRefs k = s.vlanRefs k - if o.givesVlan s n obj = some k then 1 else 0 := by
  unfold Seen.delL3NeighEgress at h
  unfold Seen.givesEgress Seen.givesVlan
  cases hll : obj.lladdr with
  | none =>
    cases hlink : o.env.link n.1 with
    | none =>
      rw [hll, hlink] at h
      cases h
      simp
    | some link =>
      rw [hll, hlink] at h
      cases h
  | some dMac =>
    rw [hll] at h
    cases hlink : o.env.link n.1 with
    | none =>
      simp only [L3.delL3NeighEgress, hlink, Option.some.injEq] at h
      subst h
      simp
    | some link =>
      simp only [delL3NeighEgress_eq o.env s n dMac hlink, Option.some.injEq] at h
      rcases Option.eq_none_or_eq_some (s.releasedAt o.env link n dMac) with
        hat | ⟨⟨ifindex, vlanLink⟩, hat⟩
      · rw [hat] at h
        subst h
        simp [hat]
      · rw [hat] at h
        subst h
        simp only [hat, Option.bind_some]
        constructor
        · intro k
          obtain ⟨pv, hpv⟩ := removeVlan_frame
            (s.delL3Egress o.env ifindex link.vid link.addr dMac) vlanLink link.vid
          rw [hpv]
          refine (egressRefs_delL3Egress s.groups (egressKeyAt o.env link ifindex dMac) 0 k).trans ?_
          by_cases hport : getPortId o.env ifindex = 0
          · simp [hport, egressKeyAt]
          · simp [hport, egressKeyAt, eq_comm]
        · exact fun k => vlanRefs_removeVlan _ vlanLink link.vid k

theorem addVlan_of_neg {sw : L3Switch} {link : Option L3Link} {vid : Nat}
    (h : (s.addVlan sw link vid).1 < 0) : (s.addVlan sw link vid).2 = s := by
  unfold addVlan at h ⊢
  split
  · rfl
  · cases link with
    | none => rfl
    | some link =>
      dsimp only at h ⊢
      split
      · rfl
      · cases hl : s.portVlan.lookup (link.portId, vid) with
        | some c => simp_all
        | none =>
          simp only [hl] at h ⊢
          split
          · rfl
          · split
            · rfl
            · simp_all

/-- Without a link-layer address the only way on is an `add_vlan` that fails. -/
theorem seen_addL3NeighEgress_of_null {o : Seen} {n : Int × Addr} {obj : NeighObj} {rv : Int}
    (hnud : obj.nud = none) (h : o.addL3NeighEgress s n obj = some (rv, s')) : s' = s := by
  unfold Seen.addL3NeighEgress at h
  rw [hnud] at h
  dsimp only at h
  split at h
  · cases h
    rfl
  · split at h
    · split at h
      · cases h
        rfl
      · split at h
        · next hneg =>
          cases h
          exact addVlan_of_neg hneg
        · cases h
    · split at h
      · next hneg =>
        cases h
        exact addVlan_of_neg hneg
      · cases h

/-- A VLAN and then an egress group. -/
theorem refs_addVlanEgress (env : L3Env) (sw : L3Switch) (s : L3) (vlanLink : Option L3Link)
    (ifindex : Int) (link : L3Link) (dMac : Mac) :
    let y := s.addVlanEgress env sw vlanLink ifindex link.vid link.addr dMac
    (∀ k, egressRefs y.2.groups k = egressRefs s.groups k +
        if 0 ≤ y.1 ∧ k = egressKeyAt env link ifindex dMac then 1 else 0) ∧
      ∀ k, y.2.vlanRefs k =
        s.vlanRefs k + if s.takenVlan sw vlanLink link.vid = some k then 1 else 0 := by
  obtain ⟨pv, hpv, -⟩ := addVlan_spec sw s vlanLink link.vid
  intro y
  by_cases hrv : (s.addVlan sw vlanLink link.vid).1 < 0
  · have hy : y = s.addVlan sw vlanLink link.vid := if_pos hrv
    rw [hy]
    refine ⟨fun k => ?_, vlanRefs_addVlan sw s vlanLink link.vid⟩
    rw [hpv]
    simp [not_le.mpr hrv]
  · have hy : y = (s.addVlan sw vlanLink link.vid).2.addL3Egress env sw ifindex link.vid link.addr
        dMac := if_neg hrv
    rw [hy]
    refine ⟨fun k => ?_, vlanRefs_addVlan sw s vlanLink link.vid⟩
    rw [hpv]
    exact egressRefs_addL3Egress s.groups (egressKeyAt env link ifindex dMac) _ k

/-- What is noted for `add_l3_neigh_egress` is what the tables get. -/
theorem refs_addL3NeighEgress {o : Seen} {n : Int × Addr} {obj : NeighObj} {rv : Int}
    (h : o.addL3NeighEgress s n obj = some (rv, s')) :
    (∀ k, egressRefs s'.groups k = egressRefs s.groups k +
        if o.takesEgress s n obj = some k then 1 else 0) ∧
      ∀ k, s'.vlanRefs k = s.vlanRefs k + if o.takesVlan s n obj = some k then 1 else 0 := by
  unfold Seen.takesEgress Seen.takesVlan
  cases hnud : obj.nud with
  | none =>
    have hsame := seen_addL3NeighEgress_of_null hnud h
    subst hsame
    simp
  | some nud =>
    unfold Seen.addL3NeighEgress at h
    rw [hnud] at h
    cases nud with
    | failed =>
      cases h
      simp
    | incomplete =>
      cases h
      simp
    | valid dMac =>
      cases hlink : o.env.link n.1 with
      | none =>
        simp only [L3.addL3NeighEgress, hlink, Option.some.injEq, Prod.mk.injEq] at h
        obtain ⟨-, rfl⟩ := h
        simp
      | some link =>
        have hrv := congrArg Prod.fst (Option.some.inj h)
        have hs' := congrArg Prod.snd (Option.some.inj h)
        dsimp only at hrv hs'
        rcases Option.eq_none_or_eq_some (egressIfindex o.env link n dMac) with hi | ⟨ifindex, hi⟩
        · have hsame : s' = s := by
            unfold egressIfindex at hi
            split at hi
            · next hb =>
              rw [← hs']
              simp [L3.addL3NeighEgress, hlink, hb, hi]
            · cases hi
          subst hsame
          simp [hi]
        · have hy : s.addL3NeighEgress o.env o.sw n (.valid dMac) =
              s.addVlanEgress o.env o.sw (if link.isBridge then o.env.link ifindex else some link)
                ifindex link.vid link.addr dMac := by
            unfold egressIfindex at hi
            split at hi
            · next hb => simp [L3.addL3NeighEgress, addVlanEgress, hlink, hb, hi]
            · next hb =>
              cases hi
              simp [L3.addL3NeighEgress, addVlanEgress, hlink, hb]
          have hfinds : findsPort o.env n (.valid dMac) = true := by
            unfold egressIfindex at hi
            split at hi
            · simp [findsPort, hlink, hi]
            · next hb => simp [findsPort, hlink, hb]
          obtain ⟨hegress, hvlan⟩ := refs_addVlanEgress o.env o.sw s
            (if link.isBridge then o.env.link ifindex else some link) ifindex link dMac
          rw [← hy, hs'] at hvlan
          rw [← hy, hs', hrv] at hegress
          simp only [takes, hfinds, hrv, hi, Option.map_some, Option.bind_some, Bool.true_and,
            decide_eq_true_eq]
          refine ⟨fun k => ?_, hvlan⟩
          rw [hegress k]
          by_cases hneg : 0 ≤ rv
          · simp [hneg, eq_comm]
          · simp [hneg]

end Notes

/-! ## Neighbours -/

/-- The state of `nl_l3`, with the host entries of the switch, and with notes on the references
that were taken for them. -/
structure Hosts where
  l3 : L3 := {}
  hosts : List Addr := []
  egress : Ledger (Int × Addr) EgressKey := {}
  vlans : Ledger (Int × Addr) (Nat × Nat) := {}

namespace Hosts

section Functions

variable (o : Seen)

/-- `add_l3_neigh_egress`; the neighbour takes a reference. -/
def addL3NeighEgress (x : Hosts) (n : Int × Addr) (obj : NeighObj) : Option (Int × Hosts) :=
  (o.addL3NeighEgress x.l3 n obj).map fun (rv, s) => (rv, { x with
    l3 := s
    egress := x.egress.take n (o.takesEgress x.l3 n obj)
    vlans := x.vlans.take n (o.takesVlan x.l3 n obj) })

/-- `del_l3_neigh_egress`; the neighbour gives its reference back. -/
def delL3NeighEgress (x : Hosts) (n : Int × Addr) (obj : NeighObj) : Option Hosts :=
  (o.delL3NeighEgress x.l3 n obj).map fun s => { x with
    l3 := s
    egress := x.egress.give n (o.givesEgress x.l3 n obj)
    vlans := x.vlans.give n (o.givesVlan x.l3 n obj) }

/-- The loop over `nh_callbacks`. -/
def notifyReachable (x : Hosts) (n : Int × Addr) (obj : NeighObj) : Option Hosts :=
  (o.notifyReachable x.l3 n obj).map fun s => { x with l3 := s }

/-- The loop over `nh_unreach_callbacks`. -/
def notifyUnreachable (x : Hosts) (n : Int × Addr) (obj : NeighObj) : Option Hosts :=
  (o.notifyUnreachable x.l3 n obj).map fun s => { x with l3 := s }

/-- The routable neighbours are now these. -/
def setRoutable (x : Hosts) (l : NhStub.Set) : Hosts :=
  { x with l3 := { x.l3 with routableL3Neighs := l } }

/-- The unroutable neighbours are now these. -/
def setUnroutable (x : Hosts) (l : NhStub.Set) : Hosts :=
  { x with l3 := { x.l3 with unroutableL3Neighs := l } }

/-- The neighbour in the two sets. -/
def stub (n : Int × Addr) : NhStub where
  nh := n.2
  ifindex := n.1

/-- `add_l3_neigh` for a neighbour that is routable: the references, the host entry and the
callbacks. -/
def addHost (x : Hosts) (n : Int × Addr) (obj : NeighObj) : Option Hosts :=
  (x.addL3NeighEgress o n obj).bind fun (rv, x) =>
    if rv < 0 then some x
    else if o.sw.hostAdd n.2 < 0 then some x
    else { x with hosts := x.hosts.insert n.2 }.notifyReachable o n obj

/-- `add_l3_neigh`. -/
def addL3Neigh (x : Hosts) (n : Int × Addr) (obj : NeighObj) : Option Hosts :=
  if n.2.cmpPrefix ipv6Ll = .eq then x.notifyReachable o n obj
  else if o.isL3NeighRoutable n then
    (x.setRoutable (NhStub.Set.emplace x.l3.routableL3Neighs (stub n))).addHost o n obj
  else some (x.setUnroutable (NhStub.Set.emplace x.l3.unroutableL3Neighs (stub n)))

/-- `del_l3_neigh` for a neighbour that was routable. The address of the interface itself stays, and
a link-local address has no entry. -/
def removeHost (x : Hosts) (n : Int × Addr) (obj : NeighObj) : Option Hosts :=
  if n.2 ∈ o.env.l3Addrs n.1 then
    (x.delL3NeighEgress o n obj).bind fun x => x.notifyUnreachable o n obj
  else if n.2.cmpPrefix ipv6Ll = .eq then x.notifyUnreachable o n obj
  else if o.sw.hostRemove n.2 < 0 then some x
  else
    ({ x with hosts := x.hosts.erase n.2 }.delL3NeighEgress o n obj).bind fun x =>
      x.notifyUnreachable o n obj

/-- `del_l3_neigh`. -/
def delL3Neigh (x : Hosts) (n : Int × Addr) (obj : NeighObj) : Option Hosts :=
  if obj.state = .failed ∨ obj.state = .incomplete ∨ o.env.link n.1 = none then some x
  else if stub n ∈ x.l3.unroutableL3Neighs then
    some (x.setUnroutable (x.l3.unroutableL3Neighs.erase (stub n)))
  else (x.setRoutable (x.l3.routableL3Neighs.erase (stub n))).removeHost o n obj

/-- The change of a link-layer address in `update_l3_neigh`. -/
def updateLl (x : Hosts) (link : L3Link) (ifindex : Int) (llOld llNew : Mac) : Hosts :=
  let l3IfOld := egressKeyAt o.env link ifindex llOld
  let l3IfNew := egressKeyAt o.env link ifindex llNew
  let moves := l3IfOld ∈ x.l3.groups.l3InterfaceMapping ∧ 0 ≤ o.egressUpdate l3IfNew ∧
    l3IfNew ∉ x.l3.groups.l3InterfaceMapping
  { x with
    l3 := { x.l3 with groups := (x.l3.groups.updateL3NeighLl false true (getPortId o.env ifindex)
      link.vid link.addr llOld llNew (o.egressUpdate l3IfNew)).2 }
    egress := if moves then x.egress.move l3IfOld l3IfNew else x.egress }

/-- `update_l3_neigh`. -/
def updateL3Neigh (x : Hosts) (n : Int × Addr) (nOld nNew : NeighObj) : Option Hosts :=
  if !isSwitchInterface o.env n.1 then some x
  else
    match nOld.lladdr, nNew.lladdr with
    | none, none => some x
    | none, some _ => x.addL3Neigh o n nNew
    | some _, none => x.delL3Neigh o n nOld
    | some llOld, some llNew =>
      if llOld = llNew then some x
      else if stub n ∈ x.l3.unroutableL3Neighs then some x
      else
        match o.env.link n.1 with
        | none => some x
        -- On a bridge interface, the FDB has the new address, which is asserted.
        | some link => (egressIfindex o.env link n llNew).map fun ifindex =>
          x.updateLl o link ifindex llOld llNew

/-! ## Routes -/

/-- A neighbour that a new link-scope route makes routable. -/
def enableNeigh (x : Hosts) (m : NhStub) : Option Hosts :=
  match o.neigh m.neigh with
  | none => some x
  | some obj => (x.setUnroutable (x.l3.unroutableL3Neighs.erase m)).addL3Neigh o m.neigh obj

/-- A neighbour that is no longer routable without a link-scope route. -/
def disableNeigh (x : Hosts) (m : NhStub) : Option Hosts :=
  match o.neigh m.neigh with
  | none => some x
  | some obj => (x.delL3Neigh o m.neigh obj).map fun x =>
    x.setUnroutable (NhStub.Set.emplace x.l3.unroutableL3Neighs m)

/-- The loop at the end of `add_l3_unicast_route`. -/
def enableNeighs (x : Hosts) (r : L3Route) : Option Hosts :=
  if o.env.scopeLink r then
    (getL3NeighsOfPrefix x.l3.unroutableL3Neighs r.dst).foldlM (enableNeigh o) x
  else some x

/-- The loop of `del_l3_unicast_route`. -/
def disableNeighs (x : Hosts) (r : L3Route) : Option Hosts :=
  if o.env.scopeLink r then
    (getL3NeighsOfPrefix x.l3.routableL3Neighs r.dst).foldlM (disableNeigh o) x
  else some x

/-- `add_l3_unicast_route`. -/
def addL3UnicastRoute (x : Hosts) (r : L3Route) : Option Hosts :=
  if duplicate o.env x.l3.installed r then some x
  else
    let s := { x.l3 with active := x.l3.active ++ [r] }
    match getNeighboursOfRoute o.env r with
    | none => none
    | some (rv, nhs) =>
      if rv < 0 then some { x with l3 := s }
      else
        let s := nhs.foldl (L3.addNextHop o.routeEnv o.sw r.dst) s
        let s :=
          if nhs.length ≤ 1 then s
          else { s with groups := (s.groups.addL3EcmpGroup nhs.toFinset 0).2.2 }
        { x with l3 := s }.enableNeighs o r

/-- `del_l3_unicast_route`. -/
def delL3UnicastRoute (x : Hosts) (r : L3Route) (keepRoute : Bool) : Option Hosts :=
  if duplicate o.env x.l3.installed r then some x
  else if !keepRoute && isIpv6LlKept o.env x.l3.installed r then some x
  else
    (x.disableNeighs o r).bind fun x =>
      (x.l3.releaseNextHops o.routeEnv r).map fun s => { x with l3 := s }

end Functions

/-- The calls for the events of the queue. -/
inductive Call where
  | addL3UnicastRoute (r : L3Route)
  | delL3UnicastRoute (r : L3Route) (keepRoute : Bool)
  | addL3Neigh (n : Int × Addr) (obj : NeighObj)
  | updateL3Neigh (n : Int × Addr) (nOld nNew : NeighObj)
  | delL3Neigh (n : Int × Addr) (obj : NeighObj)

/-- A call finds the route cache as it is. -/
def sees (x : Hosts) (o : Seen) : Hosts := { x with l3 := { x.l3 with installed := o.installed } }

/-- A call of the netlink thread. -/
def call (x : Hosts) (o : Seen) : Call → Option Hosts
  | .addL3UnicastRoute r => (x.sees o).addL3UnicastRoute o r
  | .delL3UnicastRoute r keepRoute => (x.sees o).delL3UnicastRoute o r keepRoute
  | .addL3Neigh n obj => (x.sees o).addL3Neigh o n obj
  | .updateL3Neigh n nOld nNew => (x.sees o).updateL3Neigh o n nOld nNew
  | .delL3Neigh n obj => (x.sees o).delL3Neigh o n obj

/-- `none` is for a process that has crashed. -/
def step : Option Hosts → Seen × Call → Option Hosts
  | none, _ => none
  | some x, e => x.call e.1 e.2

/-! ## Without the notes -/

section Erase

variable {o : Seen} {n : Int × Addr} {obj : NeighObj} {nud : Nud}

theorem seen_addL3NeighEgress (h : obj.nud = some nud) (s : L3) :
    o.addL3NeighEgress s n obj = some (s.addL3NeighEgress o.env o.sw n nud) := by
  simp [Seen.addL3NeighEgress, h]

theorem seen_delL3NeighEgress {dMac : Mac} (h : obj.lladdr = some dMac) (s : L3) :
    o.delL3NeighEgress s n obj = some (s.delL3NeighEgress o.env n dMac) := by
  simp [Seen.delL3NeighEgress, h]

theorem seen_nhReachableNotification (h : obj.nud = some nud) (s : L3) (p : L3Params) :
    o.nhReachableNotification s n obj p =
      s.nhReachableNotification o.routeEnv o.sw n nud p := by
  have hbody : o.collectInterface n obj p = L3.collectInterface o.routeEnv o.sw n nud p := by
    funext y rnh
    unfold Seen.collectInterface L3.collectInterface
    rw [seen_addL3NeighEgress h]
    rfl
  unfold Seen.nhReachableNotification L3.nhReachableNotification
  cases getRouteByNhParams s.installed p with
  | none => rfl
  | some route => simp only [hbody]

theorem seen_notifyReachable (h : obj.nud = some nud) (s : L3) :
    o.notifyReachable s n obj = s.notifyReachable o.routeEnv o.sw n nud := by
  unfold Seen.notifyReachable L3.notifyReachable
  simp only [seen_nhReachableNotification h]

theorem seen_nhUnreachableNotification {dMac : Mac} (h : obj.lladdr = some dMac) (s : L3)
    (p : L3Params) : o.nhUnreachableNotification s n obj p =
      s.nhUnreachableNotification o.routeEnv n dMac p := by
  unfold Seen.nhUnreachableNotification L3.nhUnreachableNotification
  rw [seen_delL3NeighEgress h]
  rfl

theorem seen_notifyUnreachable {dMac : Mac} (h : obj.lladdr = some dMac) (s : L3) :
    o.notifyUnreachable s n obj = s.notifyUnreachable o.routeEnv n dMac := by
  unfold Seen.notifyUnreachable L3.notifyUnreachable
  simp only [seen_nhUnreachableNotification h]

/-- Without the notes it is `add_l3_neigh` of `L3`, where the answer of the kernel is that of a fixed
table of routes. -/
theorem l3_addL3Neigh (x : Hosts) (h : obj.nud = some nud)
    (hq : o.queryRoute n = o.env.queryRoute x.l3.installed n.2) :
    (x.addL3Neigh o n obj).map Hosts.l3 = x.l3.addL3Neigh o.routeEnv o.sw n nud := by
  have hnotify (y : Hosts) : (y.notifyReachable o n obj).map Hosts.l3 =
      y.l3.notifyReachable o.routeEnv o.sw n nud := by
    simp [notifyReachable, seen_notifyReachable h, Function.comp_def]
  unfold addL3Neigh L3.addL3Neigh
  rw [Seen.addL3NeighEgress_routeEnv]
  by_cases hll : n.2.cmpPrefix ipv6Ll = .eq
  · simp only [hll, if_true, beq_self_eq_true]
    exact hnotify x
  · have hroutable : o.isL3NeighRoutable n = x.l3.isL3NeighRoutable o.routeEnv n := by
      rw [Seen.isL3NeighRoutable, hq]
      rfl
    simp only [hll, if_false, beq_iff_eq, hroutable]
    split
    · unfold addHost Hosts.addL3NeighEgress
      simp only [seen_addL3NeighEgress h, Option.map_some, Option.bind_some, setRoutable, stub]
      split
      · rfl
      · split
        · rfl
        · exact hnotify _
    · rfl

theorem l3_removeHost (x : Hosts) {dMac : Mac} (h : obj.lladdr = some dMac) :
    (x.removeHost o n obj).map Hosts.l3 =
      let skipAddrRemove := decide (n.2 ∈ o.env.l3Addrs n.1)
      let skipEgressRemove := !skipAddrRemove && n.2.cmpPrefix ipv6Ll == .eq
      if !skipAddrRemove && !skipEgressRemove && decide (o.sw.hostRemove n.2 < 0) then some x.l3
      else
        (if skipEgressRemove then x.l3 else x.l3.delL3NeighEgress o.env n dMac).notifyUnreachable
          o.routeEnv n dMac := by
  have hnotify (y : Hosts) : (y.notifyUnreachable o n obj).map Hosts.l3 =
      y.l3.notifyUnreachable o.routeEnv n dMac := by
    simp [notifyUnreachable, seen_notifyUnreachable h, Function.comp_def]
  have hdel (y : Hosts) : ((y.delL3NeighEgress o n obj).bind
      fun y => y.notifyUnreachable o n obj).map Hosts.l3 =
        (y.l3.delL3NeighEgress o.env n dMac).notifyUnreachable o.routeEnv n dMac := by
    simp only [Hosts.delL3NeighEgress, seen_delL3NeighEgress h, Option.map_some, Option.bind_some]
    exact hnotify _
  unfold removeHost
  by_cases haddr : n.2 ∈ o.env.l3Addrs n.1
  · simpa [haddr] using hdel x
  · by_cases hll : n.2.cmpPrefix ipv6Ll = .eq
    · simpa [haddr, hll] using hnotify x
    · by_cases hrv : o.sw.hostRemove n.2 < 0
      · simp [haddr, hll, hrv]
      · simpa [haddr, hll, hrv] using hdel _

theorem l3_delL3Neigh (x : Hosts) (h : obj.nud = some nud) :
    (x.delL3Neigh o n obj).map Hosts.l3 = x.l3.delL3Neigh o.routeEnv o.sw n nud := by
  unfold delL3Neigh L3.delL3Neigh
  simp only [Seen.link_routeEnv, Seen.l3Addrs_routeEnv, Seen.delL3NeighEgress_routeEnv]
  cases nud with
  | failed =>
    simp [NeighObj.nud_eq_failed_iff.mp h]
  | incomplete =>
    simp [NeighObj.nud_eq_incomplete_iff.mp h]
  | valid dMac =>
    obtain ⟨hmac, hf, hi⟩ := NeighObj.nud_eq_valid_iff.mp h
    cases hlink : o.env.link n.1 with
    | none => simp
    | some link =>
      simp only [hf, hi, reduceCtorEq, or_self, if_false]
      by_cases hmem : stub n ∈ x.l3.unroutableL3Neighs
      · rw [if_pos hmem]
        exact (if_pos hmem).symm
      · rw [if_neg hmem, l3_removeHost _ hmac]
        exact (if_neg hmem).symm

theorem lladdr_of_formed (hf : obj.Formed) (h : obj.nud = some nud)
    (hnud : ∀ dMac, nud ≠ .valid dMac) : obj.lladdr = none := by
  cases hll : obj.lladdr with
  | none => rfl
  | some dMac =>
    obtain ⟨h1, h2⟩ := hf (by rw [hll, Option.isSome_some])
    rw [NeighObj.nud_eq_valid_iff.mpr ⟨hll, h1, h2⟩, Option.some.injEq] at h
    exact absurd h.symm (hnud dMac)

/-- Two link-layer addresses: where nothing is to be moved, `L3` leaves the groups as they are. -/
theorem l3_updateLl (x : Hosts) (llOld llNew : Mac) {send : Int}
    (hsend : ∀ k, o.egressUpdate k = send) :
    (if llOld = llNew then some x
      else if stub n ∈ x.l3.unroutableL3Neighs then some x
      else
        match o.env.link n.1 with
        | none => some x
        | some link => (egressIfindex o.env link n llNew).map fun ifindex =>
          x.updateLl o link ifindex llOld llNew).map Hosts.l3 =
      let unroutable := decide ({ nh := n.2, ifindex := n.1 } ∈ x.l3.unroutableL3Neighs)
      match o.env.link n.1 with
      | none => some x.l3
      | some link =>
        if link.isBridge && decide (llOld ≠ llNew) && !unroutable then
          (o.env.searchFdb link.vid llNew).map fun ifindex =>
            { x.l3 with groups := (x.l3.groups.updateL3NeighLl unroutable true
                (getPortId o.env ifindex) link.vid link.addr llOld llNew send).2 }
        else
          some { x.l3 with groups := (x.l3.groups.updateL3NeighLl unroutable true
            (getPortId o.env n.1) link.vid link.addr llOld llNew send).2 } := by
  cases o.env.link n.1 with
  | none => split_ifs <;> rfl
  | some link =>
    by_cases hll : llOld = llNew
    · simp [hll, L3Groups.updateL3NeighLl]
    · by_cases hun : stub n ∈ x.l3.unroutableL3Neighs
      · have hun' : ({ nh := n.2, ifindex := n.1 } : NhStub) ∈ x.l3.unroutableL3Neighs := hun
        simp [hll, hun, hun', L3Groups.updateL3NeighLl]
      · have hun' : ({ nh := n.2, ifindex := n.1 } : NhStub) ∉ x.l3.unroutableL3Neighs := hun
        cases hb : link.isBridge with
        | true =>
          simp [hll, hun, hun', hb, egressIfindex, updateLl, hsend, Function.comp_def]
        | false =>
          simp [hll, hun, hun', hb, egressIfindex, updateLl, hsend]

/-- Without the notes it is `update_l3_neigh` of `L3`. -/
theorem l3_updateL3Neigh (x : Hosts) {nOld nNew : NeighObj} {nudOld nudNew : Nud}
    (hold : nOld.nud = some nudOld) (hnew : nNew.nud = some nudNew) (hfo : nOld.Formed)
    (hfn : nNew.Formed) (hq : o.queryRoute n = o.env.queryRoute x.l3.installed n.2)
    {send : Int} (hsend : ∀ k, o.egressUpdate k = send) :
    (x.updateL3Neigh o n nOld nNew).map Hosts.l3 =
      x.l3.updateL3Neigh o.routeEnv o.sw n nudOld nudNew send := by
  unfold updateL3Neigh L3.updateL3Neigh
  simp only [Seen.link_routeEnv, Seen.searchFdb_routeEnv, Seen.getPortId_routeEnv,
    Seen.isSwitchInterface_routeEnv]
  by_cases hsw : isSwitchInterface o.env n.1 = true
  · simp only [hsw, Bool.not_true, Bool.false_eq_true, if_false]
    cases nudOld with
    | valid llOld =>
      obtain ⟨hll, -, -⟩ := NeighObj.nud_eq_valid_iff.mp hold
      cases nudNew with
      | valid llNew =>
        obtain ⟨hll', -, -⟩ := NeighObj.nud_eq_valid_iff.mp hnew
        simp only [hll, hll']
        exact l3_updateLl x llOld llNew hsend
      | _ =>
        rw [hll, lladdr_of_formed hfn hnew (by simp)]
        exact l3_delL3Neigh x hold
    | _ =>
      rw [lladdr_of_formed hfo hold (by simp)]
      cases nudNew with
      | valid llNew =>
        rw [(NeighObj.nud_eq_valid_iff.mp hnew).1]
        exact l3_addL3Neigh x hnew hq
      | _ =>
        rw [lladdr_of_formed hfn hnew (by simp)]
        rfl
  · rw [Bool.not_eq_true] at hsw
    simp [hsw]

end Erase

end Hosts

end L3

end Basebox
