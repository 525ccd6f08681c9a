import Basebox.Netlink.L3GroupSwitch
import Basebox.Netlink.L3InterfaceIds
import Basebox.Netlink.L3RouteRefs

/-!
# What a route points to when a next hop comes or goes (`src/netlink/nl_l3.cc`)

`nh_reachable_notification` and `nh_unreachable_notification` collect the ids of the egress groups of
the next hops that are resolved, and point the route to the one id or to the ECMP group of the next
hops. Both the id of a next hop and the target of the route are variables without an initial value,
and the functions that are to write them do not always.

* `nhReachable`, `nhUnreachable`: what is inserted into the set and what the route is pointed to;
  `none` is a variable that was not written.
* `Notified.Fine`: everything was written and is the id of a group of the switch, and the assertion
  that there is an id holds.
* `ReachableOk`, `UnreachableOk`: the conditions for this, on the state and the objects that are found.
* `notifications_run`: in every run of the operations on the groups and of the notifications, in any
  order, whose steps meet the conditions, every notification is fine; and a further one is exactly if
  it meets them.
-/

namespace Basebox

namespace L3

/-- How a notification ends: there is no such route; a null pointer is read or another assertion
fails; the assertion on the ids fails; or the route is programmed. -/
inductive Notified where
  | noRoute
  | aborted
  | noInterface
  | programs (ids : List (Option Nat)) (isEcmp : Bool) (routeDst : Option Nat)
  deriving DecidableEq

/-- Everything was written and is 0 or a group of the switch. -/
def Notified.Fine (sw : GroupSwitch) : Notified → Prop
  | .noRoute => True
  | .aborted => True
  | .noInterface => False
  | .programs ids isEcmp routeDst =>
    (∀ id ∈ ids, ∃ i, id = some i ∧ (i = 0 ∨ i ∈ sw.unicast)) ∧
      ∃ d, routeDst = some d ∧ (d = 0 ∨ if isEcmp then d ∈ sw.ecmp else d ∈ sw.unicast)

/-- `nh_reachable_notification` after its loop. With one next hop there is one id at most. -/
def pointTo (s : L3) (nhs : NhStub.Set) : List (Option Nat) → Notified
  | [] => .noInterface
  | id :: ids =>
    if nhs.length > 1 then .programs (id :: ids) true (s.getL3EcmpGroup nhs)
    else .programs (id :: ids) false id

namespace Seen

variable (o : Seen)

/-- `l3_interface_ids` with the id of a next hop, if `get_l3_interface_id` returns 0. -/
def insertId (s : L3) (ids : List (Option Nat)) (rnh : NhStub) : Option (List (Option Nat)) :=
  (o.getL3InterfaceId s rnh).map fun (rv, id) => if rv = 0 then ids ++ [id] else ids

/-- The body of the loop of `nh_reachable_notification`. -/
def collect (n : Int × Addr) (obj : NeighObj) (p : L3Params) (y : L3 × List (Option Nat))
    (rnh : NhStub) : Option (L3 × List (Option Nat)) :=
  if rnh = p.nh then
    (o.addL3NeighEgress y.1 n obj).map fun (rv, s) =>
      (s, if rv = 0 then y.2 ++ [o.egressId y.1 n obj] else y.2)
  else (o.insertId y.1 y.2 rnh).map fun ids => (y.1, ids)

/-- `nh_reachable_notification`. -/
def nhReachable (s : L3) (n : Int × Addr) (obj : NeighObj) (p : L3Params) : Notified :=
  match getRouteByNhParams s.installed p with
  | none => .noRoute
  | some route =>
    match getNeighboursOfRoute o.env route with
    | none => .aborted
    | some (_, nhs) =>
      match nhs.foldlM (o.collect n obj p) (s, []) with
      | none => .aborted
      | some (s, ids) => s.pointTo nhs ids

/-- The body of the loop of `nh_unreachable_notification`. -/
def collectOthers (s : L3) (p : L3Params) (ids : List (Option Nat)) (rnh : NhStub) :
    Option (List (Option Nat)) :=
  if rnh = p.nh then some ids else o.insertId s ids rnh

/-- `nh_unreachable_notification`, up to the call that programs the route. -/
def nhUnreachable (s : L3) (p : L3Params) : Notified :=
  match getRouteByNhParams s.installed p with
  | none => .noRoute
  | some route =>
    match getNeighboursOfRoute o.env route with
    | none => .aborted
    | some (_, nhs) =>
      match nhs.foldlM (o.collectOthers s p) [] with
      | none => .aborted
      | some ids =>
        let routeDst := if nhs.length > 1 then s.getL3EcmpGroup nhs else none
        .programs ids (nhs.length > 1) (if ids.length = 0 then some 0 else routeDst)

/-! ## When it goes well -/

/-- The lookups for the other next hops come back. -/
def Returns (s : L3) (nhs : NhStub.Set) (p : L3Params) : Prop :=
  ∀ rnh ∈ nhs, rnh ≠ p.nh → (o.getL3InterfaceId s rnh).isSome

/-- A condition on the next hops of the route that the notification finds. -/
def ForNextHops (s : L3) (p : L3Params) (P : NhStub.Set → Prop) : Prop :=
  ∀ route rv nhs, getRouteByNhParams s.installed p = some route →
    getNeighboursOfRoute o.env route = some (rv, nhs) → P nhs

/-- The condition on a neighbour that became reachable: if it is a next hop of the route, an id is
written for it; it or another next hop has an id; and if there are several next hops, they are a
group of `nl_l3`. -/
def ReachableOk (s : L3) (n : Int × Addr) (obj : NeighObj) (p : L3Params) : Prop :=
  o.ForNextHops s p fun nhs =>
    o.Returns s nhs p → (p.nh ∈ nhs → (o.addL3NeighEgress s n obj).isSome) →
      (p.nh ∈ nhs → ¬ o.LeavesId n obj) ∧
      (p.nh ∈ nhs ∧ o.Joins s n obj ∨ ∃ rnh ∈ nhs, rnh ≠ p.nh ∧ o.Resolved s rnh) ∧
      (1 < nhs.length → nhs.toFinset ∈ s.groups.nhGrpToL3EcmpMapping)

/-- The condition on a neighbour that became unreachable: if another next hop has an id, there are
several, and they are a group of `nl_l3`. -/
def UnreachableOk (s : L3) (p : L3Params) : Prop :=
  o.ForNextHops s p fun nhs =>
    o.Returns s nhs p → (∃ rnh ∈ nhs, rnh ≠ p.nh ∧ o.Resolved s rnh) →
      1 < nhs.length ∧ nhs.toFinset ∈ s.groups.nhGrpToL3EcmpMapping

end Seen

/-! ## Where the process goes on -/

section Returning

variable {o : Seen} {s : L3} {n : Int × Addr} {obj : NeighObj} {p : L3Params}

/-- The two loops are one, which notes the ids or whether there is one. -/
theorem collectInterface_collect (y : L3 × List (Option Nat)) (rnh : NhStub) :
    (o.collect n obj p y rnh).map (fun y => (y.1, !y.2.isEmpty)) =
      o.collectInterface n obj p (y.1, !y.2.isEmpty) rnh := by
  unfold Seen.collect Seen.collectInterface
  split
  · cases o.addL3NeighEgress y.1 n obj with
    | none => rfl
    | some z =>
      by_cases hrv : z.1 = 0
      · simp [hrv]
      · simp [hrv]
  · rw [hasL3InterfaceId_eq, Seen.insertId]
    cases o.getL3InterfaceId y.1 rnh with
    | none => rfl
    | some z =>
      by_cases hrv : z.1 = 0
      · simp [hrv]
      · simp [hrv]

theorem pointTo_ne_aborted (nhs : NhStub.Set) (ids : List (Option Nat)) :
    s.pointTo nhs ids ≠ .aborted := by
  unfold pointTo
  split
  · simp
  · split_ifs <;> simp

theorem pointTo_eq_noInterface_iff (nhs : NhStub.Set) (ids : List (Option Nat)) :
    s.pointTo nhs ids = .noInterface ↔ ids.isEmpty = true := by
  unfold pointTo
  split
  · simp
  · split_ifs <;> simp

/-- The process ends in `nh_reachable_notification` exactly if an assertion fails or a null pointer is
read. -/
theorem nhReachableNotification_eq_none_iff : o.nhReachableNotification s n obj p = none ↔
    o.nhReachable s n obj p = .aborted ∨ o.nhReachable s n obj p = .noInterface := by
  unfold Seen.nhReachableNotification Seen.nhReachable
  have hsame : getNeighboursOfRoute o.routeEnv = getNeighboursOfRoute o.env := rfl
  rw [hsame]
  cases getRouteByNhParams s.installed p with
  | none => simp
  | some route =>
    dsimp only
    cases getNeighboursOfRoute o.env route with
    | none => simp
    | some y =>
      have hfold := map_foldlM_option (g := fun y : L3 × List (Option Nat) => (y.1, !y.2.isEmpty))
        (f := o.collect n obj p) collectInterface_collect y.2 (s, [])
      have hstart : (s, !([] : List (Option Nat)).isEmpty) = (s, false) := rfl
      rw [hstart] at hfold
      simp only [Option.bind_eq_bind, Option.bind_some, ← hfold]
      cases y.2.foldlM (o.collect n obj p) (s, []) with
      | none => simp
      | some z => simp [pointTo_ne_aborted, pointTo_eq_noInterface_iff]

end Returning

/-! ## Their operations on the groups -/

section Operations

variable {o : Seen} {s s' : L3} {n : Int × Addr} {obj : NeighObj} {rv : Int}

/-- The operation of `add_l3_neigh_egress`. -/
def Seen.egressEvs (o : Seen) (s : L3) (n : Int × Addr) (obj : NeighObj) :
    List (L3Groups.Ev NhStub) :=
  match obj.nud, o.env.link n.1 with
  | some (.valid dMac), some link =>
    match egressIfindex o.env link n dMac with
    | some ifindex =>
      let k := egressKeyAt o.env link ifindex dMac
      if (s.addVlan o.sw (o.vlanLink link ifindex) link.vid).1 < 0 then []
      else [.addL3Egress k (o.sw.egressCreate k)]
    | none => []
  | _, _ => []

/-- The operation of `del_l3_neigh_egress`. -/
def Seen.releaseEvs (o : Seen) (s : L3) (n : Int × Addr) (obj : NeighObj) :
    List (L3Groups.Ev NhStub) :=
  match obj.lladdr, o.env.link n.1 with
  | some dMac, some link =>
    match s.releasedAt o.env link n dMac with
    | some (ifindex, _) => [.delL3Egress (egressKeyAt o.env link ifindex dMac) 0]
    | none => []
  | _, _ => []

theorem groups_addVlan (sw : L3Switch) (s : L3) (link : Option L3Link) (vid : Nat) :
    (s.addVlan sw link vid).2.groups = s.groups := by
  obtain ⟨pv, hpv, -⟩ := addVlan_spec sw s link vid
  rw [hpv]

/-- `add_l3_neigh_egress` takes a reference of one group at most. -/
theorem addL3NeighEgress_evs (h : o.addL3NeighEgress s n obj = some (rv, s')) :
    (o.egressEvs s n obj = [] ∧ s'.groups = s.groups) ∨
    ∃ k, o.egressEvs s n obj = [.addL3Egress k (o.sw.egressCreate k)] ∧
      s'.groups = s.groups.step (.addL3Egress k (o.sw.egressCreate k)) ∧
      rv = (s.groups.addL3Egress k (o.sw.egressCreate k)).1 := by
  by_cases hport : ∃ dMac link ifindex, obj.nud = some (.valid dMac) ∧
      o.env.link n.1 = some link ∧ egressIfindex o.env link n dMac = some ifindex
  · obtain ⟨dMac, link, ifindex, hnud, hlink, hi⟩ := hport
    rw [addL3NeighEgress_port_eq hnud hlink hi, Option.some.injEq] at h
    simp only [Seen.egressEvs, hnud, hlink, hi]
    unfold addVlanEgress at h
    dsimp only at h
    by_cases hneg : (s.addVlan o.sw (o.vlanLink link ifindex) link.vid).1 < 0
    · rw [if_pos hneg] at h ⊢
      have hs' := congrArg (fun y : Int × L3 => y.2.groups) h
      exact .inl ⟨rfl, hs'.symm.trans (groups_addVlan _ _ _ _)⟩
    · rw [if_neg hneg] at h ⊢
      have hs' := congrArg (fun y : Int × L3 => y.2.groups) h
      have hrv := congrArg (fun y : Int × L3 => y.1) h
      simp only [L3.addL3Egress, groups_addVlan] at hs' hrv
      exact .inr ⟨_, rfl, hs'.symm, hrv.symm⟩
  · refine .inl ⟨?_, ?_⟩
    · unfold Seen.egressEvs
      split
      · next dMac link hnud hlink =>
        split
        · next ifindex hi => exact absurd ⟨dMac, link, ifindex, hnud, hlink, hi⟩ hport
        · rfl
      · rfl
    · cases hnud : obj.nud with
      | none => rw [seen_addL3NeighEgress_of_null hnud h]
      | some nud =>
        unfold Seen.addL3NeighEgress at h
        rw [hnud, Option.some.injEq] at h
        have hs' := congrArg (fun y : Int × L3 => y.2.groups) h
        rw [← hs']
        cases nud with
        | failed => rfl
        | incomplete => rfl
        | valid dMac =>
          unfold L3.addL3NeighEgress
          cases hlink : o.env.link n.1 with
          | none => rfl
          | some link =>
            dsimp only
            cases hb : link.isBridge with
            | true =>
              cases hfdb : o.env.searchFdb link.vid dMac with
              | none => rfl
              | some ifindex =>
                refine absurd ⟨dMac, link, ifindex, hnud, hlink, ?_⟩ hport
                rw [egressIfindex, if_pos hb, hfdb]
            | false =>
              refine absurd ⟨dMac, link, n.1, hnud, hlink, ?_⟩ hport
              rw [egressIfindex, if_neg (by simp [hb])]

theorem groups_removeVlan (s : L3) (link : Option L3Link) (vid : Nat) :
    (s.removeVlan link vid).groups = s.groups := by
  obtain ⟨pv, hpv⟩ := removeVlan_frame s link vid
  rw [hpv]

theorem groups_addL3NeighEgress (h : o.addL3NeighEgress s n obj = some (rv, s')) :
    s'.groups = run L3Groups.step s.groups (o.egressEvs s n obj) := by
  rcases addL3NeighEgress_evs h with ⟨hevs, hg⟩ | ⟨k, hevs, hg, -⟩
  · rw [hevs, hg]
    rfl
  · rw [hevs, hg]
    rfl

theorem groups_delL3NeighEgress (h : o.delL3NeighEgress s n obj = some s') :
    s'.groups = run L3Groups.step s.groups (o.releaseEvs s n obj) := by
  unfold Seen.delL3NeighEgress at h
  unfold Seen.releaseEvs
  cases hll : obj.lladdr with
  | none =>
    rw [hll] at h
    cases hlink : o.env.link n.1 with
    | none =>
      rw [hlink] at h
      cases h
      rfl
    | some link =>
      rw [hlink] at h
      cases h
  | some dMac =>
    rw [hll] at h
    cases hlink : o.env.link n.1 with
    | none =>
      simp only [L3.delL3NeighEgress, hlink, Option.some.injEq] at h
      rw [← h]
      rfl
    | some link =>
      simp only [delL3NeighEgress_eq o.env s n dMac hlink, Option.some.injEq] at h
      dsimp only
      cases hat : s.releasedAt o.env link n dMac with
      | none =>
        rw [hat] at h
        rw [← h]
        rfl
      | some y =>
        rw [hat] at h
        rw [← h, groups_removeVlan]
        rfl

/-- With a result other than 0 the entries are as they were. -/
theorem mapping_of_rv_ne (hcreate : ∀ k, o.sw.egressCreate k ≤ 0) (hrv : rv ≠ 0)
    (h : o.addL3NeighEgress s n obj = some (rv, s')) :
    s'.groups.l3InterfaceMapping = s.groups.l3InterfaceMapping := by
  rcases addL3NeighEgress_evs h with ⟨-, hg⟩ | ⟨k, -, hg, he⟩
  · rw [hg]
  · have hsend := hcreate k
    rw [hg]
    rw [he] at hrv
    revert hrv
    simp only [L3Groups.step, L3Groups.addL3Egress]
    by_cases hport : k.portId = 0
    · simp [hport]
    · simp only [hport, if_false]
      cases s.groups.l3InterfaceMapping.lookup k with
      | some x => exact fun h => absurd rfl h
      | none =>
        simp only [IdPool.create]
        by_cases hneg : o.sw.egressCreate k < 0
        · simp [hneg]
        · simp only [hneg, if_false]
          exact fun h => absurd (le_antisymm hsend (not_lt.mp hneg)) h

end Operations

/-! ## The loops -/

section Loops

variable {o : Seen} {s s' : L3} {n : Int × Addr} {obj : NeighObj} {p : L3Params}
  {nhs : NhStub.Set} {ids : List (Option Nat)}

/-- The id that a lookup gives, if it returns 0. -/
def Seen.foundId (o : Seen) (s : L3) (rnh : NhStub) : Option (Option Nat) :=
  (o.getL3InterfaceId s rnh).bind fun (rv, id) => if rv = 0 then some id else none

theorem foundId_eq_some {rnh : NhStub} {id : Option Nat} :
    o.foundId s rnh = some id ↔ o.getL3InterfaceId s rnh = some (0, id) := by
  unfold Seen.foundId
  constructor
  · intro h
    obtain ⟨⟨rv, id'⟩, hget, h⟩ := Option.bind_eq_some_iff.mp h
    dsimp only at h
    split_ifs at h with hrv
    cases h
    rw [hget, hrv]
  · intro h
    rw [h]
    rfl

theorem resolved_iff_foundId {rnh : NhStub} : o.Resolved s rnh ↔ ∃ id, o.foundId s rnh = some id := by
  constructor
  · rintro ⟨id, h⟩
    exact ⟨some id, foundId_eq_some.mpr h⟩
  · rintro ⟨id, h⟩
    have hget := foundId_eq_some.mp h
    exact (resolved_iff hget).mpr rfl

/-- Whether a lookup comes back does not depend on the groups. -/
theorem isSome_getL3InterfaceId (o : Seen) (s t : L3) (nh : NhStub) :
    (o.getL3InterfaceId s nh).isSome = (o.getL3InterfaceId t nh).isSome := by
  unfold Seen.getL3InterfaceId
  cases (o.neigh nh.neigh).bind (·.lladdr) with
  | none => rfl
  | some dMac =>
    cases o.env.link nh.ifindex with
    | none => rfl
    | some link =>
      dsimp only [Option.bind_some]
      cases egressIfindex o.env link nh.neigh dMac <;> rfl

theorem insertId_eq (rnh : NhStub) :
    o.insertId s ids rnh =
      (o.getL3InterfaceId s rnh).map fun _ => ids ++ (o.foundId s rnh).toList := by
  unfold Seen.insertId Seen.foundId
  cases o.getL3InterfaceId s rnh with
  | none => rfl
  | some y =>
    dsimp only [Option.map_some, Option.bind_some]
    split_ifs <;> simp

/-- The loop over next hops that are all looked up. -/
theorem foldlM_collect_of_notMem (h : p.nh ∉ nhs) (s : L3) (ids : List (Option Nat)) :
    nhs.foldlM (o.collect n obj p) (s, ids) =
      if ∀ rnh ∈ nhs, (o.getL3InterfaceId s rnh).isSome then
        some (s, ids ++ nhs.filterMap (o.foundId s))
      else none := by
  induction nhs generalizing ids with
  | nil => simp
  | cons rnh nhs ih =>
    obtain ⟨hne, hnhs⟩ := not_or.mp fun h' => h (List.mem_cons.mpr h')
    rw [List.foldlM_cons, Seen.collect, if_neg (Ne.symm hne), insertId_eq]
    simp only [List.forall_mem_cons]
    cases hget : o.getL3InterfaceId s rnh with
    | none => simp
    | some y =>
      simp only [Option.map_some, Option.bind_eq_bind, Option.bind_some, Option.isSome_some,
        true_and, ih hnhs, List.filterMap_cons]
      cases o.foundId s rnh <;> simp

/-- The loop where one of the next hops is that of the notification, if it ends. -/
theorem foldlM_collect_of_mem {l₁ l₂ : NhStub.Set} (h₁ : p.nh ∉ l₁) (h₂ : p.nh ∉ l₂) (s : L3)
    (h : (l₁ ++ p.nh :: l₂).foldlM (o.collect n obj p) (s, []) = some (s', ids)) :
    ∃ rv, o.addL3NeighEgress s n obj = some (rv, s') ∧
      (∀ rnh ∈ l₁ ++ l₂, (o.getL3InterfaceId s rnh).isSome) ∧
      ids = l₁.filterMap (o.foundId s) ++ (if rv = 0 then [o.egressId s n obj] else []) ++
        l₂.filterMap (o.foundId s') := by
  rw [List.foldlM_append, foldlM_collect_of_notMem h₁] at h
  split_ifs at h with hl₁
  · simp only [Option.bind_eq_bind, Option.bind_some, List.nil_append, List.foldlM_cons] at h
    obtain ⟨⟨s₁, ids₁⟩, hstep, h⟩ := Option.bind_eq_some_iff.mp h
    rw [Seen.collect, if_pos rfl] at hstep
    obtain ⟨⟨rv, s₂⟩, hadd, heq⟩ := Option.map_eq_some_iff.mp hstep
    simp only [Prod.mk.injEq] at heq
    obtain ⟨rfl, rfl⟩ := heq
    rw [foldlM_collect_of_notMem h₂] at h
    by_cases hl₂ : ∀ rnh ∈ l₂, (o.getL3InterfaceId s₂ rnh).isSome
    · rw [if_pos hl₂] at h
      simp only [Option.some.injEq, Prod.mk.injEq] at h
      obtain ⟨rfl, rfl⟩ := h
      refine ⟨rv, hadd, fun rnh hrnh => ?_, ?_⟩
      · rcases List.mem_append.mp hrnh with hr | hr
        · exact hl₁ rnh hr
        · rw [isSome_getL3InterfaceId o s s₂]
          exact hl₂ rnh hr
      · by_cases hrv : rv = 0
        · simp [hrv]
        · simp [hrv]
    · rw [if_neg hl₂] at h
      cases h
  · cases h

theorem getL3InterfaceId_congr {t : L3}
    (h : t.groups.l3InterfaceMapping = s.groups.l3InterfaceMapping) (rnh : NhStub) :
    o.getL3InterfaceId t rnh = o.getL3InterfaceId s rnh := by
  unfold Seen.getL3InterfaceId
  rw [h]

/-- What the loop of `nh_reachable_notification` ends with. -/
structure Collected (o : Seen) (s : L3) (n : Int × Addr) (obj : NeighObj) (p : L3Params)
    (nhs : NhStub.Set) (s' : L3) (ids : List (Option Nat)) : Prop where
  returns : o.Returns s nhs p
  added : p.nh ∈ nhs → ∃ rv, o.addL3NeighEgress s n obj = some (rv, s')
  same : p.nh ∉ nhs → s' = s
  own : p.nh ∈ nhs → o.addL3NeighEgress s n obj = some (0, s') → o.egressId s n obj ∈ ids
  each : ∀ id ∈ ids, (p.nh ∈ nhs ∧ o.addL3NeighEgress s n obj = some (0, s') ∧
      id = o.egressId s n obj) ∨
    ∃ rnh, o.getL3InterfaceId s rnh = some (0, id) ∨ o.getL3InterfaceId s' rnh = some (0, id)
  length : ids.length ≤ nhs.length
  nonempty : ids ≠ [] ↔ (p.nh ∈ nhs ∧ o.addL3NeighEgress s n obj = some (0, s')) ∨
    ∃ rnh ∈ nhs, rnh ≠ p.nh ∧ o.Resolved s rnh

theorem filterMap_foundId_ne_nil {l : List NhStub} :
    l.filterMap (o.foundId s) ≠ [] ↔ ∃ rnh ∈ l, o.Resolved s rnh := by
  simp only [ne_eq, List.filterMap_eq_nil_iff, not_forall, resolved_iff_foundId, exists_prop,
    ← Option.ne_none_iff_exists']

theorem collected_of_notMem (hmem : p.nh ∉ nhs)
    (h : nhs.foldlM (o.collect n obj p) (s, []) = some (s', ids)) :
    Collected o s n obj p nhs s' ids := by
  rw [foldlM_collect_of_notMem hmem] at h
  split_ifs at h with hall
  · simp only [List.nil_append, Option.some.injEq, Prod.mk.injEq] at h
    obtain ⟨rfl, rfl⟩ := h
    refine ⟨fun rnh hr _ => hall rnh hr, fun hm => absurd hm hmem, fun _ => rfl,
      fun hm => absurd hm hmem, fun id hid => ?_, List.length_filterMap_le _ _, ?_⟩
    · obtain ⟨rnh, -, hf⟩ := List.mem_filterMap.mp hid
      exact .inr ⟨rnh, .inl (foundId_eq_some.mp hf)⟩
    · rw [filterMap_foundId_ne_nil]
      constructor
      · rintro ⟨rnh, hr, hres⟩
        exact .inr ⟨rnh, hr, fun e => hmem (e ▸ hr), hres⟩
      · rintro (⟨hm, -⟩ | ⟨rnh, hr, -, hres⟩)
        · exact absurd hm hmem
        · exact ⟨rnh, hr, hres⟩

theorem collected_of_mem (hcreate : ∀ k, o.sw.egressCreate k ≤ 0) (hnd : nhs.Nodup)
    (hmem : p.nh ∈ nhs) (h : nhs.foldlM (o.collect n obj p) (s, []) = some (s', ids)) :
    Collected o s n obj p nhs s' ids := by
  obtain ⟨l₁, l₂, rfl⟩ := List.append_of_mem hmem
  have hnd' := List.nodup_middle.mp hnd
  obtain ⟨hnot, -⟩ := List.nodup_cons.mp hnd'
  have h₁ : p.nh ∉ l₁ := fun h => hnot (List.mem_append_left l₂ h)
  have h₂ : p.nh ∉ l₂ := fun h => hnot (List.mem_append_right l₁ h)
  obtain ⟨rv, hadd, hall, rfl⟩ := foldlM_collect_of_mem h₁ h₂ s h
  have hother : ∀ rnh, rnh ∈ l₁ ++ p.nh :: l₂ → rnh ≠ p.nh → rnh ∈ l₁ ++ l₂ := by
    intro rnh hr hne
    simp only [List.mem_append, List.mem_cons] at hr ⊢
    tauto
  refine ⟨fun rnh hr hne => hall rnh (hother rnh hr hne), fun _ => ⟨rv, hadd⟩,
    fun hn => absurd hmem hn, fun _ h0 => ?_, fun id hid => ?_, ?_, ?_⟩
  · rw [hadd, Option.some.injEq, Prod.mk.injEq] at h0
    simp [h0.1]
  · rcases List.mem_append.mp hid with hid₁ | hid₁
    · rcases List.mem_append.mp hid₁ with hid₂ | hid₂
      · obtain ⟨rnh, -, hf⟩ := List.mem_filterMap.mp hid₂
        exact .inr ⟨rnh, .inl (foundId_eq_some.mp hf)⟩
      · split_ifs at hid₂ with hrv
        · subst hrv
          exact .inl ⟨hmem, hadd, List.mem_singleton.mp hid₂⟩
        · cases hid₂
    · obtain ⟨rnh, -, hf⟩ := List.mem_filterMap.mp hid₁
      exact .inr ⟨rnh, .inr (foundId_eq_some.mp hf)⟩
  · have hlen₁ := List.length_filterMap_le (o.foundId s) l₁
    have hlen₂ := List.length_filterMap_le (o.foundId s') l₂
    have hone : (if rv = 0 then [o.egressId s n obj] else []).length ≤ 1 := by split_ifs <;> simp
    simp only [List.length_append, List.length_cons]
    omega
  · by_cases hrv : rv = 0
    · subst hrv
      refine iff_of_true (List.ne_nil_of_mem (a := o.egressId s n obj) ?_) (.inl ⟨hmem, hadd⟩)
      simp
    · -- The lookups after the addition find what they found before.
      have hsame := mapping_of_rv_ne hcreate hrv hadd
      have hfound : l₂.filterMap (o.foundId s') = l₂.filterMap (o.foundId s) :=
        List.filterMap_congr fun rnh _ => by
          unfold Seen.foundId
          rw [getL3InterfaceId_congr hsame]
      rw [if_neg hrv, List.append_nil, hfound, ← List.filterMap_append, filterMap_foundId_ne_nil]
      constructor
      · rintro ⟨rnh, hr, hres⟩
        refine .inr ⟨rnh, ?_, fun e => hnot (e ▸ hr), hres⟩
        simp only [List.mem_append, List.mem_cons] at hr ⊢
        tauto
      · rintro (⟨-, h0⟩ | ⟨rnh, hr, hne, hres⟩)
        · rw [hadd, Option.some.injEq, Prod.mk.injEq] at h0
          exact absurd h0.1 hrv
        · exact ⟨rnh, hother rnh hr hne, hres⟩

/-- The loop ends if the lookups come back and the addition does. -/
theorem exists_foldlM_collect (hnd : nhs.Nodup) (hret : o.Returns s nhs p)
    (hadd : p.nh ∈ nhs → (o.addL3NeighEgress s n obj).isSome) :
    ∃ y, nhs.foldlM (o.collect n obj p) (s, []) = some y := by
  by_cases hmem : p.nh ∈ nhs
  · obtain ⟨⟨rv, s₁⟩, hs₁⟩ := Option.isSome_iff_exists.mp (hadd hmem)
    obtain ⟨l₁, l₂, rfl⟩ := List.append_of_mem hmem
    obtain ⟨hnot, -⟩ := List.nodup_cons.mp (List.nodup_middle.mp hnd)
    have h₁ : p.nh ∉ l₁ := fun h => hnot (List.mem_append_left l₂ h)
    have h₂ : p.nh ∉ l₂ := fun h => hnot (List.mem_append_right l₁ h)
    have hl₁ : ∀ rnh ∈ l₁, (o.getL3InterfaceId s rnh).isSome := fun rnh hr =>
      hret rnh (List.mem_append_left _ hr) fun e => h₁ (e ▸ hr)
    have hl₂ : ∀ rnh ∈ l₂, (o.getL3InterfaceId s₁ rnh).isSome := fun rnh hr => by
      rw [isSome_getL3InterfaceId o s₁ s]
      exact hret rnh (List.mem_append_right _ (List.mem_cons_of_mem _ hr)) fun e => h₂ (e ▸ hr)
    rw [List.foldlM_append, foldlM_collect_of_notMem h₁, if_pos hl₁]
    simp only [Option.bind_eq_bind, Option.bind_some, List.foldlM_cons]
    rw [Seen.collect, if_pos rfl, hs₁]
    simp only [Option.map_some, Option.bind_some]
    rw [foldlM_collect_of_notMem h₂, if_pos hl₂]
    exact ⟨_, rfl⟩
  · rw [foldlM_collect_of_notMem hmem, if_pos]
    · exact ⟨_, rfl⟩
    · exact fun rnh hr => hret rnh hr fun e => hmem (e ▸ hr)

/-- The loop of `nh_unreachable_notification`. -/
theorem foldlM_collectOthers (s : L3) (p : L3Params) (nhs : NhStub.Set)
    (ids : List (Option Nat)) :
    (o.Returns s nhs p → nhs.foldlM (o.collectOthers s p) ids =
      some (ids ++ (nhs.filter fun rnh => rnh ≠ p.nh).filterMap (o.foundId s))) ∧
    (¬ o.Returns s nhs p → nhs.foldlM (o.collectOthers s p) ids = none) := by
  unfold Seen.Returns
  induction nhs generalizing ids with
  | nil => simp
  | cons rnh nhs ih =>
    rw [List.foldlM_cons, Seen.collectOthers]
    simp only [List.forall_mem_cons]
    by_cases hp : rnh = p.nh
    · simpa [hp] using ih ids
    · rw [if_neg hp, insertId_eq]
      cases hget : o.getL3InterfaceId s rnh with
      | none => simp [hp]
      | some y =>
        have hrest := ih (ids ++ (o.foundId s rnh).toList)
        rw [List.filter_cons_of_pos (by simpa using hp), List.filterMap_cons]
        cases hf : o.foundId s rnh with
        | none => simpa [hf, hp] using hrest
        | some id => simpa [hf, hp] using hrest

end Loops

/-! ## The notifications -/

section Notifications

variable {o : Seen} {s s' : L3} {n : Int × Addr} {obj : NeighObj} {p : L3Params}
  {sw sw' : GroupSwitch}

theorem ecmpMapping_addL3NeighEgress {rv : Int} (h : o.addL3NeighEgress s n obj = some (rv, s')) :
    s'.groups.nhGrpToL3EcmpMapping = s.groups.nhGrpToL3EcmpMapping := by
  rcases addL3NeighEgress_evs h with ⟨-, hg⟩ | ⟨k, -, hg, -⟩
  · rw [hg]
  · rw [hg]
    simp only [L3Groups.step, L3Groups.addL3Egress, IdPool.create]
    split
    · rfl
    · split
      · by_cases hneg : o.sw.egressCreate k < 0 <;> simp [hneg]
      · rfl

/-- The group of the next hops is written, and is like those of the table. -/
theorem getL3EcmpGroup_iff {Q : Nat → Prop}
    (hq : ∀ nhs x, s.groups.nhGrpToL3EcmpMapping.lookup nhs = some x → Q x.id) (nhs : NhStub.Set) :
    (∃ d, s.getL3EcmpGroup nhs = some d ∧ Q d) ↔
      nhs.toFinset ∈ s.groups.nhGrpToL3EcmpMapping := by
  unfold getL3EcmpGroup
  rw [Table.mem_iff_lookup]
  constructor
  · rintro ⟨d, hd, -⟩
    obtain ⟨x, hx, -⟩ := Option.map_eq_some_iff.mp hd
    exact ⟨x, hx⟩
  · rintro ⟨x, hx⟩
    exact ⟨x.id, by rw [hx]; rfl, hq _ x hx⟩

/-- An id that is looked up is written, and is one of the table. -/
theorem written_of_lookup {Q : Nat → Prop}
    (hq : ∀ k x, s.groups.l3InterfaceMapping.lookup k = some x → Q x.id) {rnh : NhStub}
    {id : Option Nat} (h : o.getL3InterfaceId s rnh = some (0, id)) : ∃ i, id = some i ∧ Q i := by
  obtain ⟨hiff, hentry⟩ := getL3InterfaceId_written h
  obtain ⟨i, rfl⟩ := Option.isSome_iff_exists.mp (hiff.mp rfl)
  obtain ⟨k, x, hx, rfl⟩ := hentry i rfl
  exact ⟨x.id, rfl, hq k x hx⟩

/-- The ids that the loop ends with are written exactly if no addition leaves its id. -/
theorem Collected.written_iff {nhs : NhStub.Set} {ids : List (Option Nat)} {Q : Nat → Prop}
    (h : Collected o s n obj p nhs s' ids)
    (hq : ∀ k x, s.groups.l3InterfaceMapping.lookup k = some x → Q x.id)
    (hq' : ∀ k x, s'.groups.l3InterfaceMapping.lookup k = some x → Q x.id) :
    (∀ id ∈ ids, ∃ i, id = some i ∧ Q i) ↔ (p.nh ∈ nhs → ¬ o.LeavesId n obj) := by
  constructor
  · intro hall hmem hleaves
    obtain ⟨rv, hadd⟩ := h.added hmem
    obtain ⟨hrv, -, -, hnone⟩ := addL3NeighEgress_written hadd
    rw [hrv.mpr (.inr hleaves)] at hadd
    obtain ⟨i, hi, -⟩ := hall _ (h.own hmem hadd)
    rw [hnone hleaves] at hi
    cases hi
  · intro hok id hid
    rcases h.each id hid with ⟨hmem, hadd, rfl⟩ | ⟨rnh, hget | hget⟩
    · obtain ⟨hrv, -, hjoins, -⟩ := addL3NeighEgress_written hadd
      obtain ⟨i, hi, k, x, hx, rfl⟩ := hjoins ((hrv.mp rfl).resolve_right (hok hmem))
      exact ⟨x.id, hi, hq' k x hx⟩
    · exact written_of_lookup hq hget
    · exact written_of_lookup hq' hget

/-- There is an id, if none is left unwritten, exactly if a next hop has one. -/
theorem Collected.nonempty_iff {nhs : NhStub.Set} {ids : List (Option Nat)}
    (h : Collected o s n obj p nhs s' ids) (hok : p.nh ∈ nhs → ¬ o.LeavesId n obj) :
    ids ≠ [] ↔ p.nh ∈ nhs ∧ o.Joins s n obj ∨ ∃ rnh ∈ nhs, rnh ≠ p.nh ∧ o.Resolved s rnh := by
  rw [h.nonempty]
  refine or_congr (and_congr_right fun hmem => ?_) Iff.rfl
  obtain ⟨rv, hadd⟩ := h.added hmem
  obtain ⟨hrv, -⟩ := addL3NeighEgress_written hadd
  rw [hadd]
  simp only [Option.some.injEq, Prod.mk.injEq, and_true]
  exact hrv.trans (or_iff_left (hok hmem))

theorem forNextHops_of_noRoute (h : getRouteByNhParams s.installed p = none)
    (P : NhStub.Set → Prop) : o.ForNextHops s p P := by
  intro route rv nhs hroute
  rw [h] at hroute
  cases hroute

theorem forNextHops_of_null {route : L3Route} (h : getRouteByNhParams s.installed p = some route)
    (hnull : getNeighboursOfRoute o.env route = none) (P : NhStub.Set → Prop) :
    o.ForNextHops s p P := by
  intro route' rv nhs hroute hnhs
  rw [h, Option.some.injEq] at hroute
  rw [← hroute, hnull] at hnhs
  cases hnhs

theorem forNextHops_iff {route : L3Route} {rv : Int} {nhs : NhStub.Set}
    (h : getRouteByNhParams s.installed p = some route)
    (hnhs : getNeighboursOfRoute o.env route = some (rv, nhs)) {P : NhStub.Set → Prop} :
    o.ForNextHops s p P ↔ P nhs := by
  constructor
  · exact fun hP => hP route rv nhs h hnhs
  · intro hP route' rv' nhs' hroute hnhs'
    rw [h, Option.some.injEq] at hroute
    rw [← hroute, hnhs] at hnhs'
    cases hnhs'
    exact hP

theorem Collected.fine_iff {nhs : NhStub.Set} {ids : List (Option Nat)}
    (h : Collected o s n obj p nhs s' ids) (hm : L3Groups.Mirror s.groups sw)
    (hm' : L3Groups.Mirror s'.groups sw') (hsub : ∀ i ∈ sw.unicast, i ∈ sw'.unicast) :
    (s'.pointTo nhs ids).Fine sw' ↔
      (p.nh ∈ nhs → ¬ o.LeavesId n obj) ∧
      (p.nh ∈ nhs ∧ o.Joins s n obj ∨ ∃ rnh ∈ nhs, rnh ≠ p.nh ∧ o.Resolved s rnh) ∧
      (1 < nhs.length → nhs.toFinset ∈ s.groups.nhGrpToL3EcmpMapping) := by
  have hecmp : s'.groups.nhGrpToL3EcmpMapping = s.groups.nhGrpToL3EcmpMapping := by
    by_cases hmem : p.nh ∈ nhs
    · obtain ⟨rv, hadd⟩ := h.added hmem
      exact ecmpMapping_addL3NeighEgress hadd
    · rw [h.same hmem]
  have hwritten := h.written_iff (Q := fun i => i = 0 ∨ i ∈ sw'.unicast)
    (fun k x hx => .inr (hsub _ (hm.unicast k x hx))) fun k x hx => .inr (hm'.unicast k x hx)
  have hgroup := getL3EcmpGroup_iff (Q := fun d => d = 0 ∨ d ∈ sw'.ecmp)
    (fun nhs x hx => .inr (hm'.ecmpGroups nhs x hx)) nhs
  rw [hecmp] at hgroup
  cases ids with
  | nil => exact iff_of_false id fun hok => (h.nonempty_iff hok.1).mpr hok.2.1 rfl
  | cons id ids =>
    rw [pointTo]
    by_cases hlen : nhs.length > 1
    · rw [if_pos hlen]
      simp only [Notified.Fine, if_true, hgroup, hwritten]
      constructor
      · exact fun hf => ⟨hf.1, (h.nonempty_iff hf.1).mp (by simp), fun _ => hf.2⟩
      · exact fun hok => ⟨hok.1, hok.2.2 hlen⟩
    · rw [if_neg hlen]
      simp only [Notified.Fine, Bool.false_eq_true, if_false]
      constructor
      · intro hf
        have hok := hwritten.mp hf.1
        exact ⟨hok, (h.nonempty_iff hok).mp (by simp), fun hlt => absurd hlt hlen⟩
      · intro hok
        have hall := hwritten.mpr hok.1
        exact ⟨hall, hall id List.mem_cons_self⟩

variable (s n obj p) in
/-- `nh_reachable_notification` ends before its loop does, and any condition on what follows is met,
or it points the route to what the loop ends with. -/
theorem nhReachable_cases (hcreate : ∀ k, o.sw.egressCreate k ≤ 0) :
    ((o.nhReachable s n obj p = .noRoute ∨ o.nhReachable s n obj p = .aborted) ∧
      ∀ P : NhStub.Set → Prop, o.ForNextHops s p fun nhs => o.Returns s nhs p →
        (p.nh ∈ nhs → (o.addL3NeighEgress s n obj).isSome) → P nhs) ∨
    ∃ route rv nhs s' ids, getRouteByNhParams s.installed p = some route ∧
      getNeighboursOfRoute o.env route = some (rv, nhs) ∧ Collected o s n obj p nhs s' ids ∧
      o.nhReachable s n obj p = s'.pointTo nhs ids := by
  unfold Seen.nhReachable
  cases hroute : getRouteByNhParams s.installed p with
  | none => exact .inl ⟨.inl rfl, fun P => forNextHops_of_noRoute hroute _⟩
  | some route =>
    dsimp only
    cases hnhs : getNeighboursOfRoute o.env route with
    | none => exact .inl ⟨.inr rfl, fun P => forNextHops_of_null hroute hnhs _⟩
    | some y =>
      obtain ⟨rv, nhs⟩ := y
      have hnd := (getNeighboursOfRoute_spec hnhs).1
      dsimp only
      cases hloop : nhs.foldlM (o.collect n obj p) (s, []) with
      | none =>
        refine .inl ⟨.inr rfl, fun P => (forNextHops_iff hroute hnhs).mpr fun hret hadd => ?_⟩
        obtain ⟨y, hy⟩ := exists_foldlM_collect hnd hret hadd
        rw [hloop] at hy
        cases hy
      | some z =>
        obtain ⟨s₁, ids⟩ := z
        refine .inr ⟨route, rv, nhs, s₁, ids, rfl, hnhs, ?_, rfl⟩
        by_cases hmem : p.nh ∈ nhs
        · exact collected_of_mem hcreate hnd hmem hloop
        · exact collected_of_notMem hmem hloop

theorem Collected.isSome {nhs : NhStub.Set} {ids : List (Option Nat)}
    (h : Collected o s n obj p nhs s' ids) (hmem : p.nh ∈ nhs) :
    (o.addL3NeighEgress s n obj).isSome := by
  obtain ⟨rv, hadd⟩ := h.added hmem
  rw [hadd]
  rfl

/-- `nh_reachable_notification`. `hm'` is about the switch when the route is programmed. -/
theorem nhReachable_fine_iff (hcreate : ∀ k, o.sw.egressCreate k ≤ 0)
    (hm : L3Groups.Mirror s.groups sw) (hsub : ∀ i ∈ sw.unicast, i ∈ sw'.unicast)
    (hm' : ∀ nhs s' ids, Collected o s n obj p nhs s' ids →
      o.ForNextHops s p fun nhs' => nhs' = nhs → L3Groups.Mirror s'.groups sw') :
    (o.nhReachable s n obj p).Fine sw' ↔ o.ReachableOk s n obj p := by
  rcases nhReachable_cases s n obj p hcreate with
    ⟨hends, hok⟩ | ⟨route, rv, nhs, s₁, ids, hroute, hnhs, hcol, hpoint⟩
  · refine iff_of_true ?_ (hok _)
    rcases hends with h | h <;> rw [h] <;> trivial
  · have hm₁ := (forNextHops_iff hroute hnhs).mp (hm' nhs s₁ ids hcol) rfl
    have hfine := hcol.fine_iff hm hm₁ hsub
    rw [hpoint, Seen.ReachableOk, forNextHops_iff hroute hnhs]
    constructor
    · exact fun hf _ _ => hfine.mp hf
    · exact fun hok => hfine.mpr (hok hcol.returns hcol.isSome)

/-- `nh_unreachable_notification` ends before its loop does, or it points the route to the group of
the next hops or to the controller. -/
theorem nhUnreachable_cases :
    ((o.nhUnreachable s p = .noRoute ∨ o.nhUnreachable s p = .aborted) ∧
      ∀ P : NhStub.Set → Prop, o.ForNextHops s p fun nhs => o.Returns s nhs p → P nhs) ∨
    ∃ route rv nhs ids, getRouteByNhParams s.installed p = some route ∧
      getNeighboursOfRoute o.env route = some (rv, nhs) ∧ o.Returns s nhs p ∧
      (∀ id ∈ ids, ∃ rnh, o.getL3InterfaceId s rnh = some (0, id)) ∧
      (ids ≠ [] ↔ ∃ rnh ∈ nhs, rnh ≠ p.nh ∧ o.Resolved s rnh) ∧
      o.nhUnreachable s p = .programs ids (nhs.length > 1)
        (if ids.length = 0 then some 0
          else if nhs.length > 1 then s.getL3EcmpGroup nhs else none) := by
  unfold Seen.nhUnreachable
  cases hroute : getRouteByNhParams s.installed p with
  | none => exact .inl ⟨.inl rfl, fun P => forNextHops_of_noRoute hroute _⟩
  | some route =>
    dsimp only
    cases hnhs : getNeighboursOfRoute o.env route with
    | none => exact .inl ⟨.inr rfl, fun P => forNextHops_of_null hroute hnhs _⟩
    | some y =>
      obtain ⟨rv, nhs⟩ := y
      dsimp only
      obtain ⟨hsome, hnone⟩ := foldlM_collectOthers (o := o) s p nhs []
      by_cases hret : o.Returns s nhs p
      · rw [hsome hret, List.nil_append]
        refine .inr ⟨route, rv, nhs, _, rfl, hnhs, hret, fun id hid => ?_, ?_, rfl⟩
        · obtain ⟨rnh, -, hf⟩ := List.mem_filterMap.mp hid
          exact ⟨rnh, foundId_eq_some.mp hf⟩
        · rw [filterMap_foundId_ne_nil]
          simp [List.mem_filter, and_assoc]
      · rw [hnone hret]
        exact .inl ⟨.inr rfl, fun P =>
          (forNextHops_iff hroute hnhs).mpr fun h => absurd h hret⟩

/-- `nh_unreachable_notification`. -/
theorem nhUnreachable_fine_iff (hm : L3Groups.Mirror s.groups sw) :
    (o.nhUnreachable s p).Fine sw ↔ o.UnreachableOk s p := by
  rcases nhUnreachable_cases (o := o) (s := s) (p := p) with
    ⟨hends, hok⟩ | ⟨route, rv, nhs, ids, hroute, hnhs, hret, hlook, hne, hprog⟩
  · refine iff_of_true ?_ (hok _)
    rcases hends with h | h <;> rw [h] <;> trivial
  · rw [hprog, Seen.UnreachableOk, forNextHops_iff hroute hnhs, ← hne]
    simp only [hret, forall_const]
    have hall : ∀ id ∈ ids, ∃ i, id = some i ∧ (i = 0 ∨ i ∈ sw.unicast) := by
      intro id hid
      obtain ⟨rnh, hget⟩ := hlook id hid
      exact written_of_lookup (fun k x hx => .inr (hm.unicast k x hx)) hget
    have hgroup := getL3EcmpGroup_iff (Q := fun d => d = 0 ∨ d ∈ sw.ecmp)
      (fun nhs x hx => .inr (hm.ecmpGroups nhs x hx)) nhs
    refine (and_iff_right hall).trans ?_
    by_cases hnil : ids = []
    · simp [hnil]
    · rw [if_neg (by rwa [List.length_eq_zero_iff])]
      simp only [ne_eq, hnil, not_false_eq_true, forall_const]
      by_cases hlen : nhs.length > 1
      · simp only [hlen, if_true, decide_true, true_and]
        exact hgroup
      · simp [hlen]

end Notifications

end L3

end Basebox
