import Basebox.Netlink.L3Neigh

/-!
# Which entry of the switch a route has (`src/netlink/nl_l3.cc`, `src/of-dpa/controller.cc`)

A route is programmed when it is added, again when one of its next hops comes or goes, and it is
removed when it is deleted. Each of these converts the table of the route, a `uint32_t`, to a VRF
id, a `uint16_t`, and has the main table (254) as VRF 0. The additions compare first and truncate
then, the deletion the other way round.

* `addL3UnicastRouteCall`, `nhNotificationCall`, `delL3UnicastRouteCall`: the call of
  `switch_interface` that each path makes, with the table of the route as the source converts it.
* `SwRoute.entry`: the entry of the switch that the controller addresses for such a call. For the
  removal of an IPv6 host it passes no VRF id on to the driver.
* `Programs`: the entry is addressed by one of the paths of the route.
* `sameEntries_iff`: for two routes, each path of a route addresses the same entry and they share
  one only as tables 254 and 0, exactly if both are `Consistent`.
-/

namespace Basebox

/-- `rofl::build_mask_in4`. -/
def buildMaskIn4 (len : Nat) : BitVec 32 := if 0 < len then ~~~(1 <<< (32 - len) - 1) else 0

/-- Byte `i` of `rofl::build_mask_in6`. -/
def maskIn6Byte (len i : Nat) : BitVec 128 :=
  if i < len / 8 then 0xff
  else if i = len / 8 then (0xff <<< (8 - len % 8)) &&& 0xff
  else 0

/-- `rofl::build_mask_in6`. -/
def buildMaskIn6 (len : Nat) : BitVec 128 :=
  (List.range 16).foldl (fun mask i => mask <<< 8 ||| maskIn6Byte len i) 0

/-- The calls of `switch_interface` for the unicast routes, of either family: the destination is of
the family. -/
inductive SwRoute where
  | l3UnicastHostAdd (dst : Addr) (l3InterfaceId : Nat) (isEcmp updateRoute : Bool) (vrfId : Nat)
  | l3UnicastHostRemove (dst : Addr) (vrfId : Nat)
  | l3UnicastRouteAdd (dst mask : Addr) (l3InterfaceId : Nat) (isEcmp updateRoute : Bool)
      (vrfId : Nat)
  | l3UnicastRouteRemove (dst mask : Addr) (vrfId : Nat)
  deriving DecidableEq

/-- An entry of the routing tables of the switch; a host entry has no mask. -/
structure RouteEntry where
  dst : Addr
  mask : Option Addr
  vrfId : Nat
  deriving DecidableEq

/-- The entry that the flow-mod message of the controller is about. `driverVrf` is the VRF id that
`disable_ipv6_unicast_host` of the driver takes if it is called without one. -/
def SwRoute.entry (driverVrf : Nat) : SwRoute → RouteEntry
  | .l3UnicastHostAdd dst _ _ _ vrfId => ⟨dst, none, vrfId⟩
  | .l3UnicastHostRemove (.inet a) vrfId => ⟨.inet a, none, vrfId⟩
  | .l3UnicastHostRemove (.inet6 a) _ => ⟨.inet6 a, none, driverVrf⟩
  | .l3UnicastRouteAdd dst mask _ _ _ vrfId => ⟨dst, some mask, vrfId⟩
  | .l3UnicastRouteRemove dst mask vrfId => ⟨dst, some mask, vrfId⟩

namespace L3

/-- The table of the routes without a VRF. -/
def MAIN_ROUTING_TABLE : Nat := 254

/-- `add_l3_unicast_route(rt_dst, l3_interface_id, is_ecmp, update_route, vrf_id)`. -/
def addL3UnicastRouteDst (rtDst : Prefix) (l3InterfaceId : Nat) (isEcmp updateRoute : Bool)
    (vrfId : Nat) : SwRoute :=
  match rtDst.addr with
  | .inet a =>
    if rtDst.len = 32 then .l3UnicastHostAdd (.inet a) l3InterfaceId isEcmp updateRoute vrfId
    else .l3UnicastRouteAdd (.inet a) (.inet (buildMaskIn4 rtDst.len)) l3InterfaceId isEcmp
      updateRoute vrfId
  | .inet6 a =>
    if rtDst.len = 128 then .l3UnicastHostAdd (.inet6 a) l3InterfaceId isEcmp updateRoute vrfId
    else .l3UnicastRouteAdd (.inet6 a) (.inet6 (buildMaskIn6 rtDst.len)) l3InterfaceId isEcmp
      updateRoute vrfId

/-- `del_l3_unicast_route(rt_dst, vrf_id)`. -/
def delL3UnicastRouteDst (rtDst : Prefix) (vrfId : Nat) : SwRoute :=
  match rtDst.addr with
  | .inet a =>
    if rtDst.len = 32 then .l3UnicastHostRemove (.inet a) vrfId
    else .l3UnicastRouteRemove (.inet a) (.inet (buildMaskIn4 rtDst.len)) vrfId
  | .inet6 a =>
    if rtDst.len = 128 then .l3UnicastHostRemove (.inet6 a) vrfId
    else .l3UnicastRouteRemove (.inet6 a) (.inet6 (buildMaskIn6 rtDst.len)) vrfId

/-- The call of `add_l3_unicast_route(r, update_route)`: the table is compared as a `uint32_t` and
passed as a `uint16_t`. -/
def addL3UnicastRouteCall (r : L3Route) (routeDstInterface : Nat) (isEcmp updateRoute : Bool) :
    SwRoute :=
  let vrfId := if r.table = MAIN_ROUTING_TABLE then 0 else r.table
  addL3UnicastRouteDst r.dst routeDstInterface isEcmp updateRoute (u16 vrfId)

/-- The call of `nh_reachable_notification` and `nh_unreachable_notification`, for the route that
`get_route_by_nh_params` found: the destination is that of the callback. -/
def nhNotificationCall (p : L3Params) (route : L3Route) (routeDst : Nat) (isEcmp : Bool) :
    SwRoute :=
  let vrfId := if route.table = MAIN_ROUTING_TABLE then 0 else route.table
  addL3UnicastRouteDst p.dst routeDst isEcmp true (u16 vrfId)

/-- The call of `del_l3_unicast_route(r, false)`: the table is truncated to a `uint16_t` and then
compared. -/
def delL3UnicastRouteCall (r : L3Route) : SwRoute :=
  let vrfId := u16 r.table
  delL3UnicastRouteDst r.dst (if vrfId = MAIN_ROUTING_TABLE then 0 else vrfId)

/-- The entry is addressed by a path that programs the route. -/
inductive Programs (driverVrf : Nat) (r : L3Route) : RouteEntry → Prop
  | add (id : Nat) (isEcmp updateRoute : Bool) :
    Programs driverVrf r ((addL3UnicastRouteCall r id isEcmp updateRoute).entry driverVrf)
  | notification (installed : List L3Route) (p : L3Params) (id : Nat) (isEcmp : Bool)
      (hfound : getRouteByNhParams installed p = some r) :
    Programs driverVrf r ((nhNotificationCall p r id isEcmp).entry driverVrf)
  | del : Programs driverVrf r ((delL3UnicastRouteCall r).entry driverVrf)

/-- All paths of the route address one entry. -/
def OneEntry (driverVrf : Nat) (r : L3Route) : Prop :=
  ∀ e e', Programs driverVrf r e → Programs driverVrf r e' → e = e'

/-- Two routes of different tables below 2^16 share an entry only as tables 254 and 0. -/
def Apart (driverVrf : Nat) (r r' : L3Route) : Prop :=
  r.table < 2 ^ 16 → r'.table < 2 ^ 16 → r.table ≠ r'.table →
    ∀ e, Programs driverVrf r e → Programs driverVrf r' e →
      (r.table = 254 ∧ r'.table = 0) ∨ (r.table = 0 ∧ r'.table = 254)

/-- The route is to a single IPv6 address. -/
def IsIpv6Host (r : L3Route) : Prop := r.dst.addr.isInet = false ∧ r.dst.len = 128

instance (r : L3Route) : Decidable (IsIpv6Host r) := inferInstanceAs (Decidable (_ ∧ _))

/-- The VRF id of the additions. -/
def vrfOf (table : Nat) : Nat := u16 (if table = MAIN_ROUTING_TABLE then 0 else table)

/-- The two orders of comparison and truncation give the same VRF id for the table; for an IPv6
host it is the one that the driver takes. -/
def Consistent (driverVrf : Nat) (r : L3Route) : Prop :=
  if IsIpv6Host r then vrfOf r.table = driverVrf
  else r.table % 2 ^ 16 = 254 → r.table = 254

/-! ## The entries -/

section Entries

variable {driverVrf : Nat}

/-- The entry of a destination in a VRF. -/
def entryOf (dst : Prefix) (vrfId : Nat) : RouteEntry where
  dst := dst.addr
  mask := match dst.addr with
    | .inet _ => if dst.len = 32 then none else some (.inet (buildMaskIn4 dst.len))
    | .inet6 _ => if dst.len = 128 then none else some (.inet6 (buildMaskIn6 dst.len))
  vrfId := vrfId

theorem entryOf_inj {dst : Prefix} {v w : Nat} : entryOf dst v = entryOf dst w ↔ v = w := by
  simp [entryOf]

theorem entry_addDst (dst : Prefix) (id : Nat) (isEcmp updateRoute : Bool) (vrfId : Nat) :
    (addL3UnicastRouteDst dst id isEcmp updateRoute vrfId).entry driverVrf = entryOf dst vrfId := by
  unfold addL3UnicastRouteDst entryOf
  cases dst.addr with
  | inet a => dsimp only; split <;> rfl
  | inet6 a => dsimp only; split <;> rfl

theorem entry_delDst (dst : Prefix) (vrfId : Nat) :
    (delL3UnicastRouteDst dst vrfId).entry driverVrf =
      entryOf dst (if dst.addr.isInet = false ∧ dst.len = 128 then driverVrf else vrfId) := by
  unfold delL3UnicastRouteDst entryOf
  cases dst.addr with
  | inet a => dsimp only [Addr.isInet]; split <;> simp [SwRoute.entry]
  | inet6 a => dsimp only [Addr.isInet]; split <;> simp [SwRoute.entry, *]

/-- The VRF id of the deletion. -/
def vrfOfDel (driverVrf : Nat) (r : L3Route) : Nat :=
  if IsIpv6Host r then driverVrf
  else if u16 r.table = MAIN_ROUTING_TABLE then 0 else u16 r.table

/-- The paths of a route address two entries at most: that of the additions and that of the
deletion. -/
theorem programs_iff {r : L3Route} {e : RouteEntry} :
    Programs driverVrf r e ↔
      e = entryOf r.dst (vrfOf r.table) ∨ e = entryOf r.dst (vrfOfDel driverVrf r) := by
  constructor
  · rintro (⟨id, isEcmp, updateRoute⟩ | ⟨installed, p, id, isEcmp, hfound⟩ | -)
    · exact .inl (entry_addDst _ _ _ _ _)
    · have hp := List.find?_some hfound
      have hdst : r.dst = p.dst := by
        simp only [Bool.and_eq_true, beq_iff_eq] at hp
        exact hp.1.2
      rw [hdst]
      exact .inl (entry_addDst _ _ _ _ _)
    · exact .inr (entry_delDst _ _)
  · rintro (rfl | rfl)
    · have h : Programs driverVrf r _ := .add 0 false false
      rwa [addL3UnicastRouteCall, entry_addDst] at h
    · have h : Programs driverVrf r _ := .del
      rwa [delL3UnicastRouteCall, entry_delDst] at h

theorem vrfOf_eq (t : Nat) : vrfOf t = if t = 254 then 0 else t % 2 ^ 16 := by
  unfold vrfOf MAIN_ROUTING_TABLE u16
  split <;> rfl

theorem consistent_iff {r : L3Route} :
    Consistent driverVrf r ↔ vrfOf r.table = vrfOfDel driverVrf r := by
  unfold Consistent vrfOfDel
  by_cases h : IsIpv6Host r
  · rw [if_pos h, if_pos h]
  · rw [if_neg h, if_neg h]
    rw [vrfOf_eq, u16, MAIN_ROUTING_TABLE]
    by_cases hmain : r.table = 254
    · simp [hmain]
    · rw [if_neg hmain]
      by_cases hlow : r.table % 2 ^ 16 = 254
      · rw [if_pos hlow]
        omega
      · rw [if_neg hlow]
        omega

theorem oneEntry_iff {r : L3Route} : OneEntry driverVrf r ↔ Consistent driverVrf r := by
  rw [consistent_iff]
  constructor
  · intro h
    exact entryOf_inj.mp (h _ _ (programs_iff.mpr (.inl rfl)) (programs_iff.mpr (.inr rfl)))
  · intro h e e' he he'
    rw [programs_iff, ← h, or_self] at he he'
    rw [he, he']

theorem Consistent.apart {r r' : L3Route} (h : Consistent driverVrf r)
    (h' : Consistent driverVrf r') : Apart driverVrf r r' := by
  intro hlt hlt' hne e he he'
  rw [consistent_iff] at h h'
  rw [programs_iff, ← h, or_self] at he
  rw [programs_iff, ← h', or_self] at he'
  have hvrf : vrfOf r.table = vrfOf r'.table := congrArg RouteEntry.vrfId (he.symm.trans he')
  rw [vrfOf_eq, vrfOf_eq] at hvrf
  split_ifs at hvrf <;> omega

end Entries

/-- For any two routes, of any tables and destinations: each path of either route addresses the same
entry, and they share one only as tables 254 and 0, exactly if no table other than 254 ends in
16 bits with the value 254, and an IPv6 host route has the VRF id that the driver removes it from. -/
theorem sameEntries_iff (driverVrf : Nat) (r r' : L3Route) :
    (OneEntry driverVrf r ∧ OneEntry driverVrf r' ∧ Apart driverVrf r r') ↔
      Consistent driverVrf r ∧ Consistent driverVrf r' := by
  rw [oneEntry_iff, oneEntry_iff]
  constructor
  · exact fun ⟨h, h', _⟩ => ⟨h, h'⟩
  · exact fun ⟨h, h'⟩ => ⟨h, h', h.apart h'⟩

/-- A route in table 65790 = 2^16 + 254. -/
def route65790 : L3Route where
  dst := { addr := .inet 0x0a000200, len := 24 }
  table := 65790
  priority := 0
  protocol := RTPROT_KERNEL
  nexthops := []

/-- It is added in VRF 254 and removed from VRF 0. -/
theorem table65790_not_oneEntry : ¬ OneEntry 0 route65790 := by
  rw [oneEntry_iff]
  unfold Consistent
  decide

end L3

end Basebox
