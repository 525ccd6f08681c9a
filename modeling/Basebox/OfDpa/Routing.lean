import Basebox.Netlink.RouteEntries

/-!
# The unicast routing tables of the switch (`src/of-dpa/controller.cc`)

A host and a route get one flow each, that points to the controller, to an L3 unicast group or to an
ECMP group. The functions for hosts and for routes are alike but for two things: a host may not point
to ECMP group 0, and the removal of an IPv6 host passes no VRF id on.

* `SwRoute.flowMsg`: the result of each function and the message it sends.
* `Flows.apply`: what the switch does with it.
* `hostTarget_iff`: a host gets the target that a route gets.
-/

namespace Basebox

/-- What a flow of the routing tables points to. -/
inductive FlowTarget where
  | controller
  | l3Unicast (id : Nat)
  | l3Ecmp (id : Nat)
  deriving DecidableEq

/-- A flow-mod message: an entry is set, or only modified if `updateRoute`, or deleted. -/
inductive FlowMsg where
  | enable (e : RouteEntry) (target : FlowTarget) (updateRoute : Bool)
  | disable (e : RouteEntry)
  deriving DecidableEq

/-- The group that the additions make of an id: none for 0, which is the controller. -/
def flowTarget (l3InterfaceId : Nat) (isEcmp : Bool) : FlowTarget :=
  if l3InterfaceId ≠ 0 then
    if isEcmp then .l3Ecmp l3InterfaceId else .l3Unicast l3InterfaceId
  else .controller

/-- `l3_unicast_host_add`, of either family, up to the message. -/
def l3UnicastHostAdd (dst : Addr) (l3InterfaceId : Nat) (isEcmp updateRoute : Bool) (vrfId : Nat) :
    Int × Option FlowMsg :=
  if l3InterfaceId > 0x0fffffff then (-EINVAL, none)
  else if isEcmp && l3InterfaceId == 0 then (-EINVAL, none)
  else (0, some (.enable ⟨dst, none, vrfId⟩ (flowTarget l3InterfaceId isEcmp) updateRoute))

/-- `l3_unicast_route_add`, of either family. -/
def l3UnicastRouteAdd (dst mask : Addr) (l3InterfaceId : Nat) (isEcmp updateRoute : Bool)
    (vrfId : Nat) : Int × Option FlowMsg :=
  if l3InterfaceId > 0x0fffffff then (-EINVAL, none)
  else (0, some (.enable ⟨dst, some mask, vrfId⟩ (flowTarget l3InterfaceId isEcmp) updateRoute))

/-- The functions for hosts and routes: the result, where the message could be sent, and the message.
`driverVrf` is the VRF id that `disable_ipv6_unicast_host` of the driver takes if it is called without
one. -/
def SwRoute.flowMsg (driverVrf : Nat) : SwRoute → Int × Option FlowMsg
  | .l3UnicastHostAdd dst id isEcmp updateRoute vrfId =>
    Basebox.l3UnicastHostAdd dst id isEcmp updateRoute vrfId
  | .l3UnicastRouteAdd dst mask id isEcmp updateRoute vrfId =>
    Basebox.l3UnicastRouteAdd dst mask id isEcmp updateRoute vrfId
  | .l3UnicastHostRemove dst vrfId =>
    (0, some (.disable (SwRoute.l3UnicastHostRemove dst vrfId |>.entry driverVrf)))
  | .l3UnicastRouteRemove dst mask vrfId =>
    (0, some (.disable (SwRoute.l3UnicastRouteRemove dst mask vrfId |>.entry driverVrf)))

/-- The flows of the routing tables. -/
abbrev Flows := Table RouteEntry FlowTarget

/-- The switch handles a message. -/
def Flows.apply (t : Flows) : FlowMsg → Flows
  | .enable e target updateRoute => if updateRoute ∧ e ∉ t then t else t.insert e target
  | .disable e => t.erase e

/-- A call with the switch connected. -/
def Flows.call (driverVrf : Nat) (t : Flows) (c : SwRoute) : Flows :=
  match (c.flowMsg driverVrf).2 with
  | none => t
  | some m => Flows.apply t m

/-- The message is for the entry of the call. -/
theorem SwRoute.entry_of_flowMsg {driverVrf : Nat} {c : SwRoute} {m : FlowMsg}
    (h : (c.flowMsg driverVrf).2 = some m) :
    (∃ t u, m = .enable (c.entry driverVrf) t u) ∨ m = .disable (c.entry driverVrf) := by
  cases c with
  | l3UnicastHostAdd dst id isEcmp updateRoute vrfId =>
    simp only [SwRoute.flowMsg, Basebox.l3UnicastHostAdd] at h
    split_ifs at h
    exact .inl ⟨_, _, (Option.some.inj h).symm⟩
  | l3UnicastRouteAdd dst mask id isEcmp updateRoute vrfId =>
    simp only [SwRoute.flowMsg, Basebox.l3UnicastRouteAdd] at h
    split_ifs at h
    exact .inl ⟨_, _, (Option.some.inj h).symm⟩
  | l3UnicastHostRemove dst vrfId => exact .inr (Option.some.inj h).symm
  | l3UnicastRouteRemove dst mask vrfId => exact .inr (Option.some.inj h).symm

/-- A call leaves the other entries as they are. -/
theorem Flows.lookup_call_of_ne {driverVrf : Nat} (t : Flows) (c : SwRoute) {e : RouteEntry}
    (he : e ≠ c.entry driverVrf) : (Flows.call driverVrf t c).lookup e = t.lookup e := by
  unfold Flows.call
  cases hm : (c.flowMsg driverVrf).2 with
  | none => rfl
  | some m =>
    rcases c.entry_of_flowMsg hm with ⟨target, u, rfl⟩ | rfl
    · simp only [Flows.apply]
      split
      · rfl
      · exact AList.lookup_insert_ne he
    · exact AList.lookup_erase_ne he

/-- As a host, a destination gets the target that it gets as a route, and the call succeeds, exactly if
the id is in range and is not that of ECMP group 0. -/
theorem hostTarget_iff (dst mask : Addr) (id : Nat) (isEcmp updateRoute : Bool) (vrfId : Nat) :
    (∃ target e e', l3UnicastHostAdd dst id isEcmp updateRoute vrfId =
        (0, some (.enable e target updateRoute)) ∧
      l3UnicastRouteAdd dst mask id isEcmp updateRoute vrfId =
        (0, some (.enable e' target updateRoute))) ↔
      id ≤ 0x0fffffff ∧ (isEcmp = true → id ≠ 0) := by
  unfold l3UnicastHostAdd l3UnicastRouteAdd
  by_cases hid : id > 0x0fffffff
  · refine iff_of_false ?_ fun h => by omega
    simp [hid]
  · rw [if_neg hid, if_neg hid]
    by_cases hz : isEcmp = true ∧ id = 0
    · refine iff_of_false ?_ fun h => h.2 hz.1 hz.2
      simp [hz]
    · refine iff_of_true ⟨flowTarget id isEcmp, ⟨dst, none, vrfId⟩, ⟨dst, some mask, vrfId⟩, ?_, rfl⟩
        ⟨by omega, fun he h0 => hz ⟨he, h0⟩⟩
      rw [if_neg]
      simpa using hz

end Basebox
