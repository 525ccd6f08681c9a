import Basebox.Lib.Dispatch
import Basebox.Netlink.Vxlan

/-!
# The callback loops of `nl_l3`

A VXLAN remote that has no route through the switch, or whose next hop has no link-layer address,
is registered with `nl_l3`. `add_l3_unicast_route` walks `net_callbacks` and calls those in the
prefix of the new route; `add_l3_neigh` walks `nh_callbacks` and calls those with the new neighbour
as next hop. The callback creates the endpoint again, and in doing so may register again, at the
end of the list that is being walked.

* `netReachableNotification_callbacks`: what the callback registers. This depends on the tables of
  the kernel only, which do not change while a loop runs.
* `dispatched_iff`: a loop ends, with each callback called once at most, exactly if none of those
  that it calls registers itself again.
-/

namespace Basebox

/-- `nl_addr_cmp_prefix` of a whole address and a destination is zero. -/
def Addr.inPrefix : Addr → Addr → Nat → Bool
  | .inet a, .inet dst, prefixlen => a >>> (32 - prefixlen) == dst >>> (32 - prefixlen)
  | .inet6 a, .inet6 dst, prefixlen => a >>> (128 - prefixlen) == dst >>> (128 - prefixlen)
  | _, _, _ => false

namespace Vxlan

/-! ## What a callback registers -/

/-- The route to a remote has no next hop on the switch. -/
def netUnreachable (k : Kernel) (remote : Addr) : Bool :=
  match k.queryRoute remote with
  | none => false
  | some route => (getNexthopsOfRoute k route).isEmpty

/-- The interface and address of the next hop to a remote, if it has no link-layer address. -/
def nhUnresolved (k : Kernel) (remote : Addr) : Option (Int × Addr) :=
  match k.queryRoute remote with
  | none => none
  | some route =>
    match getNexthopsOfRoute k route with
    | [] => none
    | nhs =>
      let (ifindex, nhAddr) := pickNextHop nhs 0
      let nhAddr := nhAddr.getD remote
      match k.getNeighbour ifindex nhAddr with
      | some (some _) => none
      | _ => some (ifindex, nhAddr)

/-- The callback gets as far as looking for a next hop: there is such a VXLAN link, and both
addresses are IPv4. -/
def looksForNextHop (k : Kernel) (p : NetParams) : Bool :=
  match k.vxlanLink p.ifindex with
  | none => false
  | some link => link.isVxlan && p.addr.isInet && link.localAddr.any Addr.isInet

/-- What the callback appends to `net_callbacks`. -/
def netRegisters (k : Kernel) (p : NetParams) : List NetParams :=
  if looksForNextHop k p && netUnreachable k p.addr then [p] else []

/-- What the callback appends to `nh_callbacks`. -/
def nhRegisters (k : Kernel) (p : NetParams) : List (Receiver × NhParams) :=
  if looksForNextHop k p then
    (nhUnresolved k p.addr).toList.map fun (ifindex, nh) =>
      (.vxlan, { np := p, nh := { nh := nh, ifindex := ifindex } })
  else []

section Registers

variable (k : Kernel) (s : Vxlan) (link : VxlanLink)

theorem createNextHopNeigh_callbacks (ifindex : Int) (mac : Mac) :
    (createNextHopNeigh k s ifindex mac).2.2.netCallbacks = s.netCallbacks ∧
      (createNextHopNeigh k s ifindex mac).2.2.nhCallbacks = s.nhCallbacks := by
  unfold createNextHopNeigh
  cases k.linkByIfindex ifindex with
  | none => exact ⟨rfl, rfl⟩
  | some l =>
    simp only
    by_cases hp : l.portId = 0
    · simp only [hp, if_true, and_self]
    · simp only [hp, if_false]
      cases l.addr with
      | none => exact ⟨rfl, rfl⟩
      | some srcMac =>
        simp only
        split <;> exact ⟨rfl, rfl⟩

/-- The three ways out of `create_next_hop`: no next hop on the switch, a next hop that is not
resolved, and the rest. -/
theorem createNextHop_callbacks (remote : Addr) :
    ((createNextHop k s link remote).1 = -ENETUNREACH ↔ netUnreachable k remote = true) ∧
      (createNextHop k s link remote).2.2.netCallbacks = s.netCallbacks ∧
      (createNextHop k s link remote).2.2.nhCallbacks = s.nhCallbacks ++
        (nhUnresolved k remote).toList.map fun (ifindex, nh) =>
          (.vxlan, { np := { addr := remote, ifindex := link.ifindex }
                     nh := { nh := nh, ifindex := ifindex } }) := by
  unfold createNextHop netUnreachable nhUnresolved
  cases k.queryRoute remote with
  | none => simp [EINVAL, ENETUNREACH]
  | some route =>
    simp only
    cases getNexthopsOfRoute k route with
    | nil => simp
    | cons nh nhs =>
      simp only
      generalize pickNextHop (nh :: nhs) 0 = picked
      obtain ⟨ifindex, nhAddr⟩ := picked
      simp only
      cases k.getNeighbour ifindex (nhAddr.getD remote) with
      | none => simp [EDESTADDRREQ, ENETUNREACH]
      | some lladdr =>
        cases lladdr with
        | none => simp [EDESTADDRREQ, ENETUNREACH]
        | some mac =>
          obtain ⟨hnet, hnh⟩ := createNextHopNeigh_callbacks k s ifindex mac
          refine ⟨?_, by simpa using hnet, by simpa using hnh⟩
          simp only [List.isEmpty_cons, Bool.false_eq_true, iff_false, EINVAL, ENETUNREACH]
          split <;> omega

theorem createEndpointPort_callbacks (loc remote : Addr) (nhId : Nat) :
    (s.createEndpointPort link loc remote nhId).2.netCallbacks = s.netCallbacks ∧
      (s.createEndpointPort link loc remote nhId).2.nhCallbacks = s.nhCallbacks := by
  simp only [createEndpointPort]
  cases s.endpoints.endpointId.find (link.endpointPort loc remote) <;> exact ⟨rfl, rfl⟩

theorem addL2NeighPort_callbacks (mac : Mac) (lport tunnelId : Nat) :
    (s.addL2NeighPort mac lport tunnelId).2.netCallbacks = s.netCallbacks ∧
      (s.addL2NeighPort mac lport tunnelId).2.nhCallbacks = s.nhCallbacks := by
  unfold addL2NeighPort
  split <;> exact ⟨rfl, rfl⟩

theorem setupEndpoint_callbacks (remote : Addr) (lport tunnelId : Nat) :
    (setupEndpoint k s link remote lport tunnelId).2.netCallbacks = s.netCallbacks ∧
      (setupEndpoint k s link remote lport tunnelId).2.nhCallbacks = s.nhCallbacks := by
  unfold setupEndpoint
  constructor
  · refine (run_frame (f := fun p : Int × Vxlan => p.2.netCallbacks)
      (fun p mac => (addL2NeighPort_callbacks p.2 mac lport tunnelId).1) _ _).trans ?_
    simp only
    split <;> rfl
  · refine (run_frame (f := fun p : Int × Vxlan => p.2.nhCallbacks)
      (fun p mac => (addL2NeighPort_callbacks p.2 mac lport tunnelId).2) _ _).trans ?_
    simp only
    split <;> rfl

/-- `create_endpoint`, of an IPv4 remote and an IPv4 local, registers as `create_next_hop` says. -/
theorem createEndpointRemote_callbacks {loc : Addr} (hloc : link.localAddr = some loc)
    (hl : loc.isInet = true) {remote : Addr} (hr : remote.isInet = true) :
    (createEndpointRemote k s link remote).2.netCallbacks = s.netCallbacks ++
        (if netUnreachable k remote then [{ addr := remote, ifindex := link.ifindex }] else []) ∧
      (createEndpointRemote k s link remote).2.nhCallbacks = s.nhCallbacks ++
        (nhUnresolved k remote).toList.map fun (ifindex, nh) =>
          (.vxlan, { np := { addr := remote, ifindex := link.ifindex }
                     nh := { nh := nh, ifindex := ifindex } }) := by
  obtain ⟨hrv, hnet, hnh⟩ := createNextHop_callbacks k s link remote
  unfold createEndpointRemote
  simp only [hloc, hl, hr, Bool.not_true, Bool.false_eq_true, if_false]
  rw [← hnh]
  generalize createNextHop k s link remote = r at hrv hnet ⊢
  obtain ⟨rv, nhId, s₁⟩ := r
  simp only at hrv hnet ⊢
  by_cases hunreach : rv = -ENETUNREACH
  · rw [if_pos hunreach, if_pos (hrv.mp hunreach), ← hnet]
    exact ⟨rfl, rfl⟩
  · rw [if_neg hunreach, if_neg (fun h => hunreach (hrv.mpr h)), List.append_nil, ← hnet]
    by_cases hneg : rv < 0
    · rw [if_pos hneg]
      exact ⟨rfl, rfl⟩
    · rw [if_neg hneg]
      cases s₁.vni2tunnel.lookup link.vni with
      | none => exact ⟨rfl, rfl⟩
      | some tunnelId =>
        obtain ⟨hpnet, hpnh⟩ := createEndpointPort_callbacks s₁ link loc remote nhId
        simp only
        generalize s₁.createEndpointPort link loc remote nhId = q at hpnet hpnh ⊢
        obtain ⟨hsnet, hsnh⟩ := setupEndpoint_callbacks k q.2 link remote q.1 tunnelId
        exact ⟨hsnet.trans hpnet, hsnh.trans hpnh⟩

theorem createEndpointRemote_of_not_inet {remote : Addr}
    (h : (remote.isInet && link.localAddr.any Addr.isInet) = false) :
    (createEndpointRemote k s link remote).2 = s := by
  unfold createEndpointRemote
  cases hr : remote.isInet with
  | false => rfl
  | true =>
    cases hloc : link.localAddr with
    | none => rfl
    | some loc =>
      have hl : loc.isInet = false := by simpa [hr, hloc] using h
      simp [hl]

theorem netReachableNotification_callbacks (p : NetParams) :
    (netReachableNotification k s p).netCallbacks = s.netCallbacks ++ netRegisters k p ∧
      (netReachableNotification k s p).nhCallbacks = s.nhCallbacks ++ nhRegisters k p := by
  unfold netReachableNotification netRegisters nhRegisters looksForNextHop
  cases hlink : k.vxlanLink p.ifindex with
  | none => simp
  | some link =>
    have hif : link.ifindex = p.ifindex := k.ifindex_vxlanLink hlink
    by_cases hv : link.isVxlan = true
    · by_cases hinet : (p.addr.isInet && link.localAddr.any Addr.isInet) = true
      · obtain ⟨hr, hany⟩ := Bool.and_eq_true_iff.mp hinet
        obtain ⟨loc, hloc, hl⟩ := (Option.any_eq_true _ _).mp hany
        obtain ⟨hnet, hnh⟩ := createEndpointRemote_callbacks k s link hloc hl hr
        simp only [hv, hinet, Bool.not_true, Bool.false_eq_true, if_false, Bool.true_and, if_true,
          hnet, hnh, hif, and_self]
      · rw [Bool.not_eq_true] at hinet
        simp [hv, createEndpointRemote_of_not_inet k s link hinet, hinet]
    · simp [hv]

end Registers

/-! ## The loops -/

/-- The loop of `add_l3_unicast_route` over `net_callbacks`, for a route to `dst`. -/
def netDispatcher (k : Kernel) (dst : Addr) (prefixlen : Nat) : Dispatcher Vxlan NetParams where
  items s := s.netCallbacks
  setItems s l := { s with netCallbacks := l }
  hit p := p.addr.inPrefix dst prefixlen
  call s p := netReachableNotification k s p
  added := netRegisters k
  items_setItems _ _ := rfl
  items_call s p := (netReachableNotification_callbacks k s p).1

/-- `nh_reachable_notification`. That of `nl_l3` updates the route and appends to
`nh_unreach_callbacks`, but to neither of the lists here. -/
def nhReachableNotification (k : Kernel) (s : Vxlan) : Receiver × NhParams → Vxlan
  | (.vxlan, p) => netReachableNotification k s p.np
  | (.l3, _) => s

/-- The loop of `add_l3_neigh` over `nh_callbacks`, for a neighbour `dst` on `ifindex`. -/
def nhDispatcher (k : Kernel) (ifindex : Int) (dst : Addr) :
    Dispatcher Vxlan (Receiver × NhParams) where
  items s := s.nhCallbacks
  setItems s l := { s with nhCallbacks := l }
  hit cb := decide (cb.2.nh.ifindex = ifindex ∧ cb.2.nh.nh = dst)
  call s cb := nhReachableNotification k s cb
  added
    | (.vxlan, p) => nhRegisters k p.np
    | (.l3, _) => []
  items_setItems _ _ := rfl
  items_call s cb := by
    obtain ⟨receiver, p⟩ := cb
    cases receiver with
    | vxlan => exact (netReachableNotification_callbacks k s p.np).2
    | l3 => exact (List.append_nil _).symm

/-- A loop over callbacks ends, and calls no callback more often than it was registered before. -/
def Dispatched {α : Type} [DecidableEq α] (d : Dispatcher Vxlan α) (s : Vxlan) : Prop :=
  ∃ n r, d.loop n s = some r ∧ ∀ a, r.called.count a ≤ (d.items s).count a

theorem dispatched_of_returns {α : Type} [DecidableEq α] {d : Dispatcher Vxlan α} {s : Vxlan}
    (h : ∀ a ∈ d.items s, d.hit a = true → ∀ b ∈ d.added a, d.hit b = false) :
    Dispatched d s := by
  obtain ⟨n, r, hn, hc⟩ := Dispatcher.returns h
  refine ⟨n, r, hn, fun a => ?_⟩
  rw [hc]
  exact List.filter_sublist.count_le a

theorem not_dispatched_of_diverges {α : Type} [DecidableEq α] {d : Dispatcher Vxlan α} {s : Vxlan}
    (P : α → Prop) (hP : ∀ a, P a → d.hit a = true ∧ ∃ b ∈ d.added a, P b)
    (h : ∃ a ∈ d.items s, P a) : ¬ Dispatched d s := by
  rintro ⟨n, r, hn, -⟩
  rw [Dispatcher.diverges hP h n] at hn
  cases hn

/-- No callback in the prefix finds a route without a next hop on the switch. -/
def NetSettles (k : Kernel) (s : Vxlan) (dst : Addr) (prefixlen : Nat) : Prop :=
  ∀ p ∈ s.netCallbacks, p.addr.inPrefix dst prefixlen = true → looksForNextHop k p = true →
    netUnreachable k p.addr = false

/-- No callback of a VXLAN link for this neighbour finds that it is its next hop and has no
link-layer address. -/
def NhSettles (k : Kernel) (s : Vxlan) (ifindex : Int) (dst : Addr) : Prop :=
  ∀ p, (.vxlan, p) ∈ s.nhCallbacks → p.nh.ifindex = ifindex → p.nh.nh = dst →
    looksForNextHop k p.np = true →
    nhUnresolved k p.np.addr ≠ some (ifindex, dst)

theorem netDispatched_iff (k : Kernel) (s : Vxlan) (dst : Addr) (prefixlen : Nat) :
    Dispatched (netDispatcher k dst prefixlen) s ↔ NetSettles k s dst prefixlen := by
  constructor
  · intro h p hp hhit hlook
    by_contra hun
    rw [Bool.not_eq_false] at hun
    -- the callback appends itself
    have hself : netRegisters k p = [p] := by simp [netRegisters, hlook, hun]
    refine not_dispatched_of_diverges (· = p) ?_ ⟨p, hp, rfl⟩ h
    intro a ha
    rw [ha]
    exact ⟨hhit, p, by simp [netDispatcher, hself], rfl⟩
  · intro h
    refine dispatched_of_returns fun p hp hhit b hb => ?_
    simp only [netDispatcher, netRegisters] at hb
    split at hb
    · next hc =>
      obtain ⟨hlook, hun⟩ := Bool.and_eq_true_iff.mp hc
      rw [h p hp hhit hlook] at hun
      cases hun
    · cases hb

theorem nhDispatched_iff (k : Kernel) (s : Vxlan) (ifindex : Int) (dst : Addr) :
    Dispatched (nhDispatcher k ifindex dst) s ↔ NhSettles k s ifindex dst := by
  constructor
  · intro h p hp hif hnh hlook hun
    -- what the callback appends is hit too, and appends itself
    let P : Receiver × NhParams → Prop := fun cb =>
      cb.1 = .vxlan ∧ cb.2.np = p.np ∧ cb.2.nh.ifindex = ifindex ∧ cb.2.nh.nh = dst
    refine not_dispatched_of_diverges P ?_ ⟨_, hp, rfl, rfl, hif, hnh⟩ h
    rintro ⟨receiver, q⟩ ⟨hv, hnp, hqif, hqnh⟩
    simp only at hv hnp hqif hqnh
    subst hv
    refine ⟨by simp [nhDispatcher, hqif, hqnh], (.vxlan, ⟨p.np, ⟨dst, ifindex, 0⟩⟩), ?_,
      rfl, rfl, rfl, rfl⟩
    simp [nhDispatcher, nhRegisters, hnp, hlook, hun]
  · intro h
    refine dispatched_of_returns ?_
    rintro ⟨receiver, p⟩ hp hhit b hb
    cases receiver with
    | l3 => cases hb
    | vxlan =>
      obtain ⟨hif, hnh⟩ : p.nh.ifindex = ifindex ∧ p.nh.nh = dst := by
        simpa [nhDispatcher] using hhit
      simp only [nhDispatcher, nhRegisters] at hb
      split at hb
      · next hlook =>
        obtain ⟨⟨i, nh⟩, hmem, rfl⟩ := List.mem_map.mp hb
        have hun : nhUnresolved k p.np.addr = some (i, nh) := by simpa using hmem
        have hne := h p hp hif hnh hlook
        rw [hun] at hne
        simpa [nhDispatcher] using hne
      · cases hb

/-- **The callback loops.** Each of the two loops ends, with no callback called more often than it
was registered, exactly if no callback that it calls registers itself again. -/
theorem dispatched_iff (k : Kernel) (s : Vxlan) (dst : Addr) (prefixlen : Nat) (ifindex : Int)
    (nh : Addr) :
    (Dispatched (netDispatcher k dst prefixlen) s ↔ NetSettles k s dst prefixlen) ∧
      (Dispatched (nhDispatcher k ifindex nh) s ↔ NhSettles k s ifindex nh) :=
  ⟨netDispatched_iff k s dst prefixlen, nhDispatched_iff k s ifindex nh⟩

/-- A kernel with a VXLAN link 10, in which the route to every remote goes out of interface 2, that
is not one of the switch. -/
def offSwitchKernel : Kernel where
  queryRoute _ := some [{ ifindex := 2, gateway := none, via := none }]
  isSwitchInterface _ := false
  getNeighbour _ _ := none
  linkByIfindex _ := none
  vxlanLink ifindex :=
    if ifindex = 10 then
      some { ifindex := 10, vni := 1, group := some (.inet 0x0a000202)
             localAddr := some (.inet 0x0a000001), port := some 4789, mac := 1 }
    else none
  ifindex_vxlanLink h := by
    split at h
    · cases h
      symm
      assumption
    · cases h
  isPortFlooding _ := true
  fdb _ _ := []
  portUntaggedVid := 1

/-- The loop does not end for a route to 10.0.0.0/8, when 10.0.2.2 is registered and the kernel has
a longer prefix for it that is not on the switch. -/
theorem offSwitchRoute_not_dispatched :
    ¬ Dispatched (netDispatcher offSwitchKernel (.inet 0x0a000000) 8)
      { netCallbacks := [{ addr := .inet 0x0a000202, ifindex := 10 }] } := by
  rw [netDispatched_iff]
  intro h
  have := h { addr := .inet 0x0a000202, ifindex := 10 } (by simp) (by decide) (by decide)
  revert this
  decide

end Vxlan

end Basebox
