import Basebox.Netlink.L3Tables

/-!
# Runs in which routes come and go

* `HasGateways`: the next hops that a route is read from can be read. `looksUp_of_resolved`: such a
  route can be looked up by the callbacks, if its next hops are resolved.
* `Ready`: the callbacks that wait will find an id. `Good.addL3UnicastRoute_returns`,
  `Good.delL3UnicastRoute_returns`: the two functions return then.
* `accounted_run`: every state of a run is accounted for, and no event ends it.
-/

namespace Basebox

namespace L3

variable {env : L3Env} {sw : L3Switch} {base : List (Nat × Nat)}
variable {ecmp : List (Finset NhStub)} {s s' : L3} {r : L3Route} {n : Int × Addr} {p : L3Params}
variable {rv : Int} {nhs : NhStub.Set}

/-! ## Routes that can be read -/

section Read

/-- The next hop objects that a route leads to have gateways, as far as they are on interfaces of the
switch. -/
def HasGateways (env : L3Env) (r : L3Route) : Prop :=
  ∀ obj, env.nhById r.nhid = some obj →
    ∀ nh ∈ if obj.group.length > 0 then obj.group.filterMap env.nhById else [obj],
      isSwitchInterface env nh.oif = true → nh.gateway ≠ none

theorem foldlM_emplace_returns (nhid : Nat) {objs : List NhObject}
    (h : ∀ nh ∈ objs, nh.gateway ≠ none) (l : NhStub.Set) :
    ∃ nhs, objs.foldlM (fun nhs nh => nh.gateway.map fun addr =>
      NhStub.Set.emplace nhs { nh := addr, ifindex := nh.oif, nhid := nhid }) l = some nhs := by
  induction objs generalizing l with
  | nil => exact ⟨l, rfl⟩
  | cons nh objs ih =>
    obtain ⟨hnh, hobjs⟩ := List.forall_mem_cons.mp h
    obtain ⟨addr, haddr⟩ := Option.ne_none_iff_exists'.mp hnh
    rw [List.foldlM_cons, haddr]
    exact ih hobjs _

theorem getNeighboursOfRoute_returns (h : HasGateways env r) :
    ∃ rv nhs, getNeighboursOfRoute env r = some (rv, nhs) := by
  unfold getNeighboursOfRoute
  by_cases hnh : r.nexthops.length > 0
  · rw [if_pos hnh]
    dsimp only
    split <;> exact ⟨_, _, rfl⟩
  · rw [if_neg hnh]
    by_cases hid : r.nhid = 0
    · rw [if_pos hid]
      exact ⟨_, _, rfl⟩
    · rw [if_neg hid]
      cases hobj : env.nhById r.nhid with
      | none => exact ⟨_, _, rfl⟩
      | some obj =>
        obtain ⟨nhs, hnhs⟩ := foldlM_emplace_returns r.nhid
          (fun nh hm => h obj hobj nh (List.mem_filter.mp hm).1 (List.mem_filter.mp hm).2) []
        dsimp only
        rw [hnhs]
        exact ⟨_, _, rfl⟩

theorem isSwitchInterface_of_foldlM {nhid : Nat} {objs : List NhObject} {l : NhStub.Set}
    (hobjs : ∀ nh ∈ objs, isSwitchInterface env nh.oif = true)
    (hl : ∀ nh ∈ l, isSwitchInterface env nh.ifindex = true)
    (h : objs.foldlM (fun nhs nh => nh.gateway.map fun addr =>
      NhStub.Set.emplace nhs { nh := addr, ifindex := nh.oif, nhid := nhid }) l = some nhs) :
    ∀ nh ∈ nhs, isSwitchInterface env nh.ifindex = true := by
  induction objs generalizing l with
  | nil =>
    cases h
    exact hl
  | cons obj objs ih =>
    obtain ⟨hobj, hobjs⟩ := List.forall_mem_cons.mp hobjs
    obtain ⟨l', hl', h⟩ := Option.bind_eq_some_iff.mp h
    obtain ⟨addr, -, rfl⟩ := Option.map_eq_some_iff.mp hl'
    refine ih hobjs (fun nh hnh => ?_) h
    rcases mem_emplace.mp hnh with rfl | hnh
    · exact hobj
    · exact hl nh hnh

/-- The next hops of a route are on interfaces of the switch. -/
theorem isSwitchInterface_of_mem (hg : getNeighboursOfRoute env r = some (rv, nhs)) :
    ∀ nh ∈ nhs, isSwitchInterface env nh.ifindex = true := by
  unfold getNeighboursOfRoute at hg
  split at hg
  · dsimp only at hg
    split at hg
    · cases hg
      exact fun _ h => absurd h List.not_mem_nil
    · cases hg
      refine List.foldlRecOn
        (motive := fun nhs : NhStub.Set => ∀ nh ∈ nhs, isSwitchInterface env nh.ifindex = true)
        _ _ (fun _ h => absurd h List.not_mem_nil) fun nhs hnhs nh hnh => ?_
      split
      · exact hnhs
      · intro m hm
        rcases mem_emplace.mp hm with rfl | hm
        · exact (List.mem_filter.mp hnh).2
        · exact hnhs m hm
  · split at hg
    · cases hg
      exact fun _ h => absurd h List.not_mem_nil
    · split at hg
      · cases hg
        exact fun _ h => absurd h List.not_mem_nil
      · dsimp only at hg
        obtain ⟨nhs', hfold, heq⟩ := Option.map_eq_some_iff.mp hg
        cases heq
        exact isSwitchInterface_of_foldlM (fun nh hm => (List.mem_filter.mp hm).2)
          (fun _ h => absurd h List.not_mem_nil) hfold

/-- Resolved next hops can be looked up. -/
theorem looksUp_of_resolved (h : HasGateways env r)
    (hres : ∀ p ∈ refsOfRoute env r, Resolved env p.nh.neigh) : LooksUp env r := by
  obtain ⟨rv, nhs, hg⟩ := getNeighboursOfRoute_returns h
  refine ⟨rv, nhs, hg, fun nh hnh => ?_⟩
  obtain ⟨dMac, hn, hlink⟩ := resolved_nhs hg hres nh hnh
  have hsw := isSwitchInterface_of_mem hg nh hnh
  cases hl : env.link nh.ifindex with
  | none => simp [isSwitchInterface, hl] at hsw
  | some link =>
    simp only [searchedEgress, hn, hl, Option.bind_some, Option.isSome_map]
    exact hlink link hl

end Read

/-! ## Calls that return -/

section Returns

/-- A neighbour that takes an egress group gets the result 0, where the switch gives no other. -/
theorem addL3NeighEgress_eq_zero (hok : sw.Ok) (hsw : ∀ k, sw.egressCreate k ≤ 0) {nud : Nud}
    (hn : env.neigh n = some nud) {k : EgressKey} (hk : egressKey env n = some k) (t : L3) :
    (t.addL3NeighEgress env sw n nud).1 = 0 := by
  have hegress (t : L3) (i : Int) (vid : Nat) (sMac dMac : Mac) (hi : getPortId env i ≠ 0) :
      (t.addL3Egress env sw i vid sMac dMac).1 = 0 := by
    rw [addL3Egress_rv t i vid sMac dMac hi]
    split
    · rfl
    · exact le_antisymm (hsw _) (hok.egressCreate _)
  have hvlan (port : L3Link) {vid : Nat} (hvid : isVidValid vid = true) (hport : port.portId ≠ 0) :
      ¬ (t.addVlan sw (some port) vid).1 < 0 := by
    rw [addVlan_rv t port hvid hport, not_lt]
    split
    · exact le_refl 0
    · exact hok.enableVlan _
  unfold egressKey at hk
  rw [hn] at hk
  cases nud with
  | failed | incomplete => cases hk
  | valid dMac =>
    cases hl : env.link n.1 with
    | none => simp [hl] at hk
    | some link =>
      simp only [hl] at hk
      cases hi : egressIfindex env link n dMac with
      | none => simp [hi] at hk
      | some i =>
        simp only [hi] at hk
        obtain ⟨⟨hvid, hport⟩, -⟩ := Option.ite_none_right_eq_some.mp hk
        obtain ⟨port, hp, hne⟩ := link_of_getPortId hport
        cases hb : link.isBridge with
        | true =>
          have hfdb : env.searchFdb link.vid dMac = some i := by simpa [egressIfindex, hb] using hi
          have hv := hvlan port hvid hne
          simp only [addL3NeighEgress, hl, hb, hfdb, hp, if_true, if_neg hv]
          exact hegress _ i link.vid link.addr dMac hport
        | false =>
          obtain rfl : n.1 = i := by simpa [egressIfindex, hb] using hi
          obtain rfl : link = port := Option.some.inj (hl.symm.trans hp)
          have hv := hvlan link hvid hne
          simp only [addL3NeighEgress, hl, hb, Bool.false_eq_true, if_false, if_neg hv]
          exact hegress _ n.1 link.vid link.addr dMac hport

/-- The routes that are there can be looked up, and each callback that waits finds the route of its
next hop. -/
structure Ready (env : L3Env) (s : L3) : Prop where
  looksUp : ∀ route ∈ s.installed, route.isUnicast = true → LooksUp env route
  waiting : ∀ p ∈ s.nhCallbacks, hasEgress env p = true ∧ FindsRoute env s.installed p

theorem Ready.mono (h : Ready env s) (hi : s'.installed = s.installed)
    (hcb : ∀ p ∈ s'.nhCallbacks, p ∈ s.nhCallbacks) : Ready env s' where
  looksUp := hi ▸ h.looksUp
  waiting p hp := hi ▸ h.waiting p (hcb p hp)

theorem Ready.answers (h : Ready env s) (hp : p ∈ s.nhCallbacks) {nud : Nud}
    (hn : env.neigh p.nh.neigh = some nud) : Answers env s nud p := by
  intro route hroute
  obtain ⟨hk, hfind⟩ := h.waiting p hp
  obtain ⟨hmem, huni⟩ := mem_of_getRouteByNhParams hroute
  obtain ⟨rv, nhs, hg, hlook⟩ := h.looksUp route hmem huni
  refine ⟨rv, nhs, hg, hlook, .inl ⟨mem_nhs_of_mem_refs hg (hfind route hroute), ?_⟩⟩
  rintro rfl
  simp [hasEgress, egressKey, hn] at hk

theorem Ready.notifyReachable (h : Ready env s) (hok : sw.Ok) (hsw : ∀ k, sw.egressCreate k ≤ 0)
    {nud : Nud} (hn : env.neigh n = some nud) :
    ∃ s', s.notifyReachable env sw n nud = some s' := by
  by_cases hw : ∃ p ∈ s.nhCallbacks, p.nh.neigh = n
  · obtain ⟨p, hp, rfl⟩ := hw
    obtain ⟨k, hk⟩ := Option.isSome_iff_exists.mp (h.waiting p hp).1
    exact notifyReachable_returns (fun q hq hqn => h.answers hq (hqn ▸ hn))
      fun _ t => addL3NeighEgress_eq_zero hok hsw hn hk t
  · have hnil : (s.nhCallbacks.filter fun p => p.nh.neigh == n) = [] := by
      rw [List.filter_eq_nil_iff]
      exact fun p hp hpn => hw ⟨p, hp, beq_iff_eq.mp hpn⟩
    unfold L3.notifyReachable
    rw [hnil]
    exact ⟨_, rfl⟩

theorem Ready.addL3Neigh (h : Ready env s) (hok : sw.Ok) (hsw : ∀ k, sw.egressCreate k ≤ 0)
    {nud : Nud} (hn : env.neigh n = some nud) : ∃ s', s.addL3Neigh env sw n nud = some s' := by
  unfold L3.addL3Neigh
  dsimp only
  split
  · exact h.notifyReachable hok hsw hn
  · split
    · obtain ⟨g, pv, hgp, -⟩ := addL3NeighEgress_spec env sw
        { s with routableL3Neighs :=
          NhStub.Set.emplace s.routableL3Neighs { nh := n.2, ifindex := n.1 } } n nud
      rw [hgp]
      split
      · exact ⟨_, rfl⟩
      · split
        · exact ⟨_, rfl⟩
        · refine Ready.notifyReachable ?_ hok hsw hn
          exact h.mono rfl fun _ hp => hp
    · exact ⟨_, rfl⟩

theorem Ready.enableNeigh (h : Ready env s) (hok : sw.Ok) (hsw : ∀ k, sw.egressCreate k ≤ 0)
    (m : NhStub) : ∃ s', L3.enableNeigh env sw s m = some s' := by
  unfold L3.enableNeigh
  cases hn : env.neigh m.neigh with
  | none => exact ⟨s, rfl⟩
  | some nud =>
    refine Ready.addL3Neigh ?_ hok hsw hn
    exact h.mono rfl fun _ hp => hp

/-- The loop of `add_l3_unicast_route` returns. -/
theorem Good.enableNeighs_returns (hok : sw.Ok) (hsw : ∀ k, sw.egressCreate k ≤ 0)
    {ms : List NhStub} (hms : ms.Nodup) {s : L3}
    (h : Good env base s.nhUnreachCallbacks s.owners ecmp s) (hr : Ready env s)
    (hmem : ∀ m ∈ ms, m ∈ s.unroutableL3Neighs) :
    ∃ s', ms.foldlM (L3.enableNeigh env sw) s = some s' := by
  induction ms generalizing s with
  | nil => exact ⟨s, rfl⟩
  | cons m ms ih =>
    obtain ⟨hnot, hms⟩ := List.nodup_cons.mp hms
    obtain ⟨hm, hmem⟩ := List.forall_mem_cons.mp hmem
    obtain ⟨t, ht⟩ := hr.enableNeigh hok hsw m
    obtain ⟨h1, hs1, hcb, hun⟩ := h.enableNeigh hok (fun p hp => (hr.waiting p hp).2) hm ht
    rw [List.foldlM_cons, ht]
    exact ih hms h1 (hr.mono hs1.installed hcb) fun k hk =>
      hun k (hmem k hk) (ne_of_mem_of_not_mem hk hnot)

theorem delL3Neigh_returns (sw : L3Switch) (n : Int × Addr)
    (hl : ∀ route ∈ s.installed, route.isUnicast = true → LooksUp env route) (nud : Nud) :
    ∃ s', s.delL3Neigh env sw n nud = some s' := by
  unfold L3.delL3Neigh
  cases nud with
  | failed | incomplete => exact ⟨s, rfl⟩
  | valid dMac =>
    cases env.link n.1 with
    | none => exact ⟨s, rfl⟩
    | some link =>
      dsimp only
      split
      · exact ⟨_, rfl⟩
      · split
        · exact ⟨_, rfl⟩
        · refine notifyUnreachable_returns ?_ dMac
          split
          · exact hl
          · obtain ⟨g, pv, hgp⟩ := delL3NeighEgress_frame env
              { s with routableL3Neighs := s.routableL3Neighs.erase { nh := n.2, ifindex := n.1 } }
              n dMac
            rw [hgp]
            exact hl

theorem disableNeigh_returns (sw : L3Switch)
    (hl : ∀ route ∈ s.installed, route.isUnicast = true → LooksUp env route) (m : NhStub) :
    ∃ s', L3.disableNeigh env sw s m = some s' := by
  unfold L3.disableNeigh
  cases env.neigh m.neigh with
  | none => exact ⟨s, rfl⟩
  | some nud =>
    obtain ⟨t, ht⟩ := delL3Neigh_returns sw m.neigh hl nud
    dsimp only
    rw [ht]
    exact ⟨_, rfl⟩

/-- The loop of `del_l3_unicast_route` returns. -/
theorem Good.disableLoop_returns (hok : sw.Ok) {ms : List NhStub} (hms : ms.Nodup)
    (hfdb : ∀ m ∈ ms, HasFdb env m.neigh) {s : L3}
    (h : Good env base s.nhUnreachCallbacks s.owners ecmp s)
    (hl : ∀ route ∈ s.installed, route.isUnicast = true → LooksUp env route)
    (hmem : ∀ m ∈ ms, m ∈ s.routableL3Neighs) :
    ∃ s', ms.foldlM (L3.disableNeigh env sw) s = some s' := by
  induction ms generalizing s with
  | nil => exact ⟨s, rfl⟩
  | cons m ms ih =>
    obtain ⟨hnot, hms⟩ := List.nodup_cons.mp hms
    obtain ⟨hm, hmem⟩ := List.forall_mem_cons.mp hmem
    obtain ⟨hfm, hfdb⟩ := List.forall_mem_cons.mp hfdb
    obtain ⟨t, ht⟩ := disableNeigh_returns sw hl m
    obtain ⟨h1, hs1, -, hro⟩ := h.disableNeigh hok hm hfm ht
    rw [List.foldlM_cons, ht]
    exact ih hms hfdb h1 (hs1.installed ▸ hl) fun k hk =>
      hro k (hmem k hk) (ne_of_mem_of_not_mem hk hnot)

/-- `add_l3_unicast_route` returns. -/
theorem Good.addL3UnicastRoute_returns
    (h : Good env base s.nhUnreachCallbacks s.owners (s.active.filterMap (ecmpGroup env)) s)
    (hok : sw.Ok) (hsw : ∀ k, sw.egressCreate k ≤ 0) (hgw : HasGateways env r)
    (hres : ∀ p ∈ refsOfRoute env r, Resolved env p.nh.neigh) (hr : Ready env s) :
    ∃ s', s.addL3UnicastRoute env sw r = some s' := by
  unfold L3.addL3UnicastRoute
  split
  · exact ⟨_, rfl⟩
  · obtain ⟨rv, nhs, hg⟩ := getNeighboursOfRoute_returns hgw
    simp only [hg]
    split
    · exact ⟨_, rfl⟩
    · split
      · obtain ⟨h2, hi, hcb⟩ := h.takeRoute hok hg hres
        generalize nhs.foldl (L3.addNextHop env sw r.dst) { s with active := s.active ++ [r] } = s₁
          at h2 hi hcb ⊢
        generalize (if nhs.length ≤ 1 then s₁
          else { s₁ with groups := (s₁.groups.addL3EcmpGroup nhs.toFinset 0).2.2 }) = s₂
          at h2 hi hcb ⊢
        have hsub := getL3NeighsOfPrefix_sublist s₂.unroutableL3Neighs r.dst
        exact h2.enableNeighs_returns hok hsw (hsub.nodup h2.unroutable_nodup)
          (hr.mono hi fun p hp => hcb ▸ hp) fun m hm => hsub.subset hm
      · exact ⟨_, rfl⟩

/-- `del_l3_unicast_route` returns. -/
theorem Good.delL3UnicastRoute_returns
    (h : Good env base s.nhUnreachCallbacks s.owners ecmp s) (hok : sw.Ok)
    (hfdb : skipsDel env s.installed r = false → env.scopeLink r = true →
      ∀ m ∈ getL3NeighsOfPrefix s.routableL3Neighs r.dst, HasFdb env m.neigh)
    (hgw : HasGateways env r)
    (hl : ∀ route ∈ s.installed, route.isUnicast = true → LooksUp env route) :
    ∃ s', s.delL3UnicastRoute env sw r = some s' := by
  cases hskip : skipsDel env s.installed r with
  | true => exact ⟨s, delL3UnicastRoute_of_skips hskip⟩
  | false =>
    obtain ⟨hdup, hll⟩ := Bool.or_eq_false_iff.mp hskip
    obtain ⟨s₁, h₁⟩ : ∃ s₁, s.disableNeighs env sw r = some s₁ := by
      unfold L3.disableNeighs
      split
      · next hsc =>
        have hsub := getL3NeighsOfPrefix_sublist s.routableL3Neighs r.dst
        exact h.disableLoop_returns hok (hsub.nodup h.routable_nodup) (hfdb hskip hsc) hl
          fun m hm => hsub.subset hm
      · exact ⟨s, rfl⟩
    obtain ⟨rv, nhs, hg⟩ := getNeighboursOfRoute_returns hgw
    simp only [L3.delL3UnicastRoute, hdup, hll, Bool.false_eq_true, if_false, h₁, hg,
      Option.bind_eq_bind, Option.bind_some]
    split <;> exact ⟨_, rfl⟩

end Returns

/-! ## Runs -/

section Runs

/-- What an event leaves to the kernel and the switch: next hop objects have gateways, and the switch
returns no positive value. -/
def Ev.Served (env : L3Env) : Ev → Prop
  | .addL3Route r sw => r.isUnicast = true → HasGateways env r ∧ ∀ k, sw.egressCreate k ≤ 0
  | .delL3Route r _ => r.isUnicast = true → HasGateways env r

/-- A state that is accounted for, with routes that can be looked up. -/
structure Sound (env : L3Env) (base : List (Nat × Nat)) (s : L3) : Prop where
  inv : Inv env base s
  looksUp : ∀ route ∈ s.installed, route.isUnicast = true → LooksUp env route

/-- The addition of a unicast route returns. -/
theorem Sound.addL3UnicastRoute (h : Sound env base s) (hk : KeepsAdd env s r sw)
    (hgw : HasGateways env r) (hsw : ∀ k, sw.egressCreate k ≤ 0) :
    ∃ s', { s with installed := s.installed ++ [r] }.addL3UnicastRoute env sw r = some s' ∧
      ∀ route ∈ s'.installed, route.isUnicast = true → LooksUp env route := by
  let s₀ : L3 := { s with installed := s.installed ++ [r] }
  have hl : ∀ route ∈ s₀.installed, route.isUnicast = true → LooksUp env route := by
    intro route hmem hu
    rcases List.mem_append.mp hmem with hmem | hmem
    · exact h.looksUp route hmem hu
    · rw [List.mem_singleton.mp hmem]
      exact looksUp_of_resolved hgw hk.resolved
  have hready : Ready env s₀ :=
    { looksUp := hl, waiting := fun p hp => ⟨h.inv.waiting p hp, hk.finds p hp⟩ }
  have hgood : Good env base s₀.nhUnreachCallbacks s₀.owners
      (s₀.active.filterMap (ecmpGroup env)) s₀ := { h.inv with free := hk.free }
  obtain ⟨s', hs'⟩ := hgood.addL3UnicastRoute_returns hk.ok hsw hgw hk.resolved hready
  have hi := (hgood.addL3UnicastRoute hk.ok hk.resolved hk.finds hs').2
  exact ⟨s', hs', fun route hmem => hl route (hi ▸ hmem)⟩

/-- The deletion of a unicast route returns. -/
theorem Sound.delL3UnicastRoute (h : Sound env base s) (hk : KeepsDel env s r sw)
    (hgw : HasGateways env r) :
    ∃ s', { s with installed := s.installed.erase r }.delL3UnicastRoute env sw r = some s' ∧
      ∀ route ∈ s'.installed, route.isUnicast = true → LooksUp env route := by
  let s₀ : L3 := { s with installed := s.installed.erase r }
  have hl : ∀ route ∈ s₀.installed, route.isUnicast = true → LooksUp env route :=
    fun route hmem => h.looksUp route (List.mem_of_mem_erase hmem)
  have hgood : Good env base s₀.nhUnreachCallbacks s₀.owners
      (s₀.active.filterMap (ecmpGroup env)) s₀ := { h.inv with free := hk.free }
  obtain ⟨s', hs'⟩ := hgood.delL3UnicastRoute_returns hk.ok hk.fdb hgw hl
  have hi : s'.installed = s₀.installed :=
    (Good.delL3UnicastRoute { h.inv with free := hk.free } hk hs').2
  exact ⟨s', hs', fun route hmem => hl route (hi ▸ hmem)⟩

/-- An event returns. -/
theorem Sound.exec (h : Sound env base s) (e : Ev) (hk : Keeps env (some s) e)
    (he : e.Served env) : ∃ s', s.exec env e = some s' ∧ Sound env base s' := by
  suffices hreturns : ∃ s', s.exec env e = some s' ∧
      ∀ route ∈ s'.installed, route.isUnicast = true → LooksUp env route by
    obtain ⟨s', hs', hl⟩ := hreturns
    exact ⟨s', hs', h.inv.exec e hk hs', hl⟩
  cases e with
  | addL3Route r sw =>
    simp only [L3.exec]
    by_cases hu : r.isUnicast = true
    · rw [if_pos hu]
      exact h.addL3UnicastRoute (hk hu) (he hu).1 (he hu).2
    · rw [if_neg hu]
      refine ⟨_, rfl, fun route hmem hru => ?_⟩
      rcases List.mem_append.mp hmem with hmem | hmem
      · exact h.looksUp route hmem hru
      · rw [List.mem_singleton.mp hmem] at hru
        exact absurd hru hu
  | delL3Route r sw =>
    simp only [L3.exec]
    by_cases hu : r.isUnicast = true
    · rw [if_pos hu]
      obtain ⟨s₁, hs₁, hl⟩ := h.delL3UnicastRoute (hk hu) (he hu)
      rw [hs₁]
      exact ⟨_, rfl, hl⟩
    · rw [if_neg hu]
      exact ⟨_, rfl, fun route hmem => h.looksUp route (List.mem_of_mem_erase hmem)⟩

/-- Nothing but the neighbour 10.0.1.2 is known. -/
def portStart : Start where
  portVlan := ∅
  base := []
  counts := Counts.empty
  unroutableL3Neighs := [{ nh := .inet 0x0a000102, ifindex := 3 }]
  nodup := List.nodup_singleton _
  nhid n h := by rw [List.mem_singleton.mp h]

theorem sviFree_portEnv (portVlan : Table (Nat × Nat) Nat) : SviFree portEnv portVlan := by
  intro i j link port dMac hi hb
  simp only [portEnv] at hi
  split at hi
  · cases hi
    cases hb
  · cases hi

theorem resolved_daemonRoute :
    ∀ p ∈ refsOfRoute portEnv daemonRoute, Resolved portEnv p.nh.neigh := by
  intro p hp
  rw [refsOfRoute_daemonRoute, List.mem_singleton] at hp
  refine ⟨2, by rw [hp]; decide, fun link hl => ?_⟩
  simp only [hp, NhStub.neigh, portEnv, if_true, Option.some.injEq] at hl
  subst hl
  rfl

end Runs

end L3

end Basebox
