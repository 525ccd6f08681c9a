import Basebox.Netlink.L3NextHopSteps
import Mathlib.Algebra.BigOperators.Group.List.Basic

/-!
# Which references the deletion of a route gives back

* `Settles`: at the deletion of a route the tables lose the references that are held for its next
  hops, and no callback of the route is left.
* `InStep`: what a call has to find for that. A deletion has to find the neighbour cache and the
  callbacks in step: a next hop that is resolved in the cache has its callback in
  `nh_unreach_callbacks`, one that is not has none there. Wherever references are given back, the
  link-layer address at hand has to lead to those that were taken.
* `settles_run`: in a run whose calls all meet it, every deletion settles. `nl_l3` does not see to
  it: the cache may have changed since the addition, with the event still in the queue.
-/

namespace Basebox

namespace L3

/-! ## What is to hold -/

namespace Tracked

section Statements

variable (env : L3Env)

/-- How many of the routes have this destination and next hop. -/
def routesOver (active : List L3Route) (p : L3Params) : Nat :=
  active.countP fun r => decide (p ∈ refsOfRoute env r)

/-- The deletion ends early: there is another IPv6 link-local route. -/
def keepsRoute (installed : List L3Route) (r : L3Route) (keepRoute : Bool) : Bool :=
  !keepRoute && isIpv6LlKept env installed r

/-- What the deletion of a route is to do for each of its next hops. Routes with the same destination
and next hop are told apart by neither the callbacks nor the references, so where there are several,
they all hold one, or none. -/
structure Settles (x : Tracked) (o : Outside) (r : L3Route) (keepRoute : Bool) : Prop where
  all_or_none : ∀ p ∈ refsOfRoute env r,
    x.held.count p = 0 ∨ x.held.count p = routesOver env x.l3.active p
  /-- What is held for a next hop is a reference of an egress group, and of a VLAN if one was taken;
  if none is held, it is nothing. -/
  egress : ∀ p ∈ refsOfRoute env r, p ∈ x.held ↔ ∃ k, .egress k ∈ x.refsOf p
  /-- It returns, the tables have lost what is held for the next hops and nothing else, and the
  callbacks that it leaves are those of the other routes. -/
  deletes : ∃ x', x.call env o (.delL3UnicastRoute r keepRoute) = some x' ∧
    x'.released = x.released +
      ((refsOfRoute env r).map fun p => (x.refsOf p).map (Prod.mk p)).sum ∧
    ∀ p ∈ refsOfRoute env r,
      x'.l3.nhCallbacks.count p + x'.l3.nhUnreachCallbacks.count p ≤
        routesOver env (x.l3.active.erase r) p

/-- A deletion settles. There is nothing to say of the other calls. -/
def Settled : Option Tracked → Outside × Call → Prop
  | some x, (o, .delL3UnicastRoute r keepRoute) => Settles env x o r keepRoute
  | _, _ => True

/-- Routes are deleted after they were added, and are not skipped as duplicates. -/
def Proper : Option Tracked → Outside × Call → Prop
  | some _, (o, .addL3UnicastRoute r) => duplicate (o.env env) o.installed r = false
  | some x, (o, .delL3UnicastRoute r _) =>
    duplicate (o.env env) o.installed r = false ∧ r ∈ x.l3.active
  | _, _ => True

/-- What a deletion has to find: the cache in step with the callbacks and with what was taken. -/
structure Agrees (sw : L3Switch) (x : Tracked) (r : L3Route) (keepRoute : Bool) : Prop where
  /-- Where the deletion ends early, there are no callbacks. -/
  kept : keepsRoute env x.l3.installed r keepRoute = true → ∀ p ∈ refsOfRoute env r,
    p ∉ x.l3.nhUnreachCallbacks ∧ p ∉ x.l3.nhCallbacks
  /-- A next hop that the cache has is one that all routes over it have. It is not one of the
  neighbours that are disabled before. -/
  found : keepsRoute env x.l3.installed r keepRoute = false → ∀ p ∈ refsOfRoute env r,
    resolved env p.nh = true →
      x.l3.nhUnreachCallbacks.count p = routesOver env x.l3.active p ∧
      (env.scopeLink r = true → ∀ m ∈ getL3NeighsOfPrefix x.l3.routableL3Neighs r.dst,
        p.nh.neigh ≠ m.neigh)
  /-- A next hop that the cache does not have is one that no route has. -/
  missing : keepsRoute env x.l3.installed r keepRoute = false → ∀ p ∈ refsOfRoute env r,
    resolved env p.nh = false → p ∉ x.l3.nhUnreachCallbacks
  /-- The next hops of the routes that are read when neighbours are disabled can be looked up. -/
  reads : keepsRoute env x.l3.installed r keepRoute = false → env.scopeLink r = true →
    ∀ route ∈ x.l3.installed, LooksUp env route
  disables : keepsRoute env x.l3.installed r keepRoute = false → env.scopeLink r = true →
    Along (fun y m => y.bind fun x => x.disableNeigh env sw m) (Disables env sw) (some x)
      (getL3NeighsOfPrefix x.l3.routableL3Neighs r.dst)
  /-- Once they are disabled: the link-layer address in the cache leads to what was taken, and the
  tables count it all. -/
  leads : keepsRoute env x.l3.installed r keepRoute = false →
    ∀ x₁, x.disableNeighs env sw r = some x₁ → ∀ p ∈ refsOfRoute env r, ∀ dMac,
      env.neigh p.nh.neigh = some (.valid dMac) → ∀ t ∈ x₁.taken, t.params = p →
        givenRefs env p.nh.neigh dMac = some t.refs
  counted : keepsRoute env x.l3.installed r keepRoute = false →
    ∀ x₁, x.disableNeighs env sw r = some x₁ →
      ((refsOfRoute env r).map x₁.refsOf).sum ≤ x₁.l3.refs

/-- What a call has to find. -/
def InStep : Option Tracked → Outside × Call → Prop
  | none, _ => True
  | some x, (o, c) =>
    let x : Tracked := { x with l3 := { x.l3 with installed := o.installed } }
    match c with
    | .addL3UnicastRoute r => Takes (o.env env) o.sw x.l3 r
    | .delL3UnicastRoute r keepRoute => Agrees (o.env env) o.sw x r keepRoute
    | .addL3Neigh n nud => Serves (o.env env) o.sw x.l3 x.l3.nhCallbacks n nud
    | .updateL3Neigh n nOld nNew _ => isSwitchInterface (o.env env) n.1 = true →
      ((∀ ll, nOld ≠ .valid ll) → ∀ ll, nNew = .valid ll →
        Serves (o.env env) o.sw x.l3 x.l3.nhCallbacks n (.valid ll)) ∧
      ((∀ ll, nNew ≠ .valid ll) → Releases (o.env env) o.sw x n nOld)
    | .delL3Neigh n nud => Releases (o.env env) o.sw x n nud

/-- The state after a call, unless the process has aborted. -/
def step : Option Tracked → Outside × Call → Option Tracked
  | none, _ => none
  | some x, (o, c) => x.call env o c

end Statements

/-! ## Routes and their callbacks -/

section Routes

variable {env : L3Env} {sw : L3Switch} {x x' : Tracked} {r : L3Route}

theorem nodup_refsOfRoute (env : L3Env) (r : L3Route) : (refsOfRoute env r).Nodup := by
  cases hg : getNeighboursOfRoute env r with
  | none => simp [refsOfRoute, hg]
  | some y =>
    rw [refsOfRoute_eq hg]
    exact (getNeighboursOfRoute_spec hg).1.map fun _ _ h => congrArg L3Params.nh h

theorem routesOver_cons (env : L3Env) (r : L3Route) (active : List L3Route) (q : L3Params) :
    routesOver env (r :: active) q = routesOver env active q + (refsOfRoute env r).count q := by
  rw [routesOver, List.countP_cons, (nodup_refsOfRoute env r).count]
  simp [routesOver]

theorem routesOver_concat (env : L3Env) (active : List L3Route) (q : L3Params) :
    routesOver env (active ++ [r]) q = routesOver env active q + (refsOfRoute env r).count q := by
  rw [← routesOver_cons]
  exact (List.perm_append_singleton r active).countP_eq _

theorem routesOver_erase (env : L3Env) {active : List L3Route} (hr : r ∈ active) (q : L3Params) :
    routesOver env active q =
      routesOver env (active.erase r) q + (refsOfRoute env r).count q := by
  rw [← routesOver_cons]
  exact (List.perm_cons_erase hr).countP_eq _

theorem count_filter_ite (f : L3Params → Bool) (l : List L3Params) (q : L3Params) :
    (l.filter f).count q = if f q then l.count q else 0 := by
  split
  · next hq => exact List.count_filter hq
  · next hq => exact List.count_eq_zero.mpr fun hm => hq (List.mem_filter.mp hm).2

/-- The routes have callbacks for their next hops, one at most, and a reference for each that waits
for the next hop to go. -/
structure Inv (env : L3Env) (x : Tracked) : Prop where
  fits : Fits (routesOver env x.l3.active) x
  readable : ∀ r ∈ x.l3.active, getNeighboursOfRoute env r ≠ none

/-- The loop over the next hops of a deleted route, with the callbacks as the cache says. -/
theorem Fits.delNextHops {active : List L3Route} {rv : Int} {nhs : NhStub.Set}
    (h : Fits (routesOver env active) x) (hr : r ∈ active)
    (hg : getNeighboursOfRoute env r = some (rv, nhs))
    (hfound : ∀ p ∈ refsOfRoute env r, resolved env p.nh = true →
      x.l3.nhUnreachCallbacks.count p = routesOver env active p)
    (hmissing : ∀ p ∈ refsOfRoute env r, resolved env p.nh = false →
      x.l3.nhUnreachCallbacks.count p = 0)
    (hleads : ∀ p ∈ refsOfRoute env r, ∀ dMac, env.neigh p.nh.neigh = some (.valid dMac) →
      ∀ t ∈ x.taken, t.params = p → givenRefs env p.nh.neigh dMac = some t.refs)
    (hcounted : ((refsOfRoute env r).map x.refsOf).sum ≤ x.l3.refs) :
    (nhs.foldl (delNextHop env r.dst) x).l3.active = x.l3.active ∧
      Fits (routesOver env (active.erase r)) (nhs.foldl (delNextHop env r.dst) x) ∧
      (nhs.foldl (delNextHop env r.dst) x).released = x.released +
        ((refsOfRoute env r).map fun p => (x.refsOf p).map (Prod.mk p)).sum := by
  have hmem : ∀ nh ∈ nhs, ({ dst := r.dst, nh := nh } : L3Params) ∈ refsOfRoute env r := by
    intro nh hnh
    rw [refsOfRoute_eq hg]
    exact List.mem_map_of_mem hnh
  -- All routes over a next hop in the cache hold the same for it.
  have hgiven : ∀ nh ∈ nhs, ∀ dMac, env.neigh nh.neigh = some (.valid dMac) →
      givenRefs env nh.neigh dMac = some (x.refsOf { dst := r.dst, nh := nh }) ∧
        ∀ t ∈ x.taken, t.params = { dst := r.dst, nh := nh } →
          t.refs = x.refsOf { dst := r.dst, nh := nh } := by
    intro nh hnh dMac hn
    have hp := hmem nh hnh
    have hheld : ({ dst := r.dst, nh := nh } : L3Params) ∈ x.held := by
      have hover := routesOver_erase env hr { dst := r.dst, nh := nh }
      rw [(nodup_refsOfRoute env r).count, if_pos hp,
        ← hfound _ hp (resolved_iff.mpr ⟨dMac, hn⟩)] at hover
      exact h.mem_held.mpr (List.count_pos_iff.mp (by omega))
    obtain ⟨t, ht, htp, hrefs⟩ := refsOf_of_mem hheld
    have hlead := hleads _ hp dMac hn t ht htp
    rw [hrefs]
    refine ⟨hlead, fun t' ht' htp' => ?_⟩
    exact Option.some.inj ((hleads _ hp dMac hn t' ht' htp').symm.trans hlead)
  have hnone : ∀ nh ∈ nhs, resolved env nh = false →
      x.refsOf { dst := r.dst, nh := nh } = 0 := by
    intro nh hnh hres
    refine refsOf_of_not_mem fun hheld => ?_
    have hz := hmissing _ (hmem nh hnh) hres
    exact List.count_eq_zero.mp hz (h.mem_held.mp hheld)
  have hle : (nhs.map fun nh => x.refsOf { dst := r.dst, nh := nh }).sum ≤ x.l3.refs := by
    rw [refsOfRoute_eq hg, List.map_map] at hcounted
    exact hcounted
  obtain ⟨hu, hw, hheld, hrel, ha⟩ := delNextHops_spec env r.dst _ hgiven hnone hle
  rw [← refsOfRoute_eq hg] at hu hw hheld
  refine ⟨ha, ⟨fun q => ?_, fun q => ?_⟩, ?_⟩
  · have hb := h.count_le q
    have hover := routesOver_erase env hr q
    rw [hu, hw, List.count_diff, List.count_diff, count_filter_ite, count_filter_ite]
    by_cases hq : q ∈ refsOfRoute env r
    · rw [(nodup_refsOfRoute env r).count, if_pos hq] at hover ⊢
      cases hres : resolved env q.nh with
      | true =>
        -- All routes over the next hop have it, so none waits for it.
        have hfull := hfound q hq hres
        simp only [if_true, Bool.not_true, Bool.false_eq_true, if_false]
        omega
      | false =>
        have hnone := hmissing q hq hres
        simp only [Bool.false_eq_true, if_false, Bool.not_false, if_true]
        omega
    · rw [List.count_eq_zero.mpr hq] at hover ⊢
      simp only [ite_self]
      omega
  · rw [hheld, hu, List.count_diff, List.count_diff, h.held q]
  · rw [hrel, refsOfRoute_eq hg, List.map_map, List.map_map]
    rfl

/-- The ECMP groups do not count references of egress groups. -/
theorem refs_delL3EcmpGroup (s : L3) (nhs : Finset NhStub) (send : Int) :
    ({ s with groups := (s.groups.delL3EcmpGroup nhs send).2 } : L3).refs = s.refs := by
  have hmap : (s.groups.delL3EcmpGroup nhs send).2.l3InterfaceMapping =
      s.groups.l3InterfaceMapping := by
    unfold L3Groups.delL3EcmpGroup
    split
    · rfl
    · split <;> rfl
  have hcount (k : EgressKey) : egressRefs (s.groups.delL3EcmpGroup nhs send).2 k =
      egressRefs s.groups k := by
    rw [egressRefs, hmap]
    rfl
  simp only [refs, hmap, hcount]
  rfl

/-- The end of a deletion. -/
theorem Fits.releaseNextHops {active : List L3Route} (h : Fits (routesOver env active) x)
    (hr : r ∈ active) (hg : getNeighboursOfRoute env r ≠ none)
    (hfound : ∀ p ∈ refsOfRoute env r, resolved env p.nh = true →
      x.l3.nhUnreachCallbacks.count p = routesOver env active p)
    (hmissing : ∀ p ∈ refsOfRoute env r, resolved env p.nh = false →
      x.l3.nhUnreachCallbacks.count p = 0)
    (hleads : ∀ p ∈ refsOfRoute env r, ∀ dMac, env.neigh p.nh.neigh = some (.valid dMac) →
      ∀ t ∈ x.taken, t.params = p → givenRefs env p.nh.neigh dMac = some t.refs)
    (hcounted : ((refsOfRoute env r).map x.refsOf).sum ≤ x.l3.refs) :
    ∃ x', x.releaseNextHops env r = some x' ∧ x'.l3.active = x.l3.active ∧
      Fits (routesOver env (active.erase r)) x' ∧
      x'.released = x.released +
        ((refsOfRoute env r).map fun p => (x.refsOf p).map (Prod.mk p)).sum := by
  obtain ⟨⟨rv, nhs⟩, hy⟩ := Option.ne_none_iff_exists'.mp hg
  unfold Tracked.releaseNextHops
  simp only [hy, Option.map_some]
  by_cases hrv : rv < 0
  · obtain rfl := (getNeighboursOfRoute_spec hy).2 hrv
    exact ⟨x, by rw [if_pos hrv], h.delNextHops hr hy hfound hmissing hleads hcounted⟩
  · rw [if_neg hrv]
    refine ⟨_, rfl, ?_⟩
    -- The ECMP group goes first: it has no callbacks.
    split
    · let x₁ : Tracked :=
        { x with l3 := { x.l3 with groups := (x.l3.groups.delL3EcmpGroup nhs.toFinset 0).2 } }
      have h₁ : Fits (routesOver env active) x₁ := ⟨h.count_le, h.held⟩
      have hcounted₁ : ((refsOfRoute env r).map x₁.refsOf).sum ≤ x₁.l3.refs :=
        hcounted.trans_eq (refs_delL3EcmpGroup x.l3 nhs.toFinset 0).symm
      exact h₁.delNextHops hr hy hfound hmissing hleads hcounted₁
    · exact h.delNextHops hr hy hfound hmissing hleads hcounted

/-- The neighbours that are disabled leave the callbacks of the route as the cache says, and what it
holds. -/
theorem Agrees.disableNeighs {keepRoute : Bool} (ha : Agrees env sw x r keepRoute)
    (hf : Fits (routesOver env x.l3.active) x)
    (hk : keepsRoute env x.l3.installed r keepRoute = false)
    (hgives : Gives (if env.scopeLink r then
      (getL3NeighsOfPrefix x.l3.routableL3Neighs r.dst).map NhStub.neigh else []) x x')
    (hf' : Fits (routesOver env x.l3.active) x') :
    (∀ p ∈ refsOfRoute env r, resolved env p.nh = true →
      x'.l3.nhUnreachCallbacks.count p = routesOver env x.l3.active p) ∧
    (∀ p ∈ refsOfRoute env r, resolved env p.nh = false →
      x'.l3.nhUnreachCallbacks.count p = 0) ∧
    ∀ p ∈ refsOfRoute env r, x'.refsOf p = x.refsOf p := by
  have hother : ∀ p ∈ refsOfRoute env r, resolved env p.nh = true →
      p.nh.neigh ∉ if env.scopeLink r then
        (getL3NeighsOfPrefix x.l3.routableL3Neighs r.dst).map NhStub.neigh else [] := by
    intro p hp hres hmem
    split at hmem
    · next hsc =>
      obtain ⟨m, hm, hmn⟩ := List.mem_map.mp hmem
      exact (ha.found hk p hp hres).2 hsc m hm hmn.symm
    · cases hmem
  have hzero : ∀ p ∈ refsOfRoute env r, resolved env p.nh = false →
      x'.l3.nhUnreachCallbacks.count p = 0 := by
    intro p hp hres
    have hle := hgives.unreach_le p
    rw [List.count_eq_zero.mpr (ha.missing hk p hp hres)] at hle
    exact Nat.le_zero.mp hle
  refine ⟨fun p hp hres => ?_, hzero, fun p hp => ?_⟩
  · rw [← (ha.found hk p hp hres).1]
    exact hgives.unreach_eq p (hother p hp hres)
  · cases hres : resolved env p.nh with
    | true => exact hgives.refsOf p (hother p hp hres)
    | false =>
      have hnot' := List.count_eq_zero.mp (hzero p hp hres)
      rw [refsOf_of_not_mem fun hm => hnot' (hf'.mem_held.mp hm),
        refsOf_of_not_mem fun hm => ha.missing hk p hp hres (hf.mem_held.mp hm)]

/-- **A deletion** that finds the cache and the callbacks in step. -/
theorem Inv.delL3UnicastRoute (h : Inv env x) {keepRoute : Bool}
    (hr : r ∈ x.l3.active) (hd : duplicate env x.l3.installed r = false)
    (ha : Agrees env sw x r keepRoute) :
    ∃ x', x.delL3UnicastRoute env sw r keepRoute = some x' ∧ x'.l3.active = x.l3.active ∧
      Fits (routesOver env (x.l3.active.erase r)) x' ∧
      (∀ p ∈ refsOfRoute env r, p ∈ x.held → ∃ k, .egress k ∈ x.refsOf p) ∧
      x'.released = x.released +
        ((refsOfRoute env r).map fun p => (x.refsOf p).map (Prod.mk p)).sum := by
  unfold Tracked.delL3UnicastRoute
  rw [hd, if_neg Bool.false_ne_true]
  cases hk : keepsRoute env x.l3.installed r keepRoute with
  | true =>
    have hnone := ha.kept hk
    have hnot : ∀ p ∈ refsOfRoute env r, p ∉ x.held := fun p hp hm =>
      (hnone p hp).1 (h.fits.mem_held.mp hm)
    unfold keepsRoute at hk
    refine ⟨x, by rw [if_pos hk], rfl, ⟨fun q => ?_, h.fits.held⟩,
      fun p hp hm => absurd hm (hnot p hp), ?_⟩
    · have hb := h.fits.count_le q
      have hover := routesOver_erase env hr q
      by_cases hq : q ∈ refsOfRoute env r
      · obtain ⟨hu, hw⟩ := hnone q hq
        rw [List.count_eq_zero.mpr hu, List.count_eq_zero.mpr hw]
        exact Nat.zero_le _
      · rw [List.count_eq_zero.mpr hq] at hover
        omega
    · have hzero : ((refsOfRoute env r).map fun p => (x.refsOf p).map (Prod.mk p)).sum = 0 := by
        refine List.sum_eq_zero fun t ht => ?_
        obtain ⟨p, hp, rfl⟩ := List.mem_map.mp ht
        rw [refsOf_of_not_mem (hnot p hp), Multiset.map_zero]
      rw [hzero, add_zero]
  | false =>
    obtain ⟨x₁, hx₁⟩ : ∃ x₁, x.disableNeighs env sw r = some x₁ := by
      by_cases hsc : env.scopeLink r = true
      · exact Readable.disableNeighs (ha.reads hk hsc) sw r
      · exact ⟨x, by rw [Tracked.disableNeighs, if_neg hsc]⟩
    obtain ⟨hf, hgives⟩ := h.fits.disableNeighs (ha.disables hk) hx₁
    obtain ⟨hfound, hmissing, hrefsOf⟩ := ha.disableNeighs h.fits hk hgives hf
    have hleads := ha.leads hk x₁ hx₁
    obtain ⟨x', hx', hactive, hf', hrel⟩ := hf.releaseNextHops hr (h.readable r hr) hfound hmissing
      hleads (ha.counted hk x₁ hx₁)
    have hmap : (refsOfRoute env r).map (fun p => (x₁.refsOf p).map (Prod.mk p)) =
        (refsOfRoute env r).map fun p => (x.refsOf p).map (Prod.mk p) :=
      List.map_congr_left fun p hp => by rw [hrefsOf p hp]
    have hegress : ∀ p ∈ refsOfRoute env r, p ∈ x.held → ∃ k, .egress k ∈ x.refsOf p := by
      intro p hp hm
      cases hres : resolved env p.nh with
      | false => exact absurd (h.fits.mem_held.mp hm) (ha.missing hk p hp hres)
      | true =>
        obtain ⟨dMac, hn⟩ := resolved_iff.mp hres
        have hcount := hfound p hp hres
        rw [← (ha.found hk p hp hres).1] at hcount
        have hm₁ : p ∈ x₁.held := by
          rw [hf.mem_held, ← List.count_pos_iff, hcount, List.count_pos_iff]
          exact h.fits.mem_held.mp hm
        obtain ⟨t, ht, htp, hrefs⟩ := refsOf_of_mem hm₁
        rw [← hrefsOf p hp, hrefs]
        exact egress_mem_given (hleads p hp dMac hn t ht htp)
    unfold keepsRoute at hk
    refine ⟨x', ?_, hactive.trans hgives.active, hf', hegress, ?_⟩
    · rw [hk, if_neg Bool.false_ne_true, hx₁]
      exact hx'
    · rw [hrel, hgives.released, hmap]

end Routes

/-! ## Runs -/

section Runs

variable {env : L3Env} {x x' : Tracked}

/-- A deletion in a run. -/
theorem Inv.deletes (h : Inv env x) {o : Outside} {r : L3Route} {keepRoute : Bool}
    (hp : Proper env (some x) (o, .delL3UnicastRoute r keepRoute))
    (hc : InStep env (some x) (o, .delL3UnicastRoute r keepRoute)) :
    ∃ x', x.call env o (.delL3UnicastRoute r keepRoute) = some x' ∧
      x'.l3.active = x.l3.active.erase r ∧ Inv env x' ∧
      (∀ p ∈ refsOfRoute env r, p ∈ x.held → ∃ k, .egress k ∈ x.refsOf p) ∧
      x'.released = x.released +
        ((refsOfRoute env r).map fun p => (x.refsOf p).map (Prod.mk p)).sum := by
  let x₀ : Tracked := { x with l3 := { x.l3 with installed := o.installed } }
  have h₀ : Inv (o.env env) x₀ := ⟨⟨h.fits.count_le, h.fits.held⟩, h.readable⟩
  obtain ⟨x₁, hx₁, hactive, hf, hegress, hrel⟩ := h₀.delL3UnicastRoute hp.2 hp.1 hc
  have hactive' : x₁.l3.active = x.l3.active := hactive
  refine ⟨{ x₁ with l3 := { x₁.l3 with active := x₁.l3.active.erase r } }, ?_, ?_, ?_, hegress,
    hrel⟩
  · exact Option.map_eq_some_iff.mpr ⟨x₁, hx₁, rfl⟩
  · rw [← hactive']
  · refine ⟨⟨fun q => ?_, hf.held⟩, fun r' hr' => ?_⟩
    · have hle := hf.count_le q
      rw [← hactive] at hle
      exact hle
    · have hmem : r' ∈ x₁.l3.active := List.mem_of_mem_erase hr'
      rw [hactive'] at hmem
      exact h.readable r' hmem

/-- Every call keeps the invariant. -/
theorem Inv.call (h : Inv env x) {o : Outside} {c : Call} (hp : Proper env (some x) (o, c))
    (hc : InStep env (some x) (o, c)) (hx : x.call env o c = some x') : Inv env x' := by
  let x₀ : Tracked := { x with l3 := { x.l3 with installed := o.installed } }
  have hf₀ : Fits (routesOver env x₀.l3.active) x₀ := ⟨h.fits.count_le, h.fits.held⟩
  have hinv (hf : Fits (routesOver env x₀.l3.active) x') (ha : x'.l3.active = x₀.l3.active) :
      Inv env x' := by
    refine ⟨by rwa [ha], fun r hr => ?_⟩
    rw [ha] at hr
    exact h.readable r hr
  cases c with
  | addL3UnicastRoute r =>
    have htakes : Takes (o.env env) o.sw x₀.l3 r := hc
    have hcall : x₀.addL3UnicastRoute (o.env env) o.sw r = some x' := hx
    obtain ⟨hf, hactive, hg⟩ := hf₀.addL3UnicastRoute htakes hp hcall
    refine ⟨⟨fun q => ?_, hf.held⟩, fun r' hr' => ?_⟩
    · rw [hactive, routesOver_concat]
      exact hf.count_le q
    · rw [hactive, List.mem_append, List.mem_singleton] at hr'
      rcases hr' with hr' | rfl
      · exact h.readable r' hr'
      · exact hg
  | delL3UnicastRoute r keepRoute =>
    obtain ⟨x₁, hx₁, -, hinv₁, -⟩ := h.deletes hp hc
    rw [hx₁] at hx
    cases hx
    exact hinv₁
  | addL3Neigh n nud =>
    have hserves : Serves (o.env env) o.sw x₀.l3 x₀.l3.nhCallbacks n nud := hc
    obtain ⟨hf, he, -⟩ := hf₀.addL3Neigh hserves hx
    exact hinv hf he.active
  | updateL3Neigh n nOld nNew send =>
    have hcall : x₀.updateL3Neigh (o.env env) o.sw n nOld nNew send = some x' := hx
    obtain ⟨hf, hactive⟩ := hf₀.updateL3Neigh (fun h h' => (hc h).1 h') (fun h h' => (hc h).2 h') hcall
    exact hinv hf hactive
  | delL3Neigh n nud =>
    have hcall : x₀.delL3Neigh (o.env env) o.sw n nud = some x' := hx
    obtain ⟨hf, hgives⟩ := hf₀.delL3Neigh hc hcall
    exact hinv hf hgives.active

theorem Inv.settles (h : Inv env x) {o : Outside} {r : L3Route} {keepRoute : Bool}
    (hp : Proper env (some x) (o, .delL3UnicastRoute r keepRoute))
    (hc : InStep env (some x) (o, .delL3UnicastRoute r keepRoute)) :
    Settles env x o r keepRoute := by
  obtain ⟨x', hx', hactive, hinv, hegress, hrel⟩ := h.deletes hp hc
  refine ⟨fun p hpr => ?_, fun p hpr => ⟨hegress p hpr, ?_⟩, x', hx', hrel, fun p hpr => ?_⟩
  · rw [h.fits.held p]
    cases hk : keepsRoute env o.installed r keepRoute with
    | true => exact .inl (List.count_eq_zero.mpr (hc.kept hk p hpr).1)
    | false =>
      cases hres : resolved (o.env env) p.nh with
      | true => exact .inr (hc.found hk p hpr hres).1
      | false => exact .inl (List.count_eq_zero.mpr (hc.missing hk p hpr hres))
  · rintro ⟨k, hk⟩
    by_contra hm
    rw [refsOf_of_not_mem hm] at hk
    exact Multiset.notMem_zero _ hk
  · rw [← hactive]
    exact hinv.fits.count_le p

theorem settled_of_inv {es : List (Outside × Call)} {y : Option Tracked}
    (hy : ∀ x, y = some x → Inv env x) (hp : Along (step env) (Proper env) y es)
    (hc : Along (step env) (InStep env) y es) : Along (step env) (Settled env) y es := by
  induction es generalizing y with
  | nil => trivial
  | cons e es ih =>
    obtain ⟨o, c⟩ := e
    refine ⟨?_, ih ?_ hp.2 hc.2⟩
    · cases y with
      | none => trivial
      | some x =>
        cases c with
        | delL3UnicastRoute r keepRoute => exact (hy x rfl).settles hp.1 hc.1
        | _ => trivial
    · intro x' hx'
      cases y with
      | none => cases hx'
      | some x => exact (hy x rfl).call hp.1 hc.1 hx'

/-- The neighbour 10.0.1.2 is not in the cache. -/
def unresolved (installed : List L3Route) : Outside where
  neigh _ := none
  installed := installed

/-- The neighbour 10.0.1.2 is in the cache. -/
def resolvedBy (installed : List L3Route) : Outside where
  neigh := portEnv.neigh
  installed := installed

/-- The next hop of a route is resolved after the addition, and its event is handled before the
deletion. -/
def handledRun : List (Outside × Call) :=
  [(unresolved [kernelRoute 1, daemonRoute], .addL3UnicastRoute daemonRoute),
    (resolvedBy [kernelRoute 1, daemonRoute], .addL3Neigh (3, .inet 0x0a000102) (.valid 2)),
    (resolvedBy [kernelRoute 1], .delL3UnicastRoute daemonRoute false)]

/-- The next hop of a route is resolved after the addition, and its event is still in the queue at
the deletion. -/
def queuedRun : List (Outside × Call) :=
  [(unresolved [kernelRoute 1, daemonRoute], .addL3UnicastRoute daemonRoute),
    (resolvedBy [kernelRoute 1], .delL3UnicastRoute daemonRoute false)]

/-- The neighbour 10.0.1.2 is in the cache with the link-layer address `ll`. -/
def movedTo (ll : Mac) (installed : List L3Route) : Outside where
  neigh n := if n = (3, .inet 0x0a000102) then some (.valid ll) else none
  installed := installed

/-- The link-layer address of a next hop changes in the cache after the addition, and the event is
still in the queue at the deletion. -/
def movedRun : List (Outside × Call) :=
  [(resolvedBy [kernelRoute 1, daemonRoute], .addL3UnicastRoute daemonRoute),
    (movedTo 5 [kernelRoute 1], .delL3UnicastRoute daemonRoute false)]

/-- The next hop of the route. -/
def daemonNextHop : L3Params where
  dst := daemonRoute.dst
  nh := { nh := .inet 0x0a000102, ifindex := 3 }

theorem eq_daemonNextHop {p : L3Params} (hp : p ∈ refsOfRoute portEnv daemonRoute) :
    p = daemonNextHop := by
  rw [refsOfRoute_daemonRoute] at hp
  exact List.mem_singleton.mp hp

/-- The route waits for its next hop. -/
def waiting : Tracked where
  l3 := {
    installed := [kernelRoute 1, daemonRoute]
    nhCallbacks := [daemonNextHop]
    active := [daemonRoute] }

theorem step_waiting : step portEnv (some {})
    (unresolved [kernelRoute 1, daemonRoute], .addL3UnicastRoute daemonRoute) = some waiting := rfl

/-- What is taken for the next hop: the egress group and VLAN 1 of port 1. -/
def daemonRefs : Multiset L3Ref :=
  {.egress { portId := 1, vid := 1, srcMac := 1, dstMac := 2 }, .vlan (1, 1)}

theorem handledRun_inStep : Along (step portEnv) (InStep portEnv) (some {}) handledRun := by
  refine ⟨⟨?_, ?_⟩, ?_⟩
  · intro p hp dMac hn
    cases hn
  · intro hsc
    cases hsc
  rw [step_waiting]
  refine ⟨?_, ?_⟩
  · intro hn p hp hpn route hroute
    obtain rfl := List.mem_singleton.mp hp
    have hfind : getRouteByNhParams [kernelRoute 1, daemonRoute] daemonNextHop = some daemonRoute := by
      decide
    have hroute' : getRouteByNhParams [kernelRoute 1, daemonRoute] daemonNextHop = some route :=
      hroute
    obtain rfl := Option.some.inj (hfind.symm.trans hroute')
    exact ⟨by decide, fun _ => by decide, fun _ => by decide⟩
  obtain ⟨x, hx, hu, ha, ht, hrefs⟩ : ∃ x, step portEnv (some waiting)
      (resolvedBy [kernelRoute 1, daemonRoute], .addL3Neigh (3, .inet 0x0a000102) (.valid 2)) =
        some x ∧ x.l3.nhUnreachCallbacks = [daemonNextHop] ∧ x.l3.active = [daemonRoute] ∧
        x.taken = [{ params := daemonNextHop, refs := daemonRefs }] ∧ daemonRefs ≤ x.l3.refs := by
    refine ⟨_, rfl, ?_, ?_, ?_, ?_⟩
    · decide
    · decide
    · decide
    · decide
  rw [hx]
  have hsame : ∀ x₁, Tracked.disableNeighs portEnv {}
      { x with l3 := { x.l3 with installed := [kernelRoute 1] } } daemonRoute = some x₁ →
        x₁ = { x with l3 := { x.l3 with installed := [kernelRoute 1] } } := by
    intro x₁ hx₁
    have hsc : portEnv.scopeLink daemonRoute = false := rfl
    rw [Tracked.disableNeighs, hsc, if_neg Bool.false_ne_true] at hx₁
    exact (Option.some.inj hx₁).symm
  refine ⟨⟨?_, ?_, ?_, ?_, ?_, ?_, ?_⟩, trivial⟩
  · intro hk
    have hkept : keepsRoute portEnv [kernelRoute 1] daemonRoute false = false := by decide
    exact absurd (hkept.symm.trans hk) Bool.false_ne_true
  · intro hk p hp hres
    obtain rfl := eq_daemonNextHop hp
    refine ⟨?_, fun hsc => ?_⟩
    · dsimp only
      rw [hu, ha]
      decide
    · cases hsc
  · intro hk p hp hres
    obtain rfl := eq_daemonNextHop hp
    cases hres
  · intro hk hsc
    cases hsc
  · intro hk hsc
    cases hsc
  · intro hk x₁ hx₁ p hp dMac hn t htaken htp
    obtain rfl := hsame x₁ hx₁
    obtain rfl := eq_daemonNextHop hp
    have hmac : dMac = 2 := (Nud.valid.inj (Option.some.inj hn)).symm
    have hone : t ∈ x.taken := htaken
    rw [ht, List.mem_singleton] at hone
    rw [hone, hmac]
    decide
  · intro hk x₁ hx₁
    obtain rfl := hsame x₁ hx₁
    have hsum : ((refsOfRoute portEnv daemonRoute).map x.refsOf).sum ≤ x.l3.refs := by
      rw [refsOfRoute_daemonRoute, List.map_singleton, List.sum_singleton, Tracked.refsOf, ht]
      exact hrefs
    exact hsum

/-- The link-layer address of the next hop changes in the cache before the deletion. The reference of
the egress group stays, since the group of the other address is looked up. -/
theorem movedRun_not_settles :
    Along (step portEnv) (Proper portEnv) (some {}) movedRun ∧
      ¬ Along (step portEnv) (Settled portEnv) (some {}) movedRun := by
  have hadd : duplicate portEnv [kernelRoute 1, daemonRoute] daemonRoute = false := by decide
  have hdel : duplicate portEnv [kernelRoute 1] daemonRoute = false := by decide
  obtain ⟨x, hx, hactive, hrefsOf, x', hx', hrel⟩ : ∃ x, step portEnv (some {})
      (resolvedBy [kernelRoute 1, daemonRoute], .addL3UnicastRoute daemonRoute) = some x ∧
      x.l3.active = [daemonRoute] ∧ x.refsOf daemonNextHop = daemonRefs ∧
      ∃ x', x.call portEnv (movedTo 5 [kernelRoute 1]) (.delL3UnicastRoute daemonRoute false) =
        some x' ∧ x'.released = {(daemonNextHop, .vlan (1, 1))} := by
    refine ⟨_, rfl, ?_, ?_, _, rfl, ?_⟩
    · decide
    · decide
    · decide
  refine ⟨⟨hadd, ?_, trivial⟩, fun h => ?_⟩
  · rw [hx]
    exact ⟨hdel, by rw [hactive]; exact List.mem_singleton_self _⟩
  · obtain ⟨-, h, -⟩ := h
    rw [hx] at h
    obtain ⟨-, -, x'', hx'', hlost, -⟩ := h
    obtain rfl := Option.some.inj (hx'.symm.trans hx'')
    rw [hrel, refsOfRoute_daemonRoute, List.map_singleton, List.sum_singleton] at hlost
    -- Two references are held for the next hop, and one is given back.
    have hcard := congrArg Multiset.card hlost
    have htwo : ((x.refsOf daemonNextHop).map (Prod.mk daemonNextHop)).card = 2 := by
      rw [hrefsOf]
      decide
    rw [Multiset.card_add, Multiset.card_singleton] at hcard
    have hle : ((x.refsOf daemonNextHop).map (Prod.mk daemonNextHop)).card ≤ 1 :=
      hcard ▸ Nat.le_add_left _ _
    omega

end Runs

end Tracked

end L3

end Basebox
