import Basebox.Netlink.L3NextHops

/-!
# What a call does to the callbacks of routes

`nh_callbacks` has the next hops that routes wait for, `nh_unreach_callbacks` those that they have.

* `Grows`: the tables of a later state have the entries of an earlier one, so what could be taken
  there can be taken here. `takes_iff` ties the note of a reference to the table of egress groups.
* `Serves`, `Takes`: what an addition has to find for every callback that it runs to take its
  reference.
* `Fits`: as many references as callbacks in `nh_unreach_callbacks`. Additions keep that if they
  find what they have to (`Fits.addL3Neigh`, `Fits.addL3UnicastRoute`); what goes keeps it always
  (`Fits.delL3Neigh`, `Fits.disableNeighs`).
* `delNextHops_spec`: the end of a deletion, which goes by the cache.
-/

namespace Basebox

namespace L3

/-! ## What additions have to find -/

namespace Tracked

section Conditions

variable (env : L3Env)

/-- The callbacks that `add_l3_neigh` runs for the neighbour take a reference each, as far as it gets
to them. -/
def Serves (sw : L3Switch) (s : L3) (waiting : List L3Params) (n : Int × Addr) (nud : Nud) : Prop :=
  (n.2.cmpPrefix ipv6Ll = .eq ∨ s.isL3NeighRoutable env n = true ∧ 0 ≤ sw.hostAdd n.2) →
  ∀ p ∈ waiting, p.nh.neigh = n → ∀ route, getRouteByNhParams s.installed p = some route →
    p ∈ refsOfRoute env route ∧
    (n.2.cmpPrefix ipv6Ll = .eq → 0 ≤ (s.addL3NeighEgress env sw n nud).1) ∧
    (0 ≤ (s.addL3NeighEgress env sw n nud).1 → findsPort env n nud = true)

/-- What an addition has to find: where there is a link-layer address there is a port, and the
neighbours that become routable serve the callbacks. -/
structure Takes (sw : L3Switch) (s : L3) (r : L3Route) : Prop where
  port : ∀ p ∈ refsOfRoute env r, ∀ dMac, env.neigh p.nh.neigh = some (.valid dMac) →
    0 ≤ (s.addL3NeighEgress env sw p.nh.neigh (.valid dMac)).1 →
      findsPort env p.nh.neigh (.valid dMac) = true
  serves : env.scopeLink r = true → ∀ m ∈ getL3NeighsOfPrefix s.unroutableL3Neighs r.dst,
    ∀ nud, env.neigh m.neigh = some nud →
      Serves env sw s (s.nhCallbacks ++ refsOfRoute env r) m.neigh nud

end Conditions

/-! ## References that are taken -/

section Taken

variable {env : L3Env} {sw : L3Switch} {s s' : L3} {x x' : Tracked} {b : L3Params → Nat}

/-- The tables have grown, with the routes as they were. -/
structure Extends (s s' : L3) : Prop extends Grows s s' where
  installed : s'.installed = s.installed
  active : s'.active = s.active

theorem Extends.refl (s : L3) : Extends s s := ⟨⟨fun _ h => h, fun _ h => h⟩, rfl, rfl⟩

theorem Extends.trans {s'' : L3} (h : Extends s s') (h' : Extends s' s'') : Extends s s'' :=
  ⟨h.toGrows.trans h'.toGrows, h'.installed.trans h.installed, h'.active.trans h.active⟩

/-- There are callbacks within the bounds `b`, and a reference for each that waits for the next hop
to go. -/
structure Fits (b : L3Params → Nat) (x : Tracked) : Prop where
  count_le : ∀ q, x.l3.nhCallbacks.count q + x.l3.nhUnreachCallbacks.count q ≤ b q
  held : ∀ q, x.held.count q = x.l3.nhUnreachCallbacks.count q

theorem Serves.mono {w w' : List L3Params} {n : Int × Addr} {nud : Nud}
    (h : Serves env sw s w n nud) (hg : Grows s s') (hi : s'.installed = s.installed)
    (hw : ∀ p ∈ w', p ∈ w) : Serves env sw s' w' n nud := by
  intro hn p hp hpn route hroute
  unfold isL3NeighRoutable at hn
  rw [hi] at hn hroute
  obtain ⟨hmem, hll, hport⟩ := h hn p (hw p hp) hpn route hroute
  exact ⟨hmem, fun hn => addL3NeighEgress_mono hg n nud (hll hn), findsPort_mono s s' hport⟩

/-- A callback that takes its reference. -/
theorem nhReachableNotification_spec {n : Int × Addr} {nud : Nud} {p : L3Params}
    (hs : ∀ route, getRouteByNhParams x.l3.installed p = some route →
      p ∈ refsOfRoute env route ∧ x.l3.takes env sw n nud = true)
    (hx : x.nhReachableNotification env sw n nud p = some x') :
    Extends x.l3 x'.l3 ∧ x'.l3.nhCallbacks = x.l3.nhCallbacks ∧
      ∃ ps : List L3Params, ps.Sublist [p] ∧ x'.held = x.held ++ ps ∧
        x'.l3.nhUnreachCallbacks = x.l3.nhUnreachCallbacks ++ ps := by
  obtain ⟨s', hs', rfl⟩ := Option.map_eq_some_iff.mp hx
  rcases nhReachableNotification_cases hs' with ⟨hroute, rfl⟩ | ⟨route, rv, nhs, hroute, hg, rfl⟩
  · exact ⟨.refl _, rfl, [], List.nil_sublist _, by simp [hroute], by simp⟩
  · obtain ⟨hmem, ht⟩ := hs route hroute
    rw [refsOfRoute_eq hg] at hmem
    obtain ⟨nh, hnh, rfl⟩ := List.mem_map.mp hmem
    obtain ⟨g, pv, hgp, hgrows⟩ := addL3NeighEgress_spec env sw x.l3 n nud
    simp only [l3_take, held_take, hroute, Option.bind_some, hg, Option.any_some, hnh, decide_true,
      Bool.true_and, ht, if_true, hgp]
    exact ⟨⟨⟨hgrows.vlan, hgrows.egress⟩, rfl, rfl⟩, trivial, [_], List.Sublist.refl _, rfl, rfl⟩

theorem count_filter_neigh (l : List L3Params) (n : Int × Addr) (q : L3Params) :
    (l.filter fun p => p.nh.neigh == n).count q + (l.filter fun p => p.nh.neigh != n).count q =
      l.count q := by
  rw [← List.count_append]
  exact (List.filter_append_perm (fun p => p.nh.neigh == n) l).count_eq q

/-- The loop over `nh_callbacks`, each of which takes its reference. -/
theorem nhReachableNotifications_spec {n : Int × Addr} {nud : Nud} {l : List L3Params}
    (hs : ∀ p ∈ l, ∀ route, getRouteByNhParams x.l3.installed p = some route →
      p ∈ refsOfRoute env route ∧ x.l3.takes env sw n nud = true)
    (hx : l.foldlM (fun x p => x.nhReachableNotification env sw n nud p) x = some x') :
    Extends x.l3 x'.l3 ∧ x'.l3.nhCallbacks = x.l3.nhCallbacks ∧
      ∃ ps : List L3Params, ps.Sublist l ∧ x'.held = x.held ++ ps ∧
        x'.l3.nhUnreachCallbacks = x.l3.nhUnreachCallbacks ++ ps := by
  induction l generalizing x with
  | nil =>
    cases hx
    exact ⟨.refl _, rfl, [], List.nil_sublist _, by simp, by simp⟩
  | cons p l ih =>
    rw [List.foldlM_cons] at hx
    obtain ⟨x₁, hx₁, hx⟩ := Option.bind_eq_some_iff.mp hx
    obtain ⟨he, hw, ps, hps, hheld, hu⟩ :=
      nhReachableNotification_spec (hs p List.mem_cons_self) hx₁
    have hs' : ∀ q ∈ l, ∀ route, getRouteByNhParams x₁.l3.installed q = some route →
        q ∈ refsOfRoute env route ∧ x₁.l3.takes env sw n nud = true := by
      intro q hq route hroute
      rw [he.installed] at hroute
      obtain ⟨hmem, ht⟩ := hs q (List.mem_cons_of_mem _ hq) route hroute
      exact ⟨hmem, takes_mono he.toGrows ht⟩
    obtain ⟨he', hw', ps', hps', hheld', hu'⟩ := ih hs' hx
    refine ⟨he.trans he', hw'.trans hw, ps ++ ps', hps.append hps', ?_, ?_⟩
    · rw [hheld', hheld, List.append_assoc]
    · rw [hu', hu, List.append_assoc]

/-- The callbacks of a neighbour go from one list to the other. -/
theorem Fits.notifyReachable (h : Fits b x) {n : Int × Addr} {nud : Nud}
    (hs : ∀ p ∈ x.l3.nhCallbacks, p.nh.neigh = n → ∀ route,
      getRouteByNhParams x.l3.installed p = some route →
        p ∈ refsOfRoute env route ∧ x.l3.takes env sw n nud = true)
    (hx : x.notifyReachable env sw n nud = some x') :
    Fits b x' ∧ Extends x.l3 x'.l3 ∧ ∀ p ∈ x'.l3.nhCallbacks, p ∈ x.l3.nhCallbacks := by
  unfold Tracked.notifyReachable at hx
  obtain ⟨x₁, hx₁, hx⟩ := Option.bind_eq_some_iff.mp hx
  cases hx
  have hs' : ∀ p ∈ x.l3.nhCallbacks.filter (fun p => p.nh.neigh == n), ∀ route,
      getRouteByNhParams x.l3.installed p = some route →
        p ∈ refsOfRoute env route ∧ x.l3.takes env sw n nud = true := by
    intro p hp
    rw [List.mem_filter, beq_iff_eq] at hp
    exact hs p hp.1 hp.2
  obtain ⟨he, hw, ps, hps, hheld, hu⟩ := nhReachableNotifications_spec hs' hx₁
  refine ⟨⟨fun q => ?_, fun q => ?_⟩, ⟨⟨he.vlan, he.egress⟩, he.installed, he.active⟩,
    fun p hp => (List.mem_filter.mp hp).1⟩
  · have hle := hps.count_le q
    have hb := h.count_le q
    have hsplit := count_filter_neigh x.l3.nhCallbacks n q
    simp only [hu, List.count_append]
    omega
  · have hh := h.held q
    change x₁.held.count q = _
    simp only [hu, hheld, List.count_append]
    omega

/-- The host entry of a neighbour, with a reference of its own. -/
theorem addHost_spec (env : L3Env) (sw : L3Switch) (s : L3) (l : NhStub.Set) (n : Int × Addr)
    (nud : Nud) {y : Int × L3}
    (hy : L3.addL3NeighEgress env sw { s with routableL3Neighs := l } n nud = y) :
    Extends s y.2 ∧ y.2.nhCallbacks = s.nhCallbacks ∧
      y.2.nhUnreachCallbacks = s.nhUnreachCallbacks ∧
      (0 ≤ y.1 → 0 ≤ (s.addL3NeighEgress env sw n nud).1) := by
  subst hy
  obtain ⟨g, pv, hgp, hgrows⟩ :=
    addL3NeighEgress_spec env sw { s with routableL3Neighs := l } n nud
  have hback : Grows { s with routableL3Neighs := l } s := ⟨fun _ h => h, fun _ h => h⟩
  refine ⟨?_, ?_, ?_, addL3NeighEgress_mono hback n nud⟩
  · rw [hgp]
    exact ⟨⟨hgrows.vlan, hgrows.egress⟩, rfl, rfl⟩
  · rw [hgp]
  · rw [hgp]

/-- A neighbour that comes, with references for the routes that wait for it. -/
theorem Fits.addL3Neigh (h : Fits b x) {n : Int × Addr} {nud : Nud}
    (hs : Serves env sw x.l3 x.l3.nhCallbacks n nud)
    (hx : x.addL3Neigh env sw n nud = some x') :
    Fits b x' ∧ Extends x.l3 x'.l3 ∧ ∀ p ∈ x'.l3.nhCallbacks, p ∈ x.l3.nhCallbacks := by
  unfold Tracked.addL3Neigh at hx
  by_cases hll : n.2.cmpPrefix ipv6Ll = .eq
  · simp only [hll, beq_self_eq_true, if_true] at hx
    refine h.notifyReachable (fun p hp hpn route hroute => ?_) hx
    obtain ⟨hmem, hrv, hport⟩ := hs (.inl hll) p hp hpn route hroute
    exact ⟨hmem, by simp [takes, hport (hrv hll), hrv hll]⟩
  · have hbeq : (n.2.cmpPrefix ipv6Ll == .eq) = false := by simpa using hll
    simp only [hbeq, Bool.false_eq_true, if_false] at hx
    by_cases hroutable : x.l3.isL3NeighRoutable env n = true
    · rw [if_pos hroutable] at hx
      generalize hy : L3.addL3NeighEgress env sw _ n nud = y at hx
      obtain ⟨he, hw, hu, hback⟩ := addHost_spec env sw x.l3 _ n nud hy
      obtain ⟨rv, s⟩ := y
      have hf : Fits b { x with l3 := s } := by
        refine ⟨fun q => ?_, fun q => ?_⟩
        · rw [hw, hu]
          exact h.count_le q
        · rw [hu]
          exact h.held q
      dsimp only at he hw hback hx
      split at hx
      · cases hx
        exact ⟨hf, he, fun p hp => hw ▸ hp⟩
      · next hrv =>
        split at hx
        · cases hx
          exact ⟨hf, he, fun p hp => hw ▸ hp⟩
        · next hhost =>
          have hrv' := hback (not_lt.mp hrv)
          obtain ⟨hf', he', hw'⟩ := hf.notifyReachable (fun p hp hpn route hroute => by
            rw [hw] at hp
            rw [he.installed] at hroute
            obtain ⟨hmem, -, hport⟩ :=
              hs (.inr ⟨hroutable, not_lt.mp hhost⟩) p hp hpn route hroute
            have ht : x.l3.takes env sw n nud = true := by simp [takes, hport hrv', hrv']
            exact ⟨hmem, takes_mono he.toGrows ht⟩) hx
          exact ⟨hf', he.trans he', fun p hp => hw ▸ hw' p hp⟩
    · rw [if_neg hroutable] at hx
      cases hx
      exact ⟨⟨h.count_le, h.held⟩, ⟨⟨fun _ h => h, fun _ h => h⟩, rfl, rfl⟩, fun _ h => h⟩

/-- A neighbour that a route makes routable. -/
theorem Fits.enableNeigh (h : Fits b x) {m : NhStub}
    (hs : ∀ nud, env.neigh m.neigh = some nud → Serves env sw x.l3 x.l3.nhCallbacks m.neigh nud)
    (hx : x.enableNeigh env sw m = some x') :
    Fits b x' ∧ Extends x.l3 x'.l3 ∧ ∀ p ∈ x'.l3.nhCallbacks, p ∈ x.l3.nhCallbacks := by
  unfold Tracked.enableNeigh at hx
  cases hm : env.neigh m.neigh with
  | none =>
    rw [hm] at hx
    cases hx
    exact ⟨h, .refl _, fun _ hp => hp⟩
  | some nud =>
    rw [hm] at hx
    let x₀ : Tracked := { x with
      l3 := { x.l3 with unroutableL3Neighs := x.l3.unroutableL3Neighs.erase m } }
    have hf₀ : Fits b x₀ := ⟨h.count_le, h.held⟩
    have he₀ : Extends x.l3 x₀.l3 := ⟨⟨fun _ h => h, fun _ h => h⟩, rfl, rfl⟩
    obtain ⟨hf, he, hw⟩ := hf₀.addL3Neigh ((hs nud hm).mono he₀.toGrows rfl fun _ h => h) hx
    exact ⟨hf, he₀.trans he, hw⟩

/-- The neighbours that a route makes routable. -/
theorem Fits.enableNeighs (h : Fits b x) {l : List NhStub}
    (hs : ∀ m ∈ l, ∀ nud, env.neigh m.neigh = some nud →
      Serves env sw x.l3 x.l3.nhCallbacks m.neigh nud)
    (hx : l.foldlM (Tracked.enableNeigh env sw) x = some x') :
    Fits b x' ∧ Extends x.l3 x'.l3 := by
  induction l generalizing x with
  | nil =>
    cases hx
    exact ⟨h, .refl _⟩
  | cons m l ih =>
    rw [List.foldlM_cons] at hx
    obtain ⟨x₁, hx₁, hx⟩ := Option.bind_eq_some_iff.mp hx
    obtain ⟨hf, he, hw⟩ := h.enableNeigh (hs m List.mem_cons_self) hx₁
    obtain ⟨hf', he'⟩ := ih hf (fun m' hm' nud hn =>
      (hs m' (List.mem_cons_of_mem _ hm') nud hn).mono he.toGrows he.installed hw) hx
    exact ⟨hf', he.trans he'⟩

/-- A next hop of a new route is resolved, with a reference, or waits. -/
theorem addNextHop_spec (dst : Prefix) (nh : NhStub)
    (hp : ∀ dMac, env.neigh nh.neigh = some (.valid dMac) →
      0 ≤ (x.l3.addL3NeighEgress env sw nh.neigh (.valid dMac)).1 →
        findsPort env nh.neigh (.valid dMac) = true) :
    Extends x.l3 (addNextHop env sw dst x nh).l3 ∧
      (addNextHop env sw dst x nh).l3.unroutableL3Neighs = x.l3.unroutableL3Neighs ∧
      ∃ ws us : List L3Params, (ws ++ us).Sublist [{ dst := dst, nh := nh }] ∧
        (addNextHop env sw dst x nh).l3.nhCallbacks = x.l3.nhCallbacks ++ ws ∧
        (addNextHop env sw dst x nh).l3.nhUnreachCallbacks = x.l3.nhUnreachCallbacks ++ us ∧
        (addNextHop env sw dst x nh).held = x.held ++ us := by
  by_cases hv : ∃ dMac, env.neigh nh.neigh = some (.valid dMac)
  · obtain ⟨dMac, hn⟩ := hv
    obtain ⟨g, pv, hgp, hgrows⟩ := addL3NeighEgress_spec env sw x.l3 nh.neigh (.valid dMac)
    by_cases hrv : (x.l3.addL3NeighEgress env sw nh.neigh (.valid dMac)).1 < 0
    · have ht : x.l3.takes env sw nh.neigh (.valid dMac) = false := by
        simp [takes, hrv]
      simp only [addNextHop, l3_take, held_take, L3.addNextHop, hn, hrv, if_true, ht,
        Bool.false_eq_true, if_false, hgp]
      refine ⟨⟨⟨hgrows.vlan, hgrows.egress⟩, rfl, rfl⟩, trivial, [], [], ?_, ?_, ?_, ?_⟩ <;> simp
    · have ht : x.l3.takes env sw nh.neigh (.valid dMac) = true := by
        simp [takes, hp dMac hn (not_lt.mp hrv), not_lt.mp hrv]
      simp only [addNextHop, l3_take, held_take, L3.addNextHop, hn, hrv, if_false, ht, if_true, hgp]
      refine ⟨⟨⟨hgrows.vlan, hgrows.egress⟩, rfl, rfl⟩, trivial, [], [_], ?_, ?_, rfl, rfl⟩ <;> simp
  · have hheld : (addNextHop env sw dst x nh).held = x.held := by
      unfold addNextHop
      rw [held_take]
      split
      · next dMac hn => exact absurd ⟨dMac, hn⟩ hv
      · rfl
    rw [hheld]
    unfold addNextHop L3.addNextHop
    rw [l3_take]
    dsimp only
    split
    · next dMac hn => exact absurd ⟨dMac, hn⟩ hv
    · split
      · refine ⟨⟨⟨fun _ h => h, fun _ h => h⟩, rfl, rfl⟩, rfl, [_], [], ?_, rfl, ?_, ?_⟩ <;> simp
      · refine ⟨⟨⟨fun _ h => h, fun _ h => h⟩, rfl, rfl⟩, rfl, [], [], ?_, ?_, ?_, ?_⟩ <;> simp

/-- The loop over the next hops of a new route. -/
theorem Fits.addNextHops (h : Fits b x) (dst : Prefix) {nhs : List NhStub}
    (hp : ∀ nh ∈ nhs, ∀ dMac, env.neigh nh.neigh = some (.valid dMac) →
      0 ≤ (x.l3.addL3NeighEgress env sw nh.neigh (.valid dMac)).1 →
        findsPort env nh.neigh (.valid dMac) = true) :
    Fits (fun q => b q + (nhs.map fun nh => { dst := dst, nh := nh }).count q)
        (nhs.foldl (addNextHop env sw dst) x) ∧
      Extends x.l3 (nhs.foldl (addNextHop env sw dst) x).l3 ∧
      (nhs.foldl (addNextHop env sw dst) x).l3.unroutableL3Neighs = x.l3.unroutableL3Neighs ∧
      ∀ p ∈ (nhs.foldl (addNextHop env sw dst) x).l3.nhCallbacks,
        p ∈ x.l3.nhCallbacks ++ nhs.map fun nh => { dst := dst, nh := nh } := by
  induction nhs generalizing x b with
  | nil => exact ⟨h, .refl _, rfl, by simp⟩
  | cons nh nhs ih =>
    obtain ⟨he, hun, ws, us, hsub, hw, hu, hheld⟩ :=
      addNextHop_spec dst nh (hp nh List.mem_cons_self)
    have hf : Fits (fun q => b q + [({ dst := dst, nh := nh } : L3Params)].count q)
        (addNextHop env sw dst x nh) := by
      refine ⟨fun q => ?_, fun q => ?_⟩
      · have hle := hsub.count_le q
        have hb := h.count_le q
        simp only [hw, hu, List.count_append] at hle ⊢
        omega
      · simp only [hheld, hu, List.count_append, h.held q]
    obtain ⟨hf', he', hun', hw'⟩ := ih hf fun nh' hnh' dMac hn =>
      findsPort_mono _ _ (hp nh' (List.mem_cons_of_mem _ hnh') dMac hn)
    refine ⟨⟨fun q => ?_, hf'.held⟩, he.trans he', hun'.trans hun, fun p hp => ?_⟩
    · have hb := hf'.count_le q
      simp only [List.foldl_cons, List.map_cons, List.count_cons, List.count_nil] at hb ⊢
      omega
    · have hmem := hw' p hp
      rw [hw, List.mem_append, List.mem_append] at hmem
      rw [List.map_cons, List.mem_append, List.mem_cons]
      rcases hmem with (hmem | hmem) | hmem
      · exact .inl hmem
      · have := hsub.subset (List.mem_append_left us hmem)
        exact .inr (.inl (List.mem_singleton.mp this))
      · exact .inr (.inr hmem)

/-- The ECMP group of a route has nothing to do with its callbacks. -/
theorem Fits.addL3EcmpGroup (h : Fits b x) (nhs : NhStub.Set)
    (hx : (if nhs.length ≤ 1 then x else { x with l3 := { x.l3 with
      groups := (x.l3.groups.addL3EcmpGroup nhs.toFinset 0).2.2 } }) = x') :
    Fits b x' ∧ Extends x.l3 x'.l3 ∧ x'.l3.unroutableL3Neighs = x.l3.unroutableL3Neighs ∧
      x'.l3.nhCallbacks = x.l3.nhCallbacks := by
  subst hx
  split
  · exact ⟨h, .refl _, rfl, rfl⟩
  · refine ⟨⟨h.count_le, h.held⟩, ⟨⟨fun _ hk => hk, fun k hk => ?_⟩, rfl, rfl⟩, rfl, rfl⟩
    unfold L3Groups.addL3EcmpGroup
    cases x.l3.groups.nhGrpToL3EcmpMapping.lookup nhs.toFinset <;> exact hk

/-- **An addition** keeps a reference for each callback that waits for its next hop to go. -/
theorem Fits.addL3UnicastRoute (h : Fits b x) {r : L3Route} (ht : Takes env sw x.l3 r)
    (hd : duplicate env x.l3.installed r = false)
    (hx : x.addL3UnicastRoute env sw r = some x') :
    Fits (fun q => b q + (refsOfRoute env r).count q) x' ∧
      x'.l3.active = x.l3.active ++ [r] ∧ getNeighboursOfRoute env r ≠ none := by
  unfold Tracked.addL3UnicastRoute at hx
  rw [hd, if_neg Bool.false_ne_true] at hx
  cases hg : getNeighboursOfRoute env r with
  | none => simp [hg] at hx
  | some y =>
    obtain ⟨rv, nhs⟩ := y
    simp only [hg] at hx
    rw [refsOfRoute_eq hg]
    let x₀ : Tracked := { x with l3 := { x.l3 with active := x.l3.active ++ [r] } }
    by_cases hrv : rv < 0
    · rw [if_pos hrv] at hx
      cases hx
      rw [(getNeighboursOfRoute_spec hg).2 hrv]
      exact ⟨⟨h.count_le, h.held⟩, rfl, Option.some_ne_none _⟩
    · rw [if_neg hrv] at hx
      have hf₀ : Fits b x₀ := ⟨h.count_le, h.held⟩
      have hback : Grows x₀.l3 x.l3 := ⟨fun _ h => h, fun _ h => h⟩
      have hport : ∀ nh ∈ nhs, ∀ dMac, env.neigh nh.neigh = some (.valid dMac) →
          0 ≤ (x₀.l3.addL3NeighEgress env sw nh.neigh (.valid dMac)).1 →
            findsPort env nh.neigh (.valid dMac) = true := by
        intro nh hnh dMac hn hrv
        refine ht.port { dst := r.dst, nh := nh } ?_ dMac hn (addL3NeighEgress_mono hback _ _ hrv)
        rw [refsOfRoute_eq hg]
        exact List.mem_map.mpr ⟨nh, hnh, rfl⟩
      obtain ⟨hf, he, hun, hw⟩ := hf₀.addNextHops r.dst hport
      generalize hz : (if nhs.length ≤ 1 then nhs.foldl (addNextHop env sw r.dst) x₀ else _) = z at hx
      obtain ⟨hfz, hez, hunz, hwz⟩ := hf.addL3EcmpGroup nhs hz
      rw [← hwz] at hw
      have he₁ : Extends x₀.l3 z.l3 := he.trans hez
      by_cases hsc : env.scopeLink r = true
      · rw [if_pos hsc, hunz, hun] at hx
        have hgrows : Grows x.l3 z.l3 := ⟨he₁.vlan, he₁.egress⟩
        obtain ⟨hf', he'⟩ := hfz.enableNeighs (fun m hm nud hn =>
          (ht.serves hsc m hm nud hn).mono hgrows he₁.installed (by rwa [refsOfRoute_eq hg])) hx
        exact ⟨hf', he'.active.trans he₁.active, Option.some_ne_none _⟩
      · rw [if_neg hsc] at hx
        cases hx
        exact ⟨hfz, he₁.active, Option.some_ne_none _⟩

end Taken

/-! ## References that are given back -/

section Given

variable {env : L3Env} {sw : L3Switch} {s s' : L3} {x x' x'' : Tracked} {b : L3Params → Nat}
  {n : Int × Addr}

/-- How many callbacks are told that the neighbour goes. -/
def callbacks (s : L3) (n : Int × Addr) : Nat :=
  (s.nhUnreachCallbacks.filter fun p => p.nh.neigh == n).length

/-- `del_l3_neigh` gets to the callbacks. -/
def Notifies (env : L3Env) (sw : L3Switch) (s : L3) (n : Int × Addr) : Prop :=
  ({ nh := n.2, ifindex := n.1 } : NhStub) ∉ s.unroutableL3Neighs ∧
    (n.2 ∈ env.l3Addrs n.1 ∨ n.2.cmpPrefix ipv6Ll = .eq ∨ 0 ≤ sw.hostRemove n.2)

/-- The references that the host entry of the neighbour gives back first. -/
def ownRefs (env : L3Env) (n : Int × Addr) : Nat :=
  if n.2 ∉ env.l3Addrs n.1 ∧ n.2.cmpPrefix ipv6Ll = .eq then 0 else 1

/-- What a neighbour that goes has to find: its link-layer address leads to the references that routes
have taken for it, and the tables count them all. -/
def Releases (env : L3Env) (sw : L3Switch) (x : Tracked) (n : Int × Addr) : Nud → Prop
  | .valid dMac => Notifies env sw x.l3 n → ∀ t ∈ x.taken, t.params.nh.neigh = n →
    givenRefs env n dMac = some t.refs ∧
      (callbacks x.l3 n + ownRefs env n) • t.refs ≤ x.l3.refs
  | _ => True

/-- What the neighbours have to find that a route makes unroutable. -/
def Disables (env : L3Env) (sw : L3Switch) (y : Option Tracked) (m : NhStub) : Prop :=
  ∀ x ∈ y, ∀ nud, env.neigh m.neigh = some nud → Releases env sw x m.neigh nud

/-- Callbacks that wait for a next hop to go are gone, for the neighbours `ns` only. -/
structure Gives (ns : List (Int × Addr)) (x x' : Tracked) : Prop where
  installed : x'.l3.installed = x.l3.installed
  active : x'.l3.active = x.l3.active
  released : x'.released = x.released
  unreach_le : ∀ q, x'.l3.nhUnreachCallbacks.count q ≤ x.l3.nhUnreachCallbacks.count q
  unreach_eq : ∀ q, q.nh.neigh ∉ ns →
    x'.l3.nhUnreachCallbacks.count q = x.l3.nhUnreachCallbacks.count q
  refsOf : ∀ q, q.nh.neigh ∉ ns → x'.refsOf q = x.refsOf q

theorem Gives.refl (ns : List (Int × Addr)) (x : Tracked) : Gives ns x x :=
  ⟨rfl, rfl, rfl, fun _ => le_refl _, fun _ _ => rfl, fun _ _ => rfl⟩

theorem Gives.trans {ns ns' : List (Int × Addr)} (h : Gives ns x x') (h' : Gives ns' x' x'') :
    Gives (ns ++ ns') x x'' where
  installed := h'.installed.trans h.installed
  active := h'.active.trans h.active
  released := h'.released.trans h.released
  unreach_le q := (h'.unreach_le q).trans (h.unreach_le q)
  unreach_eq q hq := by
    rw [List.mem_append, not_or] at hq
    exact (h'.unreach_eq q hq.2).trans (h.unreach_eq q hq.1)
  refsOf q hq := by
    rw [List.mem_append, not_or] at hq
    exact (h'.refsOf q hq.2).trans (h.refsOf q hq.1)

/-- What `nh_unreachable_notification` does, whether or not there is a route. -/
theorem nhUnreachableNotification_spec {dMac : Mac} {p : L3Params}
    (h : L3.nhUnreachableNotification env s n dMac p = some s') :
    s'.installed = s.installed ∧ s'.active = s.active ∧
      s'.nhUnreachCallbacks = s.nhUnreachCallbacks ∧
      s'.refs = (s.delL3NeighEgress env n dMac).refs ∧
      ∃ ws : List L3Params, ws.Sublist [p] ∧ s'.nhCallbacks = s.nhCallbacks ++ ws := by
  obtain ⟨g, pv, hgp⟩ := delL3NeighEgress_frame env s n dMac
  rcases nhUnreachableNotification_cases h with ⟨-, rfl⟩ | ⟨route, -, -, rfl⟩
  · rw [hgp]
    exact ⟨rfl, rfl, rfl, rfl, [], List.nil_sublist _, by simp⟩
  · rw [hgp]
    exact ⟨rfl, rfl, rfl, rfl, [p], List.Sublist.refl _, rfl⟩

/-- The loop over `nh_unreach_callbacks`: each gives its reference back, and waits again. -/
theorem nhUnreachableNotifications_spec {dMac : Mac} {l : List L3Params} {m : Multiset L3Ref}
    (hm : givenRefs env n dMac = some m) (hn : ∀ p ∈ l, p.nh.neigh = n)
    (hall : ∀ t ∈ x.taken, t.params.nh.neigh = n → t.refs = m) (hle : l.length • m ≤ x.l3.refs)
    (hx : l.foldlM (fun x p => x.nhUnreachableNotification env n dMac p) x = some x') :
    x'.l3.installed = x.l3.installed ∧ x'.l3.active = x.l3.active ∧ x'.released = x.released ∧
      x'.l3.nhUnreachCallbacks = x.l3.nhUnreachCallbacks ∧ x'.held = x.held.diff l ∧
      (∀ q, q.nh.neigh ≠ n → x'.refsOf q = x.refsOf q) ∧
      ∃ ws : List L3Params, ws.Sublist l ∧ x'.l3.nhCallbacks = x.l3.nhCallbacks ++ ws := by
  induction l generalizing x with
  | nil =>
    cases hx
    exact ⟨rfl, rfl, rfl, rfl, rfl, fun _ _ => rfl, [], List.nil_sublist _, by simp⟩
  | cons p l ih =>
    rw [List.foldlM_cons] at hx
    obtain ⟨x₁, hx₁, hx⟩ := Option.bind_eq_some_iff.mp hx
    obtain ⟨s₁, hs₁, rfl⟩ := Option.map_eq_some_iff.mp hx₁
    obtain ⟨hp, hn⟩ := List.forall_mem_cons.mp hn
    obtain ⟨hi₁, ha₁, hu₁, hrefs, ws₁, hws₁, hw₁⟩ := nhUnreachableNotification_spec hs₁
    rw [refs_delL3NeighEgress_of_given hm] at hrefs
    rw [List.length_cons, succ_nsmul] at hle
    -- The tables lose just what was taken.
    have hlost : x.l3.refs - s₁.refs = m := by
      rw [hrefs]
      exact tsub_tsub_cancel_of_le (le_trans le_add_self hle)
    have hheld₁ : (x.give s₁ p).held = x.held.erase p :=
      held_give x s₁ p fun t ht htp => by rw [hlost, hall t ht (htp ▸ hp)]
    obtain ⟨hi, ha, hr, hu, hheld, hrefsOf, ws, hws, hw⟩ := ih hn
      (fun t ht => hall t (taken_give_subset x s₁ p ht))
      (by rw [l3_give, hrefs]; exact le_tsub_of_add_le_right hle) hx
    refine ⟨hi.trans hi₁, ha.trans ha₁, hr, hu.trans hu₁, ?_, fun q hq => ?_, ws₁ ++ ws,
      hws₁.append hws, ?_⟩
    · rw [hheld, hheld₁, List.diff_cons]
    · rw [hrefsOf q hq]
      exact refsOf_give x s₁ p fun e => hq (e ▸ hp)
    · rw [hw, l3_give, hw₁, List.append_assoc]

/-- A reference is held for each callback. -/
theorem Fits.mem_held (h : Fits b x) {p : L3Params} :
    p ∈ x.held ↔ p ∈ x.l3.nhUnreachCallbacks := by
  rw [← List.count_pos_iff, h.held p, List.count_pos_iff]

/-- The callbacks of a neighbour go back to the other list, with their references. -/
theorem Fits.notifyUnreachable (h : Fits b x) {dMac : Mac}
    (hr : ∀ t ∈ x.taken, t.params.nh.neigh = n →
      givenRefs env n dMac = some t.refs ∧ callbacks x.l3 n • t.refs ≤ x.l3.refs)
    (hx : x.notifyUnreachable env n dMac = some x') : Fits b x' ∧ Gives [n] x x' := by
  unfold Tracked.notifyUnreachable at hx
  obtain ⟨x₁, hx₁, hx⟩ := Option.bind_eq_some_iff.mp hx
  cases hx
  have hl : ∀ p ∈ x.l3.nhUnreachCallbacks.filter (fun p => p.nh.neigh == n),
      p ∈ x.l3.nhUnreachCallbacks ∧ p.nh.neigh = n := by
    intro p hp
    rwa [List.mem_filter, beq_iff_eq] at hp
  obtain ⟨hi, ha, hrel, -, hheld, hrefsOf, ws, hws, hw⟩ : x₁.l3.installed = x.l3.installed ∧
      x₁.l3.active = x.l3.active ∧ x₁.released = x.released ∧
      x₁.l3.nhUnreachCallbacks = x.l3.nhUnreachCallbacks ∧
      x₁.held = x.held.diff (x.l3.nhUnreachCallbacks.filter fun p => p.nh.neigh == n) ∧
      (∀ q, q.nh.neigh ≠ n → x₁.refsOf q = x.refsOf q) ∧
      ∃ ws : List L3Params, ws.Sublist (x.l3.nhUnreachCallbacks.filter fun p => p.nh.neigh == n) ∧
        x₁.l3.nhCallbacks = x.l3.nhCallbacks ++ ws := by
    rcases hc : x.l3.nhUnreachCallbacks.filter (fun p => p.nh.neigh == n) with _ | ⟨p, l⟩
    · rw [hc] at hx₁ ⊢
      cases hx₁
      exact ⟨rfl, rfl, rfl, rfl, rfl, fun _ _ => rfl, [], List.nil_sublist _, by simp⟩
    · obtain ⟨hp, hpn⟩ := hl p (hc ▸ List.mem_cons_self)
      obtain ⟨t, ht, rfl⟩ := List.mem_map.mp (h.mem_held.mpr hp)
      obtain ⟨hm, hle⟩ := hr t ht hpn
      refine nhUnreachableNotifications_spec hm (fun p hp => (hl p hp).2) (fun t' ht' hn' => ?_) hle
        hx₁
      exact Option.some.inj ((hr t' ht' hn').1.symm.trans hm)
  refine ⟨⟨fun q => ?_, fun q => ?_⟩, hi, ha, hrel, fun q => List.filter_sublist.count_le q,
    fun q hq => ?_, fun q hq => hrefsOf q (by simpa using hq)⟩
  · have hle := hws.count_le q
    have hb := h.count_le q
    have hsplit := count_filter_neigh x.l3.nhUnreachCallbacks n q
    simp only [hw, List.count_append]
    omega
  · have hsplit := count_filter_neigh x.l3.nhUnreachCallbacks n q
    have hh := h.held q
    change x₁.held.count q = _
    simp only [hheld, List.count_diff]
    omega
  · exact List.count_filter (by simpa using hq)

/-- A neighbour that goes. -/
theorem Fits.delL3Neigh (h : Fits b x) {nud : Nud} (hr : Releases env sw x n nud)
    (hx : x.delL3Neigh env sw n nud = some x') : Fits b x' ∧ Gives [n] x x' := by
  unfold Tracked.delL3Neigh at hx
  cases nud with
  | failed =>
    cases hx
    exact ⟨h, .refl _ _⟩
  | incomplete =>
    cases hx
    exact ⟨h, .refl _ _⟩
  | valid dMac =>
    cases hlink : env.link n.1 with
    | none =>
      rw [hlink] at hx
      cases hx
      exact ⟨h, .refl _ _⟩
    | some link =>
      rw [hlink] at hx
      dsimp only at hx
      split at hx
      · cases hx
        exact ⟨⟨h.count_le, h.held⟩, rfl, rfl, rfl, fun _ => le_refl _, fun _ _ => rfl,
          fun _ _ => rfl⟩
      · next hun =>
        split at hx
        · cases hx
          exact ⟨⟨h.count_le, h.held⟩, rfl, rfl, rfl, fun _ => le_refl _, fun _ _ => rfl,
            fun _ _ => rfl⟩
        · next hskip =>
          have hgets : Notifies env sw x.l3 n := by
            refine ⟨hun, ?_⟩
            by_contra hno
            simp only [not_or, not_le] at hno
            exact hskip (by simp [hno.1, hno.2.1, hno.2.2])
          have hrel := hr hgets
          -- The host entry goes first, with its own reference.
          generalize x.l3.routableL3Neighs.erase { nh := n.2, ifindex := n.1 } = l at hx
          have hnotify (g : L3Groups NhStub) (pv : Table (Nat × Nat) Nat)
              (hrefs : ∀ t ∈ x.taken, t.params.nh.neigh = n → callbacks x.l3 n • t.refs ≤
                { x.l3 with groups := g, portVlan := pv, routableL3Neighs := l }.refs)
              (hx : ({ x with l3 := { x.l3 with
                  groups := g, portVlan := pv, routableL3Neighs := l } } : Tracked).notifyUnreachable
                env n dMac = some x') : Fits b x' ∧ Gives [n] x x' := by
            have hf₀ : Fits b { x with l3 := { x.l3 with
                groups := g, portVlan := pv, routableL3Neighs := l } } := ⟨h.count_le, h.held⟩
            obtain ⟨hf, hgives⟩ := hf₀.notifyUnreachable
              (fun t ht htn => ⟨(hrel t ht htn).1, hrefs t ht htn⟩) hx
            exact ⟨hf, hgives.installed, hgives.active, hgives.released, hgives.unreach_le,
              hgives.unreach_eq, hgives.refsOf⟩
          split at hx
          · next hll =>
            refine hnotify _ _ (fun t ht htn => ?_) hx
            have hle := (hrel t ht htn).2
            rw [ownRefs, if_pos (by simpa using hll), Nat.add_zero] at hle
            exact hle
          · next hll =>
            obtain ⟨g, pv, hgp⟩ :=
              delL3NeighEgress_frame env { x.l3 with routableL3Neighs := l } n dMac
            rw [hgp] at hx
            refine hnotify g pv (fun t ht htn => ?_) hx
            obtain ⟨hgiven, hle⟩ := hrel t ht htn
            have hrefs := refs_delL3NeighEgress_of_given hgiven { x.l3 with routableL3Neighs := l }
            rw [hgp] at hrefs
            rw [ownRefs, if_neg (by simpa using hll), succ_nsmul] at hle
            rw [hrefs]
            exact le_tsub_of_add_le_right hle

/-- A neighbour that loses its route. -/
theorem Fits.disableNeigh (h : Fits b x) {m : NhStub} (hr : Disables env sw (some x) m)
    (hx : x.disableNeigh env sw m = some x') : Fits b x' ∧ Gives [m.neigh] x x' := by
  unfold Tracked.disableNeigh at hx
  cases hm : env.neigh m.neigh with
  | none =>
    rw [hm] at hx
    cases hx
    exact ⟨h, .refl _ _⟩
  | some nud =>
    rw [hm] at hx
    obtain ⟨x₁, hx₁, rfl⟩ := Option.map_eq_some_iff.mp hx
    obtain ⟨hf, hgives⟩ := h.delL3Neigh (hr x rfl nud hm) hx₁
    exact ⟨⟨hf.count_le, hf.held⟩, hgives.installed, hgives.active, hgives.released,
      hgives.unreach_le, hgives.unreach_eq, hgives.refsOf⟩

/-- The neighbours that lose their route. -/
theorem Fits.disableNeighs (h : Fits b x) {r : L3Route}
    (hr : env.scopeLink r = true → Along (fun y m => y.bind fun x => x.disableNeigh env sw m)
      (Disables env sw) (some x) (getL3NeighsOfPrefix x.l3.routableL3Neighs r.dst))
    (hx : x.disableNeighs env sw r = some x') :
    Fits b x' ∧ Gives (if env.scopeLink r then
      (getL3NeighsOfPrefix x.l3.routableL3Neighs r.dst).map NhStub.neigh else []) x x' := by
  unfold Tracked.disableNeighs at hx
  by_cases hsc : env.scopeLink r = true
  · replace hr := hr hsc
    rw [if_pos hsc] at hx ⊢
    generalize getL3NeighsOfPrefix x.l3.routableL3Neighs r.dst = l at hx hr
    clear hsc
    induction l generalizing x with
    | nil =>
      cases hx
      exact ⟨h, .refl _ _⟩
    | cons m l ih =>
      rw [List.foldlM_cons] at hx
      obtain ⟨x₁, hx₁, hx⟩ := Option.bind_eq_some_iff.mp hx
      obtain ⟨hf, hgives⟩ := h.disableNeigh hr.1 hx₁
      have hrest := hr.2
      simp only [Option.bind_some, hx₁] at hrest
      obtain ⟨hf', hgives'⟩ := ih hf hx hrest
      exact ⟨hf', hgives.trans hgives'⟩
  · rw [if_neg hsc] at hx
    cases hx
    exact ⟨h, .refl _ _⟩

/-- The next hops of the routes in the cache are read, and can be looked up. -/
def Readable (env : L3Env) (x : Tracked) : Prop := ∀ route ∈ x.l3.installed, LooksUp env route

theorem Readable.notifyUnreachable (h : Readable env x) (n : Int × Addr) (dMac : Mac) :
    ∃ x', x.notifyUnreachable env n dMac = some x' ∧ Readable env x' := by
  obtain ⟨x₁, hx₁, h₁⟩ := exists_foldlM_option (I := Readable env)
    (f := fun x p => x.nhUnreachableNotification env n dMac p)
    (fun x p hx => by
      obtain ⟨s, hs⟩ := nhUnreachableNotification_returns
        (fun route hroute => hx route (List.mem_of_find?_eq_some hroute)) n dMac
      refine ⟨_, by rw [nhUnreachableNotification, hs]; rfl, ?_⟩
      have hi := (nhUnreachableNotification_spec hs).1
      unfold Readable
      rw [l3_give, hi]
      exact hx)
    (x.l3.nhUnreachCallbacks.filter fun p => p.nh.neigh == n) h
  unfold Tracked.notifyUnreachable
  rw [hx₁]
  exact ⟨_, rfl, h₁⟩

theorem Readable.delL3Neigh (h : Readable env x) (sw : L3Switch) (n : Int × Addr) (nud : Nud) :
    ∃ x', x.delL3Neigh env sw n nud = some x' ∧ Readable env x' := by
  unfold Tracked.delL3Neigh
  cases nud with
  | failed => exact ⟨x, rfl, h⟩
  | incomplete => exact ⟨x, rfl, h⟩
  | valid dMac =>
    cases env.link n.1 with
    | none => exact ⟨x, rfl, h⟩
    | some link =>
      dsimp only
      split
      · exact ⟨_, rfl, h⟩
      · split
        · exact ⟨_, rfl, h⟩
        · refine Readable.notifyUnreachable ?_ n dMac
          split
          · exact h
          · generalize x.l3.routableL3Neighs.erase { nh := n.2, ifindex := n.1 } = l
            obtain ⟨g, pv, hgp⟩ :=
              delL3NeighEgress_frame env { x.l3 with routableL3Neighs := l } n dMac
            rw [hgp]
            exact h

theorem Readable.disableNeighs (h : Readable env x) (sw : L3Switch) (r : L3Route) :
    ∃ x', x.disableNeighs env sw r = some x' := by
  unfold Tracked.disableNeighs
  split
  · obtain ⟨x', hx', -⟩ := exists_foldlM_option (I := Readable env) (f := disableNeigh env sw)
      (fun x m hx => by
        unfold disableNeigh
        cases env.neigh m.neigh with
        | none => exact ⟨x, rfl, hx⟩
        | some nud =>
          obtain ⟨y, hy, hI⟩ := hx.delL3Neigh sw m.neigh nud
          simp only [hy, Option.map_some]
          exact ⟨_, rfl, hI⟩) (getL3NeighsOfPrefix x.l3.routableL3Neighs r.dst) h
    exact ⟨x', hx'⟩
  · exact ⟨x, rfl⟩

theorem resolved_iff {nh : NhStub} :
    resolved env nh = true ↔ ∃ dMac, env.neigh nh.neigh = some (.valid dMac) := by
  cases hn : env.neigh nh.neigh with
  | none => simp [resolved, hn]
  | some nud => cases nud <;> simp [resolved, hn]

/-- The callback of a next hop that the cache does not have is one that waits. -/
theorem delNextHop_of_unresolved (x : Tracked) (dst : Prefix) {nh : NhStub}
    (h : resolved env nh = false) :
    delNextHop env dst x nh = { x with l3 := { x.l3 with
      nhCallbacks := x.l3.nhCallbacks.erase { dst := dst, nh := nh } } } := by
  have hs : x.l3.delNextHop env dst nh = { x.l3 with
      nhCallbacks := x.l3.nhCallbacks.erase { dst := dst, nh := nh } } := by
    unfold L3.delNextHop
    cases hn : env.neigh nh.neigh with
    | none => rfl
    | some nud =>
      cases nud with
      | valid dMac => simp [resolved, hn] at h
      | _ => rfl
  have hlost : x.l3.refs - (x.l3.delNextHop env dst nh).refs = 0 := by
    rw [hs]
    exact tsub_self x.l3.refs
  unfold delNextHop
  simp only [h, Bool.false_eq_true, if_false, hlost]
  rw [hs, Multiset.map_zero, add_zero]

/-- The reference of a next hop that the cache has is given back, if the tables count it. -/
theorem delNextHop_of_resolved {dst : Prefix} {nh : NhStub} {dMac : Mac} {m : Multiset L3Ref}
    (hn : env.neigh nh.neigh = some (.valid dMac)) (hm : givenRefs env nh.neigh dMac = some m)
    (hall : ∀ t ∈ x.taken, t.params = { dst := dst, nh := nh } → t.refs = m)
    (hle : m ≤ x.l3.refs) :
    let p : L3Params := { dst := dst, nh := nh }
    let x' := delNextHop env dst x nh
    x'.l3.nhUnreachCallbacks = x.l3.nhUnreachCallbacks.erase p ∧
      x'.l3.nhCallbacks = x.l3.nhCallbacks ∧ x'.l3.active = x.l3.active ∧
      x'.l3.refs = x.l3.refs - m ∧ x'.held = x.held.erase p ∧ x'.taken ⊆ x.taken ∧
      x'.released = x.released + m.map (Prod.mk p) := by
  intro p x'
  have hres : resolved env nh = true := resolved_iff.mpr ⟨dMac, hn⟩
  have hrefs : (x.l3.delNextHop env dst nh).refs = x.l3.refs - m := by
    simp only [L3.delNextHop, hn]
    rw [refs_delL3NeighEgress_of_given hm]
    rfl
  have hlost : x.l3.refs - (x.l3.delNextHop env dst nh).refs = m := by
    rw [hrefs]
    exact tsub_tsub_cancel_of_le hle
  have hx' : x' = { x.give (x.l3.delNextHop env dst nh) p with
      released := x.released + m.map (Prod.mk p) } := by
    simp only [x', delNextHop, hres, if_true, hlost, p]
  obtain ⟨g, pv, hgp⟩ := delL3NeighEgress_frame env
    { x.l3 with nhUnreachCallbacks := x.l3.nhUnreachCallbacks.erase p } nh.neigh dMac
  have hs : x.l3.delNextHop env dst nh = { x.l3 with
      nhUnreachCallbacks := x.l3.nhUnreachCallbacks.erase p, groups := g, portVlan := pv } := by
    simp only [L3.delNextHop, hn]
    exact hgp
  have hheld : (x.give (x.l3.delNextHop env dst nh) p).held = x.held.erase p :=
    held_give x _ p fun t ht htp => by rw [hlost, hall t ht htp]
  rw [hx']
  refine ⟨?_, ?_, ?_, hrefs, hheld, taken_give_subset x _ p, rfl⟩
  · rw [l3_give, hs]
  · rw [l3_give, hs]
  · rw [l3_give, hs]

/-- The next hops of a route are found in the one list or the other, by what the cache has; what was
taken for those in the cache is given back, if the tables count it all. -/
theorem delNextHops_spec (env : L3Env) (dst : Prefix) (refs : NhStub → Multiset L3Ref)
    {nhs : List NhStub} {x : Tracked}
    (hgiven : ∀ nh ∈ nhs, ∀ dMac, env.neigh nh.neigh = some (.valid dMac) →
      givenRefs env nh.neigh dMac = some (refs nh) ∧
        ∀ t ∈ x.taken, t.params = { dst := dst, nh := nh } → t.refs = refs nh)
    (hnone : ∀ nh ∈ nhs, resolved env nh = false → refs nh = 0)
    (hle : (nhs.map refs).sum ≤ x.l3.refs) :
    let ps : List L3Params := nhs.map fun nh => { dst := dst, nh := nh }
    let there := ps.filter fun p => resolved env p.nh
    let gone := ps.filter fun p => !resolved env p.nh
    let x' := nhs.foldl (delNextHop env dst) x
    x'.l3.nhUnreachCallbacks = x.l3.nhUnreachCallbacks.diff there ∧
      x'.l3.nhCallbacks = x.l3.nhCallbacks.diff gone ∧ x'.held = x.held.diff there ∧
      x'.released = x.released + (ps.map fun p => (refs p.nh).map (Prod.mk p)).sum ∧
      x'.l3.active = x.l3.active := by
  intro ps there gone x'
  induction nhs generalizing x with
  | nil => simp [ps, there, gone, x']
  | cons nh nhs ih =>
    rw [List.map_cons, List.sum_cons] at hle
    obtain ⟨hg, hgs⟩ := List.forall_mem_cons.mp hgiven
    obtain ⟨hz, hzs⟩ := List.forall_mem_cons.mp hnone
    simp only [ps, there, gone, x', List.foldl_cons, List.map_cons, List.filter_cons, List.sum_cons]
    by_cases hres : resolved env nh = true
    · obtain ⟨dMac, hn⟩ := resolved_iff.mp hres
      obtain ⟨hm, hall⟩ := hg dMac hn
      obtain ⟨hu₁, hw₁, ha₁, hrefs, hheld₁, hsub, hrel₁⟩ :=
        delNextHop_of_resolved hn hm hall (le_trans le_self_add hle)
      obtain ⟨hu, hw, hheld, hr, ha⟩ := ih (x := delNextHop env dst x nh)
        (fun nh' hmem dMac' hn' => ⟨(hgs nh' hmem dMac' hn').1,
          fun t ht => (hgs nh' hmem dMac' hn').2 t (hsub ht)⟩) hzs
        (by rw [hrefs]; exact le_tsub_of_add_le_left hle)
      rw [hu, hw, hheld, hr, ha, hu₁, hw₁, hheld₁, hrel₁, ha₁]
      simp only [hres, if_true, Bool.not_true, Bool.false_eq_true, if_false, List.diff_cons,
        add_assoc, and_self]
    · rw [Bool.not_eq_true] at hres
      have hx₁ := delNextHop_of_unresolved x dst hres
      have hz := hz hres
      rw [hz, zero_add] at hle
      obtain ⟨hu, hw, hheld, hr, ha⟩ := ih (x := delNextHop env dst x nh)
        (by rw [hx₁]; exact hgs) hzs (by rw [hx₁]; exact hle)
      rw [hu, hw, hheld, hr, ha, hx₁, hz]
      simp only [hres, Bool.not_false, if_true, Bool.false_eq_true, if_false, List.diff_cons,
        Multiset.map_zero, zero_add, true_and]
      exact ⟨rfl, trivial⟩

/-- A change of the link-layer address has no effect on the callbacks. -/
theorem updateL3Neigh_frame {sw : L3Switch} {s s' : L3} {n : Int × Addr} {llOld llNew : Mac}
    {send : Int} (h : s.updateL3Neigh env sw n (.valid llOld) (.valid llNew) send = some s') :
    ∃ g, s' = { s with groups := g } := by
  unfold L3.updateL3Neigh at h
  split at h
  · cases h
    exact ⟨_, rfl⟩
  · dsimp only at h
    cases hlink : env.link n.1 with
    | none =>
      rw [hlink] at h
      cases h
      exact ⟨_, rfl⟩
    | some link =>
      rw [hlink] at h
      dsimp only at h
      split at h
      · obtain ⟨ifindex, -, rfl⟩ := Option.map_eq_some_iff.mp h
        exact ⟨_, rfl⟩
      · cases h
        exact ⟨_, rfl⟩

/-- A neighbour that changes: one that gets a link-layer address comes, one that loses it goes. -/
theorem Fits.updateL3Neigh {b : L3Params → Nat} {sw : L3Switch} (h : Fits b x) {n : Int × Addr}
    {nOld nNew : Nud} {send : Int}
    (hs : isSwitchInterface env n.1 = true → (∀ ll, nOld ≠ .valid ll) → ∀ ll, nNew = .valid ll →
      Serves env sw x.l3 x.l3.nhCallbacks n (.valid ll))
    (hr : isSwitchInterface env n.1 = true → (∀ ll, nNew ≠ .valid ll) → Releases env sw x n nOld)
    (hx : x.updateL3Neigh env sw n nOld nNew send = some x') :
    Fits b x' ∧ x'.l3.active = x.l3.active := by
  unfold Tracked.updateL3Neigh at hx
  split at hx
  · next hsw =>
    cases nOld with
    | valid llOld =>
      cases nNew with
      | valid llNew =>
        obtain ⟨s', hs', rfl⟩ := Option.map_eq_some_iff.mp hx
        obtain ⟨g, rfl⟩ := updateL3Neigh_frame hs'
        exact ⟨⟨h.count_le, fun q => by rw [held_move]; exact h.held q⟩, rfl⟩
      | _ =>
        obtain ⟨hf, hgives⟩ := h.delL3Neigh (hr hsw fun _ h => by cases h) hx
        exact ⟨hf, hgives.active⟩
    | _ =>
      cases nNew with
      | valid llNew =>
        obtain ⟨hf, he, -⟩ := h.addL3Neigh (hs hsw (fun _ h => by cases h) llNew rfl) hx
        exact ⟨hf, he.active⟩
      | _ =>
        cases hx
        exact ⟨h, rfl⟩
  · cases hx
    exact ⟨h, rfl⟩

end Given

end Tracked

end L3

end Basebox
