import Basebox.Lib.Run
import Basebox.Netlink.L3Account

/-!
# The references of routes over whole runs

* `Good.addL3UnicastRoute`, `Good.delL3UnicastRoute`: the two functions keep the account.
* `Accounted`: the tables count what routes and neighbours hold.
* `Keeps`: what an event has to find for that. A route is to be skipped when it is deleted exactly if
  it was skipped when it was added, and must not have given back a reference in between. The functions
  do not see to either.
* `Inv.exec`: an event that finds it keeps the account.
-/

namespace Basebox

namespace L3

variable {env : L3Env} {sw : L3Switch} {base : List (Nat × Nat)}
variable {ecmp : List (Finset NhStub)} {unreach owners : List L3Params} {s s' : L3}

/-! ## Routes -/

section Routes

variable {r : L3Route} {rv : Int} {nhs : NhStub.Set}

theorem refsOfRoute_eq (hg : getNeighboursOfRoute env r = some (rv, nhs)) :
    refsOfRoute env r = nhs.map fun nh => { dst := r.dst, nh := nh } := by
  simp [refsOfRoute, hg]

theorem ecmpGroup_eq (hg : getNeighboursOfRoute env r = some (rv, nhs)) :
    ecmpGroup env r = if nhs.length > 1 then some nhs.toFinset else none := by
  have : (refsOfRoute env r).map (·.nh) = nhs := by
    rw [refsOfRoute_eq hg, List.map_map]
    exact List.map_id nhs
  rw [ecmpGroup, this]

theorem getL3NeighsOfPrefix_sublist (l : NhStub.Set) (p : Prefix) :
    (getL3NeighsOfPrefix l p).Sublist l :=
  (List.takeWhile_sublist _).trans (List.dropWhile_sublist _)

theorem Good.addEcmp (h : Good env base unreach owners ecmp s) (grp : Finset NhStub)
    {ecmp' : List (Finset NhStub)} (hp : (grp :: ecmp).Perm ecmp') :
    Good env base unreach owners ecmp'
      { s with groups := (s.groups.addL3EcmpGroup grp 0).2.2 } := by
  obtain ⟨hc, hm⟩ := L3Groups.addL3EcmpGroup_counts h.ecmp grp 0
  refine { h with refs := ⟨?_, h.refs.vlan⟩, ecmp := hc.perm hp }
  rw [hm]
  exact h.refs.egress

theorem Good.delEcmp (h : Good env base unreach owners ecmp s) {grp : Finset NhStub}
    {ecmp' : List (Finset NhStub)} (hp : ecmp.Perm (grp :: ecmp')) :
    Good env base unreach owners ecmp'
      { s with groups := (s.groups.delL3EcmpGroup grp 0).2 } := by
  obtain ⟨hc, hm⟩ := L3Groups.delL3EcmpGroup_counts (h.ecmp.perm hp) 0
  refine { h with refs := ⟨?_, h.refs.vlan⟩, ecmp := hc }
  rw [hm]
  exact h.refs.egress

/-- The next hops of a route are those that it refers to. -/
theorem resolved_nhs (hg : getNeighboursOfRoute env r = some (rv, nhs))
    (hres : ∀ p ∈ refsOfRoute env r, Resolved env p.nh.neigh) :
    ∀ nh ∈ nhs, Resolved env nh.neigh := by
  intro nh hnh
  refine hres { dst := r.dst, nh := nh } ?_
  rw [refsOfRoute_eq hg]
  exact List.mem_map_of_mem hnh

/-- The reference of the ECMP group, if the route has several next hops. -/
theorem Good.takeEcmp (h : Good env base s.nhUnreachCallbacks s.owners ecmp s)
    (hg : getNeighboursOfRoute env r = some (rv, nhs)) :
    let s' := if nhs.length ≤ 1 then s
      else { s with groups := (s.groups.addL3EcmpGroup nhs.toFinset 0).2.2 }
    Good env base s'.nhUnreachCallbacks s'.owners (ecmp ++ [r].filterMap (ecmpGroup env)) s' ∧
      SameRoutes s s' ∧ s'.nhCallbacks = s.nhCallbacks := by
  have hgrp := ecmpGroup_eq hg
  by_cases hlen : nhs.length ≤ 1
  · rw [if_neg (by omega)] at hgrp
    simp only [if_pos hlen]
    exact ⟨by simpa [hgrp] using h, .refl s, trivial⟩
  · rw [if_pos (by omega)] at hgrp
    simp only [if_neg hlen]
    refine ⟨h.addEcmp nhs.toFinset ?_, ⟨rfl, rfl⟩, trivial⟩
    simpa [hgrp] using (List.perm_append_singleton _ _).symm

/-- The references of the next hops and of the ECMP group of a route. -/
theorem Good.takeRoute
    (h : Good env base s.nhUnreachCallbacks s.owners (s.active.filterMap (ecmpGroup env)) s)
    (hok : sw.Ok) (hg : getNeighboursOfRoute env r = some (rv, nhs))
    (hres : ∀ p ∈ refsOfRoute env r, Resolved env p.nh.neigh) :
    let s₁ := nhs.foldl (L3.addNextHop env sw r.dst) { s with active := s.active ++ [r] }
    let s₂ := if nhs.length ≤ 1 then s₁
      else { s₁ with groups := (s₁.groups.addL3EcmpGroup nhs.toFinset 0).2.2 }
    Good env base s₂.nhUnreachCallbacks s₂.owners (s₂.active.filterMap (ecmpGroup env)) s₂ ∧
      s₂.installed = s.installed ∧ s₂.nhCallbacks = s.nhCallbacks := by
  intro s₁ s₂
  obtain ⟨h1, hs1, hcb1⟩ := Good.addNextHops (s := { s with active := s.active ++ [r] })
    hok r.dst (resolved_nhs hg hres) { h with }
  obtain ⟨h2, hs2, hcb2⟩ := h1.takeEcmp hg
  have hs := hs1.trans hs2
  have hact : s₂.active = s.active ++ [r] := hs.active
  refine ⟨?_, hs.installed, hcb2.trans hcb1⟩
  rw [hact, List.filterMap_append]
  exact h2

/-- `add_l3_unicast_route` keeps the account, and the routes of the kernel. -/
theorem Good.addL3UnicastRoute
    (h : Good env base s.nhUnreachCallbacks s.owners (s.active.filterMap (ecmpGroup env)) s)
    (hok : sw.Ok) (hres : ∀ p ∈ refsOfRoute env r, Resolved env p.nh.neigh)
    (hroute : ∀ p ∈ s.nhCallbacks, FindsRoute env s.installed p)
    (he : s.addL3UnicastRoute env sw r = some s') :
    Good env base s'.nhUnreachCallbacks s'.owners (s'.active.filterMap (ecmpGroup env)) s' ∧
      s'.installed = s.installed := by
  unfold L3.addL3UnicastRoute at he
  split at he
  · cases he
    exact ⟨h, rfl⟩
  cases hg : getNeighboursOfRoute env r with
  | none => simp [hg] at he
  | some x =>
    obtain ⟨rv, nhs⟩ := x
    obtain ⟨-, hneg⟩ := getNeighboursOfRoute_spec hg
    have hgrp := ecmpGroup_eq hg
    simp only [hg] at he
    by_cases hrv : rv < 0
    · rw [if_pos hrv] at he
      cases he
      rw [hneg hrv, if_neg (by simp)] at hgrp
      refine ⟨{ h with ecmp := ?_ }, rfl⟩
      simpa [List.filterMap_append, hgrp] using h.ecmp
    · rw [if_neg hrv] at he
      obtain ⟨h2, hi, hcb⟩ := h.takeRoute hok hg hres
      generalize nhs.foldl (L3.addNextHop env sw r.dst) { s with active := s.active ++ [r] } = s₁
        at h2 hi hcb he
      generalize (if nhs.length ≤ 1 then s₁
        else { s₁ with groups := (s₁.groups.addL3EcmpGroup nhs.toFinset 0).2.2 }) = s₂
        at h2 hi hcb he
      split at he
      · have hsub := getL3NeighsOfPrefix_sublist s₂.unroutableL3Neighs r.dst
        have hroute' : ∀ p ∈ s₂.nhCallbacks, FindsRoute env s₂.installed p := by
          rw [hcb, hi]
          exact hroute
        obtain ⟨h3, hs3⟩ := Good.enableNeighs hok (hsub.nodup h2.unroutable_nodup) h2 hroute'
          (fun m hm => hsub.subset hm) he
        rw [hs3.active]
        exact ⟨h3, hs3.installed.trans hi⟩
      · cases he
        exact ⟨h2, hi⟩

/-- `del_l3_unicast_route` does nothing. -/
def skipsDel (env : L3Env) (installed : List L3Route) (r : L3Route) : Bool :=
  duplicate env installed r || isIpv6LlKept env installed r

theorem delL3UnicastRoute_of_skips (h : skipsDel env s.installed r = true) :
    s.delL3UnicastRoute env sw r = some s := by
  unfold L3.delL3UnicastRoute
  rcases Bool.or_eq_true_iff.mp h with h | h
  · rw [if_pos h]
  · rw [if_pos h, ite_self]

/-- The part of `del_l3_unicast_route` about the neighbours in the prefix. -/
theorem Good.disableNeighs (h : Good env base s.nhUnreachCallbacks s.owners ecmp s) (hok : sw.Ok)
    (hfdb : env.scopeLink r = true →
      ∀ m ∈ getL3NeighsOfPrefix s.routableL3Neighs r.dst, HasFdb env m.neigh)
    (he : s.disableNeighs env sw r = some s') :
    Good env base s'.nhUnreachCallbacks s'.owners ecmp s' ∧ SameRoutes s s' ∧
      ∀ q ∈ s.owners, (env.scopeLink r = true →
        ∀ m ∈ getL3NeighsOfPrefix s.routableL3Neighs r.dst, q.nh.neigh ≠ m.neigh) →
        q ∈ s'.owners := by
  unfold L3.disableNeighs at he
  split at he
  · next hscope =>
    have hsub := getL3NeighsOfPrefix_sublist s.routableL3Neighs r.dst
    obtain ⟨h1, hs1, how⟩ := Good.disableLoop hok (hsub.nodup h.routable_nodup) (hfdb hscope) h
      (fun m hm => hsub.subset hm) he
    exact ⟨h1, hs1, fun q hq hne => how q hq (hne hscope)⟩
  · cases he
    exact ⟨h, .refl _, fun q hq _ => hq⟩

/-- What a deletion has to find, for the account to be kept. -/
structure KeepsDel (env : L3Env) (s : L3) (r : L3Route) (sw : L3Switch) : Prop where
  ok : sw.Ok
  free : SviFree env s.portVlan
  resolved : ∀ p ∈ refsOfRoute env r, Resolved env p.nh.neigh
  /-- It is skipped exactly if the addition was. -/
  skips : refsOfRoute env r ≠ [] → (skipsDel env (s.installed.erase r) r = true ↔ r ∉ s.active)
  /-- The route has not given back a reference before. -/
  held : r ∈ s.active → ∀ p ∈ refsOfRoute env r, p ∈ s.owners
  /-- It is not the own next hop that becomes unroutable. -/
  stays : env.scopeLink r = true → ∀ p ∈ refsOfRoute env r,
    ∀ m ∈ getL3NeighsOfPrefix s.routableL3Neighs r.dst, p.nh.neigh ≠ m.neigh
  fdb : skipsDel env (s.installed.erase r) r = false → env.scopeLink r = true →
    ∀ m ∈ getL3NeighsOfPrefix s.routableL3Neighs r.dst, HasFdb env m.neigh

/-- The ECMP groups of the routes, without those of one. -/
theorem filterMap_erase_perm (env : L3Env) {active : List L3Route} (hr : r ∈ active) :
    (active.filterMap (ecmpGroup env)).Perm
      ((ecmpGroup env r).toList ++ (active.erase r).filterMap (ecmpGroup env)) := by
  refine ((List.perm_cons_erase hr).filterMap _).trans ?_
  rw [List.filterMap_cons]
  cases ecmpGroup env r <;> exact List.Perm.refl _

/-- A route that holds no reference is struck off. -/
theorem Good.settle_of_nil
    (h : Good env base s.nhUnreachCallbacks s.owners (s.active.filterMap (ecmpGroup env)) s)
    (hrefs : refsOfRoute env r = []) :
    Core env base (settle env r s.active s).nhUnreachCallbacks (settle env r s.active s).owners
      ((settle env r s.active s).active.filterMap (ecmpGroup env)) (settle env r s.active s) := by
  simp only [settle, hrefs, List.diff_nil, ite_self]
  by_cases hr : r ∈ s.active
  · have hgrp : ecmpGroup env r = none := by simp [ecmpGroup, hrefs]
    have hp := filterMap_erase_perm env hr
    rw [hgrp] at hp
    exact { h with ecmp := h.ecmp.perm hp }
  · rw [List.erase_of_not_mem hr]
    exact { h with }

/-- The end of `del_l3_unicast_route`: the references of the route are given back. -/
theorem Good.releaseRoute (h : Good env base s.nhUnreachCallbacks s.owners ecmp s)
    (hg : getNeighboursOfRoute env r = some (rv, nhs))
    (hres : ∀ p ∈ refsOfRoute env r, Resolved env p.nh.neigh)
    (hheld : ∀ p ∈ refsOfRoute env r, p ∈ s.owners) {ecmp' : List (Finset NhStub)}
    (hp : ecmp.Perm ((ecmpGroup env r).toList ++ ecmp')) :
    let s₁ := if nhs.length > 1 then
        { s with groups := (s.groups.delL3EcmpGroup nhs.toFinset 0).2 } else s
    let s₂ := nhs.foldl (L3.delNextHop env r.dst) s₁
    Good env base s₂.nhUnreachCallbacks (s.owners.diff (refsOfRoute env r)) ecmp' s₂ ∧
      s₂.owners = s.owners := by
  have hgrp := ecmpGroup_eq hg
  have hnhs := resolved_nhs hg hres
  have hnodup : (refsOfRoute env r).Nodup := by
    rw [refsOfRoute_eq hg]
    refine (getNeighboursOfRoute_spec hg).1.map fun a b hab => ?_
    simpa using hab
  have hperm : s.owners.Perm (nhs.map (fun nh => { dst := r.dst, nh := nh }) ++
      s.owners.diff (refsOfRoute env r)) := by
    rw [← refsOfRoute_eq hg]
    refine (List.subperm_append_diff_self_of_count_le fun p hpm => ?_).symm
    rw [List.count_eq_one_of_mem hnodup hpm]
    exact List.count_pos_iff.mpr (hheld p hpm)
  by_cases hlen : nhs.length > 1
  · rw [if_pos hlen] at hgrp
    rw [hgrp] at hp
    simp only [if_pos hlen]
    exact Good.delNextHops r.dst hnhs
      (s := { s with groups := (s.groups.delL3EcmpGroup nhs.toFinset 0).2 }) (h.delEcmp hp) hperm
  · rw [if_neg hlen] at hgrp
    rw [hgrp] at hp
    simp only [if_neg hlen]
    exact Good.delNextHops r.dst hnhs { h with ecmp := h.ecmp.perm hp } hperm

theorem delNextHops_installed (env : L3Env) (dst : Prefix) (nhs : List NhStub) (s : L3) :
    (nhs.foldl (L3.delNextHop env dst) s).installed = s.installed := by
  refine List.foldlRecOn (motive := fun t : L3 => t.installed = s.installed) nhs _ rfl
    fun t ht nh _ => ?_
  unfold L3.delNextHop
  dsimp only
  split
  · next dMac _ =>
    obtain ⟨g, pv, hgp⟩ := delL3NeighEgress_frame env { t with
      nhUnreachCallbacks := t.nhUnreachCallbacks.erase { dst := dst, nh := nh } } nh.neigh dMac
    rw [hgp]
    exact ht
  · exact ht

/-- `del_l3_unicast_route` keeps the account, once the route is struck off it, and the routes of the
kernel. -/
theorem Good.delL3UnicastRoute
    (h : Good env base s.nhUnreachCallbacks s.owners (s.active.filterMap (ecmpGroup env)) s)
    (hk : KeepsDel env s r sw)
    (he : { s with installed := s.installed.erase r }.delL3UnicastRoute env sw r = some s') :
    Core env base (settle env r s.active s').nhUnreachCallbacks (settle env r s.active s').owners
      ((settle env r s.active s').active.filterMap (ecmpGroup env)) (settle env r s.active s') ∧
      s'.installed = s.installed.erase r := by
  by_cases hskip : skipsDel env (s.installed.erase r) r = true
  · rw [delL3UnicastRoute_of_skips hskip] at he
    cases he
    refine ⟨?_, rfl⟩
    by_cases hrefs : refsOfRoute env r = []
    · exact Good.settle_of_nil (s := { s with installed := s.installed.erase r }) { h with } hrefs
    · have hnot : r ∉ s.active := (hk.skips hrefs).mp hskip
      simp only [settle, if_neg hnot, List.erase_of_not_mem hnot]
      exact { h with }
  · rw [Bool.not_eq_true] at hskip
    obtain ⟨hdup, hll⟩ := Bool.or_eq_false_iff.mp hskip
    simp only [L3.delL3UnicastRoute, hdup, hll, Bool.false_eq_true, if_false] at he
    obtain ⟨s₁, h₁, he⟩ := Option.bind_eq_some_iff.mp he
    obtain ⟨h1, hs1, how⟩ := Good.disableNeighs (s := { s with installed := s.installed.erase r })
      { h with } hk.ok (hk.fdb hskip) h₁
    obtain ⟨⟨rv, nhs⟩, hg, he⟩ := Option.bind_eq_some_iff.mp he
    have hact : s₁.active = s.active := hs1.active
    by_cases hrefs : refsOfRoute env r = []
    · have hnil : nhs = [] := by
        rw [refsOfRoute_eq hg] at hrefs
        exact List.map_eq_nil_iff.mp hrefs
      have hs' : s' = s₁ := by simpa [hnil] using he.symm
      rw [hs', ← hact]
      exact ⟨Good.settle_of_nil { h1 with ecmp := by rw [hact]; exact h1.ecmp } hrefs,
        hs1.installed⟩
    · have hr : r ∈ s.active := by
        by_contra hnot
        rw [(hk.skips hrefs).mpr hnot] at hskip
        cases hskip
      have hrv : ¬ rv < 0 := by
        intro hneg
        rw [refsOfRoute_eq hg, (getNeighboursOfRoute_spec hg).2 hneg] at hrefs
        exact hrefs rfl
      have hheld : ∀ p ∈ refsOfRoute env r, p ∈ s₁.owners := fun p hp =>
        how p (hk.held hr p hp) fun hsc m hm => hk.stays hsc p hp m hm
      obtain ⟨h2, how2⟩ := h1.releaseRoute hg hk.resolved hheld (filterMap_erase_perm env hr)
      simp only [hrv, if_false] at he
      cases he
      refine ⟨?_, ?_⟩
      · simp only [settle, if_pos hr, how2]
        exact { h2 with }
      · rw [delNextHops_installed]
        split <;> exact hs1.installed

end Routes

/-! ## Runs -/

section Runs

variable (env)

/-- What an addition has to find, for the account to be kept. -/
structure KeepsAdd (s : L3) (r : L3Route) (sw : L3Switch) : Prop where
  ok : sw.Ok
  free : SviFree env s.portVlan
  resolved : ∀ p ∈ refsOfRoute env r, Resolved env p.nh.neigh
  finds : ∀ p ∈ s.nhCallbacks, FindsRoute env (s.installed ++ [r]) p

/-- What an event has to find, for the account to be kept. -/
def Keeps : Option L3 → Ev → Prop
  | none, _ => True
  | some s, .addL3Route r sw => r.isUnicast = true → KeepsAdd env s r sw
  | some s, .delL3Route r sw => r.isUnicast = true → KeepsDel env s r sw

/-- The tables count the references that are held: egress groups and VLANs those of the routes, for
their next hops, and of the neighbours, and VLANs also those of others; ECMP groups those of the
routes. -/
structure Accounted (base : List (Nat × Nat)) (s : L3) : Prop where
  egress : Counts Counted.refcnt s.groups.l3InterfaceMapping
    ((holders s.owners s.routableL3Neighs).filterMap (egressKey env))
  vlan : Counts Nat.cast s.portVlan
    (base ++ (holders s.owners s.routableL3Neighs).filterMap (vlanKey env))
  ecmp : Counts Counted.refcnt s.groups.nhGrpToL3EcmpMapping (s.active.filterMap (ecmpGroup env))

/-- The core, with the references that the active routes hold. -/
def Inv (base : List (Nat × Nat)) (s : L3) : Prop :=
  Core env base s.nhUnreachCallbacks s.owners (s.active.filterMap (ecmpGroup env)) s

/-- The state before the first route: the VLANs that others use, and neighbours that have no
route. -/
structure Start where
  portVlan : Table (Nat × Nat) Nat
  base : List (Nat × Nat)
  counts : Counts Nat.cast portVlan base
  unroutableL3Neighs : NhStub.Set
  nodup : unroutableL3Neighs.Nodup
  nhid : ∀ n ∈ unroutableL3Neighs, n.nhid = 0

/-- The state that a run starts in. -/
def Start.state (start : Start) : L3 where
  portVlan := start.portVlan
  unroutableL3Neighs := start.unroutableL3Neighs

variable {env}

theorem Inv.accounted (h : Inv env base s) : Accounted env base s where
  egress := h.refs.egress
  vlan := h.refs.vlan
  ecmp := h.ecmp

theorem inv_start (start : Start) : Inv env start.base start.state where
  refs := ⟨Counts.empty, by simpa [Start.state, holders] using start.counts⟩
  ecmp := Counts.empty
  unreach := List.Perm.refl _
  waiting _ h := by cases h
  routable_nodup := List.nodup_nil
  unroutable_nodup := start.nodup
  nhid n h := start.nhid n (h.resolve_left List.not_mem_nil)
  notLl _ h := by cases h
  disjoint _ h := by cases h

theorem Inv.exec (h : Inv env base s) (e : Ev) (hk : Keeps env (some s) e)
    (he : s.exec env e = some s') : Inv env base s' := by
  cases e with
  | addL3Route r sw =>
    simp only [L3.exec] at he
    by_cases hu : r.isUnicast = true
    · obtain ⟨hok, hfree, hres, hfinds⟩ := hk hu
      rw [if_pos hu] at he
      exact (Good.addL3UnicastRoute (s := { s with installed := s.installed ++ [r] })
        { h with free := hfree } hok hres hfinds he).1.toCore
    · rw [if_neg hu] at he
      cases he
      exact { h with }
  | delL3Route r sw =>
    simp only [L3.exec] at he
    by_cases hu : r.isUnicast = true
    · have hkeeps := hk hu
      rw [if_pos hu] at he
      obtain ⟨s₁, h₁, rfl⟩ := Option.map_eq_some_iff.mp he
      exact (Good.delL3UnicastRoute { h with free := hkeeps.free } hkeeps h₁).1
    · rw [if_neg hu] at he
      cases he
      exact { h with }

/-- The route of the longest prefix, and among these the one with the lowest priority. -/
def longestPrefix (installed : List L3Route) (a : Addr) : Option L3Route :=
  installed.foldl (fun best r =>
    if a.cmpPrefix r.dst != .eq then best
    else
      match best with
      | none => some r
      | some b =>
        if r.dst.len > b.dst.len ∨ r.dst.len = b.dst.len ∧ r.priority < b.priority then some r
        else some b) none

/-- Port 1 is interface 3, with the neighbour 10.0.1.2 on it. -/
def portEnv : L3Env where
  link ifindex :=
    if ifindex = 3 then some { ownPortId := 1, portId := 1, vid := 1, addr := 1 } else none
  neigh n := if n = (3, .inet 0x0a000102) then some (.valid 2) else none
  searchFdb _ _ := none
  nhById _ := none
  l3Addrs _ := []
  ifindexByPortId _ := 3
  scopeLink r := r.nexthops.all fun nh => nh.gateway.isNone && nh.via.isNone
  fibMatch := longestPrefix
  queryRoute := longestPrefix
  keyOrder := ⟨id, fun _ => List.Perm.refl _⟩
  uninit := 0
  portId_eq h _ := by
    split at h
    · cases h
      rfl
    · cases h
  searchFdb_isBridge h _ := by cases h

/-- A route that the kernel made for the address of a port: 10.0.`i`.0/24 on interface 3. -/
def kernelRoute (i : BitVec 32) : L3Route where
  dst := { addr := .inet (0x0a000000 + (i <<< 8)), len := 24 }
  priority := 0
  protocol := RTPROT_KERNEL
  nexthops := [{ ifindex := 3, gateway := none, via := none }]

/-- A route of a routing daemon to 10.0.2.0/24 through 10.0.1.2. -/
def daemonRoute : L3Route where
  dst := { addr := .inet 0x0a000200, len := 24 }
  priority := 20
  protocol := 186
  nexthops := [{ ifindex := 3, gateway := some (.inet 0x0a000102), via := none }]

theorem refsOfRoute_daemonRoute : refsOfRoute portEnv daemonRoute =
    [{ dst := daemonRoute.dst, nh := { nh := .inet 0x0a000102, ifindex := 3 } }] := by decide

theorem ok_default : L3Switch.Ok {} where
  egressCreate _ := le_refl 0
  enableVlan _ := le_refl 0
  hostAdd _ := le_refl 0
  hostRemove _ := le_refl 0

end Runs

end L3

end Basebox
