import Basebox.Netlink.L3NeighRefs
import Basebox.Netlink.L3Route

/-!
# The account of the references that routes and neighbours hold

* `holders`: the neighbours that references are held for.
* `Core`, `Good`: the invariant. A route that holds the reference of an egress group is in
  `nh_unreach_callbacks` for that next hop.
* One lemma for each function says that it keeps the invariant: `Good.addNextHops`,
  `Good.delNextHops`, `Good.enableNeighs` and `Good.disableLoop`, and what they are made of.
-/

namespace Basebox

namespace L3

variable {env : L3Env} {sw : L3Switch} {base : List (Nat × Nat)}

/-! ## The account -/

section Account

variable (env)

/-- The neighbours that references are held for: by routes, as next hops, and by themselves. -/
def holders (owners : List L3Params) (routable : NhStub.Set) : List (Int × Addr) :=
  owners.map (·.nh.neigh) ++ routable.map NhStub.neigh

/-- The ECMP group that the addition of a route takes a reference of. -/
def ecmpGroup (r : L3Route) : Option (Finset NhStub) :=
  let nhs := (refsOfRoute env r).map (·.nh)
  if nhs.length > 1 then some nhs.toFinset else none

/-- A neighbour has a link-layer address, and on a bridge interface also an FDB entry. -/
def Resolved (n : Int × Addr) : Prop :=
  ∃ dMac, env.neigh n = some (.valid dMac) ∧
    ∀ link, env.link n.1 = some link → (egressIfindex env link n dMac).isSome

/-- A next hop that takes a reference of an egress group. -/
def hasEgress (p : L3Params) : Bool := (egressKey env p.nh.neigh).isSome

/-- The invariant, where `nh_unreach_callbacks` is to be `unreach`, the account of routes is
`owners`, and the routes hold references of the groups `ecmp`. -/
structure Core (base : List (Nat × Nat)) (unreach owners : List L3Params)
    (ecmp : List (Finset NhStub)) (s : L3) : Prop where
  refs : Refs env base s.groups s.portVlan (holders owners s.routableL3Neighs)
  ecmp : Counts Counted.refcnt s.groups.nhGrpToL3EcmpMapping ecmp
  unreach : unreach.Perm (owners.filter (hasEgress env))
  waiting : ∀ p ∈ s.nhCallbacks, hasEgress env p = true
  routable_nodup : s.routableL3Neighs.Nodup
  unroutable_nodup : s.unroutableL3Neighs.Nodup
  nhid : ∀ n, n ∈ s.routableL3Neighs ∨ n ∈ s.unroutableL3Neighs → n.nhid = 0
  notLl : ∀ n ∈ s.routableL3Neighs, n.nh.cmpPrefix ipv6Ll ≠ .eq
  disjoint : ∀ n ∈ s.routableL3Neighs, n ∈ s.unroutableL3Neighs →
    egressKey env n.neigh = none ∧ vlanKey env n.neigh = none

/-- The invariant during an event. -/
structure Good (base : List (Nat × Nat)) (unreach owners : List L3Params)
    (ecmp : List (Finset NhStub)) (s : L3) : Prop extends Core env base unreach owners ecmp s where
  free : SviFree env s.portVlan

/-- What the events on neighbours leave as it is. -/
structure SameRoutes (s s' : L3) : Prop where
  installed : s'.installed = s.installed
  active : s'.active = s.active

end Account

variable {ecmp : List (Finset NhStub)} {unreach owners : List L3Params} {s s' : L3}
variable {n : Int × Addr} {p : L3Params}

theorem SameRoutes.refl (s : L3) : SameRoutes s s := ⟨rfl, rfl⟩

theorem SameRoutes.trans {s s' s'' : L3} (h : SameRoutes s s') (h' : SameRoutes s' s'') :
    SameRoutes s s'' :=
  ⟨h'.installed.trans h.installed, h'.active.trans h.active⟩

theorem holders_concat (owners : List L3Params) (p : L3Params) (routable : NhStub.Set) :
    (holders (owners ++ [p]) routable).Perm (p.nh.neigh :: holders owners routable) := by
  simp only [holders, List.map_append, List.map_cons, List.map_nil, List.append_assoc,
    List.singleton_append]
  exact List.perm_middle

theorem holders_perm {owners owners' : List L3Params} (h : owners.Perm owners')
    (routable : NhStub.Set) : (holders owners routable).Perm (holders owners' routable) :=
  (h.map _).append_right _

theorem holders_cons_routable (owners : List L3Params) {n : NhStub} {routable routable' : NhStub.Set}
    (h : routable.Perm (n :: routable')) :
    (holders owners routable).Perm (n.neigh :: holders owners routable') := by
  refine ((h.map NhStub.neigh).append_left _).trans ?_
  rw [List.map_cons]
  exact List.perm_middle

/-- A route takes the references of a next hop. -/
theorem Good.take (h : Good env base unreach owners ecmp s) (hok : sw.Ok) {nud : Nud}
    (hn : env.neigh p.nh.neigh = some nud) :
    ∃ rv g pv, s.addL3NeighEgress env sw p.nh.neigh nud =
        (rv, { s with groups := g, portVlan := pv }) ∧
      (∀ unreach', unreach'.Perm ((owners ++ [p]).filter (hasEgress env)) →
        Good env base unreach' (owners ++ [p]) ecmp { s with groups := g, portVlan := pv }) ∧
      (Resolved env p.nh.neigh → (rv < 0 ↔ egressKey env p.nh.neigh = none)) := by
  obtain ⟨rv, g, pv, he, hg, hr, hf, hiff⟩ := addL3NeighEgress_refs hok h.refs h.free hn
  refine ⟨rv, g, pv, he, fun unreach' hu => ?_, ?_⟩
  · exact { h with
      refs := hr.perm (holders_concat _ _ _).symm
      free := hf
      ecmp := by rw [hg]; exact h.ecmp
      unreach := hu }
  · rintro ⟨dMac, hd, hres⟩
    rw [hn] at hd
    cases hd
    exact hiff dMac rfl hres

/-- A route gives the references of a next hop back. -/
theorem Good.release (h : Good env base unreach owners ecmp s) {owners' : List L3Params}
    (hp : owners.Perm (p :: owners')) {dMac : Mac} (hn : env.neigh p.nh.neigh = some (.valid dMac))
    (hres : Resolved env p.nh.neigh) {unreach' : List L3Params}
    (hu : unreach'.Perm (owners'.filter (hasEgress env))) :
    ∃ g pv, s.delL3NeighEgress env p.nh.neigh dMac = { s with groups := g, portVlan := pv } ∧
      Good env base unreach' owners' ecmp { s with groups := g, portVlan := pv } := by
  obtain ⟨dMac', hd, hres⟩ := hres
  rw [hn] at hd
  cases hd
  have hr := h.refs.perm (holders_perm hp s.routableL3Neighs)
  obtain ⟨g, pv, he, hg, hr, hf⟩ := delL3NeighEgress_refs hr h.free hn hres
  exact ⟨g, pv, he, { h with
    refs := hr
    free := hf
    ecmp := by rw [hg]; exact h.ecmp
    unreach := hu }⟩

/-! ## Next hops -/

theorem Good.addNextHop (h : Good env base s.nhUnreachCallbacks s.owners ecmp s) (hok : sw.Ok)
    (dst : Prefix) {nh : NhStub} (hres : Resolved env nh.neigh) :
    let s' := addNextHop env sw dst s nh
    Good env base s'.nhUnreachCallbacks s'.owners ecmp s' ∧ SameRoutes s s' ∧
      s'.nhCallbacks = s.nhCallbacks := by
  obtain ⟨dMac, hn, -⟩ := id hres
  let p : L3Params := { dst := dst, nh := nh }
  obtain ⟨rv, g, pv, he, hgood, hiff⟩ := h.take (p := p) hok hn
  simp only [L3.addNextHop, hn, p] at he ⊢
  simp only [he]
  by_cases hrv : rv < 0
  · have hk := (hiff hres).mp hrv
    rw [if_pos hrv]
    refine ⟨{ hgood s.nhUnreachCallbacks ?_ with }, ⟨rfl, rfl⟩, rfl⟩
    simpa [List.filter_append, hasEgress, hk, p] using h.unreach
  · have hk : hasEgress env p = true := by
      rw [hasEgress, Option.isSome_iff_ne_none]
      exact fun hk => hrv ((hiff hres).mpr hk)
    rw [if_neg hrv]
    refine ⟨{ hgood (s.nhUnreachCallbacks ++ [p]) ?_ with }, ⟨rfl, rfl⟩, rfl⟩
    simpa [List.filter_append, hk] using h.unreach.append_right [p]

theorem Good.addNextHops (hok : sw.Ok) (dst : Prefix) {nhs : List NhStub}
    (hres : ∀ nh ∈ nhs, Resolved env nh.neigh) {s : L3}
    (h : Good env base s.nhUnreachCallbacks s.owners ecmp s) :
    let s' := nhs.foldl (L3.addNextHop env sw dst) s
    Good env base s'.nhUnreachCallbacks s'.owners ecmp s' ∧ SameRoutes s s' ∧
      s'.nhCallbacks = s.nhCallbacks := by
  induction nhs generalizing s with
  | nil => exact ⟨h, .refl s, rfl⟩
  | cons nh nhs ih =>
    obtain ⟨h1, hs1, hcb1⟩ := h.addNextHop hok dst (hres nh List.mem_cons_self)
    obtain ⟨h2, hs2, hcb2⟩ := ih (fun m hm => hres m (List.mem_cons_of_mem nh hm)) h1
    exact ⟨h2, hs1.trans hs2, hcb2.trans hcb1⟩

/-- A route that is deleted releases a next hop: the account goes from `owners` to `owners'`. -/
theorem Good.delNextHop (h : Good env base s.nhUnreachCallbacks owners ecmp s) (dst : Prefix)
    {nh : NhStub} (hres : Resolved env nh.neigh) {owners' : List L3Params}
    (hp : owners.Perm ({ dst := dst, nh := nh } :: owners')) :
    let s' := L3.delNextHop env dst s nh
    Good env base s'.nhUnreachCallbacks owners' ecmp s' ∧ s'.owners = s.owners := by
  obtain ⟨dMac, hn, -⟩ := id hres
  let p : L3Params := { dst := dst, nh := nh }
  have hu : (s.nhUnreachCallbacks.erase p).Perm
      (owners'.filter (hasEgress env)) := by
    have hperm := h.unreach.trans (hp.filter _)
    by_cases hk : hasEgress env p = true
    · rw [List.filter_cons_of_pos hk] at hperm
      simpa using hperm.erase p
    · rw [List.filter_cons_of_neg hk] at hperm
      have hnot : p ∉ s.nhUnreachCallbacks := by
        intro hm
        exact hk (List.mem_filter.mp (hperm.mem_iff.mp hm)).2
      rwa [List.erase_of_not_mem hnot]
  obtain ⟨g, pv, he, hgood⟩ := Good.release (p := p)
    (s := { s with nhUnreachCallbacks := s.nhUnreachCallbacks.erase p }) { h with } hp hn hres hu
  simp only [L3.delNextHop, hn]
  simp only [p] at he
  rw [he]
  exact ⟨{ hgood with }, rfl⟩

theorem Good.delNextHops (dst : Prefix) {nhs : List NhStub}
    (hres : ∀ nh ∈ nhs, Resolved env nh.neigh) {s : L3} {owners owners' : List L3Params}
    (h : Good env base s.nhUnreachCallbacks owners ecmp s)
    (hp : owners.Perm (nhs.map (fun nh => { dst := dst, nh := nh }) ++ owners')) :
    let s' := nhs.foldl (L3.delNextHop env dst) s
    Good env base s'.nhUnreachCallbacks owners' ecmp s' ∧ s'.owners = s.owners := by
  induction nhs generalizing s owners with
  | nil =>
    refine ⟨{ h with
      refs := h.refs.perm (holders_perm hp _)
      unreach := h.unreach.trans (hp.filter _) }, rfl⟩
  | cons nh nhs ih =>
    obtain ⟨h1, hs1⟩ := h.delNextHop dst (hres nh List.mem_cons_self) hp
    obtain ⟨h2, hs2⟩ := ih (fun m hm => hres m (List.mem_cons_of_mem nh hm)) h1 (List.Perm.refl _)
    exact ⟨h2, hs2.trans hs1⟩

/-! ## Neighbours that come -/

/-- The route that a callback finds has the next hop that it waits for. -/
def FindsRoute (env : L3Env) (installed : List L3Route) (p : L3Params) : Prop :=
  ∀ route, getRouteByNhParams installed p = some route → p ∈ refsOfRoute env route

theorem mem_nhs_of_mem_refs {route : L3Route} {rv : Int} {nhs : NhStub.Set}
    (hg : getNeighboursOfRoute env route = some (rv, nhs)) (h : p ∈ refsOfRoute env route) :
    p.nh ∈ nhs := by
  simp only [refsOfRoute, hg, Option.map_some, Option.getD_some, List.mem_map] at h
  obtain ⟨nh, hnh, rfl⟩ := h
  exact hnh

theorem Good.nhReachableNotification (h : Good env base s.nhUnreachCallbacks s.owners ecmp s)
    (hok : sw.Ok) {nud : Nud} (hn : env.neigh p.nh.neigh = some nud)
    (hk : hasEgress env p = true) (hroute : FindsRoute env s.installed p)
    (he : s.nhReachableNotification env sw p.nh.neigh nud p = some s') :
    Good env base s'.nhUnreachCallbacks s'.owners ecmp s' ∧ SameRoutes s s' ∧
      s'.nhCallbacks = s.nhCallbacks ∧ s'.unroutableL3Neighs = s.unroutableL3Neighs := by
  rcases nhReachableNotification_cases he with ⟨-, rfl⟩ | ⟨route, rv, nhs, hr, hg, rfl⟩
  · exact ⟨h, .refl _, rfl, rfl⟩
  · obtain ⟨rv', g, pv, hadd, hgood, -⟩ := h.take hok hn
    simp only [mem_nhs_of_mem_refs hg (hroute route hr), if_true, hadd]
    refine ⟨{ hgood (s.nhUnreachCallbacks ++ [p]) ?_ with }, ⟨rfl, rfl⟩, trivial, trivial⟩
    simpa [List.filter_append, hk] using h.unreach.append_right [p]

/-- The loop of `add_l3_neigh` over the callbacks for the neighbour. -/
theorem Good.reachableLoop (hok : sw.Ok) {nud : Nud} (hn : env.neigh n = some nud)
    {ps : List L3Params} {s : L3} (h : Good env base s.nhUnreachCallbacks s.owners ecmp s)
    (hps : ∀ p ∈ ps, p ∈ s.nhCallbacks ∧ p.nh.neigh = n ∧ FindsRoute env s.installed p)
    (he : ps.foldlM (fun s p => s.nhReachableNotification env sw n nud p) s = some s') :
    Good env base s'.nhUnreachCallbacks s'.owners ecmp s' ∧ SameRoutes s s' ∧
      s'.nhCallbacks = s.nhCallbacks ∧ s'.unroutableL3Neighs = s.unroutableL3Neighs := by
  induction ps generalizing s with
  | nil =>
    cases he
    exact ⟨h, .refl _, rfl, rfl⟩
  | cons p ps ih =>
    obtain ⟨s1, h1, he⟩ := Option.bind_eq_some_iff.mp he
    obtain ⟨hp, rfl, hroute⟩ := hps p List.mem_cons_self
    obtain ⟨h1, hs1, hcb, hun⟩ := h.nhReachableNotification hok hn (h.waiting p hp) hroute h1
    have hps' : ∀ q ∈ ps, q ∈ s1.nhCallbacks ∧ q.nh.neigh = p.nh.neigh ∧
        FindsRoute env s1.installed q := by
      intro q hq
      rw [hcb, hs1.installed]
      exact hps q (List.mem_cons_of_mem p hq)
    obtain ⟨h2, hs2, hcb2, hun2⟩ := ih h1 hps' he
    exact ⟨h2, hs1.trans hs2, hcb2.trans hcb, hun2.trans hun⟩

/-- `add_l3_neigh` tells the routes over the neighbour. -/
theorem Good.notifyReachable (h : Good env base s.nhUnreachCallbacks s.owners ecmp s) (hok : sw.Ok)
    {nud : Nud} (hn : env.neigh n = some nud)
    (hroute : ∀ p ∈ s.nhCallbacks, FindsRoute env s.installed p)
    (he : s.notifyReachable env sw n nud = some s') :
    Good env base s'.nhUnreachCallbacks s'.owners ecmp s' ∧ SameRoutes s s' ∧
      (∀ p ∈ s'.nhCallbacks, p ∈ s.nhCallbacks) ∧
      s'.unroutableL3Neighs = s.unroutableL3Neighs := by
  obtain ⟨s₁, h₁, he⟩ := Option.bind_eq_some_iff.mp he
  cases he
  have hps : ∀ p ∈ s.nhCallbacks.filter fun p => p.nh.neigh == n,
      p ∈ s.nhCallbacks ∧ p.nh.neigh = n ∧ FindsRoute env s.installed p := by
    intro p hp
    obtain ⟨hp, hpn⟩ := List.mem_filter.mp hp
    exact ⟨hp, by simpa using hpn, hroute p hp⟩
  obtain ⟨h1, hs1, hcb, hun⟩ := h.reachableLoop hok hn hps h₁
  refine ⟨{ h1 with waiting := fun p hp => ?_ }, ⟨hs1.installed, hs1.active⟩, fun p hp => ?_, hun⟩
  · exact h.waiting p (List.mem_filter.mp hp).1
  · exact (List.mem_filter.mp hp).1

/-- A set with a stub in it or not: the references of the holders, when the stub goes in. -/
theorem refs_emplace {g : L3Groups NhStub} {pv : Table (Nat × Nat) Nat} {owners : List L3Params}
    {routable : NhStub.Set} {m : NhStub}
    (hm : m ∈ routable → egressKey env m.neigh = none ∧ vlanKey env m.neigh = none)
    (h : Refs env base g pv (m.neigh :: holders owners routable)) :
    Refs env base g pv (holders owners (NhStub.Set.emplace routable m)) := by
  unfold NhStub.Set.emplace
  split
  · next hmem =>
    obtain ⟨hk, hvk⟩ := hm hmem
    exact (refs_cons_of_none hk hvk).mp h
  · exact h.perm (holders_cons_routable owners (List.perm_orderedInsert _ m routable)).symm

theorem NhStub_eq {m : NhStub} (h : m.nhid = 0) :
    ({ nh := m.neigh.2, ifindex := m.neigh.1 } : NhStub) = m := by
  obtain ⟨nh, ifindex, nhid⟩ := m
  cases h
  rfl

/-! ### The two sets of neighbours -/

theorem Good.eraseUnroutable (h : Good env base unreach owners ecmp s) (m : NhStub) :
    Good env base unreach owners ecmp
      { s with unroutableL3Neighs := s.unroutableL3Neighs.erase m } :=
  { h with
    unroutable_nodup := h.unroutable_nodup.erase m
    nhid := fun k hk => h.nhid k (hk.imp_right List.mem_of_mem_erase)
    disjoint := fun k hk hk' => h.disjoint k hk (List.mem_of_mem_erase hk') }

/-- What takes no reference may be in both sets of neighbours. -/
theorem Good.emplaceUnroutable (h : Good env base unreach owners ecmp s) {m : NhStub}
    (hnhid : m.nhid = 0) (hm : m ∈ s.routableL3Neighs →
      egressKey env m.neigh = none ∧ vlanKey env m.neigh = none) :
    Good env base unreach owners ecmp
      { s with unroutableL3Neighs := NhStub.Set.emplace s.unroutableL3Neighs m } :=
  { h with
    unroutable_nodup := nodup_emplace h.unroutable_nodup m
    nhid := by
      rintro k (hk | hk)
      · exact h.nhid k (.inl hk)
      · rcases mem_emplace.mp hk with rfl | hk
        · exact hnhid
        · exact h.nhid k (.inr hk)
    disjoint := by
      intro k hk hk'
      rcases mem_emplace.mp hk' with rfl | hk'
      · exact hm hk
      · exact h.disjoint k hk hk' }

/-- A neighbour that is not among the unroutable ones gets routable, and takes its references. -/
theorem Good.emplaceRoutable (h : Good env base unreach owners ecmp s) {m : NhStub}
    (hnhid : m.nhid = 0) (hll : m.nh.cmpPrefix ipv6Ll ≠ .eq) (hnot : m ∉ s.unroutableL3Neighs)
    (hm : m ∈ s.routableL3Neighs → egressKey env m.neigh = none ∧ vlanKey env m.neigh = none)
    {g : L3Groups NhStub} {pv : Table (Nat × Nat) Nat}
    (hg : g.nhGrpToL3EcmpMapping = s.groups.nhGrpToL3EcmpMapping) (hf : SviFree env pv)
    (hr : Refs env base g pv (m.neigh :: holders owners s.routableL3Neighs)) :
    Good env base unreach owners ecmp
      { s with routableL3Neighs := NhStub.Set.emplace s.routableL3Neighs m
               groups := g, portVlan := pv } :=
  { h with
    refs := refs_emplace hm hr
    free := hf
    ecmp := by rw [hg]; exact h.ecmp
    routable_nodup := nodup_emplace h.routable_nodup m
    nhid := by
      rintro k (hk | hk)
      · rcases mem_emplace.mp hk with rfl | hk
        · exact hnhid
        · exact h.nhid k (.inl hk)
      · exact h.nhid k (.inr hk)
    notLl := by
      intro k hk
      rcases mem_emplace.mp hk with rfl | hk
      · exact hll
      · exact h.notLl k hk
    disjoint := by
      intro k hk hk'
      rcases mem_emplace.mp hk with rfl | hk
      · exact absurd hk' hnot
      · exact h.disjoint k hk hk' }

/-- A routable neighbour goes, and gives its references back. -/
theorem Good.releaseNeigh (h : Good env base unreach owners ecmp s) {m : NhStub}
    (hm : m ∈ s.routableL3Neighs) {dMac : Mac} (hn : env.neigh m.neigh = some (.valid dMac))
    (hlink : ∀ link, env.link m.neigh.1 = some link →
      (egressIfindex env link m.neigh dMac).isSome) :
    ∃ g pv, { s with routableL3Neighs := s.routableL3Neighs.erase m }.delL3NeighEgress
        env m.neigh dMac =
        { s with routableL3Neighs := s.routableL3Neighs.erase m, groups := g, portVlan := pv } ∧
      Good env base unreach owners ecmp
        { s with routableL3Neighs := s.routableL3Neighs.erase m, groups := g, portVlan := pv } := by
  have hperm : s.routableL3Neighs.Perm (m :: s.routableL3Neighs.erase m) :=
    List.perm_cons_erase hm
  obtain ⟨g, pv, hdel, hg, hr, hf⟩ := delL3NeighEgress_refs
    (s := { s with routableL3Neighs := s.routableL3Neighs.erase m })
    (h.refs.perm (holders_cons_routable owners hperm)) h.free hn hlink
  exact ⟨g, pv, hdel, { h with
    refs := hr
    free := hf
    ecmp := by rw [hg]; exact h.ecmp
    routable_nodup := h.routable_nodup.erase m
    nhid := fun k hk => h.nhid k (hk.imp_left List.mem_of_mem_erase)
    notLl := fun k hk => h.notLl k (List.mem_of_mem_erase hk)
    disjoint := fun k hk hk' => h.disjoint k (List.mem_of_mem_erase hk) hk' }⟩

/-! ### A neighbour gets routable -/

/-- A link-scope route makes a neighbour routable. -/
theorem Good.enableNeigh (h : Good env base s.nhUnreachCallbacks s.owners ecmp s) (hok : sw.Ok)
    (hroute : ∀ p ∈ s.nhCallbacks, FindsRoute env s.installed p) {m : NhStub}
    (hm : m ∈ s.unroutableL3Neighs) (he : enableNeigh env sw s m = some s') :
    Good env base s'.nhUnreachCallbacks s'.owners ecmp s' ∧ SameRoutes s s' ∧
      (∀ p ∈ s'.nhCallbacks, p ∈ s.nhCallbacks) ∧
      ∀ k ∈ s.unroutableL3Neighs, k ≠ m → k ∈ s'.unroutableL3Neighs := by
  unfold L3.enableNeigh at he
  cases hn : env.neigh m.neigh with
  | none =>
    simp only [hn, Option.some.injEq] at he
    exact he ▸ ⟨h, .refl s, fun _ hp => hp, fun _ hk _ => hk⟩
  | some nud =>
    have hnhid := h.nhid m (.inr hm)
    have hkeep : ∀ k ∈ s.unroutableL3Neighs, k ≠ m → k ∈ s.unroutableL3Neighs.erase m :=
      fun k hk hne => (List.mem_erase_of_ne hne).mpr hk
    have h1 := h.eraseUnroutable m
    simp only [hn, addL3Neigh, NhStub_eq hnhid] at he
    split at he
    · obtain ⟨h2, hs2, hcb, hun⟩ := Good.notifyReachable
        (s := { s with unroutableL3Neighs := s.unroutableL3Neighs.erase m }) h1 hok hn hroute he
      exact ⟨h2, ⟨hs2.installed, hs2.active⟩, hcb, fun k hk hne => hun ▸ hkeep k hk hne⟩
    · next hll =>
      split at he
      · obtain ⟨rv, g, pv, hadd, hg, hr, hf, -⟩ :=
          addL3NeighEgress_refs (s := { s with
            unroutableL3Neighs := s.unroutableL3Neighs.erase m
            routableL3Neighs := NhStub.Set.emplace s.routableL3Neighs m }) hok h.refs h.free hn
        simp only [hadd] at he
        let s₁ := { s with
          unroutableL3Neighs := s.unroutableL3Neighs.erase m
          routableL3Neighs := NhStub.Set.emplace s.routableL3Neighs m
          groups := g, portVlan := pv }
        have h2 : Good env base s₁.nhUnreachCallbacks s₁.owners ecmp s₁ :=
          h1.emplaceRoutable hnhid (by simpa [NhStub.neigh] using hll)
            h.unroutable_nodup.not_mem_erase (fun hr => h.disjoint m hr hm) hg hf hr
        split at he
        · cases he
          exact ⟨h2, ⟨rfl, rfl⟩, fun _ hp => hp, hkeep⟩
        · rw [if_neg (Int.not_lt.mpr (hok.hostAdd _))] at he
          obtain ⟨h3, hs3, hcb, hun⟩ := Good.notifyReachable (s := s₁) h2 hok hn hroute he
          exact ⟨h3, ⟨hs3.installed, hs3.active⟩, hcb, fun k hk hne => hun ▸ hkeep k hk hne⟩
      · -- no route to it: back among the unroutable ones
        cases he
        refine ⟨h1.emplaceUnroutable hnhid fun hr => h.disjoint m hr hm, ⟨rfl, rfl⟩,
          fun _ hp => hp, fun k hk hne => ?_⟩
        exact mem_emplace.mpr (.inr (hkeep k hk hne))

/-- The loop of `add_l3_unicast_route` over the neighbours in the prefix. -/
theorem Good.enableNeighs (hok : sw.Ok) {ms : List NhStub} (hms : ms.Nodup) {s : L3}
    (h : Good env base s.nhUnreachCallbacks s.owners ecmp s)
    (hroute : ∀ p ∈ s.nhCallbacks, FindsRoute env s.installed p)
    (hmem : ∀ m ∈ ms, m ∈ s.unroutableL3Neighs)
    (he : ms.foldlM (L3.enableNeigh env sw) s = some s') :
    Good env base s'.nhUnreachCallbacks s'.owners ecmp s' ∧ SameRoutes s s' := by
  induction ms generalizing s with
  | nil =>
    cases he
    exact ⟨h, .refl _⟩
  | cons m ms ih =>
    obtain ⟨hnew, hms⟩ := List.nodup_cons.mp hms
    obtain ⟨s₁, h₁, he⟩ := Option.bind_eq_some_iff.mp he
    obtain ⟨h1, hs1, hcb, hun⟩ := h.enableNeigh hok hroute (hmem m List.mem_cons_self) h₁
    have hroute1 : ∀ p ∈ s₁.nhCallbacks, FindsRoute env s₁.installed p := by
      intro p hp
      rw [hs1.installed]
      exact hroute p (hcb p hp)
    have hmem1 : ∀ k ∈ ms, k ∈ s₁.unroutableL3Neighs := by
      intro k hk
      exact hun k (hmem k (List.mem_cons_of_mem m hk)) (fun e => hnew (e ▸ hk))
    obtain ⟨h2, hs2⟩ := ih hms h1 hroute1 hmem1 he
    exact ⟨h2, hs1.trans hs2⟩

/-! ## Neighbours that go -/

theorem Good.nhUnreachableNotification (h : Good env base (p :: unreach) s.owners ecmp s)
    {dMac : Mac} (hn : env.neigh p.nh.neigh = some (.valid dMac)) (hres : Resolved env p.nh.neigh)
    (he : s.nhUnreachableNotification env p.nh.neigh dMac p = some s') :
    Good env base unreach s'.owners ecmp s' ∧ SameRoutes s s' ∧
      s'.nhUnreachCallbacks = s.nhUnreachCallbacks ∧ s'.owners = s.owners.erase p ∧
      s'.routableL3Neighs = s.routableL3Neighs ∧ s'.unroutableL3Neighs = s.unroutableL3Neighs := by
  obtain ⟨hmem, hk⟩ := List.mem_filter.mp (h.unreach.mem_iff.mp List.mem_cons_self)
  have hp : s.owners.Perm (p :: s.owners.erase p) := List.perm_cons_erase hmem
  have hu : unreach.Perm ((s.owners.erase p).filter (hasEgress env)) := by
    have hperm := h.unreach.trans (hp.filter _)
    rw [List.filter_cons_of_pos hk] at hperm
    exact hperm.cons_inv
  obtain ⟨g, pv, hdel, hgood⟩ := h.release hp hn hres hu
  rcases nhUnreachableNotification_cases he with ⟨-, rfl⟩ | ⟨route, -, -, rfl⟩
  · rw [hdel]
    exact ⟨{ hgood with }, ⟨rfl, rfl⟩, rfl, rfl, rfl, rfl⟩
  · rw [hdel]
    refine ⟨{ hgood with waiting := fun q hq => ?_ }, ⟨rfl, rfl⟩, rfl, rfl, rfl, rfl⟩
    rcases List.mem_append.mp hq with hq | hq
    · exact h.waiting q hq
    · rw [List.mem_singleton.mp hq]
      exact hk

/-- The loop of `del_l3_neigh` over the callbacks `ps` for the neighbour. -/
theorem Good.unreachableLoop {dMac : Mac} (hn : env.neigh n = some (.valid dMac))
    (hres : Resolved env n) {ps : List L3Params} (hps : ∀ p ∈ ps, p.nh.neigh = n) {s : L3}
    (h : Good env base (ps ++ unreach) s.owners ecmp s)
    (he : ps.foldlM (fun s p => s.nhUnreachableNotification env n dMac p) s = some s') :
    Good env base unreach s'.owners ecmp s' ∧ SameRoutes s s' ∧
      (∀ q ∈ s.owners, q.nh.neigh ≠ n → q ∈ s'.owners) ∧
      s'.routableL3Neighs = s.routableL3Neighs ∧ s'.unroutableL3Neighs = s.unroutableL3Neighs := by
  induction ps generalizing s with
  | nil =>
    cases he
    exact ⟨h, .refl _, fun _ hq _ => hq, rfl, rfl⟩
  | cons p ps ih =>
    obtain ⟨s₁, h₁, he⟩ := Option.bind_eq_some_iff.mp he
    obtain rfl := hps p List.mem_cons_self
    obtain ⟨h1, hs1, -, how, hro, hun⟩ := h.nhUnreachableNotification hn hres h₁
    obtain ⟨h2, hs2, how2, hro2, hun2⟩ := ih (fun q hq => hps q (List.mem_cons_of_mem p hq)) h1 he
    refine ⟨h2, hs1.trans hs2, fun q hq hne => how2 q ?_ hne, hro2.trans hro, hun2.trans hun⟩
    rw [how]
    have hqp : q ≠ p := by
      rintro rfl
      exact hne rfl
    exact (List.mem_erase_of_ne hqp).mpr hq

theorem Good.notifyUnreachable (h : Good env base s.nhUnreachCallbacks s.owners ecmp s)
    {dMac : Mac} (hn : env.neigh n = some (.valid dMac)) (hres : Resolved env n)
    (he : s.notifyUnreachable env n dMac = some s') :
    Good env base s'.nhUnreachCallbacks s'.owners ecmp s' ∧ SameRoutes s s' ∧
      (∀ q ∈ s.owners, q.nh.neigh ≠ n → q ∈ s'.owners) ∧
      s'.routableL3Neighs = s.routableL3Neighs ∧ s'.unroutableL3Neighs = s.unroutableL3Neighs := by
  obtain ⟨s₁, h₁, he⟩ := Option.bind_eq_some_iff.mp he
  cases he
  have hsplit : s.nhUnreachCallbacks.Perm (s.nhUnreachCallbacks.filter (fun p => p.nh.neigh == n) ++
      s.nhUnreachCallbacks.filter fun p => p.nh.neigh != n) :=
    (List.filter_append_perm (fun p : L3Params => p.nh.neigh == n) s.nhUnreachCallbacks).symm
  have hps : ∀ p ∈ s.nhUnreachCallbacks.filter (fun p => p.nh.neigh == n), p.nh.neigh = n :=
    fun p hp => by simpa using (List.mem_filter.mp hp).2
  obtain ⟨h1, hs1, how, hro, hun⟩ := Good.unreachableLoop hn hres hps
    { h with unreach := hsplit.symm.trans h.unreach } h₁
  exact ⟨{ h1 with }, ⟨hs1.installed, hs1.active⟩, how, hro, hun⟩

/-- On a bridge interface a neighbour that is to be released has an FDB entry. -/
def HasFdb (env : L3Env) (n : Int × Addr) : Prop :=
  ∀ dMac link, env.neigh n = some (.valid dMac) → env.link n.1 = some link →
    (egressIfindex env link n dMac).isSome

/-- A neighbour is no longer routable. -/
theorem Good.disableNeigh (h : Good env base s.nhUnreachCallbacks s.owners ecmp s) (hok : sw.Ok)
    {m : NhStub} (hm : m ∈ s.routableL3Neighs) (hfdb : HasFdb env m.neigh)
    (he : disableNeigh env sw s m = some s') :
    Good env base s'.nhUnreachCallbacks s'.owners ecmp s' ∧ SameRoutes s s' ∧
      (∀ q ∈ s.owners, q.nh.neigh ≠ m.neigh → q ∈ s'.owners) ∧
      ∀ k ∈ s.routableL3Neighs, k ≠ m → k ∈ s'.routableL3Neighs := by
  have hnhid := h.nhid m (.inl hm)
  unfold L3.disableNeigh at he
  cases hn : env.neigh m.neigh with
  | none =>
    simp only [hn, Option.some.injEq] at he
    exact he ▸ ⟨h, .refl s, fun _ hq _ => hq, fun _ hk _ => hk⟩
  | some nud =>
    simp only [hn, Option.map_eq_some_iff] at he
    obtain ⟨s₁, h₁, rfl⟩ := he
    -- a neighbour that took nothing stays where it is
    have hstay : egressKey env m.neigh = none ∧ vlanKey env m.neigh = none → s₁ = s →
        Good env base s₁.nhUnreachCallbacks s₁.owners ecmp
            { s₁ with unroutableL3Neighs := NhStub.Set.emplace s₁.unroutableL3Neighs m } ∧
          SameRoutes s { s₁ with unroutableL3Neighs := NhStub.Set.emplace s₁.unroutableL3Neighs m } ∧
          (∀ q ∈ s.owners, q.nh.neigh ≠ m.neigh → q ∈ s₁.owners) ∧
          ∀ k ∈ s.routableL3Neighs, k ≠ m → k ∈ s₁.routableL3Neighs := by
      rintro hk rfl
      exact ⟨h.emplaceUnroutable hnhid fun _ => hk, ⟨rfl, rfl⟩, fun _ hq _ => hq, fun _ hk _ => hk⟩
    unfold delL3Neigh at h₁
    cases nud with
    | failed | incomplete =>
      exact hstay (keys_none_of_unresolved fun dMac hd => by simp [hn] at hd)
        (by simpa using h₁.symm)
    | valid dMac =>
      cases hl : env.link m.neigh.1 with
      | none =>
        exact hstay (keys_none_of_link_none hl) (by simpa [hl] using h₁.symm)
      | some link =>
        simp only [hl, NhStub_eq hnhid] at h₁
        by_cases hun : m ∈ s.unroutableL3Neighs
        · rw [if_pos hun] at h₁
          cases h₁
          have h1 := (h.eraseUnroutable m).emplaceUnroutable hnhid fun _ => h.disjoint m hm hun
          exact ⟨h1, ⟨rfl, rfl⟩, fun _ hq _ => hq, fun _ hk _ => hk⟩
        · rw [if_neg hun] at h₁
          have hll : (m.neigh.2.cmpPrefix ipv6Ll == Ordering.eq) = false :=
            beq_eq_false_iff_ne.mpr (h.notLl m hm)
          have hhost : ¬ sw.hostRemove m.neigh.2 < 0 := Int.not_lt.mpr (hok.hostRemove _)
          simp only [hll, Bool.and_false, hhost, decide_false, Bool.false_eq_true, if_false] at h₁
          have hlink : ∀ link, env.link m.neigh.1 = some link →
              (egressIfindex env link m.neigh dMac).isSome := fun link hl => hfdb dMac link hn hl
          obtain ⟨g, pv, hdel, h2⟩ := h.releaseNeigh hm hn hlink
          rw [hdel] at h₁
          let s₂ := { s with
            routableL3Neighs := s.routableL3Neighs.erase m, groups := g, portVlan := pv }
          obtain ⟨h3, hs3, how, hro, hun3⟩ :=
            Good.notifyUnreachable (s := s₂) h2 hn ⟨dMac, hn, hlink⟩ h₁
          have hnot : m ∉ s₁.routableL3Neighs := by
            rw [hro]
            exact h.routable_nodup.not_mem_erase
          refine ⟨h3.emplaceUnroutable hnhid fun hc => absurd hc hnot,
            ⟨hs3.installed, hs3.active⟩, how, fun k hk hne => ?_⟩
          simp only [hro]
          exact (List.mem_erase_of_ne hne).mpr hk

/-- The loop of `del_l3_unicast_route` over the neighbours in the prefix. -/
theorem Good.disableLoop (hok : sw.Ok) {ms : List NhStub} (hms : ms.Nodup)
    (hfdb : ∀ m ∈ ms, HasFdb env m.neigh) {s : L3}
    (h : Good env base s.nhUnreachCallbacks s.owners ecmp s)
    (hmem : ∀ m ∈ ms, m ∈ s.routableL3Neighs)
    (he : ms.foldlM (L3.disableNeigh env sw) s = some s') :
    Good env base s'.nhUnreachCallbacks s'.owners ecmp s' ∧ SameRoutes s s' ∧
      ∀ q ∈ s.owners, (∀ m ∈ ms, q.nh.neigh ≠ m.neigh) → q ∈ s'.owners := by
  induction ms generalizing s with
  | nil =>
    cases he
    exact ⟨h, .refl _, fun _ hq _ => hq⟩
  | cons m ms ih =>
    obtain ⟨hnew, hms⟩ := List.nodup_cons.mp hms
    obtain ⟨s₁, h₁, he⟩ := Option.bind_eq_some_iff.mp he
    obtain ⟨h1, hs1, how, hro⟩ :=
      h.disableNeigh hok (hmem m List.mem_cons_self) (hfdb m List.mem_cons_self) h₁
    have hmem1 : ∀ k ∈ ms, k ∈ s₁.routableL3Neighs := by
      intro k hk
      exact hro k (hmem k (List.mem_cons_of_mem m hk)) (fun e => hnew (e ▸ hk))
    obtain ⟨h2, hs2, how2⟩ :=
      ih hms (fun k hk => hfdb k (List.mem_cons_of_mem m hk)) h1 hmem1 he
    refine ⟨h2, hs1.trans hs2, fun q hq hne => how2 q ?_ fun k hk => ?_⟩
    · exact how q hq (hne m List.mem_cons_self)
    · exact hne k (List.mem_cons_of_mem m hk)

end L3

end Basebox
