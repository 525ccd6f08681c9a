import Basebox.Netlink.L3RouteRefs

/-!
# Next hops and next hop objects (`nl_l3::get_neighbours_of_route`, `src/netlink/nl_l3.cc`)

A route has its next hops in itself, or an id of a next hop object, which is a next hop or a group of
objects. Two loops collect the gateways that are on interfaces of the switch. The first skips a next
hop without an address and fails without an interface of the switch. The second looks at the address
only for its family, and has nothing to say about interfaces.

* `RtnlRoute.getNeighboursOfRoute`: the function, with addresses that may be missing, or of other
  families than IPv4 and IPv6.
* `L3.getNeighboursOfRoute_eq`: the function of `L3` is this one, but stops at a missing address.
* `Equivalent`: an object has the next hops of a route.
* `sameNeighbours_iff`: both ways give the same, and no address is missing, exactly if some next hop
  is on an interface of the switch and all that are have an address.
-/

namespace Basebox

/-- The address of a next hop: IPv4 or IPv6, or of a family that is not supported. -/
inductive NlAddr where
  | ip (addr : Addr)
  | other (family : Nat)
  deriving DecidableEq

/-- A next hop of a route. -/
structure RtnlNexthop where
  ifindex : Int
  gateway : Option NlAddr
  via : Option NlAddr := none
  deriving DecidableEq

/-- The address that is taken. -/
def RtnlNexthop.addr (nh : RtnlNexthop) : Option NlAddr := nh.gateway.or nh.via

/-- A next hop object. -/
structure RtnlNh where
  oif : Int
  gateway : Option NlAddr
  group : List Nat := []

/-- What `get_neighbours_of_route` reads of a route. -/
structure RtnlRoute where
  nexthops : List RtnlNexthop
  nhid : Nat

/-- A `nh_stub`, whose address may be null. The constructor takes a reference on the address with
`nl_addr_get`, which is documented for an address only: a stub without one stands for the call with
a null pointer, whatever comes of it, and `AddrsSet` has no such stub. -/
structure NlStub where
  nh : Option Addr
  ifindex : Int
  nhid : Nat
  deriving DecidableEq

/-- What the first loop emplaces for a next hop. -/
def inlineStub (nhid : Nat) (nh : RtnlNexthop) : Option NlStub :=
  match nh.addr with
  | some (.ip a) => some { nh := some a, ifindex := nh.ifindex, nhid := nhid }
  | some (.other _) => none
  | none => none

/-- What the second loop emplaces for an object: the address is tested before the family only. -/
def objectStub (nhid : Nat) (nh : RtnlNh) : Option NlStub :=
  match nh.gateway with
  | some (.ip a) => some { nh := some a, ifindex := nh.oif, nhid := nhid }
  | some (.other _) => none
  | none => some { nh := none, ifindex := nh.oif, nhid := nhid }

section Functions

variable (isSwitch : Int → Bool) (nhById : Nat → Option RtnlNh)

/-- The objects that the second loop goes over; an entry of a group that is not in the cache is
skipped. -/
def RtnlNh.members (routeNh : RtnlNh) : List RtnlNh :=
  if routeNh.group.length > 0 then routeNh.group.filterMap nhById else [routeNh]

/-- `get_neighbours_of_route`. -/
def RtnlRoute.getNeighboursOfRoute (r : RtnlRoute) : Int × Finset NlStub :=
  if r.nexthops.length > 0 then
    let rnhs := r.nexthops.filter fun nh => isSwitch nh.ifindex
    if rnhs.length = 0 then (-ENETUNREACH, ∅)
    else
      let nhs := (rnhs.filterMap (inlineStub r.nhid)).toFinset
      (nhs.card, nhs)
  else if r.nhid > 0 then
    match nhById r.nhid with
    | none => (-EINVAL, ∅)
    | some routeNh =>
      let rnhs := (routeNh.members nhById).filter fun nh => isSwitch nh.oif
      let nhs := (rnhs.filterMap (objectStub r.nhid)).toFinset
      (nhs.card, nhs)
  else (-EINVAL, ∅)

/-- The pairs of an address and an interface. -/
def neighPairs (nhs : Finset NlStub) : Finset (Option Addr × Int) :=
  nhs.image fun nh => (nh.nh, nh.ifindex)

/-- `get_neighbour` asserts its address, and is called for each next hop. -/
def AddrsSet (nhs : Finset NlStub) : Prop := ∀ nh ∈ nhs, nh.nh ≠ none

/-- The object is the next hop. -/
def RtnlNh.Is (nh : RtnlNh) (h : RtnlNexthop) : Prop := nh.oif = h.ifindex ∧ nh.gateway = h.addr

/-- The object `nhid` has the next hops `hs`, one by itself or as a group. -/
inductive Equivalent (hs : List RtnlNexthop) (nhid : Nat) : Prop
  | single (h : RtnlNexthop) (nh : RtnlNh) (hpos : 0 < nhid) (hhs : hs = [h])
      (hnh : nhById nhid = some nh) (hgroup : nh.group = []) (his : nh.Is h)
  | group (nh : RtnlNh) (hpos : 0 < nhid) (hnh : nhById nhid = some nh) (hgroup : nh.group ≠ [])
      (hmembers : List.Forall₂ (fun id h => ∃ m, nhById id = some m ∧ m.Is h) nh.group hs)

end Functions

section Stubs

variable {isSwitch : Int → Bool} {nhById : Nat → Option RtnlNh} {hs : List RtnlNexthop} {nhid : Nat}

theorem forall₂_filterMap_nhById {ids : List Nat}
    (h : List.Forall₂ (fun id h => ∃ m, nhById id = some m ∧ m.Is h) ids hs) :
    List.Forall₂ RtnlNh.Is (ids.filterMap nhById) hs := by
  induction h with
  | nil => exact .nil
  | cons hm _ ih =>
    obtain ⟨m, hm, his⟩ := hm
    rw [List.filterMap_cons_some hm]
    exact .cons his ih

/-- The members of the object are the next hops. -/
theorem Equivalent.members (h : Equivalent nhById hs nhid) :
    0 < nhid ∧ hs ≠ [] ∧ ∃ nh, nhById nhid = some nh ∧
      List.Forall₂ RtnlNh.Is (nh.members nhById) hs := by
  cases h with
  | single h nh hpos hhs hnh hgroup his =>
    subst hhs
    refine ⟨hpos, by simp, nh, hnh, ?_⟩
    rw [RtnlNh.members, hgroup, if_neg (by simp)]
    exact .cons his .nil
  | group nh hpos hnh hgroup hmembers =>
    refine ⟨hpos, fun e => ?_, nh, hnh, ?_⟩
    · subst e
      exact hgroup (List.forall₂_nil_right_iff.mp hmembers)
    · rw [RtnlNh.members, if_pos (List.length_pos_iff.mpr hgroup)]
      exact forall₂_filterMap_nhById hmembers

/-- The object that has just the next hop. -/
def RtnlNexthop.object (h : RtnlNexthop) : RtnlNh where
  oif := h.ifindex
  gateway := h.addr

theorem objectStub_of_is {m : RtnlNh} {h : RtnlNexthop} (his : m.Is h) :
    objectStub nhid m = objectStub nhid h.object := by
  obtain ⟨hoif, hgateway⟩ := his
  simp only [objectStub, RtnlNexthop.object, hoif, hgateway]

/-- The second loop over the members is one over the next hops. -/
theorem objectStubs_eq {ms : List RtnlNh} (h : List.Forall₂ RtnlNh.Is ms hs) :
    (ms.filter fun nh => isSwitch nh.oif).filterMap (objectStub nhid) =
      ((hs.filter fun nh => isSwitch nh.ifindex).map RtnlNexthop.object).filterMap
        (objectStub nhid) := by
  induction h with
  | nil => rfl
  | cons his _ ih =>
    rw [List.filter_cons, List.filter_cons, his.1]
    split
    · rw [List.map_cons, List.filterMap_cons, List.filterMap_cons, objectStub_of_is his, ih]
    · exact ih

/-- With an address the two loops emplace the same, up to the id. -/
theorem inlineStub_eq_objectStub {h : RtnlNexthop} (haddr : h.addr.isSome) (k : Nat) :
    (inlineStub k h).map (fun nh => (nh.nh, nh.ifindex)) =
      (objectStub nhid h.object).map fun nh => (nh.nh, nh.ifindex) := by
  unfold inlineStub objectStub RtnlNexthop.object
  rcases ha : h.addr with _ | a | family
  · rw [ha] at haddr
    cases haddr
  · rfl
  · rfl

theorem inlineStub_nh {h : RtnlNexthop} {nh : NlStub} (hs : inlineStub nhid h = some nh) :
    nh.nh ≠ none := by
  unfold inlineStub at hs
  split at hs
  · cases hs
    simp
  · cases hs
  · cases hs

/-- The second loop emplaces a null address exactly for an object without one. -/
theorem objectStub_null {m : RtnlNh} :
    (∃ nh, objectStub nhid m = some nh ∧ nh.nh = none) ↔ m.gateway = none := by
  unfold objectStub
  rcases m.gateway with _ | a | family <;> simp

theorem neighPairs_filterMap {α : Type} (l : List α) (f : α → Option NlStub) :
    neighPairs (l.filterMap f).toFinset =
      (l.filterMap fun a => (f a).map fun nh => (nh.nh, nh.ifindex)).toFinset := by
  ext p
  simp only [neighPairs, Finset.mem_image, List.mem_toFinset, List.mem_filterMap,
    Option.map_eq_some_iff]
  constructor
  · rintro ⟨nh, ⟨a, ha, hf⟩, rfl⟩
    exact ⟨a, ha, nh, hf, rfl⟩
  · rintro ⟨a, ha, nh, hf, rfl⟩
    exact ⟨nh, ⟨a, ha, hf⟩, rfl⟩

/-! ## Every address is set -/

theorem addrsSet_inline (l : List RtnlNexthop) :
    AddrsSet (l.filterMap (inlineStub nhid)).toFinset := by
  intro nh hnh
  obtain ⟨h, -, hs⟩ := List.mem_filterMap.mp (List.mem_toFinset.mp hnh)
  exact inlineStub_nh hs

theorem addrsSet_objects {l : List RtnlNh} :
    AddrsSet (l.filterMap (objectStub nhid)).toFinset ↔ ∀ m ∈ l, m.gateway.isSome := by
  constructor
  · intro h m hm
    by_contra hnone
    obtain ⟨nh, hs, hnh⟩ := objectStub_null.mpr (Option.not_isSome_iff_eq_none.mp hnone)
    exact h nh (List.mem_toFinset.mpr (List.mem_filterMap.mpr ⟨m, hm, hs⟩)) hnh
  · intro h nh hnh hnone
    obtain ⟨m, hm, hs⟩ := List.mem_filterMap.mp (List.mem_toFinset.mp hnh)
    have hgateway := objectStub_null.mp ⟨nh, hs, hnone⟩
    simpa [hgateway] using h m hm

theorem addrsSet_empty : AddrsSet ∅ := fun _ h => absurd h (Finset.notMem_empty _)

/-- The objects that a route without next hops of its own looks at. -/
def RtnlRoute.objects (nhById : Nat → Option RtnlNh) (r : RtnlRoute) : List RtnlNh :=
  if r.nexthops.length > 0 ∨ r.nhid = 0 then []
  else ((nhById r.nhid).map fun routeNh => routeNh.members nhById).getD []

/-- Every address is set exactly if the objects on interfaces of the switch have one. -/
theorem addrsSet_iff (r : RtnlRoute) :
    AddrsSet (r.getNeighboursOfRoute isSwitch nhById).2 ↔
      ∀ m ∈ r.objects nhById, isSwitch m.oif = true → m.gateway.isSome := by
  unfold RtnlRoute.getNeighboursOfRoute RtnlRoute.objects
  by_cases hlen : r.nexthops.length > 0
  · have hnone : r.nexthops.length > 0 ∨ r.nhid = 0 := .inl hlen
    rw [if_pos hlen, if_pos hnone]
    refine iff_of_true ?_ (by simp)
    dsimp only
    split
    · exact addrsSet_empty
    · exact addrsSet_inline _
  · rw [if_neg hlen]
    by_cases hz : r.nhid = 0
    · have hnone : r.nexthops.length > 0 ∨ r.nhid = 0 := .inr hz
      rw [if_neg (by omega), if_pos hnone]
      exact iff_of_true addrsSet_empty (by simp)
    · have hsome : ¬ (r.nexthops.length > 0 ∨ r.nhid = 0) := by omega
      rw [if_pos (by omega), if_neg hsome]
      cases nhById r.nhid with
      | none => exact iff_of_true addrsSet_empty (by simp)
      | some routeNh =>
        refine addrsSet_objects.trans ?_
        simp [List.mem_filter]

end Stubs

/-! ## The function of `L3` -/

section L3

/-- The next hop, as libnl shows it. -/
def NextHop.rtnl (nh : NextHop) : RtnlNexthop where
  ifindex := nh.ifindex
  gateway := nh.gateway.map .ip
  via := nh.via.map .ip

/-- The next hop object, as libnl shows it. -/
def NhObject.rtnl (nh : NhObject) : RtnlNh where
  oif := nh.oif
  gateway := nh.gateway.map .ip
  group := nh.group

/-- The route, as libnl shows it. -/
def L3Route.rtnl (r : L3Route) : RtnlRoute where
  nexthops := r.nexthops.map NextHop.rtnl
  nhid := r.nhid

/-- An address that is not null. -/
def NhStub.nl (nh : NhStub) : NlStub where
  nh := some nh.nh
  ifindex := nh.ifindex
  nhid := nh.nhid

theorem NhStub.nl_injective : Function.Injective NhStub.nl := by
  rintro ⟨a, i, k⟩ ⟨a', i', k'⟩ h
  simp only [NhStub.nl, NlStub.mk.injEq, Option.some.injEq] at h
  obtain ⟨rfl, rfl, rfl⟩ := h
  rfl

namespace L3

variable {env : L3Env} {r : L3Route} {nhid : Nat}

theorem map_nl_emplace (nhs : NhStub.Set) (m : NhStub) (t : Finset NlStub) :
    ((NhStub.Set.emplace nhs m).map NhStub.nl).toFinset ∪ t =
      (nhs.map NhStub.nl).toFinset ∪ insert m.nl t := by
  ext x
  simp only [Finset.mem_union, List.mem_toFinset, List.mem_map, mem_emplace, Finset.mem_insert]
  constructor
  · rintro (⟨m, rfl | hm, rfl⟩ | hx)
    · exact .inr (.inl rfl)
    · exact .inl ⟨m, hm, rfl⟩
    · exact .inr (.inr hx)
  · rintro (⟨m, hm, rfl⟩ | rfl | hx)
    · exact .inl ⟨m, .inr hm, rfl⟩
    · exact .inl ⟨_, .inl rfl, rfl⟩
    · exact .inr hx

/-- The set of the first loop. -/
theorem map_nl_inline (l : List NextHop) (nhs : NhStub.Set) :
    ((l.foldl (fun nhs nh =>
        match nh.gateway.or nh.via with
        | none => nhs
        | some addr => NhStub.Set.emplace nhs { nh := addr, ifindex := nh.ifindex, nhid := nhid })
      nhs).map NhStub.nl).toFinset =
      (nhs.map NhStub.nl).toFinset ∪ ((l.map NextHop.rtnl).filterMap (inlineStub nhid)).toFinset := by
  induction l generalizing nhs with
  | nil => simp
  | cons nh l ih =>
    have haddr : nh.rtnl.addr = (nh.gateway.or nh.via).map .ip := by
      obtain ⟨i, _ | a, v⟩ := nh <;> rfl
    rw [List.foldl_cons, ih, List.map_cons]
    cases ha : nh.gateway.or nh.via with
    | none =>
      rw [ha] at haddr
      rw [List.filterMap_cons_none (by simp [inlineStub, haddr])]
    | some a =>
      rw [ha] at haddr
      have hstub : inlineStub nhid nh.rtnl =
          some (NhStub.nl { nh := a, ifindex := nh.ifindex, nhid := nhid }) := by
        simp only [inlineStub, haddr, Option.map_some]
        rfl
      rw [List.filterMap_cons_some hstub, List.toFinset_cons]
      exact map_nl_emplace _ _ _

/-- The set of the second loop, if no gateway is missing. -/
theorem map_nl_object {l : List NhObject} {nhs nhs' : NhStub.Set}
    (h : l.foldlM (fun nhs nh => nh.gateway.map fun addr =>
      NhStub.Set.emplace nhs { nh := addr, ifindex := nh.oif, nhid := nhid }) nhs = some nhs') :
    (nhs'.map NhStub.nl).toFinset =
      (nhs.map NhStub.nl).toFinset ∪ ((l.map NhObject.rtnl).filterMap (objectStub nhid)).toFinset ∧
    ∀ nh ∈ l, nh.gateway.isSome := by
  induction l generalizing nhs with
  | nil =>
    cases h
    simp
  | cons nh l ih =>
    obtain ⟨nhs₁, h₁, h⟩ := Option.bind_eq_some_iff.mp h
    obtain ⟨a, ha, rfl⟩ := Option.map_eq_some_iff.mp h₁
    obtain ⟨hset, hall⟩ := ih h
    have hstub : objectStub nhid nh.rtnl =
        some (NhStub.nl { nh := a, ifindex := nh.oif, nhid := nhid }) := by
      simp only [objectStub, NhObject.rtnl, ha, Option.map_some]
      rfl
    refine ⟨?_, List.forall_mem_cons.mpr ⟨by rw [ha]; rfl, hall⟩⟩
    rw [hset, List.map_cons, List.filterMap_cons_some hstub, List.toFinset_cons]
    exact map_nl_emplace _ _ _

theorem exists_null_of_foldlM {l : List NhObject} {nhs : NhStub.Set}
    (h : l.foldlM (fun nhs nh => nh.gateway.map fun addr =>
      NhStub.Set.emplace nhs { nh := addr, ifindex := nh.oif, nhid := nhid }) nhs = none) :
    ∃ nh ∈ l, nh.gateway = none := by
  induction l generalizing nhs with
  | nil => cases h
  | cons nh l ih =>
    cases ha : nh.gateway with
    | none => exact ⟨nh, List.mem_cons_self, ha⟩
    | some a =>
      rw [List.foldlM_cons, ha] at h
      obtain ⟨m, hm, hnone⟩ := ih h
      exact ⟨m, List.mem_cons_of_mem _ hm, hnone⟩

theorem map_rtnl_filter (l : List NhObject) :
    (l.map NhObject.rtnl).filter (fun nh => isSwitchInterface env nh.oif) =
      (l.filter fun nh => isSwitchInterface env nh.oif).map NhObject.rtnl := List.filter_map

/-- The members of an object. -/
theorem members_rtnl (routeNh : NhObject) :
    routeNh.rtnl.members (fun id => (env.nhById id).map NhObject.rtnl) =
      (if routeNh.group.length > 0 then routeNh.group.filterMap env.nhById
        else [routeNh]).map NhObject.rtnl := by
  unfold RtnlNh.members NhObject.rtnl
  dsimp only
  split
  · rw [List.map_filterMap]
  · rfl

/-- As many stubs as there are values. -/
theorem card_map_nl {nhs : NhStub.Set} (h : nhs.Nodup) :
    ((nhs.map NhStub.nl).toFinset.card : Int) = nhs.length := by
  rw [List.toFinset_card_of_nodup (h.map NhStub.nl_injective), List.length_map]

/-- `get_neighbours_of_route` of the route, for any addresses. -/
def nlNeighbours (env : L3Env) (r : L3Route) : Int × Finset NlStub :=
  r.rtnl.getNeighboursOfRoute (isSwitchInterface env) fun id => (env.nhById id).map NhObject.rtnl

theorem nlNeighbours_inline (hlen : r.nexthops.length > 0) {rv : Int} {nhs : NhStub.Set}
    (h : getNeighboursOfRoute env r = some (rv, nhs)) :
    nlNeighbours env r = (rv, (nhs.map NhStub.nl).toFinset) := by
  have hnodup := (getNeighboursOfRoute_spec h).1
  have hfilter : r.rtnl.nexthops.filter (fun nh => isSwitchInterface env nh.ifindex) =
      (r.nexthops.filter fun nh => isSwitchInterface env nh.ifindex).map NextHop.rtnl :=
    List.filter_map
  have hlen' : r.rtnl.nexthops.length > 0 := by
    rw [L3Route.rtnl, List.length_map]
    exact hlen
  unfold nlNeighbours RtnlRoute.getNeighboursOfRoute
  unfold getNeighboursOfRoute at h
  rw [if_pos hlen] at h
  rw [if_pos hlen', hfilter]
  dsimp only at h ⊢
  rw [List.length_map]
  split at h
  · next hnil =>
    cases h
    rw [if_pos hnil]
    rfl
  · next hnil =>
    cases h
    rw [if_neg hnil]
    have hset := @map_nl_inline r.nhid
      (r.nexthops.filter fun nh => isSwitchInterface env nh.ifindex) []
    rw [List.map_nil, List.toFinset_nil, Finset.empty_union] at hset
    rw [← card_map_nl hnodup]
    exact Prod.ext (congrArg (fun t : Finset NlStub => (t.card : Int)) hset.symm) hset.symm

theorem nlNeighbours_object (hlen : ¬ r.nexthops.length > 0) :
    (∀ rv nhs, getNeighboursOfRoute env r = some (rv, nhs) →
      nlNeighbours env r = (rv, (nhs.map NhStub.nl).toFinset)) ∧
    (getNeighboursOfRoute env r = none → ¬ AddrsSet (nlNeighbours env r).2) := by
  have hlen' : ¬ r.rtnl.nexthops.length > 0 := by
    rw [L3Route.rtnl, List.length_map]
    exact hlen
  have hspec := fun rv nhs => @getNeighboursOfRoute_spec env r rv nhs
  unfold nlNeighbours RtnlRoute.getNeighboursOfRoute
  unfold getNeighboursOfRoute at hspec ⊢
  rw [if_neg hlen] at hspec ⊢
  rw [if_neg hlen']
  by_cases hz : r.nhid = 0
  · have hz' : ¬ r.rtnl.nhid > 0 := by
      change ¬ r.nhid > 0
      omega
    rw [if_pos hz, if_neg hz']
    refine ⟨fun rv nhs h => ?_, fun h => by cases h⟩
    cases h
    rfl
  · have hz' : r.rtnl.nhid > 0 := by
      change r.nhid > 0
      omega
    rw [if_neg hz] at hspec ⊢
    rw [if_pos hz']
    dsimp only [L3Route.rtnl]
    cases hobj : env.nhById r.nhid with
    | none =>
      refine ⟨fun rv nhs h => ?_, fun h => by cases h⟩
      cases h
      rfl
    | some routeNh =>
      rw [hobj] at hspec
      simp only [Option.map_some, members_rtnl, map_rtnl_filter] at hspec ⊢
      refine ⟨fun rv nhs h => ?_, fun h => ?_⟩
      · have hnodup := (hspec rv nhs h).1
        obtain ⟨nhs', hfold, heq⟩ := Option.map_eq_some_iff.mp h
        cases heq
        have hset := (map_nl_object hfold).1
        rw [List.map_nil, List.toFinset_nil, Finset.empty_union] at hset
        rw [← card_map_nl hnodup]
        exact Prod.ext (congrArg (fun t : Finset NlStub => (t.card : Int)) hset.symm) hset.symm
      · obtain ⟨nh, hnh, hgateway⟩ := exists_null_of_foldlM (Option.map_eq_none_iff.mp h)
        intro hset
        have hsome := addrsSet_objects.mp hset nh.rtnl (List.mem_map_of_mem hnh)
        simp [NhObject.rtnl, hgateway] at hsome

/-- The function of `L3` is `get_neighbours_of_route` for the addresses that it has; it stops at a
missing one. -/
theorem getNeighboursOfRoute_eq (env : L3Env) (r : L3Route) :
    (∀ rv nhs, getNeighboursOfRoute env r = some (rv, nhs) →
      nlNeighbours env r = (rv, (nhs.map NhStub.nl).toFinset)) ∧
    (getNeighboursOfRoute env r = none → ¬ AddrsSet (nlNeighbours env r).2) := by
  by_cases hlen : r.nexthops.length > 0
  · refine ⟨fun rv nhs h => nlNeighbours_inline hlen h, fun h => ?_⟩
    unfold getNeighboursOfRoute at h
    rw [if_pos hlen] at h
    dsimp only at h
    split at h <;> cases h
  · exact nlNeighbours_object hlen

end L3

end L3

/-! ## Both ways -/

section Both

variable (isSwitch : Int → Bool) (nhById : Nat → Option RtnlNh)

/-- Two routes have the same neighbours, and succeed or fail alike, with every address set. -/
structure SameNeighbours (r r' : RtnlRoute) : Prop where
  pairs : neighPairs (r.getNeighboursOfRoute isSwitch nhById).2 =
    neighPairs (r'.getNeighboursOfRoute isSwitch nhById).2
  success : (r.getNeighboursOfRoute isSwitch nhById).1 < 0 ↔
    (r'.getNeighboursOfRoute isSwitch nhById).1 < 0
  addrs : AddrsSet (r.getNeighboursOfRoute isSwitch nhById).2
  addrs' : AddrsSet (r'.getNeighboursOfRoute isSwitch nhById).2

variable {isSwitch nhById} {hs : List RtnlNexthop} {nhid : Nat}

theorem getNeighboursOfRoute_inline (hne : hs ≠ []) (k : Nat) :
    RtnlRoute.getNeighboursOfRoute isSwitch nhById ⟨hs, k⟩ =
      let rnhs := hs.filter fun nh => isSwitch nh.ifindex
      if rnhs = [] then (-ENETUNREACH, ∅)
      else
        let nhs := (rnhs.filterMap (inlineStub k)).toFinset
        (nhs.card, nhs) := by
  rw [RtnlRoute.getNeighboursOfRoute, if_pos (List.length_pos_iff.mpr hne)]
  simp only [List.length_eq_zero_iff]

theorem getNeighboursOfRoute_object (h : Equivalent nhById hs nhid) :
    RtnlRoute.getNeighboursOfRoute isSwitch nhById ⟨[], nhid⟩ =
      let nhs := (((hs.filter fun nh => isSwitch nh.ifindex).map RtnlNexthop.object).filterMap
        (objectStub nhid)).toFinset
      ((nhs.card : Int), nhs) := by
  obtain ⟨hpos, -, nh, hnh, hmembers⟩ := h.members
  rw [RtnlRoute.getNeighboursOfRoute, if_neg (by simp), if_pos hpos]
  simp only [hnh, objectStubs_eq hmembers]

/-- **Next hops and next hop objects.** A route and one with an equivalent object have the same
neighbours, all of them with an address, exactly if some next hop is on an interface of the switch
and all those that are have an address; and for any route, no address is missing exactly if the
objects that it looks at, where they are on an interface of the switch, have one. -/
theorem sameNeighbours_iff (isSwitch : Int → Bool) (nhById : Nat → Option RtnlNh) :
    (∀ hs k nhid, Equivalent nhById hs nhid →
      (SameNeighbours isSwitch nhById ⟨hs, k⟩ ⟨[], nhid⟩ ↔
        (∃ h ∈ hs, isSwitch h.ifindex = true) ∧
          ∀ h ∈ hs, isSwitch h.ifindex = true → h.addr.isSome)) ∧
    ∀ r : RtnlRoute, AddrsSet (r.getNeighboursOfRoute isSwitch nhById).2 ↔
      ∀ m ∈ r.objects nhById, isSwitch m.oif = true → m.gateway.isSome := by
  refine ⟨fun hs k nhid he => ?_, addrsSet_iff⟩
  obtain ⟨-, hne, -⟩ := he.members
  have hin := @getNeighboursOfRoute_inline isSwitch nhById hs hne k
  have hobj := @getNeighboursOfRoute_object isSwitch nhById hs nhid he
  dsimp only at hin hobj
  have haddrs : AddrsSet (RtnlRoute.getNeighboursOfRoute isSwitch nhById ⟨[], nhid⟩).2 ↔
      ∀ h ∈ hs, isSwitch h.ifindex = true → h.addr.isSome := by
    rw [hobj]
    refine addrsSet_objects.trans ?_
    simp only [List.forall_mem_map, List.mem_filter, and_imp, RtnlNexthop.object]
  constructor
  · intro h
    refine ⟨?_, haddrs.mp h.addrs'⟩
    -- Without an interface of the switch only the first loop fails.
    by_contra hnone
    have hnil : hs.filter (fun nh => isSwitch nh.ifindex) = [] :=
      List.filter_eq_nil_iff.mpr fun a ha hsw => hnone ⟨a, ha, hsw⟩
    have hfail := h.success
    rw [hin, hobj, if_pos hnil] at hfail
    have hneg := hfail.mp (by decide)
    dsimp only at hneg
    omega
  · rintro ⟨⟨a, ha, hsw⟩, hall⟩
    have hsome : hs.filter (fun nh => isSwitch nh.ifindex) ≠ [] :=
      List.ne_nil_of_mem (List.mem_filter.mpr ⟨ha, hsw⟩)
    rw [if_neg hsome] at hin
    refine ⟨?_, ?_, ?_, haddrs.mpr hall⟩
    · rw [hin, hobj]
      dsimp only
      rw [neighPairs_filterMap, neighPairs_filterMap, List.filterMap_map]
      congr 1
      refine List.filterMap_congr fun b hb => ?_
      obtain ⟨hb, hbsw⟩ := List.mem_filter.mp hb
      exact inlineStub_eq_objectStub (hall b hb hbsw) k
    · rw [hin, hobj]
      dsimp only
      omega
    · rw [hin]
      exact addrsSet_inline _

end Both

/-! ## Objects 1 to 5 -/

/-- Interface 3 is one of the switch, with 10.0.1.2 behind it. Object 1 is that gateway, object 2 one on
another interface, 3 is both; 4 is interface 3 without a gateway, 5 the other interface. -/
def nhObjects : Nat → Option RtnlNh
  | 1 => some { oif := 3, gateway := some (.ip (.inet 0x0a000102)) }
  | 2 => some { oif := 9, gateway := some (.ip (.inet 0x0a000902)) }
  | 3 => some { oif := 0, gateway := none, group := [1, 2] }
  | 4 => some { oif := 3, gateway := none }
  | 5 => some { oif := 9, gateway := none }
  | _ => none

/-- Only link 3 is an interface of the switch. -/
def isPort3 (ifindex : Int) : Bool := ifindex == 3

/-- `sameNeighbours_iff` for a group of a next hop on the switch and one that is not. -/
theorem sameNeighbours_iff_group :
    SameNeighbours isPort3 nhObjects
      ⟨[{ ifindex := 3, gateway := some (.ip (.inet 0x0a000102)) },
        { ifindex := 9, gateway := some (.ip (.inet 0x0a000902)) }], 0⟩ ⟨[], 3⟩ := by
  refine ((sameNeighbours_iff isPort3 nhObjects).1 _ 0 3 ?_).mpr (by decide)
  refine .group _ (by decide) rfl (by decide) (.cons ⟨_, rfl, rfl, rfl⟩ (.cons ⟨_, rfl, rfl, rfl⟩ .nil))

/-- An on-link route over object 4 has a neighbour without an address, and one over object 5 has no
neighbour, which is an error for the same next hop in the route. -/
theorem onLinkObject_null :
    (Equivalent nhObjects [{ ifindex := 3, gateway := none }] 4 ∧
      RtnlRoute.getNeighboursOfRoute isPort3 nhObjects ⟨[{ ifindex := 3, gateway := none }], 0⟩ =
        (0, ∅) ∧
      RtnlRoute.getNeighboursOfRoute isPort3 nhObjects ⟨[], 4⟩ =
        (1, {{ nh := none, ifindex := 3, nhid := 4 }}) ∧
      ¬ SameNeighbours isPort3 nhObjects ⟨[{ ifindex := 3, gateway := none }], 0⟩ ⟨[], 4⟩) ∧
    Equivalent nhObjects [{ ifindex := 9, gateway := none }] 5 ∧
      RtnlRoute.getNeighboursOfRoute isPort3 nhObjects ⟨[{ ifindex := 9, gateway := none }], 0⟩ =
        (-ENETUNREACH, ∅) ∧
      RtnlRoute.getNeighboursOfRoute isPort3 nhObjects ⟨[], 5⟩ = (0, ∅) ∧
      ¬ SameNeighbours isPort3 nhObjects ⟨[{ ifindex := 9, gateway := none }], 0⟩ ⟨[], 5⟩ := by
  refine ⟨⟨.single _ _ (by decide) rfl rfl rfl ⟨rfl, rfl⟩, by decide, by decide, fun h => ?_⟩,
    .single _ _ (by decide) rfl rfl rfl ⟨rfl, rfl⟩, by decide, by decide, fun h => ?_⟩
  · exact h.addrs' { nh := none, ifindex := 3, nhid := 4 } (by decide) rfl
  · exact absurd (h.success.mp (by decide)) (by decide)

end Basebox
