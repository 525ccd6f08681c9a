import Basebox.Lib.Counts
import Basebox.Netlink.L3Neigh

/-!
# Who is served by an egress group (`nl_l3::update_l3_neigh`, `src/netlink/nl_l3.cc`)

The host entry of a neighbour and the routes over it point to an egress group of the switch, whose
id they got when they took a reference of its entry in `l3_interface_mapping`. Neighbours on one
port, VLAN and source MAC share an entry if they have the same link-layer address. When the address
of one of them changes, `update_l3_neigh` rewrites the group in place, for all that point to it; that
there is an entry for the new address already is only found afterwards.

* `addOp`, `delOp`, `updateOp`: what the operations of `L3Groups` send to the switch.
* `Served`: every use points to a group that carries the current address of its neighbour.
* `Alone`: the condition on a change of an address. No other neighbour uses the group, there is no
  entry for the new address, and the switch takes the update.
* `served_run`: in every run whose steps meet the conditions everything is served, and a further
  change leaves it so exactly if no other neighbour uses the group and the switch takes the update.
-/

namespace Basebox

/-- Where a neighbour is: the port and the VLAN of its link, and the MAC of the link. -/
structure EgressLoc where
  portId : Nat
  vid : Nat
  srcMac : Mac
  portId_ne : portId ≠ 0

/-- The key of the entry for a neighbour there. -/
def EgressLoc.key (l : EgressLoc) (lladdr : Mac) : EgressKey where
  portId := l.portId
  vid := l.vid
  srcMac := l.srcMac
  dstMac := lladdr

/-! ## The groups of the switch -/

/-- A message for an L3 unicast group. -/
inductive EgressOp where
  | create (id : Nat) (k : EgressKey)
  | update (id : Nat) (k : EgressKey)
  | remove (id : Nat)

/-- The groups of the switch after a message, if it is sent. A group that is there is not added, one
that is not there is not modified. -/
def EgressOp.apply (send : Int) (switch : Table Nat EgressKey) : EgressOp → Table Nat EgressKey
  | .create id k => if send < 0 then switch else switch.emplace id k
  | .update id k => if send < 0 ∨ id ∉ switch then switch else switch.insert id k
  | .remove id => if send < 0 then switch else switch.erase id

namespace L3Groups

variable {Nh : Type}

/-- The message of `add_l3_egress`. -/
def addOp (s : L3Groups Nh) (k : EgressKey) : Option EgressOp :=
  if k.portId = 0 then none
  else
    match s.l3InterfaceMapping.lookup k with
    | none => some (.create (s.egress.create 0).2.1 k)
    | some _ => none

/-- The message of `del_l3_egress`. -/
def delOp (s : L3Groups Nh) (k : EgressKey) : Option EgressOp :=
  if k.portId = 0 then none
  else
    match s.l3InterfaceMapping.lookup k with
    | none => none
    | some x => if x.refcnt - 1 = 0 then some (.remove x.id) else none

/-- The message of `update_l3_neigh` for the entries of the old and the new address. -/
def updateOp (s : L3Groups Nh) (linkFound : Bool) (l3IfOld l3IfNew : EgressKey) :
    Option EgressOp :=
  if l3IfOld.dstMac = l3IfNew.dstMac then none
  else if !linkFound then none
  else (s.l3InterfaceMapping.lookup l3IfOld).map fun x => .update x.id l3IfNew

end L3Groups

/-! ## Uses -/

/-- What points to an egress group: the host entry of a neighbour, or a route over it. -/
structure EgressUse where
  neigh : Int × Addr
  route : Option Prefix
  id : Nat
  deriving DecidableEq

/-- The groups of `nl_l3` and of the switch, the uses, and the address of each neighbour. -/
structure EgressUsers where
  groups : L3Groups NhStub := {}
  switch : Table Nat EgressKey := ∅
  uses : List EgressUse := []
  lladdr : Int × Addr → Mac := fun _ => 0

namespace EgressUsers

variable (loc : Int × Addr → EgressLoc)

/-- The key of the entry for a neighbour. -/
def key (s : EgressUsers) (n : Int × Addr) : EgressKey := (loc n).key (s.lladdr n)

/-- What neighbours and routes ask of the egress groups. -/
inductive Ev where
  /-- The neighbour `n` with the address `lladdr` gets a host entry, or a route over it is added. -/
  | add (n : Int × Addr) (route : Option Prefix) (lladdr : Mac) (send : Int)
  /-- The host entry or the route is deleted. -/
  | del (u : EgressUse) (send : Int)
  /-- `update_l3_neigh` for a routable neighbour whose address is now `lladdr`. -/
  | update (n : Int × Addr) (lladdr : Mac) (linkFound : Bool) (send : Int)

/-- The groups and their users after an event. -/
def step (s : EgressUsers) : Ev → EgressUsers
  | .add n route lladdr send =>
    let k := (loc n).key lladdr
    let (rv, id, groups) := s.groups.addL3Egress k send
    { groups := groups
      switch := ((s.groups.addOp k).map (·.apply send s.switch)).getD s.switch
      uses := match id with
        | some id => if rv < 0 then s.uses else s.uses ++ [⟨n, route, id⟩]
        | none => s.uses
      lladdr := Function.update s.lladdr n lladdr }
  | .del u send =>
    let k := s.key loc u.neigh
    { groups := (s.groups.delL3Egress k send).2
      switch := ((s.groups.delOp k).map (·.apply send s.switch)).getD s.switch
      uses := s.uses.erase u
      lladdr := s.lladdr }
  | .update n lladdr linkFound send =>
    let l := loc n
    { groups := (s.groups.updateL3NeighLl false linkFound l.portId l.vid l.srcMac (s.lladdr n)
        lladdr send).2
      switch := ((s.groups.updateOp linkFound (s.key loc n) (l.key lladdr)).map
        (·.apply send s.switch)).getD s.switch
      uses := s.uses
      lladdr := Function.update s.lladdr n lladdr }

/-- Every host entry and every next hop of a route points to a group of the switch that carries the
address of the neighbour. -/
def Served (s : EgressUsers) : Prop :=
  ∀ u ∈ s.uses, ∃ k, s.switch.lookup u.id = some k ∧ k.dstMac = s.lladdr u.neigh

/-- No other neighbour uses the entry of `n`. -/
def Unshared (s : EgressUsers) (n : Int × Addr) : Prop :=
  ∀ u ∈ s.uses, s.key loc u.neigh = s.key loc n → u.neigh = n

/-- The conditions on the events, in the state before them. A neighbour in use has the address of its
last event, and the switch has no group under the id of a new one; what is deleted was added; and
for a change of an address: no other neighbour uses the entry, and if there is one, the link is
found, the switch takes the update, and the new address has no entry. -/
def Alone (s : EgressUsers) : Ev → Prop
  | .add n _ lladdr send =>
    (∀ u ∈ s.uses, u.neigh = n → s.lladdr n = lladdr) ∧
      ((loc n).key lladdr ∉ s.groups.l3InterfaceMapping → 0 ≤ send →
        (s.groups.egress.create 0).2.1 ∉ s.switch)
  | .del u _ => u ∈ s.uses
  | .update n lladdr linkFound send => s.lladdr n ≠ lladdr →
    s.Unshared loc n ∧ (s.key loc n ∈ s.groups.l3InterfaceMapping →
      linkFound = true ∧ 0 ≤ send ∧ (loc n).key lladdr ∉ s.groups.l3InterfaceMapping)

/-! ## The invariant -/

/-- Every entry is on the switch as its key says, every use points to the entry of its neighbour, and
the counts are those of the uses. -/
structure Inv (s : EgressUsers) : Prop where
  mirror : ∀ k x, s.groups.l3InterfaceMapping.lookup k = some x → s.switch.lookup x.id = some k
  uses : ∀ u ∈ s.uses, ∃ x, s.groups.l3InterfaceMapping.lookup (s.key loc u.neigh) = some x ∧
    x.id = u.id
  counts : Counts Counted.refcnt s.groups.l3InterfaceMapping (s.uses.map fun u => s.key loc u.neigh)

section Steps

variable {loc} {s : EgressUsers} {n : Int × Addr} {lladdr : Mac} {send : Int}

theorem Inv.served (h : Inv loc s) : s.Served := by
  intro u hu
  obtain ⟨x, hx, hid⟩ := h.uses u hu
  exact ⟨_, hid ▸ h.mirror _ x hx, rfl⟩

/-- Entries are told apart by their ids. -/
theorem Inv.key_eq (h : Inv loc s) {k k' : EgressKey} {x x' : Counted}
    (hx : s.groups.l3InterfaceMapping.lookup k = some x)
    (hx' : s.groups.l3InterfaceMapping.lookup k' = some x') (hid : x'.id = x.id) : k' = k := by
  have h1 := h.mirror k x hx
  have h2 := h.mirror k' x' hx'
  rw [hid, h1] at h2
  exact (Option.some.inj h2).symm

theorem lladdr_update_of_use (h : ∀ u ∈ s.uses, u.neigh = n → s.lladdr n = lladdr) {u : EgressUse}
    (hu : u ∈ s.uses) : Function.update s.lladdr n lladdr u.neigh = s.lladdr u.neigh := by
  by_cases hn : u.neigh = n
  · rw [hn, Function.update_self, h u hu hn]
  · rw [Function.update_of_ne hn]

/-- The invariant, where `lladdr'` is to be the addresses of the neighbours. -/
theorem Inv.congr (h : Inv loc s) (lladdr' : Int × Addr → Mac)
    (hl : ∀ u ∈ s.uses, lladdr' u.neigh = s.lladdr u.neigh) :
    Inv loc { s with lladdr := lladdr' } := by
  have hkey : ∀ u ∈ s.uses, (loc u.neigh).key (lladdr' u.neigh) = s.key loc u.neigh := by
    intro u hu
    rw [hl u hu]
    rfl
  refine ⟨h.mirror, fun u hu => ?_, ?_⟩
  · obtain ⟨x, hx, hid⟩ := h.uses u hu
    rw [← hkey u hu] at hx
    exact ⟨x, hx, hid⟩
  · have hmap : s.uses.map (fun u => (loc u.neigh).key (lladdr' u.neigh)) =
        s.uses.map fun u => s.key loc u.neigh := List.map_congr_left hkey
    simp only [key, hmap]
    exact h.counts

/-- One more use of the entry of its neighbour. -/
theorem Inv.use (h : Inv loc s) {t : Table EgressKey Counted} {switch : Table Nat EgressKey}
    {egress : IdPool} (route : Option Prefix) {y : Counted}
    (ht : t.lookup (s.key loc n) = some y)
    (hmirror : ∀ k x, t.lookup k = some x → switch.lookup x.id = some k)
    (hkeep : ∀ k x, s.groups.l3InterfaceMapping.lookup k = some x →
      ∃ x', t.lookup k = some x' ∧ x'.id = x.id)
    (hcounts : Counts Counted.refcnt t (s.key loc n :: s.uses.map fun u => s.key loc u.neigh)) :
    Inv loc { s with
      groups := { s.groups with l3InterfaceMapping := t, egress := egress }
      switch := switch
      uses := s.uses ++ [⟨n, route, y.id⟩] } := by
  refine ⟨hmirror, fun u hu => ?_, ?_⟩
  · rcases List.mem_append.mp hu with hu | hu
    · obtain ⟨x, hx, hid⟩ := h.uses u hu
      obtain ⟨x', hx', hid'⟩ := hkeep _ x hx
      exact ⟨x', hx', hid'.trans hid⟩
    · rw [List.mem_singleton] at hu
      subst hu
      exact ⟨y, ht, rfl⟩
  · rw [List.map_append, List.map_singleton]
    exact hcounts.perm (List.perm_append_singleton _ _).symm

theorem Inv.add (h : Inv loc s) (route : Option Prefix)
    (hC : s.Alone loc (.add n route lladdr send)) :
    Inv loc (step loc s (.add n route lladdr send)) := by
  obtain ⟨hown, hfree⟩ := hC
  -- The neighbour has the address from here on; the uses that there are do not see this.
  have h1 : Inv loc { s with lladdr := Function.update s.lladdr n lladdr } :=
    h.congr _ fun u hu => lladdr_update_of_use hown hu
  have hk : key loc { s with lladdr := Function.update s.lladdr n lladdr } n =
      (loc n).key lladdr := by
    simp only [key, Function.update_self]
  have hp : ((loc n).key lladdr).portId ≠ 0 := (loc n).portId_ne
  simp only [step, L3Groups.addL3Egress, L3Groups.addOp, if_neg hp]
  generalize (loc n).key lladdr = k at hk hfree
  cases hl : s.groups.l3InterfaceMapping.lookup k with
  | some x =>
    simp only [Option.map_none, Option.getD_none]
    refine Inv.use (n := n) h1 route (y := { x with refcnt := x.refcnt + 1 }) ?_ ?_ ?_ ?_
    · rw [hk, Table.lookup_insert_ite, if_pos rfl]
    · intro k' x' hx'
      rw [Table.lookup_insert_ite] at hx'
      split_ifs at hx' with hkk
      · cases hx'
        rw [hkk]
        exact h.mirror k x hl
      · exact h.mirror k' x' hx'
    · intro k' x' hx'
      by_cases hkk : k' = k
      · subst hkk
        rw [hl] at hx'
        cases hx'
        exact ⟨{ x with refcnt := x.refcnt + 1 }, by simp, rfl⟩
      · exact ⟨x', by rw [Table.lookup_insert_ite, if_neg hkk]; exact hx', rfl⟩
    · rw [hk]
      exact h1.counts.take hl rfl
  | none =>
    have hkmem : k ∉ s.groups.l3InterfaceMapping := Table.not_mem_iff_lookup.mpr hl
    by_cases hsend : send < 0
    · -- Nothing was sent and nothing points to the id.
      simp only [IdPool.create, hsend, if_true, Option.map_some, Option.getD_some,
        EgressOp.apply]
      exact ⟨h1.mirror, h1.uses, h1.counts⟩
    · have hid := hfree hkmem (not_lt.mp hsend)
      simp only [IdPool.create, hsend, if_false, Option.map_some, Option.getD_some,
        EgressOp.apply] at hid ⊢
      generalize s.groups.egress.take (2 ^ 32) = taken at hid ⊢
      refine Inv.use (n := n) h1 route (y := { id := taken.1 }) ?_ ?_ ?_ ?_
      · rw [hk, Table.lookup_insert_ite, if_pos rfl]
      · intro k' x' hx'
        rw [Table.lookup_emplace, Table.not_mem_iff_lookup.mp hid]
        rw [Table.lookup_insert_ite] at hx'
        split_ifs at hx' with hkk
        · cases hx'
          rw [if_pos rfl, hkk]
          rfl
        · have hx'' := h.mirror k' x' hx'
          rw [if_neg, hx'']
          intro he
          rw [he, Table.not_mem_iff_lookup.mp hid] at hx''
          cases hx''
      · intro k' x' hx'
        refine ⟨x', ?_, rfl⟩
        rw [Table.lookup_insert_ite, if_neg]
        · exact hx'
        · rintro rfl
          rw [hl] at hx'
          cases hx'
      · rw [hk]
        exact h1.counts.create hl rfl

theorem Inv.del (h : Inv loc s) {u : EgressUse} (hu : u ∈ s.uses) :
    Inv loc (step loc s (.del u send)) := by
  have hp : (s.key loc u.neigh).portId ≠ 0 := (loc u.neigh).portId_ne
  have hcounts : Counts Counted.refcnt s.groups.l3InterfaceMapping
      (s.key loc u.neigh :: (s.uses.erase u).map fun u => s.key loc u.neigh) :=
    h.counts.perm ((List.perm_cons_erase hu).map _)
  obtain ⟨x, hx, -⟩ := h.uses u hu
  -- The uses that are left have their entries as long as these are counted.
  have huses : ∀ t : Table EgressKey Counted,
      Counts Counted.refcnt t ((s.uses.erase u).map fun u => s.key loc u.neigh) →
      (∀ k y, t.lookup k = some y → ∃ y', s.groups.l3InterfaceMapping.lookup k = some y' ∧
        y'.id = y.id) →
      ∀ u' ∈ s.uses.erase u, ∃ y, t.lookup (s.key loc u'.neigh) = some y ∧ y.id = u'.id := by
    intro t ht hback u' hu'
    obtain ⟨y, hy, -⟩ := ht.lookup_some (List.mem_map.mpr ⟨u', hu', rfl⟩)
    obtain ⟨y', hy', hid⟩ := hback _ y hy
    obtain ⟨z, hz, hzid⟩ := h.uses u' (List.mem_of_mem_erase hu')
    rw [hz] at hy'
    cases hy'
    exact ⟨y, hy, hid.symm.trans hzid⟩
  simp only [step, L3Groups.delL3Egress, L3Groups.delOp, if_neg hp, hx]
  generalize s.key loc u.neigh = k at hx hcounts
  by_cases hz : x.refcnt - 1 = 0
  · have ht := hcounts.remove hx (by omega)
    simp only [hz, if_true, Option.map_some, Option.getD_some, EgressOp.apply,
      IdPool.l3EgressRemove]
    have hback : ∀ k' y, (s.groups.l3InterfaceMapping.erase k).lookup k' = some y →
        k' ≠ k ∧ s.groups.l3InterfaceMapping.lookup k' = some y := by
      intro k' y hy
      rw [Table.lookup_erase_ite] at hy
      split_ifs at hy with hkk
      exact ⟨hkk, hy⟩
    refine ⟨fun k' y hy => ?_, huses _ ht fun k' y hy => ⟨y, (hback k' y hy).2, rfl⟩, ht⟩
    obtain ⟨hkk, hy'⟩ := hback k' y hy
    split_ifs
    · exact h.mirror k' y hy'
    · rw [Table.lookup_erase_ite, if_neg fun he => hkk (h.key_eq hx hy' he)]
      exact h.mirror k' y hy'
  · have ht := hcounts.drop (v := { x with refcnt := x.refcnt - 1 }) hx rfl hz
    simp only [hz, if_false, Option.map_none, Option.getD_none]
    have hback : ∀ k' y, (s.groups.l3InterfaceMapping.insert k
        { x with refcnt := x.refcnt - 1 }).lookup k' = some y →
        ∃ y', s.groups.l3InterfaceMapping.lookup k' = some y' ∧ y'.id = y.id := by
      intro k' y hy
      rw [Table.lookup_insert_ite] at hy
      split_ifs at hy with hkk
      · cases hy
        exact ⟨x, hkk ▸ hx, rfl⟩
      · exact ⟨y, hy, rfl⟩
    refine ⟨fun k' y hy => ?_, huses _ ht hback, ht⟩
    obtain ⟨y', hy', hid⟩ := hback k' y hy
    rw [← hid]
    exact h.mirror k' y' hy'

/-! ## A change of an address -/

variable (loc send) in
/-- `update_l3_neigh` in the terms of the keys. -/
theorem update_groups (linkFound : Bool) (hne : s.lladdr n ≠ lladdr) :
    (step loc s (.update n lladdr linkFound send)).groups =
      match s.groups.l3InterfaceMapping.lookup (s.key loc n) with
      | none => s.groups
      | some x =>
        if linkFound = true ∧ 0 ≤ send ∧ (loc n).key lladdr ∉ s.groups.l3InterfaceMapping then
          { s.groups with
            l3InterfaceMapping := Table.emplace
              (s.groups.l3InterfaceMapping.erase (s.key loc n)) ((loc n).key lladdr) x }
        else s.groups := by
  have hold : s.key loc n = ⟨(loc n).portId, (loc n).vid, (loc n).srcMac, s.lladdr n⟩ := rfl
  have hnew : (loc n).key lladdr = ⟨(loc n).portId, (loc n).vid, (loc n).srcMac, lladdr⟩ := rfl
  rw [hold, hnew]
  simp only [step, L3Groups.updateL3NeighLl, hne, if_false]
  generalize (⟨_, _, _, s.lladdr n⟩ : EgressKey) = l3IfOld
  generalize (⟨_, _, _, lladdr⟩ : EgressKey) = l3IfNew
  cases linkFound with
  | false => cases s.groups.l3InterfaceMapping.lookup l3IfOld <;> simp
  | true =>
    cases s.groups.l3InterfaceMapping.lookup l3IfOld with
    | none => simp
    | some x =>
      by_cases hsend : send < 0
      · simp [hsend, not_le.mpr hsend]
      · by_cases hmem : l3IfNew ∈ s.groups.l3InterfaceMapping
        · simp [hsend, hmem]
        · simp [hsend, hmem, not_lt.mp hsend]

variable (send) in
/-- The groups of the switch after it: that of the entry, if there is one, is rewritten. -/
theorem Inv.update_switch (h : Inv loc s) (linkFound : Bool) (hne : s.lladdr n ≠ lladdr) :
    (step loc s (.update n lladdr linkFound send)).switch =
      match s.groups.l3InterfaceMapping.lookup (s.key loc n) with
      | none => s.switch
      | some x =>
        if linkFound = true ∧ 0 ≤ send then s.switch.insert x.id ((loc n).key lladdr)
        else s.switch := by
  have hdst : ¬ (s.key loc n).dstMac = ((loc n).key lladdr).dstMac := hne
  simp only [step, L3Groups.updateOp, hdst, if_false]
  cases linkFound with
  | false => cases s.groups.l3InterfaceMapping.lookup (s.key loc n) <;> simp
  | true =>
    cases hl : s.groups.l3InterfaceMapping.lookup (s.key loc n) with
    | none => simp
    | some x =>
      have hmem : x.id ∈ s.switch := Table.mem_iff_lookup.mpr ⟨_, h.mirror _ x hl⟩
      by_cases hsend : send < 0
      · simp [EgressOp.apply, hsend, not_le.mpr hsend]
      · simp [EgressOp.apply, hsend, hmem, not_lt.mp hsend]

theorem Inv.update (h : Inv loc s) {linkFound : Bool}
    (hC : s.Alone loc (.update n lladdr linkFound send)) :
    Inv loc (step loc s (.update n lladdr linkFound send)) := by
  by_cases hne : s.lladdr n = lladdr
  · have hs : step loc s (.update n lladdr linkFound send) = s := by
      subst hne
      simp only [step, L3Groups.updateL3NeighLl, L3Groups.updateOp, EgressUsers.key, if_true,
        EgressLoc.key, Option.map_none, Option.getD_none, Function.update_eq_self]
    rw [hs]
    exact h
  · obtain ⟨hunshared, hok⟩ := hC hne
    have hgroups := update_groups loc send linkFound hne
    have hswitch := h.update_switch send linkFound hne
    cases hl : s.groups.l3InterfaceMapping.lookup (s.key loc n) with
    | none =>
      rw [hl] at hgroups hswitch
      -- Nothing uses an entry of the neighbour.
      have hnone : ∀ u ∈ s.uses, u.neigh ≠ n := by
        rintro u hu rfl
        obtain ⟨x, hx, -⟩ := h.uses u hu
        rw [hl] at hx
        cases hx
      have h' := h.congr (Function.update s.lladdr n lladdr) fun u hu =>
        Function.update_of_ne (hnone u hu) _ _
      exact ⟨by rw [hgroups, hswitch]; exact h'.mirror, by rw [hgroups]; exact h'.uses,
        by rw [hgroups]; exact h'.counts⟩
    | some x =>
      obtain ⟨rfl, hsend, hfree⟩ := hok (Table.mem_iff_lookup.mpr ⟨x, hl⟩)
      simp only [hl, hsend, hfree, not_false_eq_true, and_self, if_true] at hgroups hswitch
      have hkey : ∀ u ∈ s.uses, (loc u.neigh).key (Function.update s.lladdr n lladdr u.neigh) =
          if s.key loc u.neigh = s.key loc n then (loc n).key lladdr else s.key loc u.neigh := by
        intro u hu
        by_cases hn : u.neigh = n
        · simp [hn]
        · rw [if_neg fun he => hn (hunshared u hu he), Function.update_of_ne hn]
          rfl
      have hlookup : ∀ k, (Table.emplace (s.groups.l3InterfaceMapping.erase (s.key loc n))
          ((loc n).key lladdr) x).lookup k =
          if k = (loc n).key lladdr then some x
          else if k = s.key loc n then none else s.groups.l3InterfaceMapping.lookup k := by
        intro k
        rw [Table.lookup_emplace, Table.lookup_erase_ite, Table.lookup_erase_ite,
          Table.not_mem_iff_lookup.mp hfree, ite_self]
        rfl
      refine ⟨?_, ?_, ?_⟩
      · rw [hgroups, hswitch]
        intro k y hy
        rw [hlookup] at hy
        rw [Table.lookup_insert_ite]
        split_ifs at hy with hk hk'
        · cases hy
          rw [if_pos rfl, hk]
        · rw [if_neg fun he => hk' (h.key_eq hl hy he)]
          exact h.mirror k y hy
      · rw [hgroups]
        intro u hu
        obtain ⟨y, hy, hid⟩ := h.uses u hu
        refine ⟨y, ?_, hid⟩
        change (Table.emplace _ _ x).lookup
          ((loc u.neigh).key (Function.update s.lladdr n lladdr u.neigh)) = some y
        rw [hkey u hu, hlookup]
        by_cases he : s.key loc u.neigh = s.key loc n
        · rw [if_pos he, if_pos rfl, ← hl, ← he, hy]
        · rw [if_neg he, if_neg he, if_neg, hy]
          intro he'
          exact hfree (he' ▸ Table.mem_iff_lookup.mpr ⟨y, hy⟩)
      · have hcounts := h.counts.rekey hl hfree
        have hmap : (step loc s (.update n lladdr true send)).uses.map
            (fun u => (step loc s (.update n lladdr true send)).key loc u.neigh) =
            (s.uses.map fun u => s.key loc u.neigh).map fun k =>
              if k = s.key loc n then (loc n).key lladdr else k := by
          rw [List.map_map]
          exact List.map_congr_left hkey
        rw [hgroups, hmap]
        exact hcounts

/-- A change of the address of a neighbour in use leaves everything served exactly if the switch takes
it and no other neighbour uses the group. Whether the new address has an entry makes no difference
to that. -/
theorem Inv.served_update_iff (h : Inv loc s) {linkFound : Bool}
    (huse : ∃ u ∈ s.uses, u.neigh = n) (hne : s.lladdr n ≠ lladdr) :
    (step loc s (.update n lladdr linkFound send)).Served ↔
      linkFound = true ∧ 0 ≤ send ∧ s.Unshared loc n := by
  obtain ⟨u, hu, rfl⟩ := huse
  obtain ⟨x, hx, hid⟩ := h.uses u hu
  have hswitch := h.update_switch send linkFound hne
  rw [hx] at hswitch
  constructor
  · intro hs
    by_cases hok : linkFound = true ∧ 0 ≤ send
    · refine ⟨hok.1, hok.2, fun v hv hkv => ?_⟩
      by_contra hn
      -- The other neighbour still has the old address.
      obtain ⟨y, hy, hidy⟩ := h.uses v hv
      have hxy : y = x := Option.some.inj (hy.symm.trans (hkv ▸ hx))
      obtain ⟨k, hk, hd⟩ := hs v hv
      obtain ⟨rfl, hsend⟩ := hok
      simp only [hsend, and_self, if_true] at hswitch
      rw [hswitch, ← hidy, hxy, Table.lookup_insert_ite, if_pos rfl] at hk
      have hold : s.lladdr v.neigh = s.lladdr u.neigh := congrArg EgressKey.dstMac hkv
      refine hne (hold.symm.trans ?_)
      rw [← Option.some.inj hk] at hd
      have hsame : (step loc s (.update u.neigh lladdr true send)).lladdr v.neigh =
          s.lladdr v.neigh := Function.update_of_ne hn _ _
      exact (hd.trans hsame).symm
    · obtain ⟨k, hk, hd⟩ := hs u hu
      simp only [hok, if_false] at hswitch
      rw [hswitch, ← hid, h.mirror _ x hx] at hk
      rw [← Option.some.inj hk] at hd
      refine absurd ?_ hne
      exact hd.trans (Function.update_self _ _ _)
  · rintro ⟨hlink, hsend, hunshared⟩ v hv
    obtain ⟨y, hy, hidy⟩ := h.uses v hv
    simp only [hlink, hsend, and_self, if_true] at hswitch
    rw [hlink, hswitch, Table.lookup_insert_ite]
    by_cases hxy : y.id = x.id
    · have hn := hunshared v hv (h.key_eq hx hy hxy)
      refine ⟨_, if_pos (hidy ▸ hxy), ?_⟩
      rw [hn]
      exact (Function.update_self u.neigh lladdr s.lladdr).symm
    · have hn : v.neigh ≠ u.neigh := by
        intro he
        rw [he, hx] at hy
        exact hxy (congrArg Counted.id (Option.some.inj hy).symm)
      refine ⟨s.key loc v.neigh, ?_, ?_⟩
      · rw [if_neg (hidy ▸ hxy), ← hidy]
        exact h.mirror _ y hy
      · exact (Function.update_of_ne hn lladdr s.lladdr).symm

theorem Inv.step (h : Inv loc s) (e : Ev) (hC : s.Alone loc e) : Inv loc (step loc s e) := by
  cases e with
  | add n route lladdr send => exact h.add route hC
  | del u send => exact h.del hC
  | update n lladdr linkFound send => exact h.update hC

theorem inv_init : Inv loc {} where
  mirror k x hx := by simp at hx
  uses u hu := by simp at hu
  counts := .empty

end Steps

/-- **Who is served.** In a run whose steps meet the conditions, every host entry and every next hop of
a route points to a group with the current address of its neighbour, in every state reached. A change
of the address of a neighbour in use, from there, leaves it so exactly if its link is found, the switch
takes the update and no other neighbour uses the group. -/
theorem served_run {es : List Ev} (hC : Along (step loc) (Alone loc) {} es) :
    (∀ i, (run (step loc) {} (es.take i)).Served) ∧
    ∀ s, s = run (step loc) {} es →
      ∀ n lladdr linkFound send, (∃ u ∈ s.uses, u.neigh = n) → s.lladdr n ≠ lladdr →
        ((step loc s (.update n lladdr linkFound send)).Served ↔
          linkFound = true ∧ 0 ≤ send ∧ s.Unshared loc n) := by
  have hinv : ∀ {es}, Along (step loc) (Alone loc) {} es → Inv loc (run (step loc) {} es) :=
    fun hC => run_inv inv_init (fun _ e h hc => h.step e hc) hC
  refine ⟨fun i => (hinv (hC.take i)).served, ?_⟩
  rintro s rfl n lladdr linkFound send huse hne
  exact (hinv hC).served_update_iff huse hne

/-- Port 1 in VLAN 10, with MAC 1. -/
def onPortOne : Int × Addr → EgressLoc := fun _ => ⟨1, 10, 1, by decide⟩

/-- A neighbour with a route over it changes its address, beside another one. -/
def twoNeighs : List Ev :=
  [.add (1, .inet 1) none 2 0, .add (1, .inet 1) (some ⟨.inet 0x0a000000, 8⟩) 2 0,
    .add (1, .inet 2) none 3 0, .update (1, .inet 1) 4 true 0]

theorem twoNeighs_alone : Along (step onPortOne) (Alone onPortOne) {} twoNeighs := by
  simp only [twoNeighs, Along, Alone, Unshared, and_true]
  refine ⟨⟨?_, ?_⟩, ⟨?_, ?_⟩, ⟨?_, ?_⟩, ?_⟩ <;> decide

theorem served_run_twoNeighs : (run (step onPortOne) {} (twoNeighs.take 4)).Served :=
  (served_run onPortOne twoNeighs_alone).1 4

/-- Two neighbours with the same address. -/
def sharedGroup : List Ev := [.add (1, .inet 1) none 2 0, .add (1, .inet 2) none 2 0]

/-- When the address changes for one of them, the group of both is rewritten. -/
theorem sharedGroup_rewritten :
    Along (step onPortOne) (Alone onPortOne) {} sharedGroup ∧
      ¬ (step onPortOne (run (step onPortOne) {} sharedGroup)
        (.update (1, .inet 1) 3 true 0)).Served := by
  refine ⟨?_, fun h => ?_⟩
  · simp only [sharedGroup, Along, Alone, and_true]
    refine ⟨⟨?_, ?_⟩, ?_, ?_⟩ <;> decide
  obtain ⟨k, hk, hd⟩ := h ⟨(1, .inet 2), none, 1⟩ (by decide)
  have hkey : some k = some ⟨1, 10, 1, 3⟩ := hk.symm.trans (by decide)
  rw [Option.some.inj hkey] at hd
  revert hd
  decide

end EgressUsers

end Basebox
