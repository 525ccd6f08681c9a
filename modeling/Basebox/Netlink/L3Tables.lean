import Basebox.Netlink.L3RouteRefs
import Mathlib.Data.Multiset.OrderedMonoid
import Mathlib.Algebra.Order.Sub.Basic

/-!
# What the tables of `nl_l3` and `nl_vlan` count

`l3_interface_mapping` counts the references of egress groups and `port_vlan` those of VLANs on
ports. `add_l3_neigh_egress` takes one of each, and `del_l3_neigh_egress` gives back what it looks up.

* `L3.refs`: all references that the two tables count.
* `takenVlan`, `givenVlan`, `releasedAt`: what is looked up. `refs_delL3NeighEgress_of_given`: what is
  looked up is given back, as far as the tables have it.
* `Grows`: the tables of a later state have the entries of an earlier one, so what could be taken
  there can be taken here. `takes_iff`: a reference is taken if an egress group counts one more.
-/

namespace Basebox

/-- A reference: of an egress group, or of a VLAN on a port. -/
inductive L3Ref where
  | egress (k : EgressKey)
  | vlan (k : Nat × Nat)
  deriving DecidableEq

/-- The reference with another key of its egress group. -/
def L3Ref.mapKey (f : EgressKey → EgressKey) : L3Ref → L3Ref
  | .egress k => .egress (f k)
  | .vlan k => .vlan k

namespace L3

/-! ## References -/

/-- The reference count of an egress group, or 0. -/
def egressRefs (g : L3Groups NhStub) (k : EgressKey) : Int :=
  ((g.l3InterfaceMapping.lookup k).map Counted.refcnt).getD 0

/-- The reference count of a VLAN on a port, or 0. -/
def vlanRefs (s : L3) (k : Nat × Nat) : Nat := (s.portVlan.lookup k).getD 0

/-- The references that the tables count. -/
def refs (s : L3) : Multiset L3Ref :=
  ((s.groups.l3InterfaceMapping.occurrences fun k => (egressRefs s.groups k).toNat).map .egress ++
    (s.portVlan.occurrences s.vlanRefs).map .vlan : List L3Ref)

theorem count_refs_egress (s : L3) (k : EgressKey) :
    s.refs.count (.egress k) = (egressRefs s.groups k).toNat := by
  have hinj : Function.Injective L3Ref.egress := fun _ _ h => L3Ref.egress.inj h
  have hvlan : L3Ref.egress k ∉ (s.portVlan.occurrences s.vlanRefs).map .vlan := by simp
  rw [refs, Multiset.coe_count, List.count_append, List.count_map_of_injective _ _ hinj,
    List.count_eq_zero.mpr hvlan, Table.count_occurrences, Nat.add_zero]
  split
  · rfl
  · next hk => simp [egressRefs, Table.not_mem_iff_lookup.mp hk]

theorem count_refs_vlan (s : L3) (k : Nat × Nat) : s.refs.count (.vlan k) = s.vlanRefs k := by
  have hinj : Function.Injective L3Ref.vlan := fun _ _ h => L3Ref.vlan.inj h
  have hegress : L3Ref.vlan k ∉ (s.groups.l3InterfaceMapping.occurrences
      fun k => (egressRefs s.groups k).toNat).map .egress := by simp
  rw [refs, Multiset.coe_count, List.count_append, List.count_map_of_injective _ _ hinj,
    List.count_eq_zero.mpr hegress, Table.count_occurrences, Nat.zero_add]
  split
  · rfl
  · next hk => simp [vlanRefs, Table.not_mem_iff_lookup.mp hk]

/-! ## What is looked up -/

section Keys

variable (env : L3Env) (sw : L3Switch)

/-- There is a port for the neighbour: it has a link-layer address and, on a bridge interface, an
FDB entry. -/
def findsPort (n : Int × Addr) : Nud → Bool
  | .valid dMac =>
    (env.link n.1).any fun link => !link.isBridge || (env.searchFdb link.vid dMac).isSome
  | _ => false

/-- `add_l3_neigh_egress` takes a reference of an egress group. -/
def takes (s : L3) (n : Int × Addr) (nud : Nud) : Bool :=
  findsPort env n nud && decide (0 ≤ (s.addL3NeighEgress env sw n nud).1)

/-- The reference that `add_vlan` takes. -/
def takenVlan (s : L3) (link : Option L3Link) (vid : Nat) : Option (Nat × Nat) :=
  link.bind fun link =>
    if isVidValid vid ∧ link.portId ≠ 0 ∧ ((link.portId, vid) ∈ s.portVlan ∨
        link.isBridge = false ∧ 0 ≤ sw.enableVlan (link.portId, vid)) then
      some (link.portId, vid)
    else none

/-- The reference that `remove_vlan` gives back. -/
def givenVlan (link : Option L3Link) (vid : Nat) : Option (Nat × Nat) :=
  link.bind fun link => if isVidValid vid ∧ link.portId ≠ 0 then some (link.portId, vid) else none

/-- The egress group of an interface. -/
def egressKeyAt (link : L3Link) (ifindex : Int) (dMac : Mac) : EgressKey where
  portId := getPortId env ifindex
  vid := link.vid
  srcMac := link.addr
  dstMac := dMac

/-- The interface that `del_l3_neigh_egress` ends with, and the link for the VLAN. -/
def releasedAt (s : L3) (link : L3Link) (n : Int × Addr) (dMac : Mac) :
    Option (Int × Option L3Link) :=
  if link.isBridge then
    match env.searchFdb link.vid dMac with
    | some ifindex => some (ifindex, some link)
    | none =>
      match s.egressPort env link.vid link.addr dMac with
      | none | some 0 => none
      | some portId => some (env.ifindexByPortId portId, env.link (env.ifindexByPortId portId))
  else some (n.1, some link)

/-- The references that `del_l3_neigh_egress` looks up on a port: `none` where it does not get to one,
or only through the egress groups, since the FDB of the bridge does not have the address. -/
def givenRefs (n : Int × Addr) (dMac : Mac) : Option (Multiset L3Ref) :=
  (env.link n.1).bind fun link =>
    (egressIfindex env link n dMac).bind fun ifindex =>
      if getPortId env ifindex = 0 then none
      else some (.egress (egressKeyAt env link ifindex dMac) ::ₘ
        ((givenVlan (some link) link.vid).map L3Ref.vlan).toList)

end Keys

section Counts

variable {s s' : L3}

theorem egressRefs_addL3Egress (g : L3Groups NhStub) (k : EgressKey) (send : Int)
    (j : EgressKey) : egressRefs (g.addL3Egress k send).2.2 j =
      egressRefs g j + if 0 ≤ (g.addL3Egress k send).1 ∧ j = k then 1 else 0 := by
  unfold L3Groups.addL3Egress
  by_cases hport : k.portId = 0
  · simp [hport, EINVAL]
  · simp only [hport, if_false]
    cases hl : g.l3InterfaceMapping.lookup k with
    | none =>
      dsimp only
      by_cases hrv : (g.egress.create send).1 < 0
      · simp [hrv, not_le.mpr hrv, egressRefs]
      · by_cases hj : j = k
        · subst hj
          simp [hrv, egressRefs, hl]
        · simp [hrv, egressRefs, hj, AList.lookup_insert_ne hj]
    | some c =>
      by_cases hj : j = k
      · subst hj
        simp [egressRefs, hl]
      · simp [egressRefs, hj, AList.lookup_insert_ne hj]

theorem egressRefs_delL3Egress (g : L3Groups NhStub) (k : EgressKey) (send : Int)
    (j : EgressKey) : egressRefs (g.delL3Egress k send).2 j =
      egressRefs g j - if k.portId ≠ 0 ∧ j = k ∧ j ∈ g.l3InterfaceMapping then 1 else 0 := by
  unfold L3Groups.delL3Egress
  by_cases hport : k.portId = 0
  · simp [hport]
  · simp only [hport, if_false]
    cases hl : g.l3InterfaceMapping.lookup k with
    | none =>
      have hmem := Table.not_mem_iff_lookup.mpr hl
      by_cases hj : j = k
      · subst hj
        simp [hmem]
      · simp [hj]
    | some c =>
      have hmem := Table.mem_iff_lookup.mpr ⟨c, hl⟩
      dsimp only
      by_cases hj : j = k
      · subst hj
        split
        · simp [egressRefs, hl, hmem, hport]
          omega
        · simp [egressRefs, hl, hmem, hport]
      · split
        · simp [egressRefs, hj, AList.lookup_erase_ne hj]
        · simp [egressRefs, hj, AList.lookup_insert_ne hj]

theorem vlanRefs_addVlan (sw : L3Switch) (s : L3) (link : Option L3Link) (vid : Nat)
    (j : Nat × Nat) : (s.addVlan sw link vid).2.vlanRefs j =
      s.vlanRefs j + if s.takenVlan sw link vid = some j then 1 else 0 := by
  unfold addVlan takenVlan
  by_cases hvid : isVidValid vid = true
  · cases link with
    | none => simp [hvid]
    | some link =>
      by_cases hport : link.portId = 0
      · simp [hvid, hport]
      · simp only [hvid, hport, Bool.not_true, Bool.false_eq_true, if_false, Option.bind_some,
          true_and, ne_eq, not_false_eq_true]
        cases hl : s.portVlan.lookup (link.portId, vid) with
        | some c =>
          have hmem := Table.mem_iff_lookup.mpr ⟨c, hl⟩
          by_cases hj : j = (link.portId, vid)
          · subst hj
            simp [vlanRefs, hmem, hl]
          · simp [vlanRefs, hmem, AList.lookup_insert_ne hj, Ne.symm hj]
        | none =>
          have hmem := Table.not_mem_iff_lookup.mpr hl
          dsimp only
          by_cases hb : link.isBridge = true
          · simp [hb, hmem]
          · simp only [hb, hmem, false_or, Bool.false_eq_true, if_false, true_and]
            by_cases hrv : sw.enableVlan (link.portId, vid) < 0
            · simp [hrv, not_le.mpr hrv]
            · simp only [hrv, if_false, not_lt.mp hrv, if_true, Option.some.injEq]
              by_cases hj : j = (link.portId, vid)
              · subst hj
                simp [vlanRefs, hl]
              · simp [vlanRefs, AList.lookup_insert_ne hj, Ne.symm hj]
  · simp [hvid]

theorem vlanRefs_removeVlan (s : L3) (link : Option L3Link) (vid : Nat) (j : Nat × Nat) :
    (s.removeVlan link vid).vlanRefs j =
      s.vlanRefs j - if givenVlan link vid = some j then 1 else 0 := by
  unfold removeVlan givenVlan
  by_cases hvid : isVidValid vid = true
  · cases link with
    | none => simp [hvid]
    | some link =>
      by_cases hport : link.portId = 0
      · simp [hvid, hport]
      · simp only [hvid, hport, Bool.not_true, Bool.false_eq_true, if_false, Option.bind_some,
          true_and, ne_eq, not_false_eq_true, if_true, Option.some.injEq]
        cases hl : s.portVlan.lookup (link.portId, vid) with
        | none =>
          by_cases hj : j = (link.portId, vid)
          · subst hj
            simp [vlanRefs, hl]
          · simp [Ne.symm hj]
        | some c =>
          dsimp only
          by_cases hj : j = (link.portId, vid)
          · subst hj
            split
            · simp [vlanRefs, hl]
            · simp [vlanRefs, hl]
              omega
          · split
            · simp [vlanRefs, AList.lookup_insert_ne hj, Ne.symm hj]
            · simp [vlanRefs, AList.lookup_erase_ne hj, Ne.symm hj]
  · simp [hvid]

/-- The form of `del_l3_neigh_egress`: an egress group, then a VLAN. -/
theorem delL3NeighEgress_eq (env : L3Env) (s : L3) (n : Int × Addr) (dMac : Mac) {link : L3Link}
    (hlink : env.link n.1 = some link) : s.delL3NeighEgress env n dMac =
      match s.releasedAt env link n dMac with
      | none => s
      | some (ifindex, vlanLink) =>
        (s.delL3Egress env ifindex link.vid link.addr dMac).removeVlan vlanLink link.vid := by
  unfold L3.delL3NeighEgress releasedAt
  simp only [hlink]
  split
  · cases env.searchFdb link.vid dMac with
    | some ifindex => rfl
    | none =>
      dsimp only
      rcases s.egressPort env link.vid link.addr dMac with _ | _ | portId <;> rfl
  · rfl

/-- What is looked up on a port is given back, as far as the tables have it. -/
theorem refs_delL3NeighEgress_of_given {env : L3Env} {n : Int × Addr} {dMac : Mac}
    {l : Multiset L3Ref} (h : givenRefs env n dMac = some l) (s : L3) :
    (s.delL3NeighEgress env n dMac).refs = s.refs - l := by
  obtain ⟨link, hlink, h⟩ := Option.bind_eq_some_iff.mp h
  obtain ⟨ifindex, hi, h⟩ := Option.bind_eq_some_iff.mp h
  split at h
  · cases h
  · next hport =>
    obtain rfl := Option.some.inj h
    have hat : s.releasedAt env link n dMac = some (ifindex, some link) := by
      unfold egressIfindex at hi
      unfold releasedAt
      split at hi
      · next hb => rw [if_pos hb, hi]
      · next hb =>
        rw [if_neg hb, Option.some.inj hi]
    rw [delL3NeighEgress_eq env s n dMac hlink, hat]
    ext (k | k)
    · obtain ⟨pv, hpv⟩ := removeVlan_frame
        (s.delL3Egress env ifindex link.vid link.addr dMac) (some link) link.vid
      have hegress := egressRefs_delL3Egress s.groups (egressKeyAt env link ifindex dMac) 0 k
      have hnot : L3Ref.egress k ∉ ((givenVlan (some link) link.vid).map L3Ref.vlan).toList := by
        simp
      rw [Multiset.count_sub, count_refs_egress, count_refs_egress, Multiset.count_cons,
        Multiset.coe_count, List.count_eq_zero.mpr hnot]
      dsimp only
      rw [hpv]
      change (egressRefs (s.groups.delL3Egress (egressKeyAt env link ifindex dMac) 0).2 k).toNat = _
      rw [hegress]
      have hp : (egressKeyAt env link ifindex dMac).portId ≠ 0 := hport
      by_cases hk : k = egressKeyAt env link ifindex dMac
      · by_cases hm : k ∈ s.groups.l3InterfaceMapping
        · simp only [hk, hp, if_true, ne_eq, not_false_eq_true, true_and]
          rw [if_pos (hk ▸ hm)]
          omega
        · have hz : egressRefs s.groups k = 0 := by
            simp [egressRefs, Table.not_mem_iff_lookup.mp hm]
          simp [hm, hz]
      · simp [hk]
    · have hvlan := vlanRefs_removeVlan (s.delL3Egress env ifindex link.vid link.addr dMac)
        (some link) link.vid k
      have hne : L3Ref.vlan k ≠ .egress (egressKeyAt env link ifindex dMac) := by simp
      rw [Multiset.count_sub, count_refs_vlan, count_refs_vlan, Multiset.count_cons_of_ne hne,
        Multiset.coe_count]
      refine hvlan.trans (congrArg (s.vlanRefs k - ·) ?_)
      cases givenVlan (some link) link.vid with
      | none => rfl
      | some v =>
        by_cases hv : v = k
        · simp [hv]
        · simp [hv]

/-- There is an egress group among them. -/
theorem egress_mem_given {env : L3Env} {n : Int × Addr} {dMac : Mac} {l : Multiset L3Ref}
    (h : givenRefs env n dMac = some l) : ∃ k, L3Ref.egress k ∈ l := by
  obtain ⟨link, hlink, h⟩ := Option.bind_eq_some_iff.mp h
  obtain ⟨ifindex, hi, h⟩ := Option.bind_eq_some_iff.mp h
  split at h
  · cases h
  · obtain rfl := Option.some.inj h
    exact ⟨_, Multiset.mem_cons_self _ _⟩

end Counts

/-! ## What the tables allow -/

section Tables

variable {env : L3Env} {sw : L3Switch} {s s' : L3}

/-- Entries for VLANs and egress groups were added only. -/
structure Grows (s s' : L3) : Prop where
  vlan : ∀ k ∈ s.portVlan, k ∈ s'.portVlan
  egress : ∀ k ∈ s.groups.l3InterfaceMapping, k ∈ s'.groups.l3InterfaceMapping

theorem Grows.trans {s'' : L3} (h : Grows s s') (h' : Grows s' s'') : Grows s s'' :=
  ⟨fun k hk => h'.vlan k (h.vlan k hk), fun k hk => h'.egress k (h.egress k hk)⟩

/-- `add_vlan` changes `port_vlan` only, and only adds to it. -/
theorem addVlan_spec (sw : L3Switch) (s : L3) (link : Option L3Link) (vid : Nat) :
    ∃ pv, (s.addVlan sw link vid).2 = { s with portVlan := pv } ∧ ∀ k ∈ s.portVlan, k ∈ pv := by
  unfold addVlan
  split
  · exact ⟨_, rfl, fun _ h => h⟩
  · cases link with
    | none => exact ⟨_, rfl, fun _ h => h⟩
    | some link =>
      dsimp only
      split
      · exact ⟨_, rfl, fun _ h => h⟩
      · cases s.portVlan.lookup (link.portId, vid) with
        | some c => exact ⟨_, rfl, fun k hk => AList.mem_insert _ |>.mpr (.inr hk)⟩
        | none =>
          dsimp only
          split
          · exact ⟨_, rfl, fun _ h => h⟩
          · split
            · exact ⟨_, rfl, fun _ h => h⟩
            · exact ⟨_, rfl, fun k hk => AList.mem_insert _ |>.mpr (.inr hk)⟩

theorem addVlan_rv (s : L3) (link : L3Link) {vid : Nat} (hvid : isVidValid vid = true)
    (hport : link.portId ≠ 0) :
    (s.addVlan sw (some link) vid).1 =
      if (link.portId, vid) ∈ s.portVlan ∨ link.isBridge = true then 0
      else sw.enableVlan (link.portId, vid) := by
  unfold addVlan
  simp only [hvid, Bool.not_true, Bool.false_eq_true, if_false, hport]
  cases hl : s.portVlan.lookup (link.portId, vid) with
  | some c =>
    have hmem := Table.mem_iff_lookup.mpr ⟨c, hl⟩
    simp [hmem]
  | none =>
    have hmem := Table.not_mem_iff_lookup.mpr hl
    cases hb : link.isBridge with
    | true => simp
    | false =>
      simp only [Bool.false_eq_true, if_false, hmem, or_self]
      split <;> rfl

/-- What could be added before can be added later. -/
theorem addVlan_mono (h : Grows s s') (link : Option L3Link) (vid : Nat)
    (hrv : 0 ≤ (s.addVlan sw link vid).1) : 0 ≤ (s'.addVlan sw link vid).1 := by
  by_cases hvid : isVidValid vid = true
  · cases link with
    | none => simp [addVlan, hvid, EINVAL] at hrv
    | some link =>
      by_cases hport : link.portId = 0
      · simp [addVlan, hvid, hport, EINVAL] at hrv
      · rw [addVlan_rv _ _ hvid hport] at hrv ⊢
        split
        · exact le_refl 0
        · next hn =>
          rw [if_neg fun hor => hn (hor.imp_left (h.vlan _))] at hrv
          exact hrv
  · simp [addVlan, hvid, EINVAL] at hrv

theorem addL3Egress_rv (s : L3) (ifindex : Int) (vid : Nat) (sMac dMac : Mac)
    (hport : getPortId env ifindex ≠ 0) :
    (s.addL3Egress env sw ifindex vid sMac dMac).1 =
      if (⟨getPortId env ifindex, vid, sMac, dMac⟩ : EgressKey) ∈ s.groups.l3InterfaceMapping then 0
      else sw.egressCreate ⟨getPortId env ifindex, vid, sMac, dMac⟩ := by
  unfold addL3Egress L3Groups.addL3Egress
  simp only [hport, if_false]
  cases hl : s.groups.l3InterfaceMapping.lookup ⟨getPortId env ifindex, vid, sMac, dMac⟩ with
  | some c => simp [Table.mem_iff_lookup.mpr ⟨c, hl⟩]
  | none =>
    have hmem := Table.not_mem_iff_lookup.mpr hl
    rw [if_neg hmem]
    dsimp only
    split <;> rfl

theorem addL3Egress_mono (h : Grows s s') (ifindex : Int) (vid : Nat) (sMac dMac : Mac)
    (hrv : 0 ≤ (s.addL3Egress env sw ifindex vid sMac dMac).1) :
    0 ≤ (s'.addL3Egress env sw ifindex vid sMac dMac).1 := by
  by_cases hport : getPortId env ifindex = 0
  · simp [addL3Egress, L3Groups.addL3Egress, hport, EINVAL] at hrv
  · rw [addL3Egress_rv _ _ _ _ _ hport] at hrv ⊢
    split
    · exact le_refl 0
    · next hn =>
      rw [if_neg fun hm => hn (h.egress _ hm)] at hrv
      exact hrv

/-- `add_l3_egress` changes the egress groups only, and only adds to them. -/
theorem addL3Egress_spec (env : L3Env) (sw : L3Switch) (s : L3) (ifindex : Int) (vid : Nat)
    (sMac dMac : Mac) :
    ∃ g, (s.addL3Egress env sw ifindex vid sMac dMac).2 = { s with groups := g } ∧
      ∀ k ∈ s.groups.l3InterfaceMapping, k ∈ g.l3InterfaceMapping := by
  unfold addL3Egress
  generalize (⟨getPortId env ifindex, vid, sMac, dMac⟩ : EgressKey) = k
  refine ⟨(s.groups.addL3Egress k (sw.egressCreate k)).2.2, rfl, ?_⟩
  unfold L3Groups.addL3Egress
  split
  · exact fun _ h => h
  · cases s.groups.l3InterfaceMapping.lookup k with
    | none =>
      dsimp only
      split
      · exact fun _ h => h
      · exact fun _ h => (AList.mem_insert _).mpr (.inr h)
    | some c => exact fun _ h => (AList.mem_insert _).mpr (.inr h)

/-- The end of `add_l3_neigh_egress`: the VLAN, then the egress group. -/
def addVlanEgress (env : L3Env) (sw : L3Switch) (s : L3) (link : Option L3Link) (ifindex : Int)
    (vid : Nat) (sMac dMac : Mac) : Int × L3 :=
  let (rv, s) := s.addVlan sw link vid
  if rv < 0 then (rv, s) else s.addL3Egress env sw ifindex vid sMac dMac

/-- `add_l3_neigh_egress` either gets to a port, or does nothing with a result that does not depend
on the state. -/
theorem addL3NeighEgress_cases (env : L3Env) (sw : L3Switch) (n : Int × Addr) (nud : Nud) :
    (findsPort env n nud = true ∧ ∃ link ifindex vid sMac dMac, ∀ s : L3,
      s.addL3NeighEgress env sw n nud = s.addVlanEgress env sw link ifindex vid sMac dMac) ∨
    (findsPort env n nud = false ∧ ∃ rv, ∀ s : L3, s.addL3NeighEgress env sw n nud = (rv, s)) := by
  cases nud with
  | failed => exact .inr ⟨rfl, _, fun _ => rfl⟩
  | incomplete => exact .inr ⟨rfl, _, fun _ => rfl⟩
  | valid dMac =>
    unfold addL3NeighEgress findsPort
    cases env.link n.1 with
    | none => exact .inr ⟨rfl, _, fun _ => rfl⟩
    | some link =>
      cases hb : link.isBridge with
      | false =>
        refine .inl ⟨by simp [hb], some link, n.1, link.vid, link.addr, dMac, fun s => ?_⟩
        simp [addVlanEgress, hb]
      | true =>
        cases hf : env.searchFdb link.vid dMac with
        | none =>
          refine .inr ⟨by simp [hb, hf], env.uninit, fun s => ?_⟩
          simp [hb, hf]
        | some ifindex =>
          refine .inl ⟨by simp [hf], env.link ifindex, ifindex, link.vid, link.addr, dMac,
            fun s => ?_⟩
          simp [addVlanEgress, hb, hf]

/-- `add_l3_neigh_egress` changes the two tables only, and only adds to them. -/
theorem addL3NeighEgress_spec (env : L3Env) (sw : L3Switch) (s : L3) (n : Int × Addr) (nud : Nud) :
    ∃ g pv, (s.addL3NeighEgress env sw n nud).2 = { s with groups := g, portVlan := pv } ∧
      Grows s { s with groups := g, portVlan := pv } := by
  rcases addL3NeighEgress_cases env sw n nud with
    ⟨-, link, ifindex, vid, sMac, dMac, he⟩ | ⟨-, rv, he⟩
  · rw [he]
    obtain ⟨pv, hpv, hv⟩ := addVlan_spec sw s link vid
    unfold addVlanEgress
    dsimp only
    split
    · exact ⟨s.groups, pv, hpv, hv, fun _ h => h⟩
    · obtain ⟨g, hg, hk⟩ := addL3Egress_spec env sw (s.addVlan sw link vid).2 ifindex vid sMac dMac
      rw [hpv] at hk
      exact ⟨g, pv, by rw [hg, hpv], hv, hk⟩
  · rw [he]
    exact ⟨_, _, rfl, fun _ h => h, fun _ h => h⟩

theorem addL3NeighEgress_mono (h : Grows s s') (n : Int × Addr) (nud : Nud)
    (hrv : 0 ≤ (s.addL3NeighEgress env sw n nud).1) :
    0 ≤ (s'.addL3NeighEgress env sw n nud).1 := by
  rcases addL3NeighEgress_cases env sw n nud with
    ⟨-, link, ifindex, vid, sMac, dMac, he⟩ | ⟨-, rv, he⟩
  · rw [he] at hrv ⊢
    unfold addVlanEgress at hrv ⊢
    dsimp only at hrv ⊢
    by_cases hv : (s.addVlan sw link vid).1 < 0
    · rw [if_pos hv] at hrv
      exact absurd hv (not_lt.mpr hrv)
    · rw [if_neg hv] at hrv
      have hv' := addVlan_mono h link vid (not_lt.mp hv)
      rw [if_neg (not_lt.mpr hv')]
      obtain ⟨pv, hpv, -⟩ := addVlan_spec sw s link vid
      obtain ⟨pv', hpv', -⟩ := addVlan_spec sw s' link vid
      -- The VLAN leaves the egress groups as they are.
      rw [hpv] at hrv
      rw [hpv']
      have hrv' : 0 ≤ (s.addL3Egress env sw ifindex vid sMac dMac).1 := hrv
      have hmono : 0 ≤ (s'.addL3Egress env sw ifindex vid sMac dMac).1 :=
        addL3Egress_mono h ifindex vid sMac dMac hrv'
      exact hmono
  · rw [he] at hrv ⊢
    exact hrv

theorem takes_mono (h : Grows s s') {n : Int × Addr} {nud : Nud}
    (ht : s.takes env sw n nud = true) : s'.takes env sw n nud = true := by
  unfold takes at *
  rw [Bool.and_eq_true, decide_eq_true_eq] at *
  exact ⟨ht.1, addL3NeighEgress_mono h n nud ht.2⟩

/-- Where there is no port, the result is the same in all states. -/
theorem findsPort_mono (s s' : L3) {n : Int × Addr} {nud : Nud}
    (h : 0 ≤ (s.addL3NeighEgress env sw n nud).1 → findsPort env n nud = true)
    (hrv : 0 ≤ (s'.addL3NeighEgress env sw n nud).1) : findsPort env n nud = true := by
  rcases addL3NeighEgress_cases env sw n nud with ⟨hf, -⟩ | ⟨-, rv, he⟩
  · exact hf
  · rw [he] at h hrv
    exact h hrv

theorem not_egressRefs_succ (g : L3Groups NhStub) : ¬ ∃ k, egressRefs g k = egressRefs g k + 1 := by
  rintro ⟨k, hk⟩
  omega

theorem addL3Egress_takes (g : L3Groups NhStub) (k : EgressKey) (send : Int) :
    0 ≤ (g.addL3Egress k send).1 ↔
      ∃ k', egressRefs (g.addL3Egress k send).2.2 k' = egressRefs g k' + 1 := by
  unfold L3Groups.addL3Egress
  by_cases hport : k.portId = 0
  · rw [if_pos hport]
    exact iff_of_false (by simp [EINVAL]) (not_egressRefs_succ g)
  · rw [if_neg hport]
    cases hl : g.l3InterfaceMapping.lookup k with
    | none =>
      dsimp only
      by_cases hrv : (g.egress.create send).1 < 0
      · rw [if_pos hrv]
        exact iff_of_false (not_le.mpr hrv) (not_egressRefs_succ g)
      · rw [if_neg hrv]
        exact iff_of_true (not_lt.mp hrv) ⟨k, by simp [egressRefs, hl]⟩
    | some c => exact iff_of_true (le_refl 0) ⟨k, by simp [egressRefs, hl]⟩

/-- `takes` is what the table says: an egress group has one more reference. -/
theorem takes_iff (s : L3) (n : Int × Addr) (nud : Nud) :
    s.takes env sw n nud = true ↔
      ∃ k, egressRefs (s.addL3NeighEgress env sw n nud).2.groups k = egressRefs s.groups k + 1 := by
  unfold takes
  rcases addL3NeighEgress_cases env sw n nud with
    ⟨hf, link, ifindex, vid, sMac, dMac, he⟩ | ⟨hf, rv, he⟩
  · obtain ⟨pv, hpv, -⟩ := addVlan_spec sw s link vid
    rw [he, hf, Bool.true_and, decide_eq_true_eq]
    unfold addVlanEgress
    dsimp only
    by_cases hv : (s.addVlan sw link vid).1 < 0
    · rw [if_pos hv, hpv]
      exact iff_of_false (not_le.mpr hv) (not_egressRefs_succ s.groups)
    · rw [if_neg hv, hpv]
      exact addL3Egress_takes s.groups ⟨getPortId env ifindex, vid, sMac, dMac⟩ _
  · rw [he, hf, Bool.false_and]
    exact iff_of_false Bool.false_ne_true (not_egressRefs_succ s.groups)

end Tables

/-! ## Callbacks that find an id -/

section Answers

variable {env : L3Env} {sw : L3Switch} {s s' : L3} {n : Int × Addr} {nud : Nud} {p : L3Params}

/-- If `nh_reachable_notification` finds a route, its next hops can be looked up, and one of them has
an id: the neighbour itself, unless it failed, or another one. -/
def Answers (env : L3Env) (s : L3) (nud : Nud) (p : L3Params) : Prop :=
  ∀ route, getRouteByNhParams s.installed p = some route →
    ∃ rv nhs, getNeighboursOfRoute env route = some (rv, nhs) ∧
      (∀ rnh ∈ nhs, (searchedEgress env rnh).isSome = true) ∧
      (p.nh ∈ nhs ∧ nud ≠ .failed ∨
        ∃ rnh ∈ nhs, rnh ≠ p.nh ∧ hasL3InterfaceId env s rnh = some true)

theorem hasL3InterfaceId_mono (h : Grows s s') {rnh : NhStub}
    (hid : hasL3InterfaceId env s rnh = some true) : hasL3InterfaceId env s' rnh = some true := by
  obtain ⟨k, hk, hmem⟩ := Option.map_eq_some_iff.mp hid
  rw [hasL3InterfaceId, hk, Option.map_some, Option.some_inj]
  cases k with
  | none => exact hmem
  | some k => simpa using h.egress k (by simpa using hmem)

theorem Answers.mono (h : Answers env s nud p) (hg : Grows s s') (hi : s'.installed = s.installed) :
    Answers env s' nud p := by
  intro route hroute
  rw [hi] at hroute
  obtain ⟨rv, nhs, hnhs, hlook, hid⟩ := h route hroute
  refine ⟨rv, nhs, hnhs, hlook, hid.imp_right ?_⟩
  rintro ⟨rnh, hmem, hne, hrnh⟩
  exact ⟨rnh, hmem, hne, hasL3InterfaceId_mono hg hrnh⟩

/-- A step of the loop of `nh_reachable_notification`. -/
theorem collectInterface_returns (sw : L3Switch) (n : Int × Addr) (nud : Nud) (p : L3Params)
    {rnh : NhStub} (hlook : (searchedEgress env rnh).isSome = true) (y : L3 × Bool) :
    ∃ y', collectInterface env sw n nud p y rnh = some y' ∧ Grows y.1 y'.1 ∧
      y'.1.installed = y.1.installed ∧ (y.2 = true → y'.2 = true) ∧
      (rnh = p.nh → (y.1.addL3NeighEgress env sw n nud).1 = 0 → y'.2 = true) ∧
      (rnh ≠ p.nh → hasL3InterfaceId env y.1 rnh = some true → y'.2 = true) := by
  unfold collectInterface
  split
  · next heq =>
    obtain ⟨g, pv, hgp, hgrows⟩ := addL3NeighEgress_spec env sw y.1 n nud
    generalize y.1.addL3NeighEgress env sw n nud = t at hgp ⊢
    obtain ⟨rv, s⟩ := t
    dsimp only at hgp
    subst hgp
    refine ⟨_, rfl, hgrows, rfl, fun h => by simp [h], fun _ h => ?_, fun h => absurd heq h⟩
    have hrv : rv = 0 := h
    simp [hrv]
  · next hne =>
    obtain ⟨k, hk⟩ := Option.isSome_iff_exists.mp hlook
    rw [hasL3InterfaceId, hk]
    refine ⟨_, rfl, ⟨fun _ h => h, fun _ h => h⟩, rfl, fun h => by simp [h],
      fun h => absurd h hne, fun _ h => ?_⟩
    rw [Option.map_some, Option.some_inj] at h
    simp [h]

/-- The loop of `nh_reachable_notification` returns, with an id if it gets to a next hop that has
one. -/
theorem collectInterfaces_returns (sw : L3Switch) (n : Int × Addr) (nud : Nud) (p : L3Params)
    {nhs : NhStub.Set} (hlook : ∀ rnh ∈ nhs, (searchedEgress env rnh).isSome = true) (y : L3 × Bool) :
    ∃ y', nhs.foldlM (collectInterface env sw n nud p) y = some y' ∧ Grows y.1 y'.1 ∧
      y'.1.installed = y.1.installed ∧ (y.2 = true → y'.2 = true) ∧
      (p.nh ∈ nhs → (∀ t : L3, (t.addL3NeighEgress env sw n nud).1 = 0) → y'.2 = true) ∧
      ∀ rnh ∈ nhs, rnh ≠ p.nh → hasL3InterfaceId env y.1 rnh = some true → y'.2 = true := by
  induction nhs generalizing y with
  | nil =>
    exact ⟨y, rfl, ⟨fun _ h => h, fun _ h => h⟩, rfl, fun h => h,
      fun h => absurd h List.not_mem_nil, fun _ h => absurd h List.not_mem_nil⟩
  | cons nh nhs ih =>
    obtain ⟨hnh, hnhs⟩ := List.forall_mem_cons.mp hlook
    obtain ⟨z, hz, hg, hi, hkeep, hown, hother⟩ :=
      collectInterface_returns sw n nud p hnh y
    obtain ⟨y', hy', hg', hi', hkeep', hown', hother'⟩ := ih hnhs z
    refine ⟨y', ?_, hg.trans hg', hi'.trans hi, fun h => hkeep' (hkeep h), fun hmem hrv => ?_,
      fun rnh hmem hne hid => ?_⟩
    · rw [List.foldlM_cons, hz]
      exact hy'
    · rcases List.mem_cons.mp hmem with heq | hmem
      · exact hkeep' (hown heq.symm (hrv y.1))
      · exact hown' hmem hrv
    · rcases List.mem_cons.mp hmem with rfl | hmem
      · exact hkeep' (hother hne hid)
      · exact hother' rnh hmem hne (hasL3InterfaceId_mono hg hid)

/-- `nh_reachable_notification` returns where an id is found, and adds to the tables only. -/
theorem Answers.nhReachableNotification (h : Answers env s nud p)
    (hrv : nud ≠ .failed → ∀ t : L3, (t.addL3NeighEgress env sw n nud).1 = 0) :
    ∃ s', s.nhReachableNotification env sw n nud p = some s' ∧ Grows s s' ∧
      s'.installed = s.installed := by
  unfold L3.nhReachableNotification
  cases hroute : getRouteByNhParams s.installed p with
  | none => exact ⟨s, rfl, ⟨fun _ h => h, fun _ h => h⟩, rfl⟩
  | some route =>
    obtain ⟨rv, nhs, hnhs, hlook, hid⟩ := h route hroute
    obtain ⟨⟨t, found⟩, ht, hg, hi, -, hown, hother⟩ :=
      collectInterfaces_returns sw n nud p hlook (s, false)
    have hfound : found = true := by
      rcases hid with ⟨hmem, hne⟩ | ⟨rnh, hmem, hne, hrnh⟩
      · exact hown hmem (hrv hne)
      · exact hother rnh hmem hne hrnh
    subst hfound
    simp only [hnhs, ht, Option.bind_eq_bind, Option.bind_some, if_true]
    exact ⟨_, rfl, ⟨hg.vlan, hg.egress⟩, hi⟩

/-- The loop over `nh_callbacks` returns where all of them find an id. -/
theorem notifyReachable_returns
    (h : ∀ p ∈ s.nhCallbacks, p.nh.neigh = n → Answers env s nud p)
    (hrv : nud ≠ .failed → ∀ t : L3, (t.addL3NeighEgress env sw n nud).1 = 0) :
    ∃ s', s.notifyReachable env sw n nud = some s' := by
  have hloop : ∀ (l : List L3Params) (t : L3), (∀ p ∈ l, Answers env t nud p) →
      ∃ t', l.foldlM (fun s p => s.nhReachableNotification env sw n nud p) t = some t' := by
    intro l
    induction l with
    | nil => exact fun t _ => ⟨t, rfl⟩
    | cons p l ih =>
      intro t hl
      obtain ⟨hp, hl⟩ := List.forall_mem_cons.mp hl
      obtain ⟨t₁, ht₁, hg, hi⟩ := hp.nhReachableNotification hrv
      obtain ⟨t', ht'⟩ := ih t₁ fun q hq => (hl q hq).mono hg hi
      refine ⟨t', ?_⟩
      rw [List.foldlM_cons, ht₁]
      exact ht'
  obtain ⟨t, ht⟩ := hloop (s.nhCallbacks.filter fun p => p.nh.neigh == n) s fun p hp => by
    rw [List.mem_filter, beq_iff_eq] at hp
    exact h p hp.1 hp.2
  unfold L3.notifyReachable
  rw [ht]
  exact ⟨_, rfl⟩

/-- The loop over `nh_unreach_callbacks` returns where the next hops of the routes can be looked
up. -/
theorem notifyUnreachable_returns
    (h : ∀ route ∈ s.installed, route.isUnicast = true → LooksUp env route) (dMac : Mac) :
    ∃ s', s.notifyUnreachable env n dMac = some s' := by
  obtain ⟨t, ht, -⟩ := exists_foldlM_option
    (I := fun s : L3 => ∀ route ∈ s.installed, route.isUnicast = true → LooksUp env route)
    (f := fun s p => s.nhUnreachableNotification env n dMac p)
    (fun t p ht => by
      obtain ⟨t', ht'⟩ := nhUnreachableNotification_returns (fun route hroute => by
        obtain ⟨hmem, huni⟩ := mem_of_getRouteByNhParams hroute
        exact ht route hmem huni) n dMac
      refine ⟨t', ht', ?_⟩
      obtain ⟨g, pv, hgp⟩ := delL3NeighEgress_frame env t n dMac
      rcases nhUnreachableNotification_cases ht' with ⟨-, rfl⟩ | ⟨route, -, -, rfl⟩
      · rw [hgp]
        exact ht
      · rw [hgp]
        exact ht)
    (s.nhUnreachCallbacks.filter fun p => p.nh.neigh == n) h
  unfold L3.notifyUnreachable
  rw [ht]
  exact ⟨_, rfl⟩

end Answers

end L3

end Basebox
