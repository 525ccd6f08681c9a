import Basebox.Netlink.L3Hosts

/-!
# The ids of the egress groups and ECMP groups (`src/netlink/nl_l3.cc`)

The functions that look up or create a group write its id to a variable of their caller. On some
paths they return without writing, and `add_l3_neigh_egress` returns 0 on two of these.

* `egressId`: what `add_l3_neigh_egress` writes, `none` where the variable stays as it was.
* `getL3InterfaceId`: `get_l3_interface_id` for a next hop.
* `getL3EcmpGroup`: what `get_l3_ecmp_group` writes.
* `Joins`, `LeavesId`, `Resolved`: when an id is written, when 0 is returned without one, and when a
  next hop has an id.
-/

namespace Basebox

/-- No route to host. -/
def EHOSTUNREACH : Int := 113

namespace L3

/-- `add_vlan` for the port of the link succeeds. -/
def HasVlan (sw : L3Switch) (s : L3) (link : Option L3Link) (vid : Nat) : Prop :=
  isVidValid vid = true ∧ ∃ l, link = some l ∧ l.portId ≠ 0 ∧
    ((l.portId, vid) ∈ s.portVlan ∨ l.isBridge = true ∨ 0 ≤ sw.enableVlan (l.portId, vid))

/-- `get_l3_ecmp_group`: what is written. -/
def getL3EcmpGroup (s : L3) (nhs : NhStub.Set) : Option Nat :=
  (s.groups.nhGrpToL3EcmpMapping.lookup nhs.toFinset).map (·.id)

namespace Seen

variable (o : Seen)

/-- The link whose port gets the VLAN. -/
def vlanLink (link : L3Link) (ifindex : Int) : Option L3Link :=
  if link.isBridge then o.env.link ifindex else some link

/-- The id that `add_l3_neigh_egress` writes. -/
def egressId (s : L3) (n : Int × Addr) (obj : NeighObj) : Option Nat :=
  match obj.nud, o.env.link n.1 with
  | some (.valid dMac), some link =>
    (egressIfindex o.env link n dMac).bind fun ifindex =>
      let (rv, s) := s.addVlan o.sw (o.vlanLink link ifindex) link.vid
      if rv < 0 then none
      else
        let k := egressKeyAt o.env link ifindex dMac
        (s.groups.addL3Egress k (o.sw.egressCreate k)).2.1
  | _, _ => none

/-- `get_l3_interface_id(nh, l3_interface_id)`: the result, and the id if one is written. `none` is
for a link that is not there, and for an FDB without an entry, which is asserted. -/
def getL3InterfaceId (s : L3) (nh : NhStub) : Option (Int × Option Nat) :=
  match (o.neigh nh.neigh).bind (·.lladdr) with
  | none => some (-EHOSTUNREACH, none)
  | some dMac =>
    (o.env.link nh.ifindex).bind fun link =>
      (egressIfindex o.env link nh.neigh dMac).map fun ifindex =>
        match o.env.link ifindex with
        | none => (-EINVAL, none)
        | some port =>
          let vid := if link.vid = 0 then port.vid else link.vid
          match s.groups.l3InterfaceMapping.lookup
              { egressKeyAt o.env link ifindex dMac with vid := vid } with
          | none => (-ENODATA, none)
          | some x => (0, some x.id)

/-- The neighbour can have a group: it has an address that can be used, which the FDB of a bridge
has, the VLAN is or can be on the port, and the group is there or can be created. -/
def Joins (s : L3) (n : Int × Addr) (obj : NeighObj) : Prop :=
  ∃ dMac link ifindex, obj.nud = some (.valid dMac) ∧ o.env.link n.1 = some link ∧
    egressIfindex o.env link n dMac = some ifindex ∧
    s.HasVlan o.sw (o.vlanLink link ifindex) link.vid ∧ getPortId o.env ifindex ≠ 0 ∧
    (egressKeyAt o.env link ifindex dMac ∈ s.groups.l3InterfaceMapping ∨
      o.sw.egressCreate (egressKeyAt o.env link ifindex dMac) = 0)

/-- The FDB of a bridge does not have the neighbour. -/
def MissesFdb (vid : Nat) (obj : NeighObj) : Prop :=
  match obj.lladdr with
  | some dMac => o.env.searchFdb vid dMac = none
  | none => o.fdbOfVlan vid = none

/-- `add_l3_neigh_egress` returns 0 without writing an id: for an incomplete neighbour, and on a
bridge whose FDB does not have it, if the result, which is not written either, happens to be 0. -/
def LeavesId (n : Int × Addr) (obj : NeighObj) : Prop :=
  obj.state = .incomplete ∨
    obj.state ≠ .failed ∧ o.env.uninit = 0 ∧
      ∃ link, o.env.link n.1 = some link ∧ link.isBridge = true ∧ o.MissesFdb link.vid obj

/-- There is an id for the next hop. -/
def Resolved (s : L3) (nh : NhStub) : Prop := ∃ id, o.getL3InterfaceId s nh = some (0, some id)

end Seen

section Lookups

/-- `hasL3InterfaceId` says when the result is 0. -/
theorem hasL3InterfaceId_eq (o : Seen) (s : L3) (nh : NhStub) :
    hasL3InterfaceId o.routeEnv s nh = (o.getL3InterfaceId s nh).map fun y => y.1 == 0 := by
  have hneigh : o.routeEnv.neigh nh.neigh = (o.neigh nh.neigh).map NeighObj.resolution := rfl
  unfold hasL3InterfaceId searchedEgress Seen.getL3InterfaceId
  rw [hneigh]
  cases hobj : o.neigh nh.neigh with
  | none => rfl
  | some obj =>
    rw [Option.map_some, Option.bind_some, NeighObj.resolution]
    cases obj.lladdr with
    | none => rfl
    | some dMac =>
      simp only [Seen.link_routeEnv, Seen.searchFdb_routeEnv, Seen.getPortId_routeEnv]
      cases o.env.link nh.ifindex with
      | none => rfl
      | some link =>
        have hi : (if link.isBridge then o.env.searchFdb link.vid dMac else some nh.ifindex) =
          egressIfindex o.env link nh.neigh dMac := rfl
        rw [Option.bind_some, Option.bind_some, hi]
        cases egressIfindex o.env link nh.neigh dMac with
        | none => rfl
        | some ifindex =>
          rw [Option.map_some, Option.map_some, Option.map_some, Option.map_some]
          cases o.env.link ifindex with
          | none => rfl
          | some port =>
            simp only [Option.map_some, Option.any_some, Option.some.injEq, egressKeyAt]
            generalize (EgressKey.mk _ _ _ _) = k
            cases hl : s.groups.l3InterfaceMapping.lookup k with
            | none => simp [Table.not_mem_iff_lookup.mpr hl, ENODATA]
            | some x => simp [Table.mem_iff_lookup.mpr ⟨x, hl⟩]

end Lookups

section Results

variable {o : Seen} {s s' : L3} {n : Int × Addr} {obj : NeighObj} {rv : Int} {id : Nat}

theorem addVlan_nonneg_iff {sw : L3Switch} {link : Option L3Link} {vid : Nat} :
    0 ≤ (s.addVlan sw link vid).1 ↔ s.HasVlan sw link vid := by
  unfold addVlan HasVlan
  cases hvid : isVidValid vid with
  | false => simp [EINVAL]
  | true =>
    cases link with
    | none => simp [EINVAL]
    | some l =>
      by_cases hport : l.portId = 0
      · simp [hport, EINVAL]
      · cases hl : s.portVlan.lookup (l.portId, vid) with
        | some c =>
          have hmem := Table.mem_iff_lookup.mpr ⟨c, hl⟩
          simp [hport, hl, hmem]
        | none =>
          have hmem := Table.not_mem_iff_lookup.mpr hl
          cases hb : l.isBridge with
          | true => simp [hport, hl, hb]
          | false =>
            by_cases hrv : sw.enableVlan (l.portId, vid) < 0
            · simp [hport, hl, hmem, hb, hrv]
            · simp [hport, hl, hmem, hb, hrv, not_lt.mp hrv]

/-- What `add_l3_egress` writes is an entry, and it succeeds if the group is there or is created. -/
theorem addL3Egress_written (g : L3Groups NhStub) {k : EgressKey} (hport : k.portId ≠ 0)
    (send : Int) :
    ((g.addL3Egress k send).1 = 0 ↔ k ∈ g.l3InterfaceMapping ∨ send = 0) ∧
    ∃ id, (g.addL3Egress k send).2.1 = some id ∧ ((g.addL3Egress k send).1 = 0 →
      ∃ x, (g.addL3Egress k send).2.2.l3InterfaceMapping.lookup k = some x ∧ x.id = id) := by
  unfold L3Groups.addL3Egress
  rw [if_neg hport]
  cases hl : g.l3InterfaceMapping.lookup k with
  | some x =>
    have hmem := Table.mem_iff_lookup.mpr ⟨x, hl⟩
    simp [hmem]
  | none =>
    have hmem := Table.not_mem_iff_lookup.mpr hl
    by_cases hneg : send < 0
    · have hne : send ≠ 0 := by omega
      simp [hmem, hneg, hne, IdPool.create]
    · simp [hmem, hneg, IdPool.create]

/-- `add_vlan` and `add_l3_egress` for a port. -/
theorem addVlanEgress_written (vlanLink : Option L3Link) (link : L3Link) (ifindex : Int)
    (dMac : Mac) :
    let k := egressKeyAt o.env link ifindex dMac
    let y := s.addVlanEgress o.env o.sw vlanLink ifindex link.vid link.addr dMac
    let pv := s.addVlan o.sw vlanLink link.vid
    (y.1 = 0 ↔ s.HasVlan o.sw vlanLink link.vid ∧ getPortId o.env ifindex ≠ 0 ∧
      (k ∈ s.groups.l3InterfaceMapping ∨ o.sw.egressCreate k = 0)) ∧
    (y.1 = 0 → ¬ pv.1 < 0 ∧ ∃ id,
      (pv.2.groups.addL3Egress k (o.sw.egressCreate k)).2.1 = some id ∧
        ∃ x, y.2.groups.l3InterfaceMapping.lookup k = some x ∧ x.id = id) := by
  intro k y pv
  obtain ⟨t, ht, -⟩ := addVlan_spec o.sw s vlanLink link.vid
  have hgroups : pv.2.groups = s.groups := by
    simp only [pv, ht]
  rw [← addVlan_nonneg_iff]
  by_cases hneg : (s.addVlan o.sw vlanLink link.vid).1 < 0
  · have hy : y = s.addVlan o.sw vlanLink link.vid := if_pos hneg
    rw [hy]
    exact ⟨⟨fun h => by omega, fun h => by omega⟩, fun h => by omega⟩
  · have hy : y = pv.2.addL3Egress o.env o.sw ifindex link.vid link.addr dMac := if_neg hneg
    by_cases hport : getPortId o.env ifindex = 0
    · have hrv : y.1 ≠ 0 := by
        rw [hy]
        simp [L3.addL3Egress, L3Groups.addL3Egress, hport, EINVAL]
      exact ⟨⟨fun h => absurd h hrv, fun h => absurd hport h.2.1⟩, fun h => absurd h hrv⟩
    · obtain ⟨hiff, id, hid, hentry⟩ := addL3Egress_written pv.2.groups (k := k) hport
        (o.sw.egressCreate k)
      rw [hgroups] at hiff
      have hfst : y.1 = (pv.2.groups.addL3Egress k (o.sw.egressCreate k)).1 := by rw [hy]; rfl
      have hsnd : y.2.groups = (pv.2.groups.addL3Egress k (o.sw.egressCreate k)).2.2 := by
        rw [hy]
        rfl
      rw [hfst, hsnd]
      refine ⟨?_, fun h => ⟨hneg, id, hid, hentry h⟩⟩
      rw [hgroups, hiff]
      exact ⟨fun h => ⟨not_lt.mp hneg, hport, h⟩, fun h => h.2.2⟩

/-- A port is found: `add_vlan` and then `add_l3_egress`. -/
theorem addL3NeighEgress_port_eq {dMac : Mac} {link : L3Link} {ifindex : Int}
    (hnud : obj.nud = some (.valid dMac)) (hlink : o.env.link n.1 = some link)
    (hi : egressIfindex o.env link n dMac = some ifindex) :
    o.addL3NeighEgress s n obj = some (s.addVlanEgress o.env o.sw (o.vlanLink link ifindex) ifindex
      link.vid link.addr dMac) := by
  unfold Seen.addL3NeighEgress Seen.vlanLink
  rw [hnud]
  unfold egressIfindex at hi
  split at hi
  · next hb => simp [L3.addL3NeighEgress, addVlanEgress, hlink, hb, hi]
  · next hb =>
    cases hi
    simp [L3.addL3NeighEgress, addVlanEgress, hlink, hb]

theorem joins_iff {dMac : Mac} {link : L3Link} {ifindex : Int}
    (hnud : obj.nud = some (.valid dMac)) (hlink : o.env.link n.1 = some link)
    (hi : egressIfindex o.env link n dMac = some ifindex) :
    o.Joins s n obj ↔ s.HasVlan o.sw (o.vlanLink link ifindex) link.vid ∧
      getPortId o.env ifindex ≠ 0 ∧
      (egressKeyAt o.env link ifindex dMac ∈ s.groups.l3InterfaceMapping ∨
        o.sw.egressCreate (egressKeyAt o.env link ifindex dMac) = 0) := by
  constructor
  · rintro ⟨dMac', link', ifindex', hnud', hlink', hi', h⟩
    rw [hnud, Option.some.injEq, Nud.valid.injEq] at hnud'
    rw [hlink, Option.some.injEq] at hlink'
    subst hnud' hlink'
    rw [hi, Option.some.injEq] at hi'
    subst hi'
    exact h
  · exact fun h => ⟨dMac, link, ifindex, hnud, hlink, hi, h⟩

theorem not_leavesId_of_port {dMac : Mac} {link : L3Link} {ifindex : Int}
    (hnud : obj.nud = some (.valid dMac)) (hlink : o.env.link n.1 = some link)
    (hi : egressIfindex o.env link n dMac = some ifindex) : ¬ o.LeavesId n obj := by
  obtain ⟨hll, -, hinc⟩ := NeighObj.nud_eq_valid_iff.mp hnud
  rintro (h | ⟨-, -, link', hlink', hb, hmiss⟩)
  · exact hinc h
  · rw [hlink, Option.some.injEq] at hlink'
    subst hlink'
    unfold Seen.MissesFdb at hmiss
    rw [hll] at hmiss
    rw [egressIfindex, if_pos hb, hmiss] at hi
    cases hi

theorem lladdr_of_nud_none (hnud : obj.nud = none) :
    obj.lladdr = none ∧ obj.state ≠ .failed ∧ obj.state ≠ .incomplete := by
  obtain ⟨state, lladdr⟩ := obj
  cases state <;> cases lladdr <;> simp_all [NeighObj.nud]

/-- An address that is missing: the result is 0 only as `LeavesId` says. -/
theorem addL3NeighEgress_noLladdr (hnud : obj.nud = none)
    (h : o.addL3NeighEgress s n obj = some (rv, s')) : rv = 0 ↔ o.LeavesId n obj := by
  obtain ⟨hll, hf, hinc⟩ := lladdr_of_nud_none hnud
  unfold Seen.addL3NeighEgress at h
  unfold Seen.LeavesId
  rw [hnud] at h
  dsimp only at h
  cases hlink : o.env.link n.1 with
  | none =>
    rw [hlink] at h
    cases h
    simp [hinc, EINVAL]
  | some link =>
    rw [hlink] at h
    dsimp only at h
    split at h
    · next hb =>
      cases hfdb : o.fdbOfVlan link.vid with
      | none =>
        rw [hfdb] at h
        cases h
        simp [hf, hinc, hb, Seen.MissesFdb, hll, hfdb]
      | some ifindex =>
        rw [hfdb] at h
        dsimp only at h
        split at h
        · next hneg =>
          cases h
          refine iff_of_false (by omega) ?_
          rintro (e | ⟨-, -, link', hlink', -, hmiss⟩)
          · exact hinc e
          · cases hlink'
            unfold Seen.MissesFdb at hmiss
            rw [hll, hfdb] at hmiss
            cases hmiss
        · cases h
    · next hb =>
      split at h
      · next hneg =>
        cases h
        refine iff_of_false (by omega) ?_
        rintro (e | ⟨-, -, link', hlink', hb', -⟩)
        · exact hinc e
        · cases hlink'
          exact hb hb'
      · cases h

/-- An FDB without the neighbour: the result is that of a variable that was not written. -/
theorem addL3NeighEgress_noFdb {dMac : Mac} (hnud : obj.nud = some (.valid dMac))
    (hnone : ∀ link, o.env.link n.1 = some link → egressIfindex o.env link n dMac = none)
    (h : o.addL3NeighEgress s n obj = some (rv, s')) : rv = 0 ↔ o.LeavesId n obj := by
  obtain ⟨hll, hf, hinc⟩ := NeighObj.nud_eq_valid_iff.mp hnud
  unfold Seen.addL3NeighEgress at h
  unfold Seen.LeavesId
  rw [hnud] at h
  cases hlink : o.env.link n.1 with
  | none =>
    simp only [L3.addL3NeighEgress, hlink, Option.some.injEq, Prod.mk.injEq] at h
    rw [← h.1]
    simp [hinc, EINVAL]
  | some link =>
    have hi := hnone link hlink
    unfold egressIfindex at hi
    split at hi
    · next hb =>
      simp only [L3.addL3NeighEgress, hlink, hb, if_true, hi, Option.some.injEq,
        Prod.mk.injEq] at h
      rw [← h.1]
      simp [hf, hinc, hb, Seen.MissesFdb, hll, hi]
    · cases hi

/-- Without a port nothing is written, and the result is 0 only as `LeavesId` says. -/
theorem addL3NeighEgress_noPort
    (hnone : ∀ dMac link, obj.nud = some (.valid dMac) → o.env.link n.1 = some link →
      egressIfindex o.env link n dMac = none)
    (h : o.addL3NeighEgress s n obj = some (rv, s')) :
    (rv = 0 ↔ o.LeavesId n obj) ∧ ¬ o.Joins s n obj ∧ o.egressId s n obj = none := by
  refine ⟨?_, ?_, ?_⟩
  · cases hnud : obj.nud with
    | none => exact addL3NeighEgress_noLladdr hnud h
    | some nud =>
      cases nud with
      | failed =>
        unfold Seen.addL3NeighEgress at h
        rw [hnud] at h
        cases h
        simp [Seen.LeavesId, NeighObj.nud_eq_failed_iff.mp hnud, EINVAL]
      | incomplete =>
        unfold Seen.addL3NeighEgress at h
        rw [hnud] at h
        cases h
        simp [Seen.LeavesId, NeighObj.nud_eq_incomplete_iff.mp hnud]
      | valid dMac => exact addL3NeighEgress_noFdb hnud (fun link => hnone dMac link hnud) h
  · rintro ⟨dMac, link, ifindex, hnud, hlink, hi, -⟩
    rw [hnone dMac link hnud hlink] at hi
    cases hi
  · unfold Seen.egressId
    split
    · next dMac link hnud hlink =>
      rw [hnone dMac link hnud hlink]
      rfl
    · rfl

/-- `add_l3_neigh_egress`: it returns 0 with the id of an entry, or without writing one. -/
theorem addL3NeighEgress_written (h : o.addL3NeighEgress s n obj = some (rv, s')) :
    (rv = 0 ↔ o.Joins s n obj ∨ o.LeavesId n obj) ∧ ¬ (o.Joins s n obj ∧ o.LeavesId n obj) ∧
    (o.Joins s n obj → ∃ id, o.egressId s n obj = some id ∧
      ∃ k x, s'.groups.l3InterfaceMapping.lookup k = some x ∧ x.id = id) ∧
    (o.LeavesId n obj → o.egressId s n obj = none) := by
  by_cases hport : ∃ dMac link ifindex, obj.nud = some (.valid dMac) ∧
      o.env.link n.1 = some link ∧ egressIfindex o.env link n dMac = some ifindex
  · obtain ⟨dMac, link, ifindex, hnud, hlink, hi⟩ := hport
    have hleaves := not_leavesId_of_port hnud hlink hi
    rw [addL3NeighEgress_port_eq hnud hlink hi, Option.some.injEq] at h
    obtain ⟨hiff, hwritten⟩ := addVlanEgress_written (o := o) (s := s)
      (o.vlanLink link ifindex) link ifindex dMac
    rw [← joins_iff hnud hlink hi, h] at hiff
    simp only [h] at hwritten
    refine ⟨by simpa [hleaves] using hiff, fun h => hleaves h.2, fun hj => ?_,
      fun h => absurd h hleaves⟩
    obtain ⟨hneg, id, hid, x, hx, hxid⟩ := hwritten (hiff.mpr hj)
    refine ⟨id, ?_, _, x, hx, hxid⟩
    unfold Seen.egressId
    simp only [hnud, hlink, hi, Option.bind_some, if_neg hneg]
    exact hid
  · have hnone : ∀ dMac link, obj.nud = some (.valid dMac) → o.env.link n.1 = some link →
        egressIfindex o.env link n dMac = none := by
      intro dMac link hnud hlink
      by_contra hi
      obtain ⟨ifindex, hi⟩ := Option.ne_none_iff_exists'.mp hi
      exact hport ⟨dMac, link, ifindex, hnud, hlink, hi⟩
    obtain ⟨hiff, hj, hid⟩ := addL3NeighEgress_noPort hnone h
    exact ⟨by simpa [hj] using hiff, fun h => hj h.1, fun h => absurd h hj, fun _ => hid⟩

/-- `get_l3_interface_id`: it returns 0 exactly with an id that it wrote, that of an entry. -/
theorem getL3InterfaceId_written {nh : NhStub} {written : Option Nat}
    (h : o.getL3InterfaceId s nh = some (rv, written)) :
    (rv = 0 ↔ written.isSome) ∧ ∀ id, written = some id →
      ∃ k x, s.groups.l3InterfaceMapping.lookup k = some x ∧ x.id = id := by
  unfold Seen.getL3InterfaceId at h
  split at h
  · cases h
    simp [EHOSTUNREACH]
  · simp only [Option.bind_eq_some_iff, Option.map_eq_some_iff] at h
    obtain ⟨link, -, ifindex, -, h⟩ := h
    split at h
    · cases h
      simp [EINVAL]
    · split at h
      · cases h
        simp [ENODATA]
      · next x hx =>
        cases h
        refine ⟨by simp, fun id hid => ⟨_, x, hx, Option.some.inj hid⟩⟩

theorem resolved_iff {nh : NhStub} {written : Option Nat}
    (h : o.getL3InterfaceId s nh = some (rv, written)) : o.Resolved s nh ↔ rv = 0 := by
  have hiff := (getL3InterfaceId_written h).1
  constructor
  · rintro ⟨id, hid⟩
    rw [h, Option.some.injEq, Prod.mk.injEq] at hid
    exact hid.1
  · intro hrv
    obtain ⟨id, rfl⟩ := Option.isSome_iff_exists.mp (hiff.mp hrv)
    exact ⟨id, by rw [h, hrv]⟩

end Results

end L3

end Basebox
