import Basebox.Lib.Counts
import Basebox.Netlink.L3Neigh

/-!
# What `add_l3_neigh_egress` takes and `del_l3_neigh_egress` gives back

A neighbour takes a reference of one egress group and of one VLAN at most (`egressKey`, `vlanKey`).
`Refs` says that the tables count the references of a list of neighbours.

* `addL3NeighEgress_refs`: the list gets one more neighbour.
* `delL3NeighEgress_refs`: it gets one less.

Neighbours on a bridge interface need care: `add_l3_neigh_egress` goes to the VLAN of the port in
the FDB, but `del_l3_neigh_egress` to that of the bridge interface. As long as `port_vlan` has
neither (`SviFree`), both do nothing.
-/

namespace Basebox

/-! ## The groups -/

namespace L3Groups

variable {g : L3Groups NhStub} {k : EgressKey} {l : List EgressKey}

theorem addL3Egress_counts (h : Counts Counted.refcnt g.l3InterfaceMapping l) (hk : k.portId ≠ 0)
    {send : Int} (hsend : 0 ≤ send) :
    0 ≤ (g.addL3Egress k send).1 ∧
      Counts Counted.refcnt (g.addL3Egress k send).2.2.l3InterfaceMapping (k :: l) ∧
      (g.addL3Egress k send).2.2.nhGrpToL3EcmpMapping = g.nhGrpToL3EcmpMapping := by
  unfold addL3Egress
  rw [if_neg hk]
  cases hl : g.l3InterfaceMapping.lookup k with
  | none =>
    have hneg : ¬ send < 0 := by omega
    simp only [IdPool.create, hneg, if_false]
    exact ⟨hsend, h.create hl rfl, trivial⟩
  | some x => exact ⟨le_refl 0, h.take hl rfl, rfl⟩

theorem delL3Egress_counts (h : Counts Counted.refcnt g.l3InterfaceMapping (k :: l))
    (hk : k.portId ≠ 0) (send : Int) :
    Counts Counted.refcnt (g.delL3Egress k send).2.l3InterfaceMapping l ∧
      (g.delL3Egress k send).2.nhGrpToL3EcmpMapping = g.nhGrpToL3EcmpMapping := by
  unfold delL3Egress
  obtain ⟨x, hl, -⟩ := h.lookup_some List.mem_cons_self
  rw [if_neg hk, hl]
  simp only
  by_cases hz : x.refcnt - 1 = 0
  · rw [if_pos hz]
    exact ⟨h.remove hl (by omega), rfl⟩
  · rw [if_neg hz]
    exact ⟨h.drop hl rfl hz, rfl⟩

theorem delL3Egress_of_notMem (h : Counts Counted.refcnt g.l3InterfaceMapping l)
    (hk : k.portId = 0 ∨ k ∉ l) (send : Int) : (g.delL3Egress k send).2 = g := by
  unfold delL3Egress
  by_cases hp : k.portId = 0
  · rw [if_pos hp]
  · rw [if_neg hp, h.lookup_none (hk.resolve_left hp)]

variable {gs : List (Finset NhStub)}

theorem addL3EcmpGroup_counts (h : Counts Counted.refcnt g.nhGrpToL3EcmpMapping gs)
    (nhs : Finset NhStub) (send : Int) :
    Counts Counted.refcnt (g.addL3EcmpGroup nhs send).2.2.nhGrpToL3EcmpMapping (nhs :: gs) ∧
      (g.addL3EcmpGroup nhs send).2.2.l3InterfaceMapping = g.l3InterfaceMapping := by
  unfold addL3EcmpGroup
  cases hl : g.nhGrpToL3EcmpMapping.lookup nhs with
  | none => exact ⟨h.create hl rfl, rfl⟩
  | some x => exact ⟨h.take hl rfl, rfl⟩

theorem delL3EcmpGroup_counts {nhs : Finset NhStub} (h : Counts Counted.refcnt g.nhGrpToL3EcmpMapping (nhs :: gs))
    (send : Int) :
    Counts Counted.refcnt (g.delL3EcmpGroup nhs send).2.nhGrpToL3EcmpMapping gs ∧
      (g.delL3EcmpGroup nhs send).2.l3InterfaceMapping = g.l3InterfaceMapping := by
  unfold delL3EcmpGroup
  obtain ⟨x, hl, -⟩ := h.lookup_some List.mem_cons_self
  have hx := h.one_le hl
  rw [hl]
  simp only
  by_cases hz : x.refcnt - 1 ≤ 0
  · rw [if_pos hz]
    exact ⟨h.remove hl (by omega), rfl⟩
  · rw [if_neg hz]
    refine ⟨h.drop hl rfl ?_, rfl⟩
    simp only
    omega

end L3Groups

/-- The switch does what it is told. -/
structure L3Switch.Ok (sw : L3Switch) : Prop where
  egressCreate : ∀ k, 0 ≤ sw.egressCreate k
  enableVlan : ∀ pv, 0 ≤ sw.enableVlan pv
  hostAdd : ∀ a, 0 ≤ sw.hostAdd a
  hostRemove : ∀ a, 0 ≤ sw.hostRemove a

namespace L3

/-! ## What a neighbour takes -/

section Neigh

variable (env : L3Env)

/-- The interface of the egress group of a neighbour: on a bridge interface, that of the port in the
FDB. -/
def egressIfindex (link : L3Link) (n : Int × Addr) (dMac : Mac) : Option Int :=
  if link.isBridge then env.searchFdb link.vid dMac else some n.1

/-- The egress group that `add_l3_neigh_egress` takes a reference of. -/
def egressKey (n : Int × Addr) : Option EgressKey :=
  match env.neigh n, env.link n.1 with
  | some (.valid dMac), some link =>
    match egressIfindex env link n dMac with
    | none => none
    | some ifindex =>
      if isVidValid link.vid ∧ getPortId env ifindex ≠ 0 then
        some { portId := getPortId env ifindex, vid := link.vid, srcMac := link.addr, dstMac := dMac }
      else none
  | _, _ => none

/-- The VLAN that `add_l3_neigh_egress` takes a reference of. On a bridge interface there is
none. -/
def vlanKey (n : Int × Addr) : Option (Nat × Nat) :=
  match env.neigh n, env.link n.1 with
  | some (.valid _), some link =>
    if link.isBridge = false ∧ isVidValid link.vid ∧ link.portId ≠ 0 then
      some (link.portId, link.vid)
    else none
  | _, _ => none

/-- The tables count the references of the neighbours in `hs`, and the references to VLANs that
others hold. -/
structure Refs (base : List (Nat × Nat)) (groups : L3Groups NhStub)
    (portVlan : Table (Nat × Nat) Nat) (hs : List (Int × Addr)) : Prop where
  egress : Counts Counted.refcnt groups.l3InterfaceMapping (hs.filterMap (egressKey env))
  vlan : Counts Nat.cast portVlan (base ++ hs.filterMap (vlanKey env))

/-- No VLAN that a neighbour on a bridge interface goes through, neither that of its link nor that of
a port in the FDB, is in `port_vlan`, or is one that another neighbour takes. -/
def SviFree (portVlan : Table (Nat × Nat) Nat) : Prop :=
  ∀ i j link port dMac, env.link i = some link → link.isBridge = true →
    (j = i ∨ env.searchFdb link.vid dMac = some j) → env.link j = some port → port.portId ≠ 0 →
    (port.portId, link.vid) ∉ portVlan ∧ ∀ n, vlanKey env n ≠ some (port.portId, link.vid)

end Neigh

variable {env : L3Env} {sw : L3Switch} {base : List (Nat × Nat)}

theorem Refs.perm {g : L3Groups NhStub} {pv : Table (Nat × Nat) Nat} {hs hs' : List (Int × Addr)}
    (h : Refs env base g pv hs) (hp : hs.Perm hs') : Refs env base g pv hs' where
  egress := h.egress.perm (hp.filterMap _)
  vlan := h.vlan.perm ((hp.filterMap _).append_left _)

theorem SviFree.insert {pv : Table (Nat × Nat) Nat} (h : SviFree env pv) {n : Int × Addr}
    {k : Nat × Nat} (hk : vlanKey env n = some k) (c : Nat) : SviFree env (pv.insert k c) := by
  intro i j link port dMac hi hb hj hport hp
  obtain ⟨hnot, hne⟩ := h i j link port dMac hi hb hj hport hp
  refine ⟨fun hmem => ?_, hne⟩
  rcases AList.mem_insert _ |>.mp hmem with heq | hmem
  · exact hne n (heq ▸ hk)
  · exact hnot hmem

theorem SviFree.erase {pv : Table (Nat × Nat) Nat} (h : SviFree env pv) (k : Nat × Nat) :
    SviFree env (pv.erase k) := by
  intro i j link port dMac hi hb hj hport hp
  obtain ⟨hnot, hne⟩ := h i j link port dMac hi hb hj hport hp
  exact ⟨fun hmem => hnot (AList.mem_erase.mp hmem).2, hne⟩

/-- `add_vlan` of a link that is no bridge interface. -/
theorem addVlan_counts (hok : sw.Ok) {s : L3} {l : List (Nat × Nat)}
    (h : Counts Nat.cast s.portVlan l) (hf : SviFree env s.portVlan) {link : L3Link}
    (hb : link.isBridge = false) {vid : Nat} (hv : isVidValid vid = true) (hp : link.portId ≠ 0)
    {n : Int × Addr} (hk : vlanKey env n = some (link.portId, vid)) :
    ∃ rv pv, s.addVlan sw (some link) vid = (rv, { s with portVlan := pv }) ∧ 0 ≤ rv ∧
      Counts Nat.cast pv ((link.portId, vid) :: l) ∧ SviFree env pv := by
  unfold addVlan
  rw [hv, Bool.not_true, if_neg Bool.false_ne_true]
  simp only [if_neg hp]
  cases hl : s.portVlan.lookup (link.portId, vid) with
  | some c =>
    exact ⟨0, _, rfl, le_refl 0, h.take hl (by push_cast; rfl), hf.insert hk (c + 1)⟩
  | none =>
    have hrv := hok.enableVlan (link.portId, vid)
    simp only [hb, Bool.false_eq_true, if_false, if_neg (Int.not_lt.mpr hrv)]
    exact ⟨_, _, rfl, hrv, h.create hl rfl, hf.insert hk 1⟩

theorem removeVlan_counts {s : L3} {l : List (Nat × Nat)} {link : L3Link} {vid : Nat}
    (h : Counts Nat.cast s.portVlan ((link.portId, vid) :: l)) (hf : SviFree env s.portVlan)
    (hv : isVidValid vid = true) (hp : link.portId ≠ 0)
    {n : Int × Addr} (hk : vlanKey env n = some (link.portId, vid)) :
    ∃ pv, s.removeVlan (some link) vid = { s with portVlan := pv } ∧
      Counts Nat.cast pv l ∧ SviFree env pv := by
  unfold removeVlan
  obtain ⟨c, hl, -⟩ := h.lookup_some List.mem_cons_self
  have hc := h.one_le hl
  rw [hv, Bool.not_true, if_neg Bool.false_ne_true]
  simp only [if_neg hp, hl]
  by_cases hz : c - 1 > 0
  · rw [if_pos hz]
    exact ⟨_, rfl, h.drop hl (by omega) (by omega), hf.insert hk (c - 1)⟩
  · rw [if_neg hz]
    exact ⟨_, rfl, h.remove hl (by omega), hf.erase _⟩

section Egress

variable {s : L3} {hs : List (Int × Addr)} {n : Int × Addr}

theorem link_of_getPortId {i : Int} (h : getPortId env i ≠ 0) :
    ∃ link, env.link i = some link ∧ link.portId ≠ 0 := by
  unfold getPortId at h
  cases hl : env.link i with
  | none => simp [hl] at h
  | some link =>
    have hown : link.ownPortId ≠ 0 := by simpa [hl] using h
    refine ⟨link, rfl, ?_⟩
    rw [env.portId_eq hl hown]
    exact hown

/-- `add_l3_egress` takes a reference, if the interface has a port. -/
theorem addL3Egress_refs (hok : sw.Ok) {l : List EgressKey}
    (h : Counts Counted.refcnt s.groups.l3InterfaceMapping l) {i : Int}
    (hi : getPortId env i ≠ 0) (vid : Nat) (sMac dMac : Mac) :
    ∃ rv g, s.addL3Egress env sw i vid sMac dMac = (rv, { s with groups := g }) ∧ 0 ≤ rv ∧
      g.nhGrpToL3EcmpMapping = s.groups.nhGrpToL3EcmpMapping ∧
      Counts Counted.refcnt g.l3InterfaceMapping
        (⟨getPortId env i, vid, sMac, dMac⟩ :: l) := by
  obtain ⟨hrv, hc, he⟩ := L3Groups.addL3Egress_counts h
    (k := ⟨getPortId env i, vid, sMac, dMac⟩) hi (hok.egressCreate _)
  exact ⟨_, _, rfl, hrv, he, hc⟩

theorem addL3Egress_of_zero {i : Int} (hi : getPortId env i = 0) (vid : Nat) (sMac dMac : Mac) :
    s.addL3Egress env sw i vid sMac dMac = (-EINVAL, s) := by
  simp [addL3Egress, L3Groups.addL3Egress, hi]

theorem egressKey_eq {dMac : Mac} (hn : env.neigh n = some (.valid dMac)) {link : L3Link}
    (hl : env.link n.1 = some link) {i : Int} (hi : egressIfindex env link n dMac = some i) :
    egressKey env n =
      if isVidValid link.vid ∧ getPortId env i ≠ 0 then
        some ⟨getPortId env i, link.vid, link.addr, dMac⟩
      else none := by
  simp [egressKey, hn, hl, hi]

theorem vlanKey_eq {dMac : Mac} (hn : env.neigh n = some (.valid dMac)) {link : L3Link}
    (hl : env.link n.1 = some link) :
    vlanKey env n =
      if link.isBridge = false ∧ isVidValid link.vid ∧ link.portId ≠ 0 then
        some (link.portId, link.vid)
      else none := by
  simp [vlanKey, hn, hl]

/-- The egress reference, after the VLAN was dealt with. -/
theorem addL3Egress_filterMap (hok : sw.Ok)
    (h : Counts Counted.refcnt s.groups.l3InterfaceMapping (hs.filterMap (egressKey env)))
    {dMac : Mac} (hn : env.neigh n = some (.valid dMac)) {link : L3Link}
    (hl : env.link n.1 = some link) {i : Int} (hi : egressIfindex env link n dMac = some i)
    (hv : isVidValid link.vid = true) :
    ∃ rv g, s.addL3Egress env sw i link.vid link.addr dMac = (rv, { s with groups := g }) ∧
      g.nhGrpToL3EcmpMapping = s.groups.nhGrpToL3EcmpMapping ∧
      Counts Counted.refcnt g.l3InterfaceMapping ((n :: hs).filterMap (egressKey env)) ∧
      (rv < 0 ↔ egressKey env n = none) := by
  have hkey := egressKey_eq hn hl hi
  by_cases hp : getPortId env i = 0
  · rw [if_neg (fun hc => hc.2 hp)] at hkey
    refine ⟨-EINVAL, s.groups, addL3Egress_of_zero hp .., rfl, ?_, ?_⟩
    · rw [List.filterMap_cons_none hkey]
      exact h
    · simp [hkey, EINVAL]
  · rw [if_pos ⟨hv, hp⟩] at hkey
    obtain ⟨rv, g, he, hrv, hg, hc⟩ := addL3Egress_refs hok h hp link.vid link.addr dMac
    refine ⟨rv, g, he, hg, ?_, ?_⟩
    · rw [List.filterMap_cons_some hkey]
      exact hc
    · simp [hkey, Int.not_lt.mpr hrv]

/-- `add_vlan` of the port in the FDB takes no reference. -/
theorem addVlan_fdb (sw : L3Switch) (hf : SviFree env s.portVlan) {i j : Int} {link : L3Link}
    (hi : env.link i = some link) (hb : link.isBridge = true) {dMac : Mac}
    (hj : env.searchFdb link.vid dMac = some j) :
    ∃ rv, s.addVlan sw (env.link j) link.vid = (rv, s) ∧
      (rv < 0 → isVidValid link.vid = false ∨ getPortId env j = 0) ∧
      (0 ≤ rv → isVidValid link.vid = true) := by
  unfold addVlan
  by_cases hv : isVidValid link.vid = true
  · simp only [hv, Bool.not_true, Bool.false_eq_true, if_false]
    cases hport : env.link j with
    | none => exact ⟨_, rfl, fun _ => .inr (by simp [getPortId, hport]), fun _ => trivial⟩
    | some port =>
      simp only
      by_cases hp : port.portId = 0
      · refine ⟨-EINVAL, by rw [if_pos hp], fun _ => .inr ?_, fun _ => trivial⟩
        by_contra hne
        obtain ⟨port', hport', hne'⟩ := link_of_getPortId hne
        rw [hport] at hport'
        cases hport'
        exact hne' hp
      · have hnone := Table.not_mem_iff_lookup.mp (hf i j link port dMac hi hb (.inr hj) hport hp).1
        simp only [if_neg hp, hnone, env.searchFdb_isBridge hj hport, if_true]
        exact ⟨0, rfl, fun h => absurd h (by decide), fun _ => trivial⟩
  · simp only [hv, Bool.not_false, if_true]
    refine ⟨-EINVAL, rfl, fun _ => .inl trivial, fun h => ?_⟩
    exact absurd h (by decide)

/-- A neighbour that takes nothing. -/
theorem refs_cons_of_none {g : L3Groups NhStub} {pv : Table (Nat × Nat) Nat}
    (hk : egressKey env n = none) (hvk : vlanKey env n = none) :
    Refs env base g pv (n :: hs) ↔ Refs env base g pv hs := by
  have hs1 := List.filterMap_cons_none (l := hs) hk
  have hs2 := List.filterMap_cons_none (l := hs) hvk
  constructor
  · intro h
    exact ⟨hs1 ▸ h.egress, hs2 ▸ h.vlan⟩
  · intro h
    exact ⟨hs1 ▸ h.egress, hs2 ▸ h.vlan⟩

/-- A neighbour without a link-layer address takes nothing. -/
theorem keys_none_of_unresolved (hn : ∀ dMac, env.neigh n ≠ some (.valid dMac)) :
    egressKey env n = none ∧ vlanKey env n = none := by
  cases hnud : env.neigh n with
  | none => simp [egressKey, vlanKey, hnud]
  | some nud =>
    cases nud with
    | failed | incomplete => simp [egressKey, vlanKey, hnud]
    | valid dMac => exact absurd hnud (hn dMac)

theorem keys_none_of_link_none (hl : env.link n.1 = none) :
    egressKey env n = none ∧ vlanKey env n = none := by
  unfold egressKey vlanKey
  rw [hl]
  constructor <;> split <;> first | rfl | contradiction

/-- On a bridge interface, the egress group is that of the port in the FDB. -/
theorem addL3NeighEgress_bridge (hok : sw.Ok) (h : Refs env base s.groups s.portVlan hs)
    (hf : SviFree env s.portVlan) {dMac : Mac} (hn : env.neigh n = some (.valid dMac))
    {link : L3Link} (hl : env.link n.1 = some link) (hb : link.isBridge = true) {i : Int}
    (hfdb : env.searchFdb link.vid dMac = some i) :
    ∃ rv g, s.addL3NeighEgress env sw n (.valid dMac) = (rv, { s with groups := g }) ∧
      g.nhGrpToL3EcmpMapping = s.groups.nhGrpToL3EcmpMapping ∧
      Refs env base g s.portVlan (n :: hs) ∧ (rv < 0 ↔ egressKey env n = none) := by
  have hvkey := vlanKey_eq hn hl
  rw [if_neg (by simp [hb])] at hvkey
  have hi : egressIfindex env link n dMac = some i := by simp [egressIfindex, hb, hfdb]
  obtain ⟨rv, hadd, hneg, hpos⟩ := addVlan_fdb sw hf hl hb hfdb
  simp only [addL3NeighEgress, hl, hb, if_true, hfdb, hadd]
  by_cases hrv : rv < 0
  · have hk : egressKey env n = none := by
      rw [egressKey_eq hn hl hi, if_neg]
      rintro ⟨hv, hp⟩
      rcases hneg hrv with hv' | hp'
      · rw [hv] at hv'
        cases hv'
      · exact hp hp'
    rw [if_pos hrv]
    exact ⟨rv, s.groups, rfl, rfl, (refs_cons_of_none hk hvkey).mpr h, by simp [hk, hrv]⟩
  · rw [if_neg hrv]
    obtain ⟨rv', g, he, hg, hc, hiff⟩ :=
      addL3Egress_filterMap hok h.egress hn hl hi (hpos (by omega))
    refine ⟨rv', g, he, hg, ⟨hc, ?_⟩, hiff⟩
    rw [List.filterMap_cons_none hvkey]
    exact h.vlan

/-- A link that is no bridge interface and has no port, or no valid VLAN, takes nothing. -/
theorem keys_none_of_link {dMac : Mac} (hn : env.neigh n = some (.valid dMac)) {link : L3Link}
    (hl : env.link n.1 = some link) (hb : link.isBridge = false)
    (hvp : ¬ (isVidValid link.vid = true ∧ link.portId ≠ 0)) :
    egressKey env n = none ∧ vlanKey env n = none := by
  have hi : egressIfindex env link n dMac = some n.1 := by simp [egressIfindex, hb]
  rw [egressKey_eq hn hl hi, if_neg, vlanKey_eq hn hl, if_neg (fun hc => hvp hc.2)]
  · exact ⟨rfl, rfl⟩
  · rintro ⟨hv, hp⟩
    obtain ⟨link', hl', hp'⟩ := link_of_getPortId hp
    rw [hl] at hl'
    cases hl'
    exact hvp ⟨hv, hp'⟩

theorem addVlan_of_not {link : L3Link} {vid : Nat}
    (hvp : ¬ (isVidValid vid = true ∧ link.portId ≠ 0)) :
    s.addVlan sw (some link) vid = (-EINVAL, s) := by
  unfold addVlan
  by_cases hv : isVidValid vid = true
  · simp [hv, not_not.mp fun hp => hvp ⟨hv, hp⟩]
  · simp [hv]

/-- On any other interface, the egress group and the VLAN are those of the link. -/
theorem addL3NeighEgress_port (hok : sw.Ok) (h : Refs env base s.groups s.portVlan hs)
    (hf : SviFree env s.portVlan) {dMac : Mac} (hn : env.neigh n = some (.valid dMac))
    {link : L3Link} (hl : env.link n.1 = some link) (hb : link.isBridge = false) :
    ∃ rv g pv, s.addL3NeighEgress env sw n (.valid dMac) =
        (rv, { s with groups := g, portVlan := pv }) ∧
      g.nhGrpToL3EcmpMapping = s.groups.nhGrpToL3EcmpMapping ∧
      Refs env base g pv (n :: hs) ∧ SviFree env pv ∧ (rv < 0 ↔ egressKey env n = none) := by
  simp only [addL3NeighEgress, hl, hb, Bool.false_eq_true, if_false]
  by_cases hvp : isVidValid link.vid = true ∧ link.portId ≠ 0
  · have hvkey := vlanKey_eq hn hl
    rw [if_pos ⟨hb, hvp⟩] at hvkey
    have hi : egressIfindex env link n dMac = some n.1 := by simp [egressIfindex, hb]
    obtain ⟨rv, pv, hadd, hrv, hcv, hfv⟩ := addVlan_counts hok h.vlan hf hb hvp.1 hvp.2 hvkey
    simp only [hadd, if_neg (Int.not_lt.mpr hrv)]
    obtain ⟨rv', g, he, hg, hc, hiff⟩ := addL3Egress_filterMap
      (s := { s with portVlan := pv }) hok h.egress hn hl hi hvp.1
    refine ⟨rv', g, pv, he, hg, ⟨hc, ?_⟩, hfv, hiff⟩
    rw [List.filterMap_cons_some hvkey]
    exact hcv.perm List.perm_middle.symm
  · obtain ⟨hk, hvk⟩ := keys_none_of_link hn hl hb hvp
    simp only [addVlan_of_not hvp]
    exact ⟨-EINVAL, s.groups, s.portVlan, by simp [EINVAL], rfl, (refs_cons_of_none hk hvk).mpr h, hf,
      by simp [hk, EINVAL]⟩

/-- **The references that a neighbour takes.** If it is resolved, the result is negative exactly if
it takes no egress group. -/
theorem addL3NeighEgress_refs (hok : sw.Ok) (h : Refs env base s.groups s.portVlan hs)
    (hf : SviFree env s.portVlan) {nud : Nud} (hn : env.neigh n = some nud) :
    ∃ rv g pv, s.addL3NeighEgress env sw n nud = (rv, { s with groups := g, portVlan := pv }) ∧
      g.nhGrpToL3EcmpMapping = s.groups.nhGrpToL3EcmpMapping ∧
      Refs env base g pv (n :: hs) ∧ SviFree env pv ∧
      (∀ dMac, nud = .valid dMac → (∀ link, env.link n.1 = some link →
        (egressIfindex env link n dMac).isSome) → (rv < 0 ↔ egressKey env n = none)) := by
  cases nud with
  | failed =>
    have hnone : ∀ dMac, env.neigh n ≠ some (.valid dMac) := by simp [hn]
    obtain ⟨hk, hvk⟩ := keys_none_of_unresolved hnone
    exact ⟨_, _, _, rfl, rfl, (refs_cons_of_none hk hvk).mpr h, hf, fun _ hc => by cases hc⟩
  | incomplete =>
    have hnone : ∀ dMac, env.neigh n ≠ some (.valid dMac) := by simp [hn]
    obtain ⟨hk, hvk⟩ := keys_none_of_unresolved hnone
    exact ⟨_, _, _, rfl, rfl, (refs_cons_of_none hk hvk).mpr h, hf, fun _ hc => by cases hc⟩
  | valid dMac =>
    cases hl : env.link n.1 with
    | none =>
      obtain ⟨hk, hvk⟩ := keys_none_of_link_none hl
      exact ⟨-EINVAL, _, _, by simp only [addL3NeighEgress, hl], rfl,
        (refs_cons_of_none hk hvk).mpr h, hf, fun _ _ _ => by simp [hk, EINVAL]⟩
    | some link =>
      cases hb : link.isBridge with
      | false =>
        obtain ⟨rv, g, pv, he, hg, hr, hfv, hiff⟩ := addL3NeighEgress_port hok h hf hn hl hb
        exact ⟨rv, g, pv, he, hg, hr, hfv, fun _ _ _ => hiff⟩
      | true =>
        cases hfdb : env.searchFdb link.vid dMac with
        | none =>
          -- the result is whatever was in `rv`
          have hk : egressKey env n = none := by simp [egressKey, hn, hl, egressIfindex, hb, hfdb]
          have hvk : vlanKey env n = none := by simp [vlanKey, hn, hl, hb]
          refine ⟨env.uninit, s.groups, s.portVlan, by simp [addL3NeighEgress, hl, hb, hfdb], rfl,
            (refs_cons_of_none hk hvk).mpr h, hf, fun dMac' hd hres => ?_⟩
          cases hd
          have := hres link rfl
          simp [egressIfindex, hb, hfdb] at this
        | some i =>
          obtain ⟨rv, g, he, hg, hr, hiff⟩ := addL3NeighEgress_bridge hok h hf hn hl hb hfdb
          exact ⟨rv, g, s.portVlan, he, hg, hr, hf, fun _ _ _ => hiff⟩

theorem isVidValid_of_egressKey {k : EgressKey} (h : egressKey env n = some k) :
    isVidValid k.vid = true := by
  unfold egressKey at h
  split at h
  · split at h
    · cases h
    · split at h
      · next hc =>
        cases h
        exact hc.1
      · cases h
  · cases h

/-- `del_l3_egress` gives back the egress reference of a neighbour, if it took one. -/
theorem delL3Egress_filterMap
    (h : Counts Counted.refcnt s.groups.l3InterfaceMapping ((n :: hs).filterMap (egressKey env)))
    {dMac : Mac} (hn : env.neigh n = some (.valid dMac)) {link : L3Link}
    (hl : env.link n.1 = some link) {i : Int} (hi : egressIfindex env link n dMac = some i) :
    ∃ g, s.delL3Egress env i link.vid link.addr dMac = { s with groups := g } ∧
      g.nhGrpToL3EcmpMapping = s.groups.nhGrpToL3EcmpMapping ∧
      Counts Counted.refcnt g.l3InterfaceMapping (hs.filterMap (egressKey env)) := by
  have hkey := egressKey_eq hn hl hi
  by_cases hp : isVidValid link.vid = true ∧ getPortId env i ≠ 0
  · rw [if_pos hp] at hkey
    rw [List.filterMap_cons_some hkey] at h
    obtain ⟨hc, hg⟩ := L3Groups.delL3Egress_counts h hp.2 0
    exact ⟨_, rfl, hg, hc⟩
  · rw [if_neg hp] at hkey
    rw [List.filterMap_cons_none hkey] at h
    refine ⟨s.groups, ?_, rfl, h⟩
    let k : EgressKey := ⟨getPortId env i, link.vid, link.addr, dMac⟩
    have hnot : k.portId = 0 ∨ k ∉ hs.filterMap (egressKey env) := by
      by_contra hc
      rw [not_or, not_not] at hc
      obtain ⟨m, -, hm⟩ := List.mem_filterMap.mp hc.2
      exact hp ⟨isVidValid_of_egressKey hm, hc.1⟩
    have hsame := L3Groups.delL3Egress_of_notMem h hnot 0
    simp only [delL3Egress, k] at hsame ⊢
    rw [hsame]

/-- `remove_vlan` gives back the VLAN of a neighbour, if it took one. -/
theorem removeVlan_filterMap
    (h : Counts Nat.cast s.portVlan (base ++ (n :: hs).filterMap (vlanKey env)))
    (hf : SviFree env s.portVlan) {dMac : Mac} (hn : env.neigh n = some (.valid dMac))
    {link : L3Link} (hl : env.link n.1 = some link) :
    ∃ pv, s.removeVlan (some link) link.vid = { s with portVlan := pv } ∧
      Counts Nat.cast pv (base ++ hs.filterMap (vlanKey env)) ∧ SviFree env pv := by
  have hkey := vlanKey_eq hn hl
  by_cases hv : isVidValid link.vid = true ∧ link.portId ≠ 0
  · by_cases hb : link.isBridge = true
    · rw [if_neg (by simp [hb])] at hkey
      rw [List.filterMap_cons_none hkey] at h
      have hnone := Table.not_mem_iff_lookup.mp
        (hf n.1 n.1 link link dMac hl hb (.inl rfl) hl hv.2).1
      refine ⟨s.portVlan, ?_, h, hf⟩
      simp only [removeVlan, hv.1, Bool.not_true, Bool.false_eq_true, if_false, if_neg hv.2, hnone]
    · rw [Bool.not_eq_true] at hb
      rw [if_pos ⟨hb, hv⟩] at hkey
      rw [List.filterMap_cons_some hkey] at h
      exact removeVlan_counts (h.perm List.perm_middle) hf hv.1 hv.2 hkey
  · rw [if_neg (fun hc => hv hc.2)] at hkey
    rw [List.filterMap_cons_none hkey] at h
    refine ⟨s.portVlan, ?_, h, hf⟩
    unfold removeVlan
    by_cases hvid : isVidValid link.vid = true
    · simp [hvid, not_not.mp fun hp => hv ⟨hvid, hp⟩]
    · simp [hvid]

/-- **The references that a neighbour gives back**: those that it took. -/
theorem delL3NeighEgress_refs (h : Refs env base s.groups s.portVlan (n :: hs))
    (hf : SviFree env s.portVlan) {dMac : Mac} (hn : env.neigh n = some (.valid dMac))
    (hres : ∀ link, env.link n.1 = some link → (egressIfindex env link n dMac).isSome) :
    ∃ g pv, s.delL3NeighEgress env n dMac = { s with groups := g, portVlan := pv } ∧
      g.nhGrpToL3EcmpMapping = s.groups.nhGrpToL3EcmpMapping ∧
      Refs env base g pv hs ∧ SviFree env pv := by
  unfold delL3NeighEgress
  cases hl : env.link n.1 with
  | none =>
    obtain ⟨hk, hvk⟩ := keys_none_of_link_none hl
    exact ⟨_, _, rfl, rfl, (refs_cons_of_none hk hvk).mp h, hf⟩
  | some link =>
    obtain ⟨i, hi⟩ := Option.isSome_iff_exists.mp (hres link hl)
    obtain ⟨g, hg, hgrp, hc⟩ := delL3Egress_filterMap h.egress hn hl hi
    obtain ⟨pv, hpv, hcv, hfv⟩ := removeVlan_filterMap (s := { s with groups := g }) h.vlan hf hn hl
    refine ⟨g, pv, ?_, hgrp, ⟨hc, hcv⟩, hfv⟩
    simp only
    by_cases hb : link.isBridge = true
    · rw [egressIfindex, if_pos hb] at hi
      simp only [hb, if_true, hi, hg, hpv]
    · rw [egressIfindex, if_neg hb] at hi
      cases hi
      simp only [hb, Bool.false_eq_true, if_false, hg, hpv]

end Egress

end L3

end Basebox
