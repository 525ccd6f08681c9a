import Basebox.Lib.Run
import Basebox.OfDpa.Switch
import Mathlib.Data.Finset.Card

/-!
# Flood groups of the bridge (`l2_domain`, `src/of-dpa/controller.cc`)

`l2_domain[vid]` is the set of the interface groups of the bridge ports in a VLAN. The controller
mirrors it in the L2 flood group of the VLAN, and in a DLF flow that exists with the group. A
connected switch is assumed: no send throws.

* `egressBridgePortVlanAdd`, `egressBridgePortVlanRemove`: the two operations with the messages
  they send.
* `Mirrors`: the flood group and the DLF flow of a VLAN are those of `l2_domain`; `Sound`: no
  flow and no bucket refers to a group that is not there. `mirrors_run`: the first holds after
  every call, the second also between any two messages of a call.
* `RemovesOnly`: a removal takes out of `l2_domain` what the addition of that port put there.
  `removesOnly_iff`: it does so unless the port is a LAG and the physical port of the same number
  is in the VLAN.
* `restored_iff`: an addition that is taken back leaves no trace, unless it is that of a LAG, to
  which the removal gets only in a VLAN that a physical port was in.
-/

namespace Basebox

/-- `l2_domain`. -/
abbrev L2Domain := Table Nat (Finset Nat)

namespace L2Domain

/-- The interface groups in a VLAN; a VLAN without an entry has none. -/
def members (dom : L2Domain) (vid : Nat) : Finset Nat := (dom.lookup vid).getD ∅

/-- `egress_port_vlan_add`: the interface group of the port. -/
def egressPortVlanAdd (fm : FmDriver) (port vid : Nat) (untagged update : Bool) : List Msg :=
  if Nbi.isLag port then
    [Msg.group update (fm.groupIdL2TrunkInterface port vid) (.l2TrunkInterface untagged)]
  else [Msg.group update (fm.groupIdL2Interface port vid) (.l2Interface untagged)]

/-- `egress_port_vlan_remove`. -/
def egressPortVlanRemove (fm : FmDriver) (port vid : Nat) : List Msg :=
  if Nbi.isLag port then [.groupDelete (fm.groupIdL2TrunkInterface port vid), .barrier]
  else [.groupDelete (fm.groupIdL2Interface port vid), .barrier]

/-- `egress_bridge_port_vlan_add`. A LAG gets its trunk interface group only. -/
def egressBridgePortVlanAdd (fm : FmDriver) (dom : L2Domain) (port vid : Nat) (untagged : Bool) :
    L2Domain × List Msg :=
  let ms := egressPortVlanAdd fm port vid untagged false
  if Nbi.isLag port then (dom, ms)
  else
    let l2DomSet := insert (fm.groupIdL2Interface port vid) (dom.members vid)
    let flood := fm.groupIdL2Flood vid vid
    (dom.insert vid l2DomSet,
      ms ++ [.barrier, Msg.group (l2DomSet.card != 1) flood (.buckets l2DomSet)] ++
        -- The DLF flow is sent when the group is created.
        if l2DomSet.card = 1 then [.barrier, .flowAdd (.dlfVlan vid) flood] else [])

/-- `egress_bridge_port_vlan_remove`. -/
def egressBridgePortVlanRemove (fm : FmDriver) (dom : L2Domain) (port vid : Nat) :
    L2Domain × List Msg :=
  match dom.lookup vid with
  | none => (dom, [])
  | some set =>
    let l2DomSet := set.erase (fm.groupIdL2Interface port vid)
    let flood := fm.groupIdL2Flood vid vid
    (dom.insert vid l2DomSet,
      (if l2DomSet.card ≠ 0 then [.groupModify flood (.buckets l2DomSet)]
        else [.flowDelete (.dlfVlan vid), .barrier, .groupDelete flood]) ++
      .barrier :: egressPortVlanRemove fm port vid)

/-- The calls of the two operations. -/
inductive Ev where
  | add (port vid : Nat) (untagged : Bool)
  | remove (port vid : Nat)
  deriving DecidableEq

/-- The VLAN of a call. -/
def Ev.vid : Ev → Nat
  | .add _ vid _ | .remove _ vid => vid

/-- A call of the bridge, with the messages it sends. -/
def exec (fm : FmDriver) (dom : L2Domain) : Ev → L2Domain × List Msg
  | .add port vid untagged => egressBridgePortVlanAdd fm dom port vid untagged
  | .remove port vid => egressBridgePortVlanRemove fm dom port vid

/-- One call, and the switch after its messages. -/
def step (fm : FmDriver) (s : L2Domain × Switch) (e : Ev) : L2Domain × Switch :=
  ((exec fm s.1 e).1, s.2.applyAll (exec fm s.1 e).2)

/-- The flood group and the DLF flow of the VLAN are there exactly when it has members, with the
members as buckets. -/
def Mirrors (fm : FmDriver) (dom : L2Domain) (sw : Switch) (vid : Nat) : Prop :=
  sw.groups.lookup (fm.groupIdL2Flood vid vid) =
      (if dom.members vid = ∅ then none else some (.buckets (dom.members vid))) ∧
  sw.flows.lookup (.dlfVlan vid) =
    if dom.members vid = ∅ then none else some (fm.groupIdL2Flood vid vid)

/-- Every flow refers to a group that is there, every bucket to an interface group that is. -/
def Sound (sw : Switch) : Prop :=
  (∀ m grp, sw.flows.lookup m = some grp → ∃ g, sw.groups.lookup grp = some g) ∧
  ∀ id g, sw.groups.lookup id = some g → ∀ i ∈ g.refs, ∃ u, sw.groups.lookup i = some (.l2Interface u)

/-! ## One message -/

section Messages

variable {sw : Switch} (h : Sound sw) {id : Nat} {g : Group}
include h

theorem Sound.groupAdd (hg : ∀ i ∈ g.refs, ∃ u, sw.groups.lookup i = some (.l2Interface u)) :
    Sound (sw.apply (.groupAdd id g)) := by
  obtain ⟨hf, hr⟩ := h
  constructor
  · intro m grp hm
    obtain ⟨g', hg'⟩ := hf m grp hm
    grind
  · intro k g' hk i hi
    have hold : ∃ u, sw.groups.lookup i = some (.l2Interface u) := by
      by_cases he : k = id
      · cases hid : sw.groups.lookup id with
        | none => exact hg i (by grind)
        | some w => exact hr id w hid i (by grind)
      · exact hr k g' (by grind) i hi
    obtain ⟨u, hu⟩ := hold
    exact ⟨u, by grind⟩

/-- A change of a group that is not an interface group. -/
theorem Sound.groupModify (hid : ∀ u, sw.groups.lookup id ≠ some (.l2Interface u))
    (hg : ∀ i ∈ g.refs, ∃ u, sw.groups.lookup i = some (.l2Interface u)) :
    Sound (sw.apply (.groupModify id g)) := by
  obtain ⟨hf, hr⟩ := h
  constructor
  · intro m grp hm
    obtain ⟨g', hg'⟩ := hf m grp (by grind)
    by_cases he : grp = id
    · exact ⟨g, by grind⟩
    · exact ⟨g', by grind⟩
  · intro k g' hk i hi
    have hold : ∃ u, sw.groups.lookup i = some (.l2Interface u) := by
      by_cases he : k = id
      · cases hw : sw.groups.lookup id with
        | none => grind
        | some w => exact hg i (by grind)
      · exact hr k g' (by grind) i hi
    obtain ⟨u, hu⟩ := hold
    exact ⟨u, by grind⟩

/-- A deletion of a group that nothing refers to. -/
theorem Sound.groupDelete (hf : ∀ m, sw.flows.lookup m ≠ some id)
    (hr : ∀ k g, sw.groups.lookup k = some g → id ∉ g.refs) :
    Sound (sw.apply (.groupDelete id)) := by
  constructor
  · intro m grp hm
    obtain ⟨g', hg'⟩ := h.1 m grp hm
    have := hf m
    exact ⟨g', by grind⟩
  · intro k g' hk i hi
    have hk' : sw.groups.lookup k = some g' := by grind
    obtain ⟨u, hu⟩ := h.2 k g' hk' i hi
    have := hr k g' hk'
    exact ⟨u, by grind⟩

theorem Sound.flowAdd (m : FlowMatch) (hid : ∃ g, sw.groups.lookup id = some g) :
    Sound (sw.apply (.flowAdd m id)) := by
  refine ⟨fun k grp hk => ?_, h.2⟩
  by_cases he : k = m
  · obtain ⟨g', hg'⟩ := hid
    exact ⟨g', by grind⟩
  · exact h.1 k grp (by grind)

theorem Sound.flowDelete {m : FlowMatch} : Sound (sw.apply (.flowDelete m)) :=
  ⟨fun k grp hk => h.1 k grp (by grind), h.2⟩

end Messages

/-! ## The invariant -/

@[grind =] theorem members_insert (dom : L2Domain) (v w : Nat) (set : Finset Nat) :
    members (dom.insert v set) w = if w = v then set else dom.members w := by
  unfold members
  grind

/-- What the ids of the groups of each kind are. -/
def KindOk (fm : FmDriver) (id : Nat) : Group → Prop
  | .l2Interface _ => ∃ p v, id = fm.groupIdL2Interface p v
  | .l2TrunkInterface _ => ∃ p v, id = fm.groupIdL2TrunkInterface p v
  | .buckets _ => ∃ v < 4096, id = fm.groupIdL2Flood v v

/-- The switch mirrors the domain, and what it has is sound. -/
structure Inv (fm : FmDriver) (dom : L2Domain) (sw : Switch) : Prop where
  mirrors : ∀ v < 4096, Mirrors fm dom sw v
  sound : Sound sw
  /-- The members in a VLAN are interface groups of that VLAN. -/
  elem : ∀ v, ∀ g ∈ dom.members v, ∃ p, g = fm.groupIdL2Interface p v
  kinds : ∀ id g, sw.groups.lookup id = some g → KindOk fm id g
  flows : ∀ m grp, sw.flows.lookup m = some grp →
    ∃ v < 4096, m = .dlfVlan v ∧ grp = fm.groupIdL2Flood v v

theorem inv_init (fm : FmDriver) : Inv fm ∅ {} where
  mirrors _ _ := ⟨rfl, rfl⟩
  sound := ⟨fun _ _ h => (by cases h), fun _ _ h => (by cases h)⟩
  elem _ _ h := by simp [members] at h
  kinds _ _ h := by cases h
  flows _ _ h := by cases h

section Invariant

variable {fm : FmDriver} {dom : L2Domain} {sw : Switch}

theorem Inv.interface_kind (hfm : fm.Encodes) (h : Inv fm dom sw) {p v : Nat} {g : Group}
    (hg : sw.groups.lookup (fm.groupIdL2Interface p v) = some g) : ∃ u, g = .l2Interface u := by
  have hk := h.kinds _ g hg
  cases g with
  | l2Interface u => exact ⟨u, rfl⟩
  | l2TrunkInterface u =>
    obtain ⟨q, w, e⟩ := hk
    exact absurd e (hfm.interface_ne_trunk p v q w)
  | buckets ids =>
    obtain ⟨w, -, e⟩ := hk
    exact absurd e (hfm.interface_ne_flood p v w w)

/-- The interface groups of the members of a VLAN are on the switch. -/
theorem Inv.member_there (h : Inv fm dom sw) {v : Nat} (hv : v < 4096) {g : Nat}
    (hg : g ∈ dom.members v) : ∃ u, sw.groups.lookup g = some (.l2Interface u) := by
  have hne : dom.members v ≠ ∅ := Finset.ne_empty_of_mem hg
  have hm := (h.mirrors v hv).1
  rw [if_neg hne] at hm
  exact h.sound.2 _ _ hm g hg

theorem flood_inj (hfm : fm.Encodes) {v w : Nat} (hv : v < 4096) (hw : w < 4096)
    (h : fm.groupIdL2Flood v v = fm.groupIdL2Flood w w) : v = w := by
  have := (hfm.l2Flood v v w w).mp h
  omega

/-- An interface group on the switch is no bucket of the flood group of another VLAN. -/
theorem Inv.not_ref (hfm : fm.Encodes) (h : Inv fm dom sw) {p v : Nat} (hv : v < 4096)
    (hnot : fm.groupIdL2Interface p v ∉ dom.members v) {id : Nat} {g : Group}
    (hg : sw.groups.lookup id = some g) : fm.groupIdL2Interface p v ∉ g.refs := by
  intro hmem
  cases g with
  | buckets ids =>
    obtain ⟨w, hw, rfl⟩ := h.kinds _ _ hg
    have hm := (h.mirrors w hw).1
    rw [hg] at hm
    split at hm
    · cases hm
    · simp only [Option.some.injEq, Group.buckets.injEq] at hm
      subst hm
      obtain ⟨q, hq⟩ := h.elem w _ hmem
      have hvw : v = w := by have := ((hfm.l2Interface p v q w).mp hq).2; omega
      subst hvw
      exact hnot hmem
  | l2Interface u => simp [Group.refs] at hmem
  | l2TrunkInterface u => simp [Group.refs] at hmem

/-- A new interface or trunk interface group. -/
theorem Inv.addInterface (h : Inv fm dom sw) (id : Nat) (g : Group) (hk : KindOk fm id g)
    (hr : g.refs = ∅) (hid : ∀ v, fm.groupIdL2Flood v v ≠ id) :
    Inv fm dom (sw.apply (.groupAdd id g)) where
  mirrors v hv := by
    refine ⟨?_, (h.mirrors v hv).2⟩
    rw [Switch.groups_groupAdd, if_neg (hid v)]
    exact (h.mirrors v hv).1
  sound := h.sound.groupAdd (by simp [hr])
  elem := h.elem
  kinds k g' hg' := by
    rw [Switch.groups_groupAdd] at hg'
    split at hg'
    · subst_vars
      cases hw : sw.groups.lookup k with
      | none => rw [hw] at hg'; cases hg'; exact hk
      | some w => rw [hw] at hg'; cases hg'; exact h.kinds k w hw
    · exact h.kinds k g' hg'
  flows := h.flows

/-- A deletion of a group that is no flood group and no bucket. -/
theorem Inv.removeInterface (h : Inv fm dom sw) (id : Nat) (hid : ∀ v, fm.groupIdL2Flood v v ≠ id)
    (hr : ∀ k g, sw.groups.lookup k = some g → id ∉ g.refs) :
    Inv fm dom (sw.apply (.groupDelete id)) where
  mirrors v hv := by
    refine ⟨?_, (h.mirrors v hv).2⟩
    rw [Switch.groups_groupDelete, if_neg (hid v)]
    exact (h.mirrors v hv).1
  sound := by
    refine h.sound.groupDelete (fun m hm => ?_) hr
    obtain ⟨v, -, -, e⟩ := h.flows m id hm
    exact hid v e.symm
  elem := h.elem
  kinds k g hg := h.kinds k g (by grind)
  flows := h.flows

/-- The flood group and the DLF flow of VLAN `v` are those of the members `set`, and nothing else has
changed. -/
structure Floods (fm : FmDriver) (v : Nat) (set : Finset Nat) (sw sw' : Switch) : Prop where
  groups : ∀ id, sw'.groups.lookup id = if id = fm.groupIdL2Flood v v then
    (if set = ∅ then none else some (.buckets set)) else sw.groups.lookup id
  flows : ∀ m, sw'.flows.lookup m = if m = .dlfVlan v then
    (if set = ∅ then none else some (fm.groupIdL2Flood v v)) else sw.flows.lookup m

theorem Floods.mirrors (hfm : fm.Encodes) {v : Nat} {set : Finset Nat} {sw' : Switch}
    (hf : Floods fm v set sw sw') (hv : v < 4096) {w : Nat} (hw : w < 4096)
    (h : Mirrors fm dom sw w) : Mirrors fm (dom.insert v set) sw' w := by
  unfold Mirrors
  rw [hf.groups, hf.flows, members_insert]
  by_cases hwv : w = v
  · subst hwv; simp
  · have hne : fm.groupIdL2Flood w w ≠ fm.groupIdL2Flood v v :=
      fun e => hwv (flood_inj hfm hw hv e)
    simpa [hwv, hne, Mirrors] using h

theorem Floods.mirrors_self {v : Nat} {set : Finset Nat} {sw' : Switch}
    (hf : Floods fm v set sw sw') : Mirrors fm (dom.insert v set) sw' v := by
  unfold Mirrors
  rw [hf.groups, hf.flows, members_insert]
  simp

theorem Mirrors.floods {v : Nat} (h : Mirrors fm dom sw v) : Floods fm v (dom.members v) sw sw where
  groups id := by
    split
    · subst_vars
      exact h.1
    · rfl
  flows m := by
    split
    · subst_vars
      exact h.2
    · rfl

/-- The flood group is there and gets other members, at least one. -/
theorem Mirrors.floodModify {v : Nat} (h : Mirrors fm dom sw v) {set : Finset Nat}
    (hold : dom.members v ≠ ∅) (hne : set ≠ ∅) :
    Floods fm v set sw (sw.apply (.groupModify (fm.groupIdL2Flood v v) (.buckets set))) := by
  obtain ⟨hm1, hm2⟩ := h
  rw [if_neg hold] at hm1 hm2
  constructor
  · intro id
    rw [if_neg hne, Switch.groups_groupModify, hm1]
    rfl
  · intro m
    rw [if_neg hne, Switch.flows_groupModify]
    split
    · subst_vars
      exact hm2
    · rfl

/-- The flood messages of an addition. -/
theorem Mirrors.floodAdd {v : Nat} (h : Mirrors fm dom sw v) {set : Finset Nat} {g : Nat}
    (hset : set = insert g (dom.members v)) :
    let flood := fm.groupIdL2Flood v v
    Floods fm v set sw (sw.applyAll (Msg.group (set.card != 1) flood (.buckets set) ::
      if set.card = 1 then [.barrier, .flowAdd (.dlfVlan v) flood] else [])) := by
  intro flood
  have hne : set ≠ ∅ := by rw [hset]; exact Finset.insert_ne_empty _ _
  by_cases hc : set.card = 1
  · -- Creation, or a repeated addition of the only member: the group is there as it should be.
    have hold : dom.members v = ∅ ∨ dom.members v = set := by
      rcases (dom.members v).eq_empty_or_nonempty with he | he
      · exact .inl he
      · refine .inr (Finset.eq_of_subset_of_card_le (hset ▸ Finset.subset_insert _ _) ?_)
        have := he.card_pos
        omega
    simp only [hc, bne_self_eq_false, Msg.group, Bool.false_eq_true, if_false, if_true,
      Switch.applyAll_cons, Switch.applyAll_nil, Switch.apply_barrier]
    constructor
    · intro id
      rw [if_neg hne, Switch.groups_flowAdd, Switch.groups_groupAdd, h.1]
      rcases hold with he | he <;> simp [he, hne, flood]
    · intro m
      rw [if_neg hne]
      exact Switch.flows_flowAdd _ flood (.dlfVlan v) m
  · -- A further member: the group is there and is modified.
    have hold : dom.members v ≠ ∅ := by
      intro he
      rw [hset, he] at hc
      exact hc rfl
    simpa [hc, Msg.group] using h.floodModify hold hne

/-- The flood messages of a removal. -/
theorem Mirrors.floodRemove {v : Nat} (h : Mirrors fm dom sw v) {set : Finset Nat} {g : Nat}
    (hset : set = (dom.members v).erase g) :
    let flood := fm.groupIdL2Flood v v
    Floods fm v set sw (sw.applyAll (if set.card ≠ 0 then [.groupModify flood (.buckets set)]
      else [.flowDelete (.dlfVlan v), .barrier, .groupDelete flood])) := by
  intro flood
  by_cases hc : set.card = 0
  · have he : set = ∅ := Finset.card_eq_zero.mp hc
    rw [if_neg (not_not.mpr hc)]
    constructor
    · intro id
      rw [if_pos he]
      exact Switch.groups_groupDelete (sw.apply (.flowDelete (.dlfVlan v))) flood id
    · intro m
      rw [if_pos he]
      exact Switch.flows_flowDelete sw (.dlfVlan v) m
  · have hne : set ≠ ∅ := fun he => hc (by rw [he]; rfl)
    have hold : dom.members v ≠ ∅ := fun he => hne (by rw [hset, he]; rfl)
    rw [if_pos hc]
    exact h.floodModify hold hne

/-- The invariant after a change of the members of VLAN `v` to `set`. -/
theorem Inv.setMembers (hfm : fm.Encodes) (h : Inv fm dom sw) {v : Nat} (hv : v < 4096)
    {set : Finset Nat} {sw' : Switch} (hsound : Sound sw')
    (helem : ∀ g ∈ set, ∃ p, g = fm.groupIdL2Interface p v) (hf : Floods fm v set sw sw') :
    Inv fm (dom.insert v set) sw' where
  mirrors w hw := hf.mirrors hfm hv hw (h.mirrors w hw)
  sound := hsound
  elem w g hg := by
    rw [members_insert] at hg
    split at hg
    · subst_vars; exact helem g hg
    · exact h.elem w g hg
  kinds id g hg := by
    rw [hf.groups] at hg
    split at hg
    · split at hg
      · cases hg
      · cases hg; exact ⟨v, hv, by assumption⟩
    · exact h.kinds id g hg
  flows m grp hm := by
    rw [hf.flows] at hm
    split at hm
    · split at hm
      · cases hm
      · cases hm; exact ⟨v, hv, by assumption, rfl⟩
    · exact h.flows m grp hm

/-- The switch is sound after every message of the sequence. -/
def SoundAlong (sw : Switch) (ms : List Msg) : Prop :=
  Along Switch.apply (fun sw m => Sound (sw.apply m)) sw ms

/-- A change of the flood group, which is there, to members that are there. -/
theorem Inv.floodModify_sound (h : Inv fm dom sw) {v : Nat} (hv : v < 4096) {set : Finset Nat}
    (hold : dom.members v ≠ ∅)
    (hall : ∀ i ∈ set, ∃ u, sw.groups.lookup i = some (.l2Interface u)) :
    Sound (sw.apply (.groupModify (fm.groupIdL2Flood v v) (.buckets set))) := by
  have hm1 := (h.mirrors v hv).1
  rw [if_neg hold] at hm1
  exact h.sound.groupModify (by rw [hm1]; simp) hall

/-- The flood messages of an addition, once the interface group is there. -/
theorem Inv.floodAdd (hfm : fm.Encodes) (h : Inv fm dom sw) {p v : Nat} (hv : v < 4096)
    (hthere : ∃ u, sw.groups.lookup (fm.groupIdL2Interface p v) = some (.l2Interface u))
    {set : Finset Nat} (hset : set = insert (fm.groupIdL2Interface p v) (dom.members v)) :
    let flood := fm.groupIdL2Flood v v
    let ms := Msg.group (set.card != 1) flood (.buckets set) ::
      if set.card = 1 then [.barrier, .flowAdd (.dlfVlan v) flood] else []
    SoundAlong sw ms ∧ Inv fm (dom.insert v set) (sw.applyAll ms) := by
  intro flood ms
  have hall : ∀ i ∈ set, ∃ u, sw.groups.lookup i = some (.l2Interface u) := by
    intro i hi
    rcases Finset.mem_insert.mp (hset ▸ hi) with rfl | hi
    · exact hthere
    · exact h.member_there hv hi
  have helem : ∀ g ∈ set, ∃ p, g = fm.groupIdL2Interface p v := by
    intro g hg
    rcases Finset.mem_insert.mp (hset ▸ hg) with rfl | hg
    · exact ⟨p, rfl⟩
    · exact h.elem v g hg
  have hf : Floods fm v set sw (sw.applyAll ms) := (h.mirrors v hv).floodAdd hset
  by_cases hc : set.card = 1
  · have hs1 : Sound (sw.apply (.groupAdd flood (.buckets set))) := h.sound.groupAdd hall
    have hthere : ∃ g, (sw.apply (.groupAdd flood (.buckets set))).groups.lookup flood = some g := by
      rw [Switch.groups_groupAdd, if_pos rfl]
      exact ⟨_, rfl⟩
    have hs2 := hs1.flowAdd (.dlfVlan v) hthere
    have hms : ms = [.groupAdd flood (.buckets set), .barrier, .flowAdd (.dlfVlan v) flood] := by
      simp [ms, Msg.group, hc]
    rw [hms] at hf ⊢
    exact ⟨⟨hs1, hs1, hs2, trivial⟩, h.setMembers hfm hv hs2 helem hf⟩
  · have hold : dom.members v ≠ ∅ := by
      intro he
      rw [hset, he] at hc
      exact hc rfl
    have hms : ms = [.groupModify flood (.buckets set)] := by simp [ms, Msg.group, hc]
    rw [hms] at hf ⊢
    have hs1 := h.floodModify_sound hv hold hall
    exact ⟨⟨hs1, trivial⟩, h.setMembers hfm hv hs1 helem hf⟩

/-- The flood messages of a removal. -/
theorem Inv.floodRemove (hfm : fm.Encodes) (h : Inv fm dom sw) {v : Nat} (hv : v < 4096)
    {set : Finset Nat} {g : Nat} (hset : set = (dom.members v).erase g) :
    let flood := fm.groupIdL2Flood v v
    let ms := if set.card ≠ 0 then [.groupModify flood (.buckets set)]
      else [.flowDelete (.dlfVlan v), .barrier, .groupDelete flood]
    SoundAlong sw ms ∧ Inv fm (dom.insert v set) (sw.applyAll ms) := by
  intro flood ms
  have hsub : ∀ i ∈ set, i ∈ dom.members v := fun i hi => Finset.mem_of_mem_erase (hset ▸ hi)
  have helem : ∀ i ∈ set, ∃ p, i = fm.groupIdL2Interface p v := fun i hi => h.elem v i (hsub i hi)
  have hf : Floods fm v set sw (sw.applyAll ms) := (h.mirrors v hv).floodRemove hset
  by_cases hc : set.card = 0
  · obtain ⟨hm1, -⟩ := h.mirrors v hv
    have hs1 : Sound (sw.apply (.flowDelete (.dlfVlan v))) := h.sound.flowDelete
    have hs2 : Sound ((sw.apply (.flowDelete (.dlfVlan v))).apply (.groupDelete flood)) := by
      refine hs1.groupDelete (fun m hm => ?_) (fun k g hg hmem => ?_)
      · -- The only flow to the flood group of `v` is the one just deleted.
        rw [Switch.flows_flowDelete] at hm
        split at hm
        · cases hm
        · rename_i hne
          obtain ⟨w, hw, rfl, e⟩ := h.flows m flood hm
          exact hne (by rw [flood_inj hfm hv hw e])
      · obtain ⟨u, hu⟩ := h.sound.2 k g hg flood hmem
        rw [hm1] at hu
        split at hu <;> cases hu
    have hms : ms = [.flowDelete (.dlfVlan v), .barrier, .groupDelete flood] := by simp [ms, hc]
    rw [hms] at hf ⊢
    exact ⟨⟨hs1, hs1, hs2, trivial⟩, h.setMembers hfm hv hs2 helem hf⟩
  · have hne : set ≠ ∅ := fun he => hc (by rw [he]; rfl)
    have hold : dom.members v ≠ ∅ := fun he => hne (by rw [hset, he]; rfl)
    have hms : ms = [.groupModify flood (.buckets set)] := by simp [ms, hc]
    rw [hms] at hf ⊢
    have hs1 := h.floodModify_sound hv hold fun i hi => h.member_there hv (hsub i hi)
    exact ⟨⟨hs1, trivial⟩, h.setMembers hfm hv hs1 helem hf⟩

/-- Messages sent one after the other: the second part starts from the switch after the first. -/
theorem SoundAlong.append (ms : List Msg) {ns : List Msg} {dom' : L2Domain} (h : SoundAlong sw ms)
    (h' : SoundAlong (sw.applyAll ms) ns ∧ Inv fm dom' ((sw.applyAll ms).applyAll ns)) :
    SoundAlong sw (ms ++ ns) ∧ Inv fm dom' (sw.applyAll (ms ++ ns)) := by
  refine ⟨Along.append.mpr ⟨h, h'.1⟩, ?_⟩
  rw [Switch.applyAll_append]
  exact h'.2

theorem Inv.egressBridgePortVlanAdd (hfm : fm.Encodes) (h : Inv fm dom sw) {port v : Nat}
    (hv : v < 4096) (untagged : Bool) :
    SoundAlong sw (egressBridgePortVlanAdd fm dom port v untagged).2 ∧
      Inv fm (egressBridgePortVlanAdd fm dom port v untagged).1
        (sw.applyAll (egressBridgePortVlanAdd fm dom port v untagged).2) := by
  unfold L2Domain.egressBridgePortVlanAdd egressPortVlanAdd
  by_cases hl : Nbi.isLag port = true
  · simp only [hl, if_true]
    have h1 := h.addInterface (fm.groupIdL2TrunkInterface port v)
      (.l2TrunkInterface untagged) ⟨port, v, rfl⟩ rfl
      fun w e => hfm.trunk_ne_flood port v w w e.symm
    exact ⟨⟨h1.sound, trivial⟩, h1⟩
  · simp only [hl, List.append_assoc]
    have h1 := h.addInterface (fm.groupIdL2Interface port v) (.l2Interface untagged)
      ⟨port, v, rfl⟩ rfl fun w e => hfm.interface_ne_flood port v w w e.symm
    have hthere : ∃ u, (sw.apply (.groupAdd (fm.groupIdL2Interface port v)
        (.l2Interface untagged))).groups.lookup (fm.groupIdL2Interface port v) =
          some (.l2Interface u) := by
      rw [Switch.groups_groupAdd, if_pos rfl]
      cases hw : sw.groups.lookup (fm.groupIdL2Interface port v) with
      | none => exact ⟨untagged, rfl⟩
      | some w =>
        obtain ⟨u, rfl⟩ := h.interface_kind hfm hw
        exact ⟨u, rfl⟩
    exact SoundAlong.append [.groupAdd _ _, .barrier] ⟨h1.sound, h1.sound, trivial⟩
      (h1.floodAdd hfm hv hthere rfl)

/-- The interface group goes last: it is no bucket any more. -/
theorem Inv.egressPortVlanRemove (hfm : fm.Encodes) (h : Inv fm dom sw) {port v : Nat}
    (hv : v < 4096) (hnot : fm.groupIdL2Interface port v ∉ dom.members v) :
    SoundAlong sw (.barrier :: egressPortVlanRemove fm port v) ∧
      Inv fm dom (sw.applyAll (.barrier :: egressPortVlanRemove fm port v)) := by
  unfold L2Domain.egressPortVlanRemove
  split
  · have h1 := h.removeInterface (fm.groupIdL2TrunkInterface port v)
      (fun w e => hfm.trunk_ne_flood port v w w e.symm) fun k g hg hmem => by
        obtain ⟨u, hu⟩ := h.sound.2 k g hg _ hmem
        obtain ⟨p, w, e⟩ := h.kinds _ _ hu
        exact hfm.interface_ne_trunk p w port v e.symm
    exact ⟨⟨h.sound, h1.sound, h1.sound, trivial⟩, h1⟩
  · have h1 := h.removeInterface (fm.groupIdL2Interface port v)
      (fun w e => hfm.interface_ne_flood port v w w e.symm) fun k g hg => h.not_ref hfm hv hnot hg
    exact ⟨⟨h.sound, h1.sound, h1.sound, trivial⟩, h1⟩

theorem Inv.egressBridgePortVlanRemove (hfm : fm.Encodes) (h : Inv fm dom sw) {port v : Nat}
    (hv : v < 4096) :
    SoundAlong sw (egressBridgePortVlanRemove fm dom port v).2 ∧
      Inv fm (egressBridgePortVlanRemove fm dom port v).1
        (sw.applyAll (egressBridgePortVlanRemove fm dom port v).2) := by
  unfold L2Domain.egressBridgePortVlanRemove
  cases hl : dom.lookup v with
  | none => exact ⟨trivial, h⟩
  | some set =>
    have hm : dom.members v = set := by simp [members, hl]
    have hset : set.erase (fm.groupIdL2Interface port v) =
        (dom.members v).erase (fm.groupIdL2Interface port v) := by rw [hm]
    obtain ⟨hs, hi⟩ := h.floodRemove hfm hv hset
    refine SoundAlong.append _ hs (hi.egressPortVlanRemove hfm hv ?_)
    rw [members_insert, if_pos rfl]
    exact Finset.notMem_erase _ _

theorem Inv.exec (hfm : fm.Encodes) (h : Inv fm dom sw) (e : Ev) (hv : e.vid < 4096) :
    SoundAlong sw (exec fm dom e).2 ∧ Inv fm (exec fm dom e).1 (sw.applyAll (exec fm dom e).2) := by
  cases e with
  | add port vid untagged => exact h.egressBridgePortVlanAdd hfm hv untagged
  | remove port vid => exact h.egressBridgePortVlanRemove hfm hv

/-- A switch that is sound after every message of a sequence is sound after every beginning
of it. -/
theorem SoundAlong.take {ms : List Msg} (h : Sound sw) (hs : SoundAlong sw ms) (k : Nat) :
    Sound (sw.applyAll (ms.take k)) :=
  run_inv h (fun _ _ _ hm => hm) (Along.take hs k)

end Invariant

/-! ## Runs -/

theorem inv_run {fm : FmDriver} (hfm : fm.Encodes) {es : List Ev} (hes : ∀ e ∈ es, e.vid < 4096) :
    Inv fm (run (step fm) (∅, {}) es).1 (run (step fm) (∅, {}) es).2 := by
  induction es using List.reverseRecOn with
  | nil => exact inv_init fm
  | append_singleton es e ih =>
    rw [run_concat]
    exact ((ih fun e he => hes e (by simp [he])).exec hfm e (hes e (by simp))).2

/-- **The flood groups mirror `l2_domain`.** After every run of additions and removals, for every
VLAN; and through every message of the call that comes next, no flow refers to a missing group
and no bucket to a missing interface group. -/
theorem mirrors_run (fm : FmDriver) (hfm : fm.Encodes) (es : List Ev)
    (hes : ∀ e ∈ es, e.vid < 4096) :
    (∀ v < 4096, Mirrors fm (run (step fm) (∅, {}) es).1 (run (step fm) (∅, {}) es).2 v) ∧
    ∀ e : Ev, e.vid < 4096 → ∀ k, Sound ((run (step fm) (∅, {}) es).2.applyAll
      ((exec fm (run (step fm) (∅, {}) es).1 e).2.take k)) := by
  have h := inv_run hfm hes
  exact ⟨h.mirrors, fun e he k => SoundAlong.take h.sound (h.exec hfm e he).1 k⟩

/-- The condition and the result of `mirrors_run` on two ports of VLAN 10 that join, and one of
them leaves: the flood group keeps the other. -/
theorem mirrors_run_two_ports :
    let es : List Ev := [.add 1 10 true, .add 2 10 false, .remove 1 10]
    (run (step ofdpaDriver) (∅, {}) es).2.groups.lookup (ofdpaDriver.groupIdL2Flood 10 10) =
      some (.buckets {ofdpaDriver.groupIdL2Interface 2 10}) := by
  have h := ((mirrors_run ofdpaDriver ofdpaDriver_encodes
    [.add 1 10 true, .add 2 10 false, .remove 1 10] (by decide)).1 10 (by decide)).1
  exact h

/-! ## What a removal takes out -/

/-- The port floods the VLAN: `egress_bridge_port_vlan_add` put its interface group there. A LAG
is never put there. -/
def InFlood (fm : FmDriver) (dom : L2Domain) (port vid : Nat) : Prop :=
  ¬ Nbi.isLag port ∧ fm.groupIdL2Interface port vid ∈ dom.members vid

instance (fm : FmDriver) (dom : L2Domain) (port vid : Nat) : Decidable (InFlood fm dom port vid) :=
  inferInstanceAs (Decidable (_ ∧ _))

/-- The removal of the port takes out of the VLAN only what its addition inserts, and leaves the
membership of every other port in every VLAN as it is. -/
def RemovesOnly (fm : FmDriver) (dom : L2Domain) (port vid : Nat) : Prop :=
  let dom' := (egressBridgePortVlanRemove fm dom port vid).1
  (∀ g ∈ dom.members vid, g ∉ dom'.members vid →
    ¬ Nbi.isLag port ∧ g = fm.groupIdL2Interface port vid) ∧
  ∀ q, Nbi.IsPort q → q ≠ port → ∀ w, InFlood fm dom' q w ↔ InFlood fm dom q w

/-- A removal takes one group id out of one VLAN. -/
theorem members_remove (fm : FmDriver) (dom : L2Domain) (port vid w : Nat) :
    (egressBridgePortVlanRemove fm dom port vid).1.members w =
      if w = vid then (dom.members vid).erase (fm.groupIdL2Interface port vid)
      else dom.members w := by
  unfold egressBridgePortVlanRemove
  cases hl : dom.lookup vid with
  | none =>
    have hm : dom.members vid = ∅ := by simp [members, hl]
    by_cases h : w = vid
    · subst h; simp [hm]
    · simp [h]
  | some set =>
    have hm : dom.members vid = set := by simp [members, hl]
    rw [members_insert, hm]

/-- A LAG has the interface group id of the physical port with its number. -/
theorem inFlood_getPortNum {fm : FmDriver} (hfm : fm.Encodes) {dom : L2Domain} {port vid : Nat} :
    InFlood fm dom (Nbi.getPortNum port) vid ↔
      fm.groupIdL2Interface port vid ∈ dom.members vid := by
  have hnum : ¬ Nbi.isLag (Nbi.getPortNum port) := by
    rw [Nbi.isLag_iff, Nbi.getPortNum_eq]; omega
  have hsame : fm.groupIdL2Interface (Nbi.getPortNum port) vid = fm.groupIdL2Interface port vid :=
    (hfm.l2Interface _ _ _ _).mpr ⟨by rw [Nbi.getPortNum_eq]; omega, rfl⟩
  rw [InFlood, hsame]
  exact and_iff_right hnum

/-- **What a removal takes out.** In every `l2_domain`, the removal of a port takes out only what
the addition of that port inserted, exactly if the port is not a LAG whose number is that of a
physical port in the VLAN. -/
theorem removesOnly_iff (fm : FmDriver) (hfm : fm.Encodes) (dom : L2Domain) (port vid : Nat)
    (hport : Nbi.IsPort port) :
    RemovesOnly fm dom port vid ↔
      ¬ (Nbi.isLag port ∧ InFlood fm dom (Nbi.getPortNum port) vid) := by
  rw [inFlood_getPortNum hfm]
  constructor
  · -- The group of the physical port is taken out, and a LAG inserts none.
    rintro ⟨honly, -⟩ ⟨hlag, hin⟩
    have hout : fm.groupIdL2Interface port vid ∉
        (egressBridgePortVlanRemove fm dom port vid).1.members vid := by
      rw [members_remove, if_pos rfl]; exact Finset.notMem_erase _ _
    exact (honly _ hin hout).1 hlag
  · intro hC
    constructor
    · intro g hg hout
      rw [members_remove, if_pos rfl, Finset.mem_erase, not_and_or, not_not] at hout
      obtain rfl : g = fm.groupIdL2Interface port vid := hout.resolve_right (fun h => h hg)
      exact ⟨fun hlag => hC ⟨hlag, hg⟩, rfl⟩
    · intro q hq hne w
      unfold InFlood
      rw [members_remove]
      by_cases hw : w = vid
      · subst hw
        rw [if_pos rfl, Finset.mem_erase]
        refine and_congr_right fun hql => and_iff_right_of_imp fun hmem he => ?_
        -- A port with the same group id has the same number: `port` is its LAG.
        have hmod := ((hfm.l2Interface q w port w).mp he).1
        rw [Nbi.isLag_iff] at hql
        rcases Nbi.isPort_iff.mp hport with hp | hp
        · rcases Nbi.isPort_iff.mp hq with hq | hq <;> omega
        · refine hC ⟨Nbi.isLag_iff.mpr hp, ?_⟩
          rw [← he]; exact hmem
      · rw [if_neg hw]

/-- A physical port that leaves: the condition holds. -/
theorem removesOnly_iff_port1 :
    RemovesOnly ofdpaDriver (run (step ofdpaDriver) (∅, {}) [.add 1 10 true, .add 2 10 true]).1
      1 10 :=
  (removesOnly_iff ofdpaDriver ofdpaDriver_encodes _ 1 10 ⟨1, .inl rfl⟩).mpr (by decide)

/-- LAG 1 leaves VLAN 10, and physical port 1 is no longer in the flood group. -/
theorem removeLag1_takes_port1 :
    ¬ RemovesOnly ofdpaDriver (run (step ofdpaDriver) (∅, {}) [.add 1 10 true]).1
      (Nbi.combinePortType 1 .lag) 10 := by
  intro h
  have hin : InFlood ofdpaDriver (run (step ofdpaDriver) (∅, {}) [.add 1 10 true]).1 1 10 :=
    by decide
  have hout := ((h.2 1 ⟨1, .inl rfl⟩ (by decide) 10).mpr hin).2
  revert hout
  decide

/-! ## An addition that is taken back -/

/-- The port is not in the VLAN: it has no interface group there and does not flood it. -/
def NotConfigured (fm : FmDriver) (dom : L2Domain) (sw : Switch) (port vid : Nat) : Prop :=
  sw.groups.lookup (fm.interfaceGroup port vid) = none ∧ ¬ InFlood fm dom port vid

/-- The interface groups, the flood group of the VLAN and its DLF flow are as they were. -/
structure Restored (fm : FmDriver) (vid : Nat) (sw sw' : Switch) : Prop where
  interface : ∀ p w, sw'.groups.lookup (fm.groupIdL2Interface p w) =
    sw.groups.lookup (fm.groupIdL2Interface p w)
  trunk : ∀ p w, sw'.groups.lookup (fm.groupIdL2TrunkInterface p w) =
    sw.groups.lookup (fm.groupIdL2TrunkInterface p w)
  flood : sw'.groups.lookup (fm.groupIdL2Flood vid vid) =
    sw.groups.lookup (fm.groupIdL2Flood vid vid)
  dlf : sw'.flows.lookup (.dlfVlan vid) = sw.flows.lookup (.dlfVlan vid)

section Restore

variable {fm : FmDriver} {dom : L2Domain} {sw sw₁ sw₂ : Switch} {port vid : Nat}

/-- A port that is no LAG gets its interface group, and floods the VLAN. -/
theorem step_add (hfm : fm.Encodes) (hlag : Nbi.isLag port = false) (hm : Mirrors fm dom sw vid)
    (untagged : Bool) :
    let set := insert (fm.groupIdL2Interface port vid) (dom.members vid)
    ∃ sw', Floods fm vid set
        (sw.apply (.groupAdd (fm.groupIdL2Interface port vid) (.l2Interface untagged))) sw' ∧
      step fm (dom, sw) (.add port vid untagged) = (dom.insert vid set, sw') := by
  intro set
  have hm₁ : Mirrors fm dom (sw.apply (.groupAdd (fm.groupIdL2Interface port vid)
      (.l2Interface untagged))) vid := by
    refine ⟨?_, hm.2⟩
    rw [Switch.groups_groupAdd, if_neg (hfm.interface_ne_flood port vid vid vid).symm]
    exact hm.1
  refine ⟨_, hm₁.floodAdd (g := fm.groupIdL2Interface port vid) rfl, ?_⟩
  simp only [step, exec, egressBridgePortVlanAdd, egressPortVlanAdd, hlag, Bool.false_eq_true,
    if_false]
  rfl

variable (port) in
/-- The VLAN is known: the port goes out of the flood group, and then its interface group goes. -/
theorem step_remove (hm : Mirrors fm dom sw vid) (hmem : vid ∈ dom) :
    ∃ sw', Floods fm vid ((dom.members vid).erase (fm.groupIdL2Interface port vid)) sw sw' ∧
      (step fm (dom, sw) (.remove port vid)).2 =
        sw'.apply (.groupDelete (fm.interfaceGroup port vid)) := by
  obtain ⟨set, hset⟩ := Table.mem_iff_lookup.mp hmem
  have hmembers : dom.members vid = set := by simp [members, hset]
  refine ⟨_, hm.floodRemove (g := fm.groupIdL2Interface port vid) rfl, ?_⟩
  simp only [step, exec, egressBridgePortVlanRemove, hset, hmembers, Switch.applyAll_append,
    Switch.applyAll_cons, Switch.apply_barrier]
  unfold egressPortVlanRemove FmDriver.interfaceGroup
  cases Nbi.isLag port <;> rfl

/-- A new interface group goes again, and the flood group gets the members that it had. -/
theorem restored_of_floods {id : Nat} {g : Group}
    (hno : sw.groups.lookup id = none) (hm : Mirrors fm dom sw vid) {set set' : Finset Nat}
    (hset' : set' = dom.members vid) (hf₁ : Floods fm vid set (sw.apply (.groupAdd id g)) sw₁)
    (hf₂ : Floods fm vid set' sw₁ sw₂) : Restored fm vid sw (sw₂.apply (.groupDelete id)) := by
  subst hset'
  have hgroups : ∀ i, (sw₂.apply (.groupDelete id)).groups.lookup i = sw.groups.lookup i := by
    intro i
    rw [Switch.groups_groupDelete, hf₂.groups, hf₁.groups, Switch.groups_groupAdd]
    by_cases hi : i = id
    · rw [if_pos hi, hi]
      exact hno.symm
    · rw [if_neg hi, if_neg hi]
      split
      · subst_vars
        exact hm.1.symm
      · rfl
  refine ⟨fun _ _ => hgroups _, fun _ _ => hgroups _, hgroups _, ?_⟩
  rw [Switch.flows_groupDelete, hf₂.flows, if_pos rfl]
  exact hm.2.symm

theorem restored_port (hfm : fm.Encodes) (hlag : Nbi.isLag port = false)
    (hm : Mirrors fm dom sw vid) (h : NotConfigured fm dom sw port vid) (untagged : Bool) :
    Restored fm vid sw (run (step fm) (dom, sw) [.add port vid untagged, .remove port vid]).2 := by
  obtain ⟨hno, hflood⟩ := h
  have hnot : fm.groupIdL2Interface port vid ∉ dom.members vid :=
    fun hg => hflood ⟨by simp [hlag], hg⟩
  have hgroup : fm.interfaceGroup port vid = fm.groupIdL2Interface port vid := by
    simp [FmDriver.interfaceGroup, hlag]
  rw [hgroup] at hno
  obtain ⟨sw₁, hf₁, hadd⟩ := step_add hfm hlag hm untagged
  obtain ⟨sw₂, hf₂, hremove⟩ := step_remove port hf₁.mirrors_self
    (AList.mem_insert _ |>.mpr (.inl rfl))
  rw [run_cons, hadd, run_cons, run_nil, hremove, hgroup]
  refine restored_of_floods hno hm ?_ hf₁ hf₂
  rw [members_insert, if_pos rfl, Finset.erase_insert hnot]

/-- A LAG whose VLAN is known gets its trunk interface group and loses it, and the flood group loses
the physical port of the same number. -/
theorem restored_lag_iff (hfm : fm.Encodes) (hlag : Nbi.isLag port = true)
    (hm : Mirrors fm dom sw vid) (h : NotConfigured fm dom sw port vid) (untagged : Bool) :
    Restored fm vid sw (run (step fm) (dom, sw) [.add port vid untagged, .remove port vid]).2 ↔
      vid ∈ dom ∧ fm.groupIdL2Interface port vid ∉ dom.members vid := by
  have hgroup : fm.interfaceGroup port vid = fm.groupIdL2TrunkInterface port vid := by
    simp [FmDriver.interfaceGroup, hlag]
  have hno := h.1
  rw [hgroup] at hno
  have hne := hfm.trunk_ne_flood port vid vid vid
  have hadd : step fm (dom, sw) (.add port vid untagged) =
      (dom, sw.apply (.groupAdd (fm.groupIdL2TrunkInterface port vid)
        (.l2TrunkInterface untagged))) := by
    simp only [step, exec, egressBridgePortVlanAdd, egressPortVlanAdd, hlag, if_true]
    rfl
  rw [run_cons, hadd, run_cons, run_nil]
  have hm₁ : Mirrors fm dom (sw.apply (.groupAdd (fm.groupIdL2TrunkInterface port vid)
      (.l2TrunkInterface untagged))) vid := by
    refine ⟨?_, hm.2⟩
    rw [Switch.groups_groupAdd, if_neg hne.symm]
    exact hm.1
  by_cases hmem : vid ∈ dom
  · obtain ⟨sw₂, hf, hremove⟩ := step_remove port hm₁ hmem
    rw [hremove, hgroup]
    constructor
    · refine fun hr => ⟨hmem, fun hg => ?_⟩
      have hflood := hr.flood
      rw [Switch.groups_groupDelete, if_neg hne.symm, hf.groups, if_pos rfl, hm.1,
        if_neg (Finset.ne_empty_of_mem hg)] at hflood
      split at hflood
      · cases hflood
      · have herase := Group.buckets.inj (Option.some.inj hflood)
        exact Finset.notMem_erase _ _ (herase ▸ hg)
    · rintro ⟨-, hnot⟩
      exact restored_of_floods hno hm (Finset.erase_eq_of_notMem hnot) hm₁.floods hf
  · -- The removal returns before it gets to the trunk interface group.
    refine iff_of_false (fun hr => ?_) fun hc => hmem hc.1
    have htrunk := hr.trunk port vid
    have hlookup := Table.not_mem_iff_lookup.mp hmem
    simp only [step, exec, egressBridgePortVlanRemove, hlookup, Switch.applyAll_nil,
      Switch.groups_groupAdd, if_true, hno] at htrunk
    cases htrunk

end Restore

/-- **An addition that is taken back** leaves no trace, exactly if the port is no LAG, or the VLAN is
known and the physical port with the number of the LAG is not in its flood group. The number of
ports in the LAG does not matter. -/
theorem restored_iff (fm : FmDriver) (hfm : fm.Encodes) (dom : L2Domain) (sw : Switch)
    (port vid : Nat) (untagged : Bool) (hm : Mirrors fm dom sw vid)
    (h : NotConfigured fm dom sw port vid) :
    Restored fm vid sw (run (step fm) (dom, sw) [.add port vid untagged, .remove port vid]).2 ↔
      (Nbi.isLag port → vid ∈ dom ∧ ¬ InFlood fm dom (Nbi.getPortNum port) vid) := by
  cases hlag : Nbi.isLag port with
  | false => exact iff_of_true (restored_port hfm hlag hm h untagged) fun hl => nomatch hl
  | true =>
    rw [restored_lag_iff hfm hlag hm h untagged, inFlood_getPortNum hfm]
    simp

/-- Port 2 floods VLAN 10. -/
def port2Floods : L2Domain × Switch := run (step ofdpaDriver) (∅, {}) [.add 2 10 false]

/-- LAG 1 joins the VLAN, and physical port 1 is not there. -/
theorem restored_iff_lag1 :
    Restored ofdpaDriver 10 port2Floods.2 (run (step ofdpaDriver) port2Floods
      [.add (Nbi.combinePortType 1 .lag) 10 true, .remove (Nbi.combinePortType 1 .lag) 10]).2 := by
  have hmirrors : Mirrors ofdpaDriver port2Floods.1 port2Floods.2 10 :=
    (mirrors_run ofdpaDriver ofdpaDriver_encodes _ (by decide)).1 10 (by decide)
  exact (restored_iff ofdpaDriver ofdpaDriver_encodes port2Floods.1 port2Floods.2
    (Nbi.combinePortType 1 .lag) 10 true hmirrors ⟨by decide, by decide⟩).mpr
      fun _ => ⟨by decide, by decide⟩

/-- LAG 1 joins an empty switch, and its trunk interface group stays. -/
theorem removeLag1_not_restored :
    ¬ Restored ofdpaDriver 10 {} (run (step ofdpaDriver) (∅, {})
      [.add (Nbi.combinePortType 1 .lag) 10 true, .remove (Nbi.combinePortType 1 .lag) 10]).2 := by
  intro h
  have htrunk := h.trunk (Nbi.combinePortType 1 .lag) 10
  revert htrunk
  decide

end L2Domain

end Basebox
