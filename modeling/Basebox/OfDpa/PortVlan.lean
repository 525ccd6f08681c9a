import Basebox.OfDpa.Flood

/-!
# The VLAN entries of a port (`src/of-dpa/controller.cc`)

The calls with which `nl_vlan` programs a port: flow entries of the VLAN table at ingress, and
interface groups at egress.

* `SwiCall`, `SwiCall.exec`: the calls and what they do on a connected switch.
* `PortEntries`: what the switch has for a port and a VLAN. `entries_exec`: how each call changes
  it, which is all that is used of the calls below.

The matches of the flow entries come from rofl-ofdpa, which is not part of the repository:
`VlanDriver` has them as parameters, and `VlanDriver.Encodes` what is assumed of them.
-/

namespace Basebox

/-- The ids of the interfaces of the switch: physical ports and LAGs. -/
abbrev PortId := { p : Nat // Nbi.IsPort p }

/-- The first physical port. -/
def port1 : PortId := ⟨1, Nbi.isPort_iff.mpr (by decide)⟩

/-- What a flow entry of the VLAN table does with its packets. -/
inductive VlanAction where
  /-- They stay in their VLAN, and get a VRF. -/
  | filter (vrfId : Nat)
  /-- They are assigned to a VLAN. -/
  | assign (vid : Nat)
  deriving DecidableEq

/-- The flow entries of `rofl::openflow::rofl_ofdpa_fm_driver` for VLANs, by their matches:
`enable_port_vid_ingress`, `enable_port_pvid_ingress`, `enable_port_pop_tag_ingress` and
`enable_vlan_egress_push_tag`, with the `disable_*` for each. -/
structure VlanDriver (M : Type) extends FmDriver where
  portVidIngress (port vid : Nat) : M
  portPvidIngress (port vid : Nat) : M
  portPopTagIngress (port innerVid outerVid : Nat) : M
  vlanEgressPushTag (port vid pushVid : Nat) : M

/-- The entry of a VLAN matches the port and the VLAN, that of a PVID the untagged packets of the
port, so there is one for each port. -/
structure VlanDriver.Encodes {M : Type} (fm : VlanDriver M) : Prop where
  groups : fm.toFmDriver.Encodes
  vid : ∀ p v q w, v < 2 ^ 12 → w < 2 ^ 12 →
    (fm.portVidIngress p v = fm.portVidIngress q w ↔ p = q ∧ v = w)
  pvid : ∀ p v q w, fm.portPvidIngress p v = fm.portPvidIngress q w ↔ p = q
  vid_ne_pvid : ∀ p v q w, fm.portVidIngress p v ≠ fm.portPvidIngress q w

/-- The encoding of OF-DPA: a port with the VLANs that are matched, none for untagged packets. -/
def ofdpaVlanDriver : VlanDriver (Nat × List Nat) where
  toFmDriver := ofdpaDriver
  portVidIngress port vid := (port, [vid % 2 ^ 12])
  portPvidIngress port _ := (port, [])
  portPopTagIngress port innerVid outerVid := (port, [outerVid % 2 ^ 12, innerVid % 2 ^ 12])
  vlanEgressPushTag port vid _ := (port, [vid % 2 ^ 12])

theorem ofdpaVlanDriver_encodes : ofdpaVlanDriver.Encodes where
  groups := ofdpaDriver_encodes
  vid _ _ _ _ hv hw := by
    simp only [ofdpaVlanDriver, Prod.mk.injEq, List.cons.injEq, and_true, Nat.mod_eq_of_lt hv,
      Nat.mod_eq_of_lt hw]
  pvid _ _ _ _ := by simp [ofdpaVlanDriver]
  vid_ne_pvid _ _ _ _ := by simp [ofdpaVlanDriver]

/-- The tables of the switch, and the `l2_domain` of the controller. -/
structure PortSwitch (M : Type) where
  vlans : Table M VlanAction := ∅
  /-- The VRF of the packets that lose their outer tag. -/
  popTags : Table M Nat := ∅
  /-- The outer tag that packets get. -/
  pushTags : Table M Nat := ∅
  sw : Switch := {}
  l2Domain : L2Domain := ∅

/-- The calls of `nl_vlan` to the switch. -/
inductive SwiCall where
  | ingressPortVlanAdd (port : PortId) (vid : Nat) (pvid : Bool) (vrfId : Nat)
  | ingressPortVlanRemove (port : PortId) (vid : Nat) (pvid : Bool) (vrfId : Nat)
  | ingressPortPvidAdd (port : PortId) (pvid : Nat)
  | ingressPortPvidRemove (port : PortId) (pvid : Nat)
  | ingressPortPopVlanAdd (port : PortId) (outerVid innerVid vrfId : Nat)
  | ingressPortPopVlanRemove (port : PortId) (outerVid innerVid vrfId : Nat)
  | egressPortVlanAdd (port : PortId) (vid : Nat) (untagged update : Bool)
  | egressPortVlanRemove (port : PortId) (vid : Nat)
  | egressPortPushVlanAdd (port : PortId) (vid pushVid : Nat)
  | egressPortPushVlanRemove (port : PortId) (vid pushVid : Nat)
  | egressBridgePortVlanAdd (port : PortId) (vid : Nat) (untagged : Bool)
  | egressBridgePortVlanRemove (port : PortId) (vid : Nat)
  | l2AddrRemoveAllInVlan (port : PortId) (vid : Nat)
  deriving DecidableEq

section Calls

variable {M : Type} [DecidableEq M] (fm : VlanDriver M)

/-- What a call does on a connected switch. The addresses of the bridge are not part of the
model. -/
def SwiCall.exec (s : PortSwitch M) : SwiCall → PortSwitch M
  | .ingressPortVlanAdd port vid pvid vrfId =>
    let vlans := s.vlans.insert (fm.portVidIngress port vid) (.filter vrfId)
    { s with vlans := if pvid then vlans.insert (fm.portPvidIngress port vid) (.assign vid)
                      else vlans }
  | .ingressPortVlanRemove port vid pvid _ =>
    let vlans := s.vlans.erase (fm.portVidIngress port vid)
    { s with vlans := if pvid then vlans.erase (fm.portPvidIngress port vid) else vlans }
  | .ingressPortPvidAdd port pvid =>
    { s with vlans := s.vlans.insert (fm.portPvidIngress port pvid) (.assign pvid) }
  | .ingressPortPvidRemove port pvid =>
    { s with vlans := s.vlans.erase (fm.portPvidIngress port pvid) }
  | .ingressPortPopVlanAdd port outerVid innerVid vrfId =>
    { s with popTags := s.popTags.insert (fm.portPopTagIngress port innerVid outerVid) vrfId }
  | .ingressPortPopVlanRemove port outerVid innerVid _ =>
    { s with popTags := s.popTags.erase (fm.portPopTagIngress port innerVid outerVid) }
  | .egressPortVlanAdd port vid untagged update =>
    { s with
      sw := s.sw.applyAll (L2Domain.egressPortVlanAdd fm.toFmDriver port vid untagged update) }
  | .egressPortVlanRemove port vid =>
    { s with sw := s.sw.applyAll (L2Domain.egressPortVlanRemove fm.toFmDriver port vid) }
  | .egressPortPushVlanAdd port vid pushVid =>
    { s with pushTags := s.pushTags.insert (fm.vlanEgressPushTag port vid pushVid) pushVid }
  | .egressPortPushVlanRemove port vid pushVid =>
    { s with pushTags := s.pushTags.erase (fm.vlanEgressPushTag port vid pushVid) }
  | .egressBridgePortVlanAdd port vid untagged =>
    let (l2Domain, ms) := L2Domain.egressBridgePortVlanAdd fm.toFmDriver s.l2Domain port vid untagged
    { s with sw := s.sw.applyAll ms, l2Domain := l2Domain }
  | .egressBridgePortVlanRemove port vid =>
    let (l2Domain, ms) := L2Domain.egressBridgePortVlanRemove fm.toFmDriver s.l2Domain port vid
    { s with sw := s.sw.applyAll ms, l2Domain := l2Domain }
  | .l2AddrRemoveAllInVlan _ _ => s

/-- A call with its result. A call that fails changes nothing on the switch; which of the errors it
returns does not matter. -/
def swiCall (ok : SwiCall → Bool) (c : SwiCall) (s : PortSwitch M) : Int × PortSwitch M :=
  if ok c then (0, c.exec fm s) else (-EINVAL, s)

/-- A loop that stops at the first call that fails; `rv` is the result before it. -/
def swiUntilFail (ok : SwiCall → Bool) : Int → List SwiCall → PortSwitch M → Int × PortSwitch M
  | rv, [], s => (rv, s)
  | _, c :: cs, s =>
    let (rv, s) := swiCall fm ok c s
    if rv < 0 then (rv, s) else swiUntilFail ok rv cs s

/-- A loop that ignores the results. -/
def swiEach (ok : SwiCall → Bool) (cs : List SwiCall) (s : PortSwitch M) : PortSwitch M :=
  cs.foldl (fun s c => (swiCall fm ok c s).2) s

/-! ## The entries of a port -/

/-- What the switch has for a port and a VLAN. -/
structure PortEntries where
  ingress : Option VlanAction := none
  /-- The VLAN of the untagged packets of the port. -/
  pvid : Option VlanAction := none
  egress : Option Group := none
  deriving DecidableEq

/-- The entries of the VLAN itself. -/
def PortEntries.inOut (e : PortEntries) : Option VlanAction × Option Group := (e.ingress, e.egress)

theorem PortEntries.eq_iff_of_inOut {e e' : PortEntries} (h : e.inOut = e'.inOut) :
    e = e' ↔ e.pvid = e'.pvid := by
  obtain ⟨i, p, g⟩ := e
  obtain ⟨i', p', g'⟩ := e'
  simp only [PortEntries.inOut, Prod.mk.injEq] at h
  simp [h.1, h.2]

/-- What the switch has for a port and a VLAN. -/
def PortSwitch.entries (s : PortSwitch M) (port : PortId) (vid : Nat) : PortEntries where
  ingress := s.vlans.lookup (fm.portVidIngress port vid)
  pvid := s.vlans.lookup (fm.portPvidIngress port vid)
  egress := s.sw.groups.lookup (fm.interfaceGroup port vid)

/-- The interface group of a port. -/
def interfaceOf (port : PortId) (untagged : Bool) : Group :=
  if Nbi.isLag port then .l2TrunkInterface untagged else .l2Interface untagged

/-- What a call does to the entries of a port and a VLAN. An interface group that is there is not
added again. (What `egress_bridge_port_vlan_remove` does depends on `l2_domain`; it is not in the
lemma below.) -/
def SwiCall.effect (port : PortId) (vid : Nat) (e : PortEntries) : SwiCall → PortEntries
  | .ingressPortVlanAdd q w pvid vrfId =>
    { e with
      ingress := if port = q ∧ vid = w then some (.filter vrfId) else e.ingress
      pvid := if port = q ∧ pvid then some (.assign w) else e.pvid }
  | .ingressPortVlanRemove q w pvid _ =>
    { e with
      ingress := if port = q ∧ vid = w then none else e.ingress
      pvid := if port = q ∧ pvid then none else e.pvid }
  | .ingressPortPvidAdd q w => { e with pvid := if port = q then some (.assign w) else e.pvid }
  | .ingressPortPvidRemove q _ => { e with pvid := if port = q then none else e.pvid }
  | .egressPortVlanAdd q w untagged true =>
    { e with
      egress := if port = q ∧ vid = w then e.egress.map fun _ => interfaceOf q untagged
        else e.egress }
  | .egressPortVlanAdd q w untagged false | .egressBridgePortVlanAdd q w untagged =>
    { e with
      egress := if port = q ∧ vid = w then some (e.egress.getD (interfaceOf q untagged))
        else e.egress }
  | .egressPortVlanRemove q w =>
    { e with egress := if port = q ∧ vid = w then none else e.egress }
  | _ => e

/-- The VLAN of the interface group, or of the flow entry, that a call is about. -/
def SwiCall.vid : SwiCall → Nat
  | .ingressPortVlanAdd _ vid _ _ | .ingressPortVlanRemove _ vid _ _ | .ingressPortPvidAdd _ vid
  | .ingressPortPvidRemove _ vid | .ingressPortPopVlanAdd _ _ vid _
  | .ingressPortPopVlanRemove _ _ vid _ | .egressPortVlanAdd _ vid _ _
  | .egressPortVlanRemove _ vid | .egressPortPushVlanAdd _ vid _ | .egressPortPushVlanRemove _ vid _
  | .egressBridgePortVlanAdd _ vid _ | .egressBridgePortVlanRemove _ vid
  | .l2AddrRemoveAllInVlan _ vid => vid

/-- A call whose effect on the entries is `effect`. -/
def SwiCall.Local (c : SwiCall) : Prop :=
  c.vid < 2 ^ 12 ∧ ∀ port vid, c ≠ .egressBridgePortVlanRemove port vid

end Calls

section Entries

variable {M : Type} {fm : VlanDriver M}

/-- Different ports and VLANs have different interface groups. -/
theorem VlanDriver.Encodes.interfaceGroup (h : fm.Encodes) (p q : PortId) {v w : Nat}
    (hv : v < 2 ^ 12) (hw : w < 2 ^ 12) :
    fm.interfaceGroup p v = fm.interfaceGroup q w ↔ p = q ∧ v = w := by
  rw [h.groups.interfaceGroup_iff p.2 q.2, Subtype.coe_inj, Nat.mod_eq_of_lt hv,
    Nat.mod_eq_of_lt hw]

theorem VlanDriver.Encodes.interfaceGroup_ne_flood (h : fm.Encodes) (p : PortId) (v i w : Nat) :
    fm.interfaceGroup p v ≠ fm.groupIdL2Flood i w := by
  unfold FmDriver.interfaceGroup
  split
  · exact h.groups.trunk_ne_flood _ _ _ _
  · exact h.groups.interface_ne_flood _ _ _ _

/-- The messages of `egress_port_vlan_add` are about the interface group. -/
theorem egressPortVlanAdd_eq (q : PortId) (w : Nat) (u update : Bool) :
    L2Domain.egressPortVlanAdd fm.toFmDriver q w u update =
      [Msg.group update (fm.interfaceGroup q w) (interfaceOf q u)] := by
  unfold L2Domain.egressPortVlanAdd FmDriver.interfaceGroup interfaceOf
  split <;> rfl

theorem egressPortVlanRemove_eq (q : PortId) (w : Nat) :
    L2Domain.egressPortVlanRemove fm.toFmDriver q w =
      [.groupDelete (fm.interfaceGroup q w), .barrier] := by
  unfold L2Domain.egressPortVlanRemove FmDriver.interfaceGroup
  split <;> rfl

/-- The rest of `egress_bridge_port_vlan_add` is about the flood group. -/
theorem egressBridgePortVlanAdd_groups (h : fm.Encodes) (dom : L2Domain) (sw : Switch)
    (p q : PortId) (v w : Nat) (u : Bool) :
    (sw.applyAll (L2Domain.egressBridgePortVlanAdd fm.toFmDriver dom q w u).2).groups.lookup
        (fm.interfaceGroup p v) =
      (sw.applyAll (L2Domain.egressPortVlanAdd fm.toFmDriver q w u false)).groups.lookup
        (fm.interfaceGroup p v) := by
  have hne := h.interfaceGroup_ne_flood p v w w
  unfold L2Domain.egressBridgePortVlanAdd
  split
  · rfl
  · simp only
    rw [List.append_assoc, Switch.applyAll_append]
    generalize sw.applyAll (L2Domain.egressPortVlanAdd fm.toFmDriver q w u false) = sw'
    simp only [Switch.applyAll_append, Msg.group]
    split <;> split <;>
      simp [Switch.groups_groupAdd, Switch.groups_groupModify, Switch.groups_flowAdd, hne]

variable [DecidableEq M]

/-- **What a call does to the entries of a port**, for VLAN ids of 12 bits. -/
theorem entries_exec (h : fm.Encodes) (s : PortSwitch M) (p : PortId) {v : Nat} (hv : v < 2 ^ 12)
    (c : SwiCall) (hc : c.Local) :
    (c.exec fm s).entries fm p v = c.effect p v (s.entries fm p v) := by
  obtain ⟨hw, hnot⟩ := hc
  cases c with
  | ingressPortVlanAdd q w pvid vrfId =>
    have hne := h.vid_ne_pvid p v q w
    have hne' := (h.vid_ne_pvid q w p v).symm
    cases pvid <;>
      simp [SwiCall.exec, PortSwitch.entries, SwiCall.effect, Table.lookup_insert_ite, hne, hne',
        h.vid p v q w hv hw, h.pvid p v q w, Subtype.coe_inj]
  | ingressPortVlanRemove q w pvid vrfId =>
    have hne := h.vid_ne_pvid p v q w
    have hne' := (h.vid_ne_pvid q w p v).symm
    cases pvid <;>
      simp [SwiCall.exec, PortSwitch.entries, SwiCall.effect, Table.lookup_erase_ite, hne, hne',
        h.vid p v q w hv hw, h.pvid p v q w, Subtype.coe_inj]
  | ingressPortPvidAdd q w =>
    simp [SwiCall.exec, PortSwitch.entries, SwiCall.effect, Table.lookup_insert_ite,
      h.vid_ne_pvid p v q w, h.pvid p v q w, Subtype.coe_inj]
  | ingressPortPvidRemove q w =>
    simp [SwiCall.exec, PortSwitch.entries, SwiCall.effect, Table.lookup_erase_ite,
      h.vid_ne_pvid p v q w, h.pvid p v q w, Subtype.coe_inj]
  | egressPortVlanAdd q w u update =>
    have hg := h.interfaceGroup p q hv hw
    simp only [SwiCall.vid] at hg
    by_cases he : p = q ∧ v = w
    · obtain ⟨rfl, rfl⟩ := he
      cases update <;>
        simp [SwiCall.exec, PortSwitch.entries, SwiCall.effect, egressPortVlanAdd_eq, Msg.group,
          Switch.groups_groupAdd, Switch.groups_groupModify]
    · cases update <;>
        simp [SwiCall.exec, PortSwitch.entries, SwiCall.effect, egressPortVlanAdd_eq, Msg.group,
          Switch.groups_groupAdd, Switch.groups_groupModify, mt hg.mp he, he]
  | egressPortVlanRemove q w =>
    have hg := h.interfaceGroup p q hv hw
    simp only [SwiCall.vid] at hg
    simp only [SwiCall.exec, PortSwitch.entries, SwiCall.effect, egressPortVlanRemove_eq,
      Switch.applyAll_cons, Switch.applyAll_nil, Switch.apply_barrier, Switch.groups_groupDelete, hg]
  | egressBridgePortVlanAdd q w u =>
    have hg := h.interfaceGroup p q hv hw
    simp only [SwiCall.vid] at hg
    simp only [SwiCall.exec, PortSwitch.entries, SwiCall.effect, egressBridgePortVlanAdd_groups h]
    by_cases he : p = q ∧ v = w
    · obtain ⟨rfl, rfl⟩ := he
      simp [egressPortVlanAdd_eq, Msg.group, Switch.groups_groupAdd]
    · simp [egressPortVlanAdd_eq, Msg.group, Switch.groups_groupAdd, mt hg.mp he, he]
  | egressBridgePortVlanRemove q w => exact absurd rfl (hnot q w)
  | ingressPortPopVlanAdd | ingressPortPopVlanRemove | egressPortPushVlanAdd
  | egressPortPushVlanRemove | l2AddrRemoveAllInVlan => rfl

/-- `egress_bridge_port_vlan_remove` deletes the interface group, if `l2_domain` has the VLAN. -/
theorem entries_egressBridgePortVlanRemove (h : fm.Encodes) (s : PortSwitch M) (p q : PortId)
    {v w : Nat} (hv : v < 2 ^ 12) (hw : w < 2 ^ 12) :
    ((SwiCall.egressBridgePortVlanRemove q w).exec fm s).entries fm p v =
      { s.entries fm p v with
        egress := if (p = q ∧ v = w) ∧ w ∈ s.l2Domain then none
          else (s.entries fm p v).egress } := by
  have hflood := h.interfaceGroup_ne_flood p v w w
  have hg := h.interfaceGroup p q hv hw
  simp only [SwiCall.exec, PortSwitch.entries, L2Domain.egressBridgePortVlanRemove]
  cases hdom : s.l2Domain.lookup w with
  | none =>
    rw [if_neg fun hm => Table.not_mem_iff_lookup.mpr hdom hm.2]
    rfl
  | some set =>
    have hmem : w ∈ s.l2Domain := Table.mem_iff_lookup.mpr ⟨set, hdom⟩
    simp only [egressPortVlanRemove_eq, hmem, and_true, Switch.applyAll_append,
      Switch.applyAll_cons, Switch.applyAll_nil, Switch.apply_barrier, Switch.groups_groupDelete, hg]
    split
    · rfl
    · split <;>
        simp [Switch.groups_groupModify, Switch.groups_groupDelete, Switch.groups_flowDelete, hflood]

/-! ## The flood groups -/

omit [DecidableEq M] in
/-- The messages for an interface group leave the flood groups alone. -/
theorem mirrors_interfaceGroup (h : fm.Encodes) {dom : L2Domain} {sw : Switch} {v : Nat}
    (hm : L2Domain.Mirrors fm.toFmDriver dom sw v) {ms : List Msg} {q : PortId} {w : Nat}
    (hms : ∀ m ∈ ms, m = .barrier ∨ m = .groupDelete (fm.interfaceGroup q w) ∨
      ∃ update g, m = Msg.group update (fm.interfaceGroup q w) g) :
    L2Domain.Mirrors fm.toFmDriver dom (sw.applyAll ms) v := by
  have hne := (h.interfaceGroup_ne_flood q w v v).symm
  induction ms generalizing sw with
  | nil => exact hm
  | cons m ms ih =>
    obtain ⟨hm', hms⟩ := List.forall_mem_cons.mp hms
    refine ih ?_ hms
    obtain ⟨hgroup, hflow⟩ := hm
    rcases hm' with rfl | rfl | ⟨update, g, rfl⟩
    · exact ⟨hgroup, hflow⟩
    · refine ⟨?_, hflow⟩
      rw [Switch.groups_groupDelete, if_neg hne]
      exact hgroup
    · cases update with
      | false =>
        refine ⟨?_, hflow⟩
        simp only [Msg.group, Bool.false_eq_true, if_false, Switch.groups_groupAdd, hne]
        exact hgroup
      | true =>
        constructor
        · simp only [Msg.group, if_true, Switch.groups_groupModify, if_neg hne]
          exact hgroup
        · simp only [Msg.group, if_true, Switch.flows_groupModify]
          exact hflow

omit [DecidableEq M] in
theorem mirrors_egressPortVlanAdd (h : fm.Encodes) {dom : L2Domain} {sw : Switch} {v : Nat}
    (hm : L2Domain.Mirrors fm.toFmDriver dom sw v) (q : PortId) (w : Nat) (u update : Bool) :
    L2Domain.Mirrors fm.toFmDriver dom
      (sw.applyAll (L2Domain.egressPortVlanAdd fm.toFmDriver q w u update)) v := by
  rw [egressPortVlanAdd_eq]
  refine mirrors_interfaceGroup h (q := q) (w := w) hm fun m hmem => ?_
  exact .inr (.inr ⟨update, _, List.mem_singleton.mp hmem⟩)

omit [DecidableEq M] in
theorem mirrors_egressPortVlanRemove (h : fm.Encodes) {dom : L2Domain} {sw : Switch} {v : Nat}
    (hm : L2Domain.Mirrors fm.toFmDriver dom sw v) (q : PortId) (w : Nat) :
    L2Domain.Mirrors fm.toFmDriver dom
      (sw.applyAll (L2Domain.egressPortVlanRemove fm.toFmDriver q w)) v := by
  rw [egressPortVlanRemove_eq]
  refine mirrors_interfaceGroup h (q := q) (w := w) hm fun m hmem => ?_
  simp only [List.mem_cons, List.not_mem_nil, or_false] at hmem
  rcases hmem with rfl | rfl
  · exact .inr (.inl rfl)
  · exact .inl rfl

/-- Every call keeps the flood groups those of `l2_domain`. -/
theorem mirrors_exec (h : fm.Encodes) {s : PortSwitch M}
    (hm : ∀ v < 2 ^ 12, L2Domain.Mirrors fm.toFmDriver s.l2Domain s.sw v) {c : SwiCall}
    (hw : c.vid < 2 ^ 12) :
    ∀ v < 2 ^ 12, L2Domain.Mirrors fm.toFmDriver (c.exec fm s).l2Domain (c.exec fm s).sw v := by
  intro v hv
  cases c with
  | egressPortVlanAdd q w u update => exact mirrors_egressPortVlanAdd h (hm v hv) q w u update
  | egressPortVlanRemove q w => exact mirrors_egressPortVlanRemove h (hm v hv) q w
  | egressBridgePortVlanAdd q w u =>
    have hadd := fun v hv => mirrors_egressPortVlanAdd h (hm v hv) q w u false
    simp only [SwiCall.exec, L2Domain.egressBridgePortVlanAdd]
    split
    · exact hadd v hv
    · simp only [List.append_assoc, Switch.applyAll_append, Switch.applyAll_cons,
        Switch.apply_barrier, Switch.applyAll_nil]
      have hf := (hadd w hw).floodAdd (g := fm.groupIdL2Interface q w) rfl
      exact hf.mirrors h.groups hw hv (hadd v hv)
  | egressBridgePortVlanRemove q w =>
    simp only [SwiCall.exec, L2Domain.egressBridgePortVlanRemove]
    cases hl : s.l2Domain.lookup w with
    | none => exact hm v hv
    | some set =>
      have hset : set.erase (fm.groupIdL2Interface q w) =
          (s.l2Domain.members w).erase (fm.groupIdL2Interface q w) := by
        simp [L2Domain.members, hl]
      have hf := (hm w hw).floodRemove hset
      simp only [Switch.applyAll_append, Switch.applyAll_cons, Switch.apply_barrier]
      exact mirrors_egressPortVlanRemove h (hf.mirrors h.groups hw hv (hm v hv)) q w
  | _ => exact hm v hv

end Entries

end Basebox
