import Basebox.Netlink.BridgeRelease

/-!
# What a bridge port is configured to (`src/netlink/nl_bridge.cc`)

`update_vlans` is told what the VLANs of a port were and what they are, and programs the difference.

* `VlanAt`: a VLAN of a bridge port as `nl_vlan` records it and the switch has it. A turn of the loop
  of `update_vlans` changes one VLAN: `VlanAt.gain`, `VlanAt.lose`, `VlanAt.retag` say how, and
  `VlanAt.of_calls` that the others stay.
* `Reflects`: the VLANs and the PVID of a port are those of its link.
* `reflects_updateVlans`: what a port that reflected the old link has after `update_vlans`.
* `updateVlans_incremental`: updating from an old link to a new one ends with the same as adding the
  port with the new link.

No call to the switch fails here, and the port is a physical one. A VLAN that is a VXLAN domain is
none of the VLANs of the port: there it is an access port.
-/

namespace Basebox

/-! ## A VLAN of a port -/

section VlanAt

variable {M : Type} [DecidableEq M]

/-- What `nl_vlan` and the switch have of a bridge port in a VLAN: nothing, or the VLAN, untagged or
not. -/
structure VlanAt (env : VlanEnv M) (p : PortId) (s : NlVlan M) (v : Nat) (x : Option Bool) :
    Prop where
  recorded : (s.vlansOfPort p).lookup v = x.map fun untagged => (0, !untagged)
  ingress : (s.swi.entries env.fm p v).ingress = x.map fun _ => .filter (s.getVrfId v)
  egress : (s.swi.entries env.fm p v).egress = x.map (interfaceOf p)
  flood : env.fm.groupIdL2Interface p v ∈ s.swi.l2Domain.members v ↔ x.isSome

/-- The entry for the untagged packets of a port. -/
def PvidAt (env : VlanEnv M) (p : PortId) (s : NlVlan M) (pv : Option Nat) : Prop :=
  ∀ v < 2 ^ 12, (s.swi.entries env.fm p v).pvid = pv.map .assign

variable {env : VlanEnv M} {p : PortId} {s s' : NlVlan M} {cs : List SwiCall} {v w : Nat}
  {x : Option Bool} {pv : Option Nat}

/-- Calls for other VLANs. -/
theorem VlanAt.of_calls (hE : env.fm.Encodes) (hw : w < 2 ^ 12) (h : VlanAt env p s w x)
    (hcs : ∀ c ∈ cs, c.vid < 2 ^ 12 ∧ w ≠ c.vid) (hswi : s'.swi = execAll env.fm cs s.swi)
    (hrecord : (s'.vlansOfPort p).lookup w = (s.vlansOfPort p).lookup w)
    (hvrf : s'.vlanVrf = s.vlanVrf) : VlanAt env p s' w x := by
  have hinOut : (s'.swi.entries env.fm p w).inOut = (s.swi.entries env.fm p w).inOut := by
    rw [hswi]
    exact execAll_keeps (I := fun sw => (sw.entries env.fm p w).inOut = _) rfl fun c hc sw hsw =>
      (inOut_exec_of_vid_ne hE hw (hcs c hc).1 (hcs c hc).2 sw).trans hsw
  have hmembers : s'.swi.l2Domain.members w = s.swi.l2Domain.members w := by
    rw [hswi]
    exact execAll_keeps (I := fun sw => sw.l2Domain.members w = _) rfl fun c hc sw hsw =>
      (members_exec_of_vid_ne (hcs c hc).2 sw).trans hsw
  simp only [PortEntries.inOut, Prod.mk.injEq] at hinOut
  constructor
  · rw [hrecord, h.recorded]
  · rw [hinOut.1, h.ingress, NlVlan.getVrfId, NlVlan.getVrfId, hvrf]
  · rw [hinOut.2, h.egress]
  · rw [hmembers, h.flood]

/-- Calls that are not about the untagged packets. -/
theorem PvidAt.of_calls (hE : env.fm.Encodes) (h : PvidAt env p s pv)
    (hcs : ∀ c ∈ cs, c.vid < 2 ^ 12 ∧ c.KeepsPvid) (hswi : s'.swi = execAll env.fm cs s.swi) :
    PvidAt env p s' pv := by
  intro w hw
  rw [hswi]
  exact execAll_keeps (I := fun sw => (sw.entries env.fm p w).pvid = _) (h w hw) fun c hc sw hsw =>
    (pvid_exec hE hw (hcs c hc).1 (hcs c hc).2 sw).trans hsw

/-! ## The PVID -/

section Pvid

variable (hE : env.fm.Encodes) (t : Table PortId Nat) {n : Nat} (hn : n < 2 ^ 12)
include hE hn

/-- The VLANs stay when the port gets a PVID. -/
theorem VlanAt.addPvid (hv : v < 2 ^ 12) (h : VlanAt env p s v x) :
    VlanAt env p { s with
      portPvid := t, swi := (SwiCall.ingressPortPvidAdd p n).exec env.fm s.swi } v x := by
  have hentries := entries_exec hE s.swi p hv (.ingressPortPvidAdd p n) ⟨hn, by simp⟩
  constructor
  · exact h.recorded
  · rw [hentries]
    exact h.ingress
  · rw [hentries]
    exact h.egress
  · exact h.flood

/-- The VLANs stay when the port loses its PVID. -/
theorem VlanAt.removePvid (hv : v < 2 ^ 12) (h : VlanAt env p s v x) :
    VlanAt env p { s with
      portPvid := t, swi := (SwiCall.ingressPortPvidRemove p n).exec env.fm s.swi } v x := by
  have hentries := entries_exec hE s.swi p hv (.ingressPortPvidRemove p n) ⟨hn, by simp⟩
  constructor
  · exact h.recorded
  · rw [hentries]
    exact h.ingress
  · rw [hentries]
    exact h.egress
  · exact h.flood

theorem pvidAt_addPvid : PvidAt env p { s with
    portPvid := t, swi := (SwiCall.ingressPortPvidAdd p n).exec env.fm s.swi } (some n) := by
  intro w hw
  rw [entries_exec hE s.swi p hw (.ingressPortPvidAdd p n) ⟨hn, by simp⟩]
  simp [SwiCall.effect]

theorem pvidAt_removePvid : PvidAt env p { s with
    portPvid := t, swi := (SwiCall.ingressPortPvidRemove p n).exec env.fm s.swi } none := by
  intro w hw
  rw [entries_exec hE s.swi p hw (.ingressPortPvidRemove p n) ⟨hn, by simp⟩]
  simp [SwiCall.effect]

end Pvid

/-! ## A turn of the loop -/

/-- From `s` to `s'` only the VLAN `v` of the port has changed, with the calls `cs`. -/
structure Turn (env : VlanEnv M) (p : PortId) (v : Nat) (cs : List SwiCall) (s s' : NlVlan M) :
    Prop where
  vid : ∀ c ∈ cs, c.vid = v
  swi : s'.swi = execAll env.fm cs s.swi
  recorded : ∀ w ≠ v, (s'.vlansOfPort p).lookup w = (s.vlansOfPort p).lookup w
  portPvid : s'.portPvid = s.portPvid
  vlanVrf : s'.vlanVrf = s.vlanVrf

omit [DecidableEq M] in
theorem NlVlan.getVrfId_congr (h : s'.vlanVrf = s.vlanVrf) (v : Nat) :
    s'.getVrfId v = s.getVrfId v := by
  rw [NlVlan.getVrfId, NlVlan.getVrfId, h]

theorem Turn.other (hE : env.fm.Encodes) (h : Turn env p v cs s s') (hv : v < 2 ^ 12)
    (hw : w < 2 ^ 12) (hne : w ≠ v) (hat : VlanAt env p s w x) : VlanAt env p s' w x := by
  refine hat.of_calls hE hw (fun c hc => ?_) h.swi (h.recorded w hne) h.vlanVrf
  rw [h.vid c hc]
  exact ⟨hv, hne⟩

theorem Turn.pvidAt (hE : env.fm.Encodes) (h : Turn env p v cs s s') (hv : v < 2 ^ 12)
    (hcs : ∀ c ∈ cs, c.KeepsPvid) (hat : PvidAt env p s pv) : PvidAt env p s' pv := by
  refine hat.of_calls hE (fun c hc => ⟨?_, hcs c hc⟩) h.swi
  rw [h.vid c hc]
  exact hv

section Functions

variable (hport : p.1 ≠ 0) (hlag : Nbi.isLag p = false) (hvid : NlVlan.isVidValid v = true)
include hport hlag hvid

variable (env s) in
theorem turn_addBridgeVlan (tagged : Bool) :
    Turn env p v [.egressBridgePortVlanAdd p v (!tagged),
      .ingressPortVlanAdd p v false (s.getVrfId v)] s
      (NlVlan.addBridgeVlan env allOk s p 0 v false tagged).2 := by
  rw [NlVlan.addBridgeVlan_ok hport hvid]
  refine ⟨by simp [SwiCall.vid], ?_, fun w hne => ?_, rfl, rfl⟩
  · simp [NlVlan.addBridgeVlanCalls, NlBridge.bridgeVlanPorts_physical hlag]
  · simp [NlVlan.vlansOfPort, Table.lookup_emplace, hne]

omit hlag in
/-- The record of a VLAN that is removed. -/
theorem lookup_removeBridgeVlan (w : Nat) :
    ((NlVlan.removeBridgeVlan env allOk s p 0 v false).vlansOfPort p).lookup w =
      if w = v then none else (s.vlansOfPort p).lookup w := by
  rw [NlVlan.removeBridgeVlan_ok hport hvid]
  simp only [NlVlan.vlansOfPort]
  cases hl : s.bridgeVlan.lookup p with
  | none => simp [hl]
  | some vlans =>
    have herase : (vlans.erase v).lookup w = if w = v then none else vlans.lookup w :=
      Table.lookup_erase_ite ..
    simp only [Option.getD_some]
    split
    · rename_i hnil
      rw [← herase, show vlans.erase v = ∅ from AList.ext hnil]
      simp
    · simp only [Table.lookup_insert_ite, if_true, Option.getD_some]
      exact herase

variable (env s) in
theorem turn_removeBridgeVlan :
    Turn env p v [.egressBridgePortVlanRemove p v, .ingressPortVlanRemove p v false (s.getVrfId v)]
      s (NlVlan.removeBridgeVlan env allOk s p 0 v false) := by
  refine ⟨by simp [SwiCall.vid], ?_, fun w hne => ?_, ?_, ?_⟩
  · rw [NlVlan.removeBridgeVlan_ok hport hvid]
    simp [NlVlan.removeBridgeVlanCalls, NlBridge.bridgeVlanPorts_physical hlag]
  · rw [lookup_removeBridgeVlan hport hvid, if_neg hne]
  · rw [NlVlan.removeBridgeVlan_ok hport hvid]
  · rw [NlVlan.removeBridgeVlan_ok hport hvid]

/-- Only a VLAN that is recorded is changed. -/
theorem turn_updateEgressBridgeVlan (untagged : Bool) :
    Turn env p v (if v ∈ s.vlansOfPort p then [.egressPortVlanAdd p v untagged true] else []) s
      (NlVlan.updateEgressBridgeVlan env allOk s p v untagged).2 := by
  rw [NlVlan.updateEgressBridgeVlan_ok hport hvid]
  cases hl : (s.vlansOfPort p).lookup v with
  | none =>
    rw [if_neg (Table.not_mem_iff_lookup.mpr hl)]
    exact ⟨by simp, rfl, fun _ _ => rfl, rfl, rfl⟩
  | some y =>
    obtain ⟨outerVid, tagged⟩ := y
    rw [if_pos (Table.mem_iff_lookup.mpr ⟨_, hl⟩)]
    refine ⟨by simp [SwiCall.vid], ?_, fun w hne => ?_, rfl, rfl⟩
    · simp [NlBridge.bridgeVlanPorts_physical hlag]
    · simp [NlVlan.vlansOfPort, hne]

section Own

variable (hE : env.fm.Encodes)
include hE

/-- The VLAN that is added is on the switch, with the tagging that it has now. -/
theorem VlanAt.gain {tagged : Bool} (h : VlanAt env p s v x) (hx : x = none ∨ x = some (!tagged)) :
    VlanAt env p (NlVlan.addBridgeVlan env allOk s p 0 v false tagged).2 v (some (!tagged)) := by
  have hturn := turn_addBridgeVlan env s hport hlag hvid tagged
  have hv := (NlVlan.isVidValid_iff.mp hvid).2
  have hadd := entries_exec hE s.swi p hv (.egressBridgePortVlanAdd p v (!tagged)) ⟨hv, by simp⟩
  have hentries : (execAll env.fm [.egressBridgePortVlanAdd p v (!tagged),
      .ingressPortVlanAdd p v false (s.getVrfId v)] s.swi).entries env.fm p v =
      { s.swi.entries env.fm p v with
        ingress := some (.filter (s.getVrfId v))
        egress := some (((s.swi.entries env.fm p v).egress).getD (interfaceOf p (!tagged))) } := by
    rw [execAll_cons, execAll_cons, execAll_nil,
      entries_exec hE _ p hv (.ingressPortVlanAdd p v false (s.getVrfId v)) ⟨hv, by simp⟩, hadd]
    simp [SwiCall.effect]
  refine ⟨?_, ?_, ?_, ?_⟩
  · rw [NlVlan.addBridgeVlan_ok hport hvid]
    simp only [NlVlan.vlansOfPort, Table.lookup_insert_ite, if_true, Option.getD_some,
      Table.lookup_emplace]
    have hrecorded := h.recorded
    rw [NlVlan.vlansOfPort] at hrecorded
    rw [hrecorded]
    rcases hx with rfl | rfl <;> simp
  · rw [hturn.swi, hentries, NlVlan.getVrfId_congr hturn.vlanVrf, Option.map_some]
  · rw [hturn.swi, hentries, h.egress]
    rcases hx with rfl | rfl <;> simp
  · rw [hturn.swi]
    change _ ∈ ((SwiCall.egressBridgePortVlanAdd p v (!tagged)).exec env.fm
      s.swi).l2Domain.members v ↔ _
    rw [members_egressBridgePortVlanAdd hlag]
    simp

/-- The VLAN that is removed is gone. -/
theorem VlanAt.lose (h : VlanAt env p s v x) :
    VlanAt env p (NlVlan.removeBridgeVlan env allOk s p 0 v false) v none := by
  have hturn := turn_removeBridgeVlan env s hport hlag hvid
  have hv := (NlVlan.isVidValid_iff.mp hvid).2
  have hrem := entries_egressBridgePortVlanRemove hE s.swi p p hv hv
  have hentries : (execAll env.fm [.egressBridgePortVlanRemove p v,
      .ingressPortVlanRemove p v false (s.getVrfId v)] s.swi).entries env.fm p v =
      { s.swi.entries env.fm p v with
        ingress := none
        egress := if v ∈ s.swi.l2Domain then none else (s.swi.entries env.fm p v).egress } := by
    rw [execAll_cons, execAll_cons, execAll_nil,
      entries_exec hE _ p hv (.ingressPortVlanRemove p v false (s.getVrfId v)) ⟨hv, by simp⟩, hrem]
    simp [SwiCall.effect]
  refine ⟨?_, ?_, ?_, ?_⟩
  · rw [lookup_removeBridgeVlan hport hvid, if_pos rfl, Option.map_none]
  · rw [hturn.swi, hentries, Option.map_none]
  · rw [hturn.swi, hentries, Option.map_none]
    split
    · rfl
    · -- Without a flood group the port was not in the VLAN.
      rename_i hdom
      have hnone : x = none := by
        rw [← Option.not_isSome_iff_eq_none, ← h.flood, L2Domain.members,
          Table.not_mem_iff_lookup.mp hdom]
        exact Finset.notMem_empty _
      rw [h.egress, hnone, Option.map_none]
  · rw [hturn.swi]
    change _ ∈ ((SwiCall.egressBridgePortVlanRemove p v).exec env.fm s.swi).l2Domain.members v ↔ _
    rw [members_egressBridgePortVlanRemove]
    simp

/-- The VLAN, if the port has it, becomes tagged or untagged. -/
theorem VlanAt.retag (h : VlanAt env p s v x) (untagged : Bool) :
    VlanAt env p (NlVlan.updateEgressBridgeVlan env allOk s p v untagged).2 v
      (x.map fun _ => untagged) := by
  have hv := (NlVlan.isVidValid_iff.mp hvid).2
  have hentries := entries_exec hE s.swi p hv (.egressPortVlanAdd p v untagged true) ⟨hv, by simp⟩
  rw [NlVlan.updateEgressBridgeVlan_ok hport hvid, h.recorded]
  cases x with
  | none => exact h
  | some u =>
    simp only [Option.map_some, NlBridge.bridgeVlanPorts_physical hlag, List.map_cons, List.map_nil,
      execAll_cons, execAll_nil]
    refine ⟨?_, ?_, ?_, ?_⟩
    · simp [NlVlan.vlansOfPort]
    · rw [hentries]
      exact h.ingress
    · rw [hentries]
      simp [SwiCall.effect, h.egress]
    · exact h.flood

end Own

end Functions

end VlanAt

namespace NlBridge

variable {M : Type} [DecidableEq M]

/-! ## The links -/

/-- The VLANs of a link, each with its tagging. -/
def vlanConfig (b : BrVlan) (v : Nat) : Option Bool :=
  if v ∈ b.vlanBitmap then some (decide (v ∈ b.untaggedBitmap)) else none

/-- The VLANs and the PVID of a port are those of its link. -/
structure Reflects (env : VlanEnv M) (p : PortId) (b : BrVlan) (s : NlBridge M) : Prop where
  vlans : ∀ v < 2 ^ 12, v ∉ s.vxlanDomBitmap → VlanAt env p s.vlan v (vlanConfig b v)
  portPvid : s.vlan.portPvid.lookup p = recordedPvid b
  pvid : PvidAt env p s.vlan (recordedPvid b)

/-- The VLAN of a change. -/
def Change.vid : Change → Nat
  | .vlan vid | .untagged vid => vid

/-- The VLANs after some of the changes, each with its tagging. -/
def configAfter (old new : BrVlan) (done : List Change) (v : Nat) : Option Bool :=
  if .vlan v ∈ done ∨ .untagged v ∈ done then vlanConfig new v else vlanConfig old v

section ConfigAfter

variable {old new : BrVlan} {done : List Change} {v w : Nat}

theorem configAfter_nil : configAfter old new [] w = vlanConfig old w := by
  simp [configAfter]

theorem configAfter_concat (c : Change) : configAfter old new (done ++ [c]) w =
    if w = c.vid then vlanConfig new w else configAfter old new done w := by
  by_cases hw : w = c.vid <;> cases c <;> simp_all [configAfter, Change.vid]

theorem configAfter_changes : configAfter old new (changes old new) w = vlanConfig new w := by
  unfold configAfter
  split
  · rfl
  · rename_i hnot
    obtain ⟨hvlan, huntagged⟩ := not_or.mp hnot
    have hvlan' := not_not.mp (mt mem_changes_vlan.mpr hvlan)
    have huntagged' : w ∈ old.untaggedBitmap ↔ w ∈ new.untaggedBitmap := by
      by_contra hdiff
      exact huntagged (mem_changes_untagged.mpr ⟨hdiff, hvlan'⟩)
    simp only [vlanConfig, hvlan', huntagged']

variable (old new done w) in
/-- A VLAN that is changed is as in the old link or as in the new one. -/
theorem configAfter_cases :
    configAfter old new done w = vlanConfig old w ∨ configAfter old new done w = vlanConfig new w := by
  unfold configAfter
  split
  · exact .inr rfl
  · exact .inl rfl

end ConfigAfter

/-! ## Access ports -/

/-- The port is an access port in a VLAN. -/
def AccessPort (s : NlBridge M) (p : PortId) (v : Nat) : Prop :=
  (s.getAccessTunnelPort p v).lportId ≠ 0 ∨ (s.getAccessTunnelPort p v).tunnelId ≠ 0

instance (s : NlBridge M) (p : PortId) (v : Nat) : Decidable (s.AccessPort p v) :=
  inferInstanceAs (Decidable (_ ∨ _))

section CreateAccessPort

variable {env : VlanEnv M} {s : NlBridge M} {p : PortId} {v : Nat} (tunnelId : Nat) (untagged : Bool)

theorem createAccessPort_of_accessPort (h : s.AccessPort p v) :
    s.createAccessPort env {} tunnelId p v untagged = s := by
  unfold createAccessPort
  exact if_pos h

theorem createAccessPort_of_not (h : ¬ s.AccessPort p v) :
    s.createAccessPort env {} tunnelId p v untagged =
      { s with
        vlan := { s.vlan with
          swi := execAll env.fm
            [.egressBridgePortVlanRemove p v, .ingressPortVlanRemove p v untagged 0] s.vlan.swi }
        accessPortIds := s.accessPortIds.insert (p, v)
          { lportId := s.portIdCnt, tunnelId := tunnelId }
        portIdCnt := u32 (s.portIdCnt + 1) } := by
  unfold createAccessPort
  exact if_neg h

variable (env) in
/-- A port that becomes an access port loses the entries of the VLAN, and that for its untagged
packets if the VLAN is untagged. -/
theorem turn_createAccessPort (h : ¬ s.AccessPort p v) :
    Turn env p v [.egressBridgePortVlanRemove p v, .ingressPortVlanRemove p v untagged 0] s.vlan
      (s.createAccessPort env {} tunnelId p v untagged).vlan := by
  rw [createAccessPort_of_not tunnelId untagged h]
  exact ⟨by simp [SwiCall.vid], rfl, fun _ _ => rfl, rfl, rfl⟩

theorem pvidAt_createAccessPort (hE : env.fm.Encodes) (hv : v < 2 ^ 12) (h : ¬ s.AccessPort p v)
    {pv : Option Nat} (hat : PvidAt env p s.vlan pv) :
    PvidAt env p (s.createAccessPort env {} tunnelId p v untagged).vlan
      (if untagged = true then none else pv) := by
  have hturn := turn_createAccessPort env tunnelId untagged h
  cases untagged with
  | false =>
    refine hturn.pvidAt hE hv ?_ hat
    simp [SwiCall.KeepsPvid]
  | true =>
    intro w hw
    rw [hturn.swi, execAll_cons, execAll_cons, execAll_nil,
      entries_exec hE _ p hw (.ingressPortVlanRemove p v true 0) ⟨hv, by simp⟩]
    simp [SwiCall.effect]

theorem accessPort_createAccessPort {w : Nat} (hne : w ≠ v) :
    (s.createAccessPort env {} tunnelId p v untagged).AccessPort p w ↔ s.AccessPort p w := by
  by_cases h : s.AccessPort p v
  · rw [createAccessPort_of_accessPort tunnelId untagged h]
  · have hids : (s.createAccessPort env {} tunnelId p v untagged).getAccessTunnelPort p w =
        s.getAccessTunnelPort p w := by
      rw [createAccessPort_of_not tunnelId untagged h]
      simp [getAccessTunnelPort, hne]
    rw [AccessPort, AccessPort, hids]

end CreateAccessPort

/-! ## The loop of `update_vlans` -/

/-- The port loses the entry for its untagged packets to an access port: a VLAN of these changes, in
which it becomes one, is untagged. -/
def DropsPvid (s : NlBridge M) (p : PortId) (new : BrVlan) (done : List Change) : Prop :=
  ∃ v ∈ new.vlanBitmap, .vlan v ∈ done ∧ v ∈ s.vxlanDomBitmap ∧ v ∈ new.untaggedBitmap ∧
    ¬ s.AccessPort p v

/-- The PVID while the VLANs change. -/
def pvidBetween (old new : BrVlan) : Option Nat :=
  if new.pvid = old.pvid then recordedPvid old else none

/-- After some of the changes from `old` to `new`, which began in `s`. -/
structure Updating (env : VlanEnv M) (p : PortId) (old new : BrVlan) (s : NlBridge M)
    (done : List Change) (s' : NlBridge M) : Prop where
  domBitmap : s'.vxlanDomBitmap = s.vxlanDomBitmap
  domain : s'.vxlanDomain = s.vxlanDomain
  vlans : ∀ v < 2 ^ 12, v ∉ s.vxlanDomBitmap → VlanAt env p s'.vlan v (configAfter old new done v)
  portPvid : s'.vlan.portPvid.lookup p = pvidBetween old new
  accessPort : ∀ v, s.AccessPort p v → s'.AccessPort p v
  noAccessPort : ∀ v, .vlan v ∉ done → s'.AccessPort p v → s.AccessPort p v
  pvidKept : ¬ DropsPvid s p new done → PvidAt env p s'.vlan (pvidBetween old new)
  pvidDropped : DropsPvid s p new done → PvidAt env p s'.vlan none

section Loop

variable {env : VlanEnv M} {p : PortId} {old new : BrVlan} {s s' : NlBridge M} {done : List Change}
  {v : Nat}

omit [DecidableEq M] in
theorem dropsPvid_untagged : DropsPvid s p new (done ++ [.untagged v]) ↔ DropsPvid s p new done := by
  simp [DropsPvid]

omit [DecidableEq M] in
/-- Another VLAN drops the PVID if the port becomes an access port in it and it is untagged. -/
theorem dropsPvid_vlan : DropsPvid s p new (done ++ [.vlan v]) ↔ DropsPvid s p new done ∨
    v ∈ new.vlanBitmap ∧ v ∈ s.vxlanDomBitmap ∧ v ∈ new.untaggedBitmap ∧ ¬ s.AccessPort p v := by
  simp only [DropsPvid, List.mem_append, List.mem_singleton, Change.vlan.injEq]
  constructor
  · rintro ⟨w, hw, hdone | rfl, hrest⟩
    · exact .inl ⟨w, hw, hdone, hrest⟩
    · exact .inr ⟨hw, hrest⟩
  · rintro (⟨w, hw, hdone, hrest⟩ | ⟨hw, hrest⟩)
    · exact ⟨w, hw, .inl hdone, hrest⟩
    · exact ⟨v, hw, .inr rfl, hrest⟩

/-- A turn of the loop that changes nothing but `nl_vlan`, for a VLAN that drops no PVID. -/
theorem Updating.turn (hE : env.fm.Encodes) (h : Updating env p old new s done s') (c : Change)
    {cs : List SwiCall} {vlan : NlVlan M} (hturn : Turn env p c.vid cs s'.vlan vlan)
    (hv : c.vid < 2 ^ 12) (hcs : ∀ x ∈ cs, x.KeepsPvid)
    (hat : c.vid ∉ s.vxlanDomBitmap → VlanAt env p vlan c.vid (vlanConfig new c.vid))
    (hdrops : DropsPvid s p new (done ++ [c]) ↔ DropsPvid s p new done) :
    Updating env p old new s (done ++ [c]) { s' with vlan := vlan } where
  domBitmap := h.domBitmap
  domain := h.domain
  vlans w hw hdom := by
    rw [configAfter_concat]
    split
    · subst w
      exact hat hdom
    · rename_i hne
      exact hturn.other hE hv hw hne (h.vlans w hw hdom)
  portPvid := by
    rw [hturn.portPvid]
    exact h.portPvid
  accessPort := h.accessPort
  noAccessPort w hw := h.noAccessPort w fun hmem => hw (List.mem_append_left _ hmem)
  pvidKept hno := hturn.pvidAt hE hv hcs (h.pvidKept (mt hdrops.mpr hno))
  pvidDropped hd := hturn.pvidAt hE hv hcs (h.pvidDropped (hdrops.mp hd))

theorem Updating.dropsPvid_of_accessPort
    (h : Updating env p old new s done s') (hacc : s'.AccessPort p v) :
    DropsPvid s p new (done ++ [.vlan v]) ↔ DropsPvid s p new done := by
  rw [dropsPvid_vlan]
  refine or_iff_left_of_imp fun ⟨hmem, hdom, huntagged, hno⟩ => ?_
  -- The port was no access port in the VLAN, so there was a turn for it before.
  have hdone : .vlan v ∈ done := by
    by_contra hnot
    exact hno (h.noAccessPort v hnot hacc)
  exact ⟨v, hmem, hdone, hdom, huntagged, hno⟩

/-- The port becomes an access port. -/
theorem Updating.createAccessPort (hE : env.fm.Encodes) (h : Updating env p old new s done s')
    (hv : v < 2 ^ 12) (hmem : v ∈ new.vlanBitmap) (hdom : v ∈ s.vxlanDomBitmap) (tunnelId : Nat) :
    Updating env p old new s (done ++ [.vlan v]) (s'.createAccessPort env {} tunnelId p v
      (decide (v ∈ new.untaggedBitmap))) := by
  by_cases hacc : s'.AccessPort p v
  · rw [createAccessPort_of_accessPort tunnelId _ hacc]
    have hturn : Turn env p (Change.vlan v).vid [] s'.vlan s'.vlan :=
      ⟨by simp, rfl, fun _ _ => rfl, rfl, rfl⟩
    exact h.turn hE (.vlan v) hturn hv (by simp) (fun hnot => absurd hdom hnot)
      (h.dropsPvid_of_accessPort hacc)
  · have hturn := turn_createAccessPort env tunnelId (decide (v ∈ new.untaggedBitmap)) hacc
    have hno : ¬ s.AccessPort p v := mt (h.accessPort v) hacc
    have hpvid : ∀ pv, PvidAt env p s'.vlan pv → PvidAt env p (s'.createAccessPort env {} tunnelId
        p v (decide (v ∈ new.untaggedBitmap))).vlan
        (if decide (v ∈ new.untaggedBitmap) = true then none else pv) :=
      fun _ => pvidAt_createAccessPort tunnelId _ hE hv hacc
    have hsame : ∀ w ≠ v, (s'.createAccessPort env {} tunnelId p v
        (decide (v ∈ new.untaggedBitmap))).AccessPort p w ↔ s'.AccessPort p w :=
      fun _ => accessPort_createAccessPort tunnelId _
    have hdrops : DropsPvid s p new (done ++ [.vlan v]) ↔ _ := dropsPvid_vlan
    constructor
    · rw [createAccessPort_of_not tunnelId _ hacc]
      exact h.domBitmap
    · rw [createAccessPort_of_not tunnelId _ hacc]
      exact h.domain
    · intro w hw hwdom
      have hne : w ≠ v := fun e => hwdom (e ▸ hdom)
      rw [configAfter_concat, Change.vid, if_neg hne]
      exact hturn.other hE hv hw hne (h.vlans w hw hwdom)
    · rw [hturn.portPvid]
      exact h.portPvid
    · intro w hw
      have hne : w ≠ v := fun e => hno (e ▸ hw)
      exact (hsame w hne).mpr (h.accessPort w hw)
    · intro w hw hacc'
      rw [List.mem_append, List.mem_singleton, Change.vlan.injEq, not_or] at hw
      exact h.noAccessPort w hw.1 ((hsame w hw.2).mp hacc')
    · intro hnot
      rw [hdrops, not_or] at hnot
      have huntagged : v ∉ new.untaggedBitmap := fun hu => hnot.2 ⟨hmem, hdom, hu, hno⟩
      simpa [huntagged] using hpvid _ (h.pvidKept hnot.1)
    · intro hd
      by_cases huntagged : v ∈ new.untaggedBitmap
      · by_cases hbefore : DropsPvid s p new done
        · simpa [huntagged] using hpvid _ (h.pvidDropped hbefore)
        · simpa [huntagged] using hpvid _ (h.pvidKept hbefore)
      · have hbefore := (hdrops.mp hd).resolve_right fun hlast => huntagged hlast.2.2.1
        simpa [huntagged] using hpvid _ (h.pvidDropped hbefore)

/-- One turn of the loop. -/
theorem Updating.change (hE : env.fm.Encodes) (hport : p.1 ≠ 0) (hlag : Nbi.isLag p = false)
    (hmapped : ∀ v ∈ new.vlanBitmap, v ∈ s.vxlanDomBitmap → v ∈ s.vxlanDomain)
    (h : Updating env p old new s done s') {c : Change} (hc : c ∈ changes old new) :
    Runs (Updating env p old new s (done ++ [c])) (change env {} (.port p) [] new s' c) := by
  cases c with
  | vlan v =>
    have hvalid := valid_of_change hc
    have hvid := NlVlan.isVidValid_iff.mpr hvalid
    by_cases hmem : v ∈ new.vlanBitmap
    · by_cases hdom : v ∈ s.vxlanDomBitmap
      · obtain ⟨tunnelId, htunnel⟩ := Table.mem_iff_lookup.mp (hmapped v hmem hdom)
        have hdom' : v ∈ s'.vxlanDomBitmap := by rwa [h.domBitmap]
        have htunnel' : s'.vxlanDomain.lookup v = some tunnelId := by rwa [h.domain]
        simp only [NlBridge.change, changeVlan, hmem, if_true, hdom', htunnel']
        exact h.createAccessPort hE hvalid.2 hmem hdom tunnelId
      · have hdom' : v ∉ s'.vxlanDomBitmap := by rwa [h.domBitmap]
        have hold : v ∉ old.vlanBitmap := fun hold => mem_changes_vlan.mp hc (iff_of_true hold hmem)
        have hnew : vlanConfig new v = some (!!decide (v ∈ new.untaggedBitmap)) := by
          simp [vlanConfig, hmem]
        -- The VLAN is not there yet, or its turn was made before.
        have hbefore : configAfter old new done v = none ∨
            configAfter old new done v = some (!!decide (v ∈ new.untaggedBitmap)) := by
          rw [← hnew]
          refine (configAfter_cases old new done v).imp_left fun hx => ?_
          simpa [vlanConfig, hold] using hx
        have hat := (h.vlans v hvalid.2 hdom).gain hport hlag hvid hE hbefore
        rw [← hnew] at hat
        simp only [NlBridge.change, changeVlan, hmem, if_true, hdom', if_false]
        refine h.turn hE (.vlan v) (turn_addBridgeVlan env s'.vlan hport hlag hvid _) hvalid.2 ?_
          (fun _ => hat) ?_
        · simp [SwiCall.KeepsPvid]
        · rw [dropsPvid_vlan]
          exact or_iff_left fun hlast => hdom hlast.2.1
    · have hnew : vlanConfig new v = none := by simp [vlanConfig, hmem]
      have hat := fun hdom => (h.vlans v hvalid.2 hdom).lose hport hlag hvid hE
      rw [← hnew] at hat
      simp only [NlBridge.change, changeVlan, hmem, if_false]
      refine h.turn hE (.vlan v) (turn_removeBridgeVlan env s'.vlan hport hlag hvid) hvalid.2 ?_ hat ?_
      · simp [SwiCall.KeepsPvid]
      · rw [dropsPvid_vlan]
        exact or_iff_left fun hlast => hmem hlast.1
  | untagged v =>
    obtain ⟨hdiff, hsame⟩ := mem_changes_untagged.mp hc
    have hlt := lt_of_bit_ne old.untagged_lt new.untagged_lt hdiff
    have hnew : (configAfter old new done v).map (fun _ => decide (v ∈ new.untaggedBitmap)) =
        vlanConfig new v := by
      rcases configAfter_cases old new done v with hx | hx <;>
        · rw [hx]
          by_cases hmem : v ∈ new.vlanBitmap <;> simp [vlanConfig, hsame, hmem]
    by_cases hvid : NlVlan.isVidValid v = true
    · have hat := fun hdom => (h.vlans v hlt hdom).retag hport hlag hvid hE
        (decide (v ∈ new.untaggedBitmap))
      rw [hnew] at hat
      refine h.turn hE (.untagged v) (turn_updateEgressBridgeVlan hport hlag hvid _) hlt ?_ hat
        dropsPvid_untagged
      intro x hx
      split at hx
      · rw [List.mem_singleton.mp hx]
        trivial
      · cases hx
    · -- VLAN 0: nothing is done, and no link has it.
      have hnone : NlVlan.updateEgressBridgeVlan env allOk s'.vlan p v
          (decide (v ∈ new.untaggedBitmap)) = (-EINVAL, s'.vlan) := by
        simp [NlVlan.updateEgressBridgeVlan, hvid]
      have hturn : Turn env p (Change.untagged v).vid [] s'.vlan
          (NlVlan.updateEgressBridgeVlan env allOk s'.vlan p v
            (decide (v ∈ new.untaggedBitmap))).2 := by
        rw [hnone]
        exact ⟨by simp, rfl, fun _ _ => rfl, rfl, rfl⟩
      have hmem : v ∉ new.vlanBitmap := fun hm =>
        hvid (NlVlan.isVidValid_iff.mpr (new.vlan_valid v hm))
      have hat := fun hdom => h.vlans v hlt hdom
      have hnot : vlanConfig new v = none := by simp [vlanConfig, hmem]
      rw [Option.map_eq_none_iff.mp (hnew.trans hnot), ← hnot] at hat
      have hat' : v ∉ s.vxlanDomBitmap → VlanAt env p (NlVlan.updateEgressBridgeVlan env allOk
          s'.vlan p v (decide (v ∈ new.untaggedBitmap))).2 v (vlanConfig new v) := by
        rw [hnone]
        exact hat
      exact h.turn hE (.untagged v) hturn hlt (by simp) hat' dropsPvid_untagged

end Loop

/-! ## `update_vlans` of a port -/

/-- A port that becomes an access port in an untagged VLAN loses its PVID on the switch, if the PVID
does not change as well. -/
def LosesPvid (s : NlBridge M) (p : PortId) (old new : BrVlan) : Prop :=
  new.pvid = old.pvid ∧ NlVlan.isVidValid old.pvid = true ∧
    ∃ v ∈ new.vlanBitmap, v ∉ old.vlanBitmap ∧ v ∈ s.vxlanDomBitmap ∧ v ∈ new.untaggedBitmap ∧
      ¬ s.AccessPort p v

section UpdateVlans

variable {env : VlanEnv M} {p : PortId} {b old new : BrVlan} {s s' : NlBridge M} {v : Nat}

omit [DecidableEq M] in
theorem dropsPvid_changes : DropsPvid s p new (changes old new) ↔ ∃ v ∈ new.vlanBitmap,
    v ∉ old.vlanBitmap ∧ v ∈ s.vxlanDomBitmap ∧ v ∈ new.untaggedBitmap ∧ ¬ s.AccessPort p v := by
  refine exists_congr fun v => and_congr_right fun hmem => and_congr_left fun _ => ?_
  rw [mem_changes_vlan]
  simp [hmem]

/-- The PVID of the old link is removed. -/
theorem Reflects.removeOldPvid (hE : env.fm.Encodes) (hlag : Nbi.isLag p = false)
    (h : Reflects env p old s) (new : BrVlan) :
    (removeOldPvid env {} s.vlan p old new).1 = 0 ∧
      Updating env p old new s []
        { s with vlan := (removeOldPvid env {} s.vlan p old new).2 } := by
  have hkept : ¬ DropsPvid s p new [] := by simp [DropsPvid]
  have hbegin : ∀ vlan : NlVlan M,
      (∀ v < 2 ^ 12, v ∉ s.vxlanDomBitmap → VlanAt env p vlan v (vlanConfig old v)) →
      vlan.portPvid.lookup p = pvidBetween old new → PvidAt env p vlan (pvidBetween old new) →
      Updating env p old new s [] { s with vlan := vlan } := by
    intro vlan hvlans hportPvid hpvid
    refine ⟨rfl, rfl, fun v hv hdom => ?_, hportPvid, fun _ => id, fun _ _ => id,
      fun _ => hpvid, fun hd => absurd hd hkept⟩
    rw [configAfter_nil]
    exact hvlans v hv hdom
  unfold NlBridge.removeOldPvid
  split
  · rename_i hch
    obtain ⟨hne, hval⟩ := hch
    have hrecorded : s.vlan.portPvid.lookup p = some old.pvid := by
      rw [h.portPvid, recordedPvid, if_pos hval]
    have hrem : NlVlan.removeIngressPvid env allOk s.vlan p old.pvid = _ :=
      NlVlan.removeIngressPvid_ok hrecorded
    simp only [bridgeVlanPorts_physical hlag, List.map_cons, List.map_nil, execAll_cons,
      execAll_nil] at hrem
    change (NlVlan.removeIngressPvid env allOk s.vlan p old.pvid).1 = 0 ∧ Updating env p old new s []
      { s with vlan := (NlVlan.removeIngressPvid env allOk s.vlan p old.pvid).2 }
    rw [hrem]
    refine ⟨rfl, hbegin _ (fun v hv hdom => ?_) ?_ ?_⟩
    · exact (h.vlans v hv hdom).removePvid hE _ old.pvid_lt hv
    · rw [pvidBetween, if_neg hne, Table.lookup_erase_ite, if_pos rfl]
    · rw [pvidBetween, if_neg hne]
      exact pvidAt_removePvid hE _ old.pvid_lt
  · rename_i hch
    have hpv : pvidBetween old new = recordedPvid old := by
      unfold pvidBetween
      split
      · rfl
      · rename_i hne
        rw [recordedPvid, if_neg fun hval => hch ⟨hne, hval⟩]
    refine ⟨rfl, hbegin s.vlan h.vlans ?_ ?_⟩
    · rw [hpv]
      exact h.portPvid
    · rw [hpv]
      exact h.pvid

omit [DecidableEq M] in
theorem losesPvid_iff : LosesPvid s p old new ↔
    new.pvid = old.pvid ∧ recordedPvid new ≠ none ∧ DropsPvid s p new (changes old new) := by
  rw [dropsPvid_changes, LosesPvid]
  refine and_congr_right fun hpv => and_congr_left fun _ => ?_
  simp [recordedPvid, hpv]

theorem PvidAt.unique {vlan : NlVlan M} {pv pv' : Option Nat} (h : PvidAt env p vlan pv)
    (h' : PvidAt env p vlan pv') : pv = pv' := by
  have heq := (h 0 (by decide)).symm.trans (h' 0 (by decide))
  exact Option.map_injective (fun a b hab => VlanAction.assign.inj hab) heq

/-- The PVID of the new link is added. -/
theorem Updating.addNewPvid (hE : env.fm.Encodes) (hlag : Nbi.isLag p = false)
    (h : Updating env p old new s (changes old new) s') :
    Reflects env p new { s' with vlan := addNewPvid env {} s'.vlan p old new } ↔
      ¬ LosesPvid s p old new := by
  have hvlans : ∀ v < 2 ^ 12, v ∉ s'.vxlanDomBitmap → VlanAt env p s'.vlan v (vlanConfig new v) := by
    intro v hv hdom
    have hat := h.vlans v hv (h.domBitmap ▸ hdom)
    rwa [configAfter_changes] at hat
  unfold NlBridge.addNewPvid
  by_cases hch : new.pvid ≠ old.pvid ∧ NlVlan.isVidValid new.pvid = true
  · obtain ⟨hne, hval⟩ := hch
    rw [if_pos ⟨hne, hval⟩]
    have hnone : s'.vlan.portPvid.lookup p = none := h.portPvid.trans (if_neg hne)
    have hadd : NlVlan.addIngressPvid env allOk s'.vlan p new.pvid = _ :=
      NlVlan.addIngressPvid_ok hnone new.pvid
    simp only [bridgeVlanPorts_physical hlag, List.map_cons, List.map_nil, execAll_cons,
      execAll_nil] at hadd
    have hrecorded : recordedPvid new = some new.pvid := if_pos hval
    refine iff_of_true ?_ fun hl => hne hl.1
    change Reflects env p new
      { s' with vlan := (NlVlan.addIngressPvid env allOk s'.vlan p new.pvid).2 }
    rw [hadd]
    refine ⟨fun v hv hdom => (hvlans v hv hdom).addPvid hE _ new.pvid_lt hv, ?_, ?_⟩
    · simp only [Table.lookup_emplace, if_true, hnone, Option.getD_none, hrecorded]
    · rw [hrecorded]
      exact pvidAt_addPvid hE _ new.pvid_lt
  · rw [if_neg hch, losesPvid_iff]
    have hpv : pvidBetween old new = recordedPvid new := by
      unfold pvidBetween
      split
      · rename_i heq
        rw [recordedPvid, recordedPvid, heq]
      · rename_i hne
        rw [recordedPvid, if_neg fun hval => hch ⟨hne, hval⟩]
    have hkept := h.pvidKept
    have hportPvid := h.portPvid
    rw [hpv] at hkept hportPvid
    constructor
    · rintro hr ⟨-, hsome, hd⟩
      exact hsome (PvidAt.unique hr.pvid (h.pvidDropped hd))
    · intro hnot
      refine ⟨hvlans, hportPvid, ?_⟩
      by_cases hd : DropsPvid s p new (changes old new)
      · have hnone : recordedPvid new = none := by
          by_contra hsome
          refine hnot ⟨?_, hsome, hd⟩
          by_contra hne
          exact hsome (hpv.symm.trans (if_neg hne))
        rw [hnone]
        exact h.pvidDropped hd
      · exact hkept hd

/-- What does not change with the links of a port. -/
structure SameDomains (s s' : NlBridge M) : Prop where
  domBitmap : s'.vxlanDomBitmap = s.vxlanDomBitmap
  domain : s'.vxlanDomain = s.vxlanDomain

/-- A port that reflected its old link reflects the new one after `update_vlans`, unless it loses
its PVID to an access port. -/
theorem Reflects.updateVlans (hE : env.fm.Encodes) (hport : p.1 ≠ 0) (hlag : Nbi.isLag p = false)
    (oldLink newLink : Option BrVlan)
    (hmapped : ∀ v ∈ (newLink.getD .noVlans).vlanBitmap, v ∈ s.vxlanDomBitmap → v ∈ s.vxlanDomain)
    (h : Reflects env p (oldLink.getD .noVlans) s) :
    Runs (fun s' => SameDomains s s' ∧ (Reflects env p (newLink.getD .noVlans) s' ↔
      ¬ LosesPvid s p (oldLink.getD .noVlans) (newLink.getD .noVlans)))
      (s.updateVlans env {} (.port p) [] oldLink newLink) := by
  have hknown : (BrLink.port p).unknown = false := by
    simpa [BrLink.unknown] using hport
  generalize hold : oldLink.getD .noVlans = old at h ⊢
  generalize hnew : newLink.getD .noVlans = new at hmapped ⊢
  obtain ⟨hrv, hremove⟩ := h.removeOldPvid hE hlag new
  refine runs_updateVlans env {} hold hnew ?_ hremove ?_ ?_ ?_
  · rintro (rfl | hunknown)
    · refine ⟨⟨rfl, rfl⟩, iff_of_true h fun hloses => ?_⟩
      obtain ⟨-, -, v, hmem, hnot, -⟩ := hloses
      exact hnot hmem
    · rw [hknown] at hunknown
      cases hunknown
  · exact fun hneg => absurd hneg (Int.not_lt.mpr hrv.ge)
  · exact fun done c s' hc hs' => hs'.change hE hport hlag hmapped hc
  · intro s' hs'
    exact ⟨⟨hs'.domBitmap, hs'.domain⟩, hs'.addNewPvid hE hlag⟩

end UpdateVlans

/-! ## Updating and adding -/

/-- A physical port that is not in the bridge: nothing is recorded for it, and the switch has nothing
of it. -/
structure Absent (env : VlanEnv M) (p : PortId) (s : NlBridge M) : Prop where
  port : p.1 ≠ 0
  physical : Nbi.isLag p = false
  bridgeVlan : s.vlan.bridgeVlan.lookup p = none
  portPvid : s.vlan.portPvid.lookup p = none
  entries : ∀ v < 2 ^ 12, s.vlan.swi.entries env.fm p v = {}
  flood : ∀ v < 2 ^ 12, env.fm.groupIdL2Interface p v ∉ s.vlan.swi.l2Domain.members v
  /-- The calls that the switch has got. -/
  reached : ∃ cs : List SwiCall, (∀ c ∈ cs, c.vid < 2 ^ 12) ∧ s.vlan.swi = execAll env.fm cs {}

/-- The port has the same VLANs and the same PVID, recorded and on the switch, and the flood groups
are the same. -/
structure SameVlans (env : VlanEnv M) (p : PortId) (s s' : NlVlan M) : Prop where
  mem : p ∈ s'.bridgeVlan ↔ p ∈ s.bridgeVlan
  bridgeVlan : ∀ v, (s'.vlansOfPort p).lookup v = (s.vlansOfPort p).lookup v
  portPvid : s'.portPvid.lookup p = s.portPvid.lookup p
  entries : ∀ v < 2 ^ 12, s'.swi.entries env.fm p v = s.swi.entries env.fm p v
  flood : ∀ v < 2 ^ 12,
    s'.swi.sw.groups.lookup (env.fm.groupIdL2Flood v v) =
        s.swi.sw.groups.lookup (env.fm.groupIdL2Flood v v) ∧
      s'.swi.sw.flows.lookup (.dlfVlan v) = s.swi.sw.flows.lookup (.dlfVlan v)

section Incremental

variable {env : VlanEnv M} {p : PortId} {s t s' : NlBridge M} {old new : BrVlan}

/-- The port with the VLANs of `b`, compared with `s` where it is not in the bridge. -/
structure Added (env : VlanEnv M) (p : PortId) (s : NlBridge M) (b : BrVlan) (s' : NlBridge M) :
    Prop where
  domains : SameDomains s s'
  reflects : Reflects env p b s'
  enslaved : Enslaved env p s.vlan s'.vlan (· ∈ b.vlanBitmap) (recordedPvid b)

theorem Absent.added (hE : env.fm.Encodes) (h : Absent env p s) : Added env p s .noVlans s := by
  have hnone : ∀ v, (s.vlan.vlansOfPort p).lookup v = none := by
    simp [NlVlan.vlansOfPort, h.bridgeVlan]
  refine ⟨⟨rfl, rfl⟩, ⟨fun v hv _ => ?_, h.portPvid, fun v hv => ?_⟩, rfl, rfl, fun v => ?_,
    fun vlans hl => ?_, h.portPvid, ?_⟩
  · have hconfig : vlanConfig .noVlans v = none := by simp [vlanConfig]
    rw [hconfig]
    refine ⟨hnone v, ?_, ?_, ?_⟩
    · rw [h.entries v hv, Option.map_none]
    · rw [h.entries v hv, Option.map_none]
    · simpa using h.flood v hv
  · rw [h.entries v hv]
    rfl
  · rw [Table.mem_iff_lookup, hnone]
    simp
  · exact absurd (hl.symm.trans h.bridgeVlan) (by simp)
  · exact (bridging_refl (reached_mirrors hE h.reached)).congr fun v => by simp

/-- An update of the port. -/
theorem Added.updateVlans (hE : env.fm.Encodes) (h0 : Absent env p s) (oldLink : Option BrVlan)
    (h : Added env p s (oldLink.getD .noVlans) s')
    (hnew : ∀ v ∈ new.vlanBitmap, v ∉ s.vxlanDomBitmap) :
    Runs (Added env p s new) (s'.updateVlans env {} (.port p) [] oldLink (some new)) := by
  have hdom : ∀ v ∈ new.vlanBitmap, v ∉ s'.vxlanDomBitmap := by rwa [h.domains.domBitmap]
  have hreflects := h.reflects.updateVlans hE h0.port h0.physical oldLink (some new)
    fun v hv hd => absurd hd (hdom v hv)
  have henslaved := h.enslaved.updateVlans hE h0.port h0.physical h0.flood oldLink (some new) hdom
  obtain ⟨s₁, hs₁, ⟨hbitmap, hdomain⟩, hiff⟩ := runs_iff.mp hreflects
  rw [hs₁] at henslaved ⊢
  have hkept : ¬ LosesPvid s' p (oldLink.getD .noVlans) new :=
    fun ⟨_, _, v, hv, _, hd, _⟩ => hdom v hv hd
  exact ⟨⟨hbitmap.trans h.domains.domBitmap, hdomain.trans h.domains.domain⟩, hiff.mpr hkept,
    henslaved.2⟩

/-- What is recorded and programmed for the port depends on the link only. -/
theorem Added.sameVlans (h0 : Absent env p s) (hnew : ∀ v ∈ new.vlanBitmap, v ∉ s.vxlanDomBitmap)
    (ht : Added env p s new t) (hs' : Added env p s new s') : SameVlans env p t.vlan s'.vlan := by
  have hvlan : ∀ v, v ∈ new.vlanBitmap →
      VlanAt env p t.vlan v (vlanConfig new v) ∧ VlanAt env p s'.vlan v (vlanConfig new v) := by
    intro v hv
    have hlt := (new.vlan_valid v hv).2
    refine ⟨ht.reflects.vlans v hlt ?_, hs'.reflects.vlans v hlt ?_⟩
    · rw [ht.domains.domBitmap]
      exact hnew v hv
    · rw [hs'.domains.domBitmap]
      exact hnew v hv
  have hvrf : ∀ v, s'.vlan.getVrfId v = t.vlan.getVrfId v := by
    intro v
    rw [NlVlan.getVrfId, NlVlan.getVrfId, hs'.enslaved.vlanVrf, ht.enslaved.vlanVrf]
  have hgone : ∀ {u : NlBridge M}, Added env p s new u → ∀ v < 2 ^ 12, v ∉ new.vlanBitmap →
      (u.vlan.swi.entries env.fm p v).inOut = (none, none) := by
    intro u hu v hv hno
    have hin := hu.enslaved.swi.ingress v hv hno
    have hout := hu.enslaved.swi.egress v hv hno
    rw [h0.entries v hv] at hin hout
    rw [PortEntries.inOut, hin.eq_none, hout.eq_none]
  constructor
  · rw [hs'.enslaved.mem_iff, ht.enslaved.mem_iff]
  · intro v
    by_cases hv : v ∈ new.vlanBitmap
    · rw [(hvlan v hv).1.recorded, (hvlan v hv).2.recorded]
    · rw [Table.not_mem_iff_lookup.mp (mt (ht.enslaved.recorded v).mp hv),
        Table.not_mem_iff_lookup.mp (mt (hs'.enslaved.recorded v).mp hv)]
  · rw [hs'.reflects.portPvid, ht.reflects.portPvid]
  · intro v hv
    have hinOut : (s'.vlan.swi.entries env.fm p v).inOut =
        (t.vlan.swi.entries env.fm p v).inOut := by
      by_cases hmem : v ∈ new.vlanBitmap
      · obtain ⟨h1, h2⟩ := hvlan v hmem
        rw [PortEntries.inOut, PortEntries.inOut, h1.ingress, h2.ingress, h1.egress, h2.egress, hvrf]
      · rw [hgone ht v hv hmem, hgone hs' v hv hmem]
    rw [PortEntries.eq_iff_of_inOut hinOut, ht.reflects.pvid v hv, hs'.reflects.pvid v hv]
  · intro v hv
    refine flood_eq (ht.enslaved.swi.mirrors v hv) (hs'.enslaved.swi.mirrors v hv)
      (Finset.ext fun g => ?_)
    rw [ht.enslaved.swi.members v hv, hs'.enslaved.swi.members v hv]

/-- **Updating a port** from one link to another leaves it with the same as adding it with the
other link. -/
theorem updateVlans_incremental (env : VlanEnv M) (hE : env.fm.Encodes) (p : PortId)
    (s : NlBridge M) (h : Absent env p s) (old new : BrVlan)
    (hold : ∀ v ∈ old.vlanBitmap, v ∉ s.vxlanDomBitmap)
    (hnew : ∀ v ∈ new.vlanBitmap, v ∉ s.vxlanDomBitmap) :
    Runs (fun t => Runs (fun s' => SameVlans env p t.vlan s'.vlan)
        ((s.updateVlans env {} (.port p) [] none (some old)).bind fun s =>
          s.updateVlans env {} (.port p) [] (some old) (some new)))
      (s.updateVlans env {} (.port p) [] none (some new)) := by
  have hadd := Added.updateVlans hE h none (h.added hE) hnew
  refine Runs.imp (fun t ht => ?_) hadd
  have hfirst := Added.updateVlans hE h none (h.added hE) hold
  refine hfirst.bind fun s₁ hs₁ => ?_
  have hsecond := hs₁.updateVlans hE h (some old) hnew
  exact Runs.imp (fun s' hs' => ht.sameVlans h hnew hs') hsecond

/-- Port 1 of a switch that has got no call. -/
theorem absent_init : Absent .noBonds port1 ({} : NlBridge (Nat × List Nat)) where
  port := by decide
  physical := by decide
  bridgeVlan := rfl
  portPvid := rfl
  entries _ _ := rfl
  flood v _ := by simp [L2Domain.members]
  reached := ⟨[], by simp, rfl⟩

-- The linter would take the runs to their normal forms.
set_option linter.constructorNameAsVariable false in
/-- VLAN 10 becomes tagged, VLAN 20 goes, VLAN 30 comes, and the PVID changes. -/
theorem updateVlans_incremental_threeVlans :
    Runs (fun t => Runs (fun s' => SameVlans .noBonds port1 t.vlan s'.vlan)
        ((({} : NlBridge (Nat × List Nat)).updateVlans .noBonds {} (.port port1) [] none
            (some { pvid := 10, vlanBitmap := {10, 20}, untaggedBitmap := {10} })).bind fun s =>
          s.updateVlans .noBonds {} (.port port1) []
            (some { pvid := 10, vlanBitmap := {10, 20}, untaggedBitmap := {10} })
            (some { pvid := 30, vlanBitmap := {10, 30}, untaggedBitmap := {30} })))
      (({} : NlBridge (Nat × List Nat)).updateVlans .noBonds {} (.port port1) [] none
        (some { pvid := 30, vlanBitmap := {10, 30}, untaggedBitmap := {30} })) := by
  have hsame := updateVlans_incremental .noBonds ofdpaVlanDriver_encodes port1 {} absent_init
    { pvid := 10, vlanBitmap := {10, 20}, untaggedBitmap := {10} }
    { pvid := 30, vlanBitmap := {10, 30}, untaggedBitmap := {30} }
    (fun _ _ => Finset.notMem_empty _) (fun _ _ => Finset.notMem_empty _)
  -- `exact` would take the runs to their normal forms.
  assumption

end Incremental

end NlBridge

end Basebox
