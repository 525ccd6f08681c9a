import Basebox.Netlink.BridgeStp
import Basebox.Netlink.PortConfig

/-!
# Updates of bridge ports (`src/netlink/nl_bridge.cc`)

A netlink message has the old and the new link of a bridge port, and can change several things at
once: the STP state, the VLANs, the flag for locked ports.

* `BridgePorts`, `PortLink`: `nl_bridge` with the switch, and what it reads of a link.
* `updateInterface`: the handler of an update. A new STP state ends it before the rest is compared.
* `PortReflects`: the switch has for a port what its link says.
* `reflects_iff_along`: along a chain of updates the switch has what the last link says exactly if
  each update meets `AppliesAll`: one with a new STP state has no other difference.

No call to the switch fails here. The VLANs of a port that are VXLAN domains are no VLANs of the port
on the switch.
-/

namespace Basebox

instance (p : Nat) : Decidable (Nbi.IsPort p) := decidable_of_iff _ Nbi.isPort_iff.symm

/-- `sai_bridge_port_fdb_learning_t`. -/
inductive FdbLearning where
  | drop
  | disable
  | hw
  | cpuTrap
  | cpuLog
  | fdbNotification
  | fdbLogNotification
  deriving DecidableEq

/-- How the switch learns new addresses on a port, and known ones that move there. -/
structure PortLearning where
  learn : FdbLearning
  moveLearn : FdbLearning
  deriving DecidableEq

/-- What `set_port_locked` sets. -/
def PortLearning.ofLocked (locked : Bool) : PortLearning :=
  if locked then
    -- learn pending, but don't forward; roaming to locked ports is dropped
    { learn := .fdbNotification, moveLearn := .drop }
  else { learn := .fdbLogNotification, moveLearn := .fdbLogNotification }

theorem PortLearning.ofLocked_injective : Function.Injective PortLearning.ofLocked := by
  intro a b
  revert a b
  decide

/-- The `AF_UNSPEC` link of an interface, as far as `nl_bridge` reads it: of a VLAN interface the
VLAN and its protocol. -/
structure BaseLink where
  vlan : Option (Nat × Nat) := none

/-- The VLAN of a VLAN interface, else 0. -/
def BaseLink.outerVid (base : BaseLink) : Nat := (base.vlan.map (·.1)).getD 0

/-- The `AF_BRIDGE` link of a port with a port id, with its `AF_UNSPEC` link if the cache has that
(`base`). -/
structure PortLink where
  portId : PortId
  base : Option BaseLink
  master : Int
  state : Nat
  /-- `RTNL_BRIDGE_LOCKED`. -/
  locked : Bool
  portVlan : Option BrVlan
  state_le : state ≤ BR_STATE_BLOCKING := by decide

/-- The VLANs of a link. -/
def PortLink.vlans (link : PortLink) : BrVlan := link.portVlan.getD .noVlans

/-- `get_bond_members_by_port_id`. -/
def VlanEnv.memberIds {M : Type} (env : VlanEnv M) (portId : Nat) : List Nat :=
  if h : Nbi.IsPort portId then (env.members ⟨portId, h⟩).map (·.1) else []

/-- `nl_bridge` with what it has set on the switch. -/
structure BridgePorts (M : Type) where
  vlans : NlBridge M := {}
  stp : BridgeStp := {}
  learning : Table PortId PortLearning := ∅
  /-- The entries for the outer VLANs of ports. -/
  stackedVlans : Finset (PortId × Nat) := ∅
  egressTpid : Finset PortId := ∅

namespace NlBridge

variable {M : Type} [DecidableEq M] (env : VlanEnv M) (ok : BrSwitch)

/-- `changeVlan` and `change` for a port, which may be a VLAN interface with the VLAN `outerVid`. -/
def changePort (outerVid : Nat) (pportNo : PortId) (new : BrVlan) (s : NlBridge M) :
    Change → Except Crash (NlBridge M)
  | .vlan vid =>
    let egressUntagged := decide (vid ∈ new.untaggedBitmap)
    if vid ∈ new.vlanBitmap then
      if vid ∈ s.vxlanDomBitmap then
        match s.vxlanDomain.lookup vid with
        | some tunnelId => .ok (s.createAccessPort env ok tunnelId pportNo vid egressUntagged)
        | none => .error .fatal
      else
        .ok { s with
          vlan := (s.vlan.addBridgeVlan env ok.vlan pportNo outerVid vid false (!egressUntagged)).2 }
    else .ok { s with vlan := s.vlan.removeBridgeVlan env ok.vlan pportNo outerVid vid false }
  | .untagged vid =>
    .ok { s with
      vlan := (s.vlan.updateEgressBridgeVlan env ok.vlan pportNo vid
        (decide (vid ∈ new.untaggedBitmap))).2 }

/-- `update_vlans` of a port. -/
def updatePortVlans (s : NlBridge M) (outerVid : Nat) (pportNo : PortId) (old new : Option BrVlan) :
    Except Crash (NlBridge M) :=
  let old := old.getD .noVlans
  let new := new.getD .noVlans
  if old = new then .ok s
  else if pportNo.1 = 0 then .ok s
  else
    let (rv, vlan) := removeOldPvid env ok s.vlan pportNo old new
    if rv < 0 then .ok { s with vlan := vlan }
    else
      ((changes old new).foldlM (changePort env ok outerVid pportNo new)
        { s with vlan := vlan }).map
        fun s => { s with vlan := addNewPvid env ok s.vlan pportNo old new }

/-- A port that is no VLAN interface. -/
theorem updatePortVlans_eq (s : NlBridge M) (pportNo : PortId) (old new : Option BrVlan) :
    s.updatePortVlans env ok 0 pportNo old new = s.updateVlans env ok (.port pportNo) [] old new := by
  have hchange : ∀ new : BrVlan, changePort env ok 0 pportNo new =
      change env ok (.port pportNo) [] new := by
    intro new
    funext s c
    cases c with
    | vlan vid => rfl
    | untagged vid => rfl
  unfold updatePortVlans updateVlans
  simp only [hchange]
  refine if_congr Iff.rfl rfl (if_congr ?_ rfl rfl)
  simp [BrLink.unknown]

/-! ## The tunnels of the domains -/

/-- Each VLAN in the bitmap of the domains has its tunnel. -/
def Mapped (s : NlBridge M) : Prop := ∀ v ∈ s.vxlanDomBitmap, v ∈ s.vxlanDomain

variable {env ok} {s : NlBridge M}

omit [DecidableEq M] in
theorem Mapped.of_eq {s' : NlBridge M} (h : Mapped s)
    (hs' : s'.vxlanDomain = s.vxlanDomain ∧ s'.vxlanDomBitmap = s.vxlanDomBitmap) : Mapped s' := by
  intro v hv
  rw [hs'.1]
  exact h v (hs'.2 ▸ hv)

theorem Mapped.change (h : Mapped s) {link : BrLink} {brPorts : BrPorts} {new : BrVlan} {c : Change}
    {s' : NlBridge M} (hc : change env ok link brPorts new s c = .ok s') : Mapped s' := by
  cases c with
  | untagged vid =>
    cases hc
    exact h
  | vlan vid =>
    simp only [NlBridge.change, changeVlan] at hc
    split at hc
    · cases link with
      | port pportNo =>
        simp only at hc
        split at hc
        · split at hc
          · cases hc
            exact h.of_eq (createAccessPort_domain ..)
          · cases hc
        · cases hc
          exact h
      | vxlan tunnelId =>
        cases hc
        refine Mapped.of_eq ?_ (updateAccessPorts_domain ..)
        split
        · intro v hv
          simp only [Finset.mem_insert] at hv
          simp only [Table.mem_iff_lookup, Table.lookup_emplace]
          split
          · simp
          · rename_i hne
            exact Table.mem_iff_lookup.mp (h v (hv.resolve_left hne))
        · exact h
    · cases link with
      | port pportNo =>
        cases hc
        exact h
      | vxlan tunnelId =>
        cases hc
        refine Mapped.of_eq ?_ (updateAccessPorts_domain ..)
        intro v hv
        simp only [Finset.mem_erase] at hv
        exact AList.mem_erase.mpr ⟨hv.1, h v hv.2⟩

/-- It is so in every run. -/
theorem mapped_run (env : VlanEnv M) (es : List Ev) :
    WhileRuns Mapped (run (procStep (exec env)) (.ok ({} : NlBridge M)) es) := by
  refine whileRuns_run (fun v hv => nomatch hv) (fun s e s' h hs' => ?_) es
  cases e with
  | updateVlans ok link brPorts old new =>
    have hkept : WhileRuns Mapped (s.updateVlans env ok link brPorts old new) :=
      whileRuns_updateVlans env ok h (fun _ _ hs => hs) fun _ _ _ hs hc => hs.change hc
    rw [show s.updateVlans env ok link brPorts old new = .ok s' from hs'] at hkept
    exact hkept
  | addL2Neigh ok tunnelId brLink brPorts =>
    cases hs'
    unfold updateAccessPortsOfLink
    split
    · exact h
    · simp only
      split
      · exact h
      · have hkept := fun vid => h.of_eq
          (updateAccessPorts_domain env ok s vid tunnelId brPorts true)
        intro v hv
        simp only [Table.mem_iff_lookup, Table.lookup_emplace]
        split
        · simp
        · exact Table.mem_iff_lookup.mp (hkept _ v hv)

end NlBridge

namespace BridgePorts

variable {M : Type} [DecidableEq M] (env : VlanEnv M)

/-- The ports that the settings of a port go to. -/
def portsOf (portId : PortId) : List PortId :=
  if Nbi.isLag portId then env.members portId else [portId]

omit [DecidableEq M] in
/-- `set_port_stp_state`. -/
def setPortStpState (s : BridgePorts M) (portId : PortId) (stpState : Nat) : BridgePorts M :=
  { s with stp := BridgeStp.setPortStpState env.memberIds s.stp portId stpState }

omit [DecidableEq M] in
/-- `set_port_locked`. -/
def setPortLocked (s : BridgePorts M) (portId : PortId) (locked : Bool) : BridgePorts M :=
  if portId.1 = 0 then s
  else
    { s with
      learning := (portsOf env portId).foldl
        (fun learning port => learning.insert port (.ofLocked locked)) s.learning }

/-- `update_vlans` of a port whose links these are. -/
def updateVlans (s : BridgePorts M) (link : PortLink) (old new : Option PortLink) :
    Except Crash (BridgePorts M) :=
  match link.base with
  | none => .ok s
  | some base =>
    (s.vlans.updatePortVlans env {} base.outerVid link.portId (old.bind (·.portVlan))
      (new.bind (·.portVlan))).map fun vlans => { s with vlans := vlans }

/-- `update_interface`. The bridge is given by its index, if there is one. -/
def updateInterface (bridge : Option Int) (s : BridgePorts M) (old new : PortLink) :
    Except Crash (BridgePorts M) :=
  match bridge with
  | none => .ok s
  | some ifindex =>
    if ifindex ≠ new.master then .ok s
    else if old.state ≠ new.state then
      .ok (if new.portId.1 > 0 then s.setPortStpState env new.portId new.state else s)
    else
      (s.updateVlans env new (some old) (some new)).map fun s =>
        if old.locked ≠ new.locked then s.setPortLocked env new.portId new.locked else s

/-! ## Ports as their links say -/

/-- The switch has the STP state, the VLANs and the learning mode of the link. -/
structure PortReflects (link : PortLink) (s : BridgePorts M) : Prop where
  state : s.stp.programmed.lookup (link.portId.1, 1) = Stgs.bcmState link.state
  vlans : NlBridge.Reflects env link.portId link.vlans s.vlans
  learning : s.learning.lookup link.portId = some (.ofLocked link.locked)

/-- A link of a physical port of the bridge. -/
structure IsLinkOf (ifindex : Int) (p : PortId) (link : PortLink) : Prop where
  portId : link.portId = p
  base : link.base = some {}
  master : link.master = ifindex

/-- What holds of the bridge at all times (`BridgeStp.step_good`, `NlBridge.mapped_run`). -/
structure Inv (s : BridgePorts M) : Prop where
  stp : s.stp.Inv
  mapped : s.vlans.Mapped

/-- Two links say the same about the VLANs that are no domains, and about the PVID. -/
def SameVlanConfig (s : BridgePorts M) (old new : PortLink) : Prop :=
  (∀ v < 2 ^ 12, v ∉ s.vlans.vxlanDomBitmap →
    NlBridge.vlanConfig old.vlans v = NlBridge.vlanConfig new.vlans v) ∧
  NlBridge.recordedPvid old.vlans = NlBridge.recordedPvid new.vlans

/-- The updates that are applied as a whole. One with a new STP state differs in nothing else (and
VLAN 0 has no spanning tree group of its own), one without does not lose the PVID to an access
port. -/
def AppliesAll (s : BridgePorts M) (old new : PortLink) : Prop :=
  if old.state = new.state then ¬ NlBridge.LosesPvid s.vlans new.portId old.vlans new.vlans
  else s.stp.sw.lookupStpid 0 = 0 ∧ SameVlanConfig s old new ∧ old.locked = new.locked

/-- One update after the other; the new link is the old one of the next. -/
def exec (ifindex : Int) (p : PortId) (x : BridgePorts M × PortLink)
    (new : { link : PortLink // IsLinkOf ifindex p link }) :
    Except Crash (BridgePorts M × PortLink) :=
  (x.1.updateInterface env (some ifindex) x.2 new.1).map fun s => (s, new.1)

section Update

variable {env : VlanEnv M} {ifindex : Int} {p : PortId} {s s' : BridgePorts M} {old new : PortLink}

/-! ### The STP state -/

theorem lt_of_physical (hlag : Nbi.isLag p = false) : p.1 < 2 ^ 16 := by
  have hnot : ¬ Nbi.isLag p.1 = true := by simp [hlag]
  rw [Nbi.isLag_iff] at hnot
  rcases Nbi.isPort_iff.mp p.2 with h | h
  · exact h
  · exact absurd h hnot

variable (env) in
omit [DecidableEq M] in
/-- A state that is not the old one is on the switch exactly if VLAN 0 has no group of its own. -/
theorem programmed_setPortStpState (h : s.stp.Inv) (hlag : Nbi.isLag p = false)
    (hold : s.stp.programmed.lookup (p.1, 1) = Stgs.bcmState old.state) (hne : old.state ≠ new.state) :
    (BridgeStp.setPortStpState env.memberIds s.stp p new.state).programmed.lookup (p.1, 1) =
      Stgs.bcmState new.state ↔ s.stp.sw.lookupStpid 0 = 0 := by
  obtain ⟨-, s₁, hsw, hsame, heq⟩ :=
    h.setPortStpState env.memberIds (lt_of_physical hlag) new.state
  obtain ⟨b, hb⟩ := Stgs.bcmState_isSome.mpr new.state_le
  rw [heq, hb]
  by_cases h0 : s.stp.sw.lookupStpid 0 = 0
  · refine iff_of_true ?_ h0
    rw [BridgeStp.program_default (by rw [hsw]; exact h0) hb, if_pos rfl]
  · refine iff_of_false ?_ h0
    have hown : BridgeStp.SameDefault s₁ (s₁.program p.1 0 new.state).2 := by
      refine BridgeStp.program_own (by rw [hsw]; exact h.wf) ?_
      rw [hsw]
      exact mt h.wf.lookupStpid_eq_zero.mpr h0
    rw [hown p.1, hsame p.1, hold]
    exact fun hb' => hne (Stgs.bcmState_inj hb' hb)

/-! ### The VLANs -/

theorem vlanAt_unique {env : VlanEnv M} {vlan : NlVlan M} {v : Nat} {x y : Option Bool}
    (hx : VlanAt env p vlan v x) (hy : VlanAt env p vlan v y) : x = y := by
  have heq := hx.recorded.symm.trans hy.recorded
  refine Option.map_injective (fun a b hab => ?_) heq
  exact Bool.not_inj (congrArg Prod.snd hab)

/-- The same VLANs are those of two links exactly if the links say the same about them. -/
theorem reflects_iff_same (h : NlBridge.Reflects env p old.vlans s.vlans) :
    NlBridge.Reflects env p new.vlans s.vlans ↔ SameVlanConfig s old new := by
  constructor
  · intro h'
    refine ⟨fun v hv hdom => vlanAt_unique (h.vlans v hv hdom) (h'.vlans v hv hdom), ?_⟩
    rw [← h.portPvid, h'.portPvid]
  · rintro ⟨hvlans, hpvid⟩
    refine ⟨fun v hv hdom => ?_, ?_, ?_⟩
    · rw [← hvlans v hv hdom]
      exact h.vlans v hv hdom
    · rw [← hpvid]
      exact h.portPvid
    · rw [← hpvid]
      exact h.pvid

/-! ### An update -/

omit [DecidableEq M] in
theorem setPortLocked_physical (hport : p.1 ≠ 0) (hlag : Nbi.isLag p = false) (locked : Bool) :
    s.setPortLocked env p locked =
      { s with learning := s.learning.insert p (.ofLocked locked) } := by
  simp [setPortLocked, portsOf, hport, hlag]

/-- The VLANs of an update. -/
theorem updateVlans_reflects_iff (hE : env.fm.Encodes) (hport : p.1 ≠ 0)
    (hlag : Nbi.isLag p = false) (hinv : Inv s) (hold : NlBridge.Reflects env p old.vlans s.vlans)
    (hnew : IsLinkOf ifindex p new) :
    Runs (fun s' => ∃ vlans, s' = { s with vlans := vlans } ∧ Inv s' ∧
      (NlBridge.Reflects env p new.vlans vlans ↔
        ¬ NlBridge.LosesPvid s.vlans p old.vlans new.vlans))
      (s.updateVlans env new (some old) (some new)) := by
  unfold updateVlans
  simp only [hnew.base, hnew.portId, BaseLink.outerVid, Option.map_none, Option.getD_none,
    Option.bind_some, NlBridge.updatePortVlans_eq]
  rw [runs_map]
  have hupdate := hold.updateVlans hE hport hlag old.portVlan new.portVlan fun v _ => hinv.mapped v
  refine Runs.imp (fun vlans hvlans => ?_) hupdate
  obtain ⟨⟨hbitmap, hdomain⟩, hiff⟩ := hvlans
  refine ⟨vlans, rfl, ⟨hinv.stp, fun v hv => ?_⟩, hiff⟩
  rw [hdomain]
  exact hinv.mapped v (hbitmap ▸ hv)

/-- **An update** of a port that reflects its old link. -/
theorem updateInterface_reflects_iff (hE : env.fm.Encodes) (hport : p.1 ≠ 0)
    (hlag : Nbi.isLag p = false) (hinv : Inv s) (hold : old.portId = p) (h : PortReflects env old s)
    (hnew : IsLinkOf ifindex p new) :
    Runs (fun s' => Inv s' ∧ (PortReflects env new s' ↔ AppliesAll s old new))
      (s.updateInterface env (some ifindex) old new) := by
  have hid := hnew.portId
  obtain ⟨hstp, hvlans, hlearning⟩ := h
  rw [hold] at hstp hvlans hlearning
  unfold updateInterface AppliesAll
  simp only [hnew.master, hid, ne_eq, not_true_eq_false, if_false]
  by_cases hstate : old.state = new.state
  · simp only [hstate, not_true_eq_false, if_false, if_true]
    rw [runs_map]
    have hupdate := updateVlans_reflects_iff hE hport hlag hinv hvlans hnew
    refine Runs.imp ?_ hupdate
    rintro _ ⟨vlans, rfl, hinv', hiff⟩
    -- Only the VLANs and the learning mode have changed.
    have hafter : ∀ t : BridgePorts M, t.vlans = vlans → t.stp = s.stp →
        t.learning.lookup p = some (.ofLocked new.locked) →
        (PortReflects env new t ↔ ¬ NlBridge.LosesPvid s.vlans p old.vlans new.vlans) := by
      intro t ht hs hl
      rw [← hiff]
      constructor
      · intro hr
        have hvlans' := hr.vlans
        rwa [hid, ht] at hvlans'
      · intro hr
        constructor
        · rw [hid, hs, ← hstate]
          exact hstp
        · rw [hid, ht]
          exact hr
        · rw [hid]
          exact hl
    by_cases hlocked : old.locked = new.locked
    · simp only [hlocked, not_true_eq_false, if_false]
      exact ⟨hinv', hafter _ rfl rfl (hlocked ▸ hlearning)⟩
    · simp only [hlocked, not_false_eq_true, if_true]
      rw [setPortLocked_physical hport hlag]
      refine ⟨⟨hinv'.stp, hinv'.mapped⟩, hafter _ rfl rfl ?_⟩
      simp only [AList.lookup_insert]
  · simp only [hstate, not_false_eq_true, if_true, if_false, Nat.pos_of_ne_zero hport]
    have hprogrammed := programmed_setPortStpState env hinv.stp hlag hstp hstate
    have hinv' := (hinv.stp.setPortStpState env.memberIds (lt_of_physical hlag) new.state).1
    refine ⟨⟨hinv', hinv.mapped⟩, ?_⟩
    constructor
    · rintro ⟨hs, hv, hl⟩
      rw [hid] at hs hv hl
      refine ⟨hprogrammed.mp hs, (reflects_iff_same hvlans).mp hv, ?_⟩
      exact PortLearning.ofLocked_injective (Option.some.inj (hlearning.symm.trans hl))
    · rintro ⟨hzero, hsame, hlocked⟩
      constructor
      · rw [hid]
        exact hprogrammed.mpr hzero
      · rw [hid]
        exact (reflects_iff_same hvlans).mpr hsame
      · rw [hid, ← hlocked]
        exact hlearning

/-- An update with the old STP state leaves the spanning trees as they are. -/
theorem updateInterface_stp (hE : env.fm.Encodes) (hport : p.1 ≠ 0) (hlag : Nbi.isLag p = false)
    (hinv : Inv s) (hold : NlBridge.Reflects env p old.vlans s.vlans)
    (hnew : IsLinkOf ifindex p new) (hstate : old.state = new.state) :
    Runs (fun s' => s'.stp = s.stp) (s.updateInterface env (some ifindex) old new) := by
  have hid := hnew.portId
  unfold updateInterface
  simp only [hnew.master, hid, hstate, ne_eq, not_true_eq_false, if_false]
  rw [runs_map]
  refine Runs.imp ?_ (updateVlans_reflects_iff hE hport hlag hinv hold hnew)
  rintro _ ⟨vlans, rfl, -, -⟩
  rw [setPortLocked_physical hport hlag]
  split <;> rfl

/-- The switch has for the port what its last link says. -/
def LastReflects (env : VlanEnv M) (x : BridgePorts M × PortLink) : Prop := PortReflects env x.2 x.1

end Update

/-! ## Updates of port 1 -/

/-- Port 1 forwards, and has no VLANs. -/
def forwarding : PortLink where
  portId := port1
  base := some {}
  master := 5
  state := BR_STATE_FORWARDING
  locked := false
  portVlan := none

/-- It blocks. -/
def blocking : PortLink := { forwarding with state := BR_STATE_BLOCKING, state_le := by decide }

/-- It blocks, and has VLAN 20. -/
def blockingInVlan : PortLink :=
  { blocking with
    portVlan := some { BrVlan.noVlans with vlanBitmap := {20}, vlan_valid := by decide } }

/-- It forwards, is locked, and has VLAN 20 as its PVID. -/
def lockedPvid : PortLink :=
  { forwarding with
    locked := true
    portVlan := some
      { BrVlan.noVlans with
        pvid := 20
        vlanBitmap := {20}
        untaggedBitmap := {20}
        pvid_lt := by decide
        vlan_valid := by decide
        untagged_lt := by decide } }

/-- It blocks, with the same VLAN and still locked. -/
def lockedBlocking : PortLink :=
  { lockedPvid with state := BR_STATE_BLOCKING, state_le := by decide }

/-- The switch while it forwards. -/
def forwardingPort : BridgePorts (Nat × List Nat) where
  stp := BridgeStp.setPortStpState VlanEnv.noBonds.memberIds {} port1 BR_STATE_FORWARDING
  learning := (∅ : Table PortId PortLearning).insert port1 (.ofLocked false)

theorem forwardingPort_inv : Inv forwardingPort where
  stp := (BridgeStp.inv_init.setPortStpState _ (by decide) _).1
  mapped v hv := nomatch hv

theorem forwardingPort_reflects : PortReflects .noBonds forwarding forwardingPort where
  state := by decide
  vlans := (NlBridge.absent_init.added ofdpaVlanDriver_encodes).reflects
  learning := AList.lookup_insert _

end BridgePorts

end Basebox
