import Basebox.Netlink.VlanEntries

/-!
# The VLANs of a bridge port when no call to the switch fails

* `execAll`: a sequence of calls that all succeed.
* `addBridgeVlan_ok`, `removeBridgeVlan_ok` and the others: the functions of `nl_vlan` for bridge
  ports as an update of its records and such a sequence.
-/

namespace Basebox

section Calls

variable {M : Type} [DecidableEq M] (fm : VlanDriver M)

/-- The calls in order. -/
def execAll (cs : List SwiCall) (s : PortSwitch M) : PortSwitch M :=
  cs.foldl (fun s c => c.exec fm s) s

variable {fm}

@[simp] theorem execAll_nil (s : PortSwitch M) : execAll fm [] s = s := rfl

@[simp] theorem execAll_cons (c : SwiCall) (cs : List SwiCall) (s : PortSwitch M) :
    execAll fm (c :: cs) s = execAll fm cs (c.exec fm s) := rfl

theorem execAll_append (cs cs' : List SwiCall) (s : PortSwitch M) :
    execAll fm (cs ++ cs') s = execAll fm cs' (execAll fm cs s) := List.foldl_append

theorem swiEach_allOk (cs : List SwiCall) (s : PortSwitch M) :
    swiEach fm allOk cs s = execAll fm cs s := rfl

theorem swiUntilFail_allOk (cs : List SwiCall) (s : PortSwitch M) :
    swiUntilFail fm allOk 0 cs s = (0, execAll fm cs s) := by
  induction cs generalizing s with
  | nil => rfl
  | cons c cs ih => exact ih _

/-- What each call keeps. -/
theorem execAll_keeps {I : PortSwitch M → Prop} {cs : List SwiCall} {s : PortSwitch M} (h0 : I s)
    (hstep : ∀ c ∈ cs, ∀ s, I s → I (c.exec fm s)) : I (execAll fm cs s) := by
  induction cs generalizing s with
  | nil => exact h0
  | cons c cs ih =>
    obtain ⟨hc, hcs⟩ := List.forall_mem_cons.mp hstep
    exact ih (hc s h0) hcs

/-- What one call brings about, with what it needs (`J`), and the others keep. -/
theorem execAll_establishes {P J : PortSwitch M → Prop} {cs : List SwiCall} {s : PortSwitch M}
    {c : SwiCall} (hc : c ∈ cs) (h0 : J s) (hJ : ∀ c ∈ cs, ∀ s, J s → J (c.exec fm s))
    (hP : ∀ c ∈ cs, ∀ s, P s → P (c.exec fm s)) (hstep : ∀ s, J s → P (c.exec fm s)) :
    P (execAll fm cs s) := by
  obtain ⟨cs₁, cs₂, rfl⟩ := List.append_of_mem hc
  rw [execAll_append, execAll_cons]
  have hbefore : J (execAll fm cs₁ s) := execAll_keeps h0 fun x hx => hJ x (by simp [hx])
  exact execAll_keeps (hstep _ hbefore) fun x hx => hP x (by simp [hx])

/-- What one call brings about in any state, and the others keep. -/
theorem execAll_of_mem {P : PortSwitch M → Prop} {cs : List SwiCall} {s : PortSwitch M}
    {c : SwiCall} (hc : c ∈ cs) (hP : ∀ c ∈ cs, ∀ s, P s → P (c.exec fm s))
    (hstep : ∀ s, P (c.exec fm s)) : P (execAll fm cs s) :=
  execAll_establishes (J := fun _ => True) hc trivial (fun _ _ _ _ => trivial) hP fun s _ => hstep s

end Calls

namespace NlVlan

variable {M : Type} [DecidableEq M] {env : VlanEnv M} {s : NlVlan M} {port : PortId}

/-- The VLANs of a bridge port. -/
def vlansOfPort {M : Type} (s : NlVlan M) (port : PortId) : Table Nat (Nat × Bool) :=
  (s.bridgeVlan.lookup port).getD ∅

/-- The calls of `add_bridge_vlan`, for a port that is no VLAN interface. -/
def addBridgeVlanCalls (env : VlanEnv M) (port : PortId) (vid : Nat) (pvid tagged : Bool)
    (vrfId : Nat) : List SwiCall :=
  (bridgeVlanPorts env port).flatMap fun port =>
    [.egressBridgePortVlanAdd port vid (!tagged), .ingressPortVlanAdd port vid pvid vrfId]

theorem addBridgeVlan_ok (hport : port.1 ≠ 0) {vid : Nat} (hvid : isVidValid vid = true)
    (pvid tagged : Bool) :
    addBridgeVlan env allOk s port 0 vid pvid tagged =
      (0, { s with
        bridgeVlan := s.bridgeVlan.insert port ((s.vlansOfPort port).emplace vid (0, tagged))
        portPvid := if pvid then s.portPvid.emplace port vid else s.portPvid
        swi := execAll env.fm (addBridgeVlanCalls env port vid pvid tagged (s.getVrfId vid))
          s.swi }) := by
  unfold addBridgeVlan
  simp only [hvid, hport, Bool.not_true, Bool.false_eq_true, if_false, Nat.lt_irrefl, gt_iff_lt,
    swiUntilFail_allOk, Int.lt_irrefl]
  rfl

/-- The calls of `remove_bridge_vlan`. -/
def removeBridgeVlanCalls (env : VlanEnv M) (port : PortId) (vid : Nat) (pvid : Bool) (vrfId : Nat) :
    List SwiCall :=
  (bridgeVlanPorts env port).flatMap fun port =>
    [.egressBridgePortVlanRemove port vid, .ingressPortVlanRemove port vid pvid vrfId]

theorem removeBridgeVlan_ok (hport : port.1 ≠ 0) {vid : Nat} (hvid : isVidValid vid = true) :
    removeBridgeVlan env allOk s port 0 vid false =
      { s with
        bridgeVlan :=
          match s.bridgeVlan.lookup port with
          | none => s.bridgeVlan
          | some vlans =>
            if (vlans.erase vid).entries = [] then s.bridgeVlan.erase port
            else s.bridgeVlan.insert port (vlans.erase vid)
        swi := execAll env.fm (removeBridgeVlanCalls env port vid false (s.getVrfId vid)) s.swi } := by
  unfold removeBridgeVlan
  simp only [hvid, hport, Bool.not_true, Bool.false_eq_true, if_false, Nat.lt_irrefl, gt_iff_lt,
    swiEach_allOk]
  rfl

/-- `update_egress_bridge_vlan` does nothing for a VLAN that is not recorded. -/
theorem updateEgressBridgeVlan_ok (hport : port.1 ≠ 0) {vid : Nat} (hvid : isVidValid vid = true)
    (untagged : Bool) :
    (updateEgressBridgeVlan env allOk s port vid untagged).2 =
      match (s.vlansOfPort port).lookup vid with
      | none => s
      | some (outerVid, _) =>
        { s with
          bridgeVlan := s.bridgeVlan.insert port
            ((s.vlansOfPort port).insert vid (outerVid, !untagged))
          swi := execAll env.fm ((bridgeVlanPorts env port).map fun port =>
            .egressPortVlanAdd port vid untagged true) s.swi } := by
  unfold updateEgressBridgeVlan vlansOfPort
  simp only [hvid, hport, Bool.not_true, Bool.false_eq_true, if_false]
  cases s.bridgeVlan.lookup port with
  | none => rfl
  | some vlans =>
    simp only [Option.getD_some]
    cases vlans.lookup vid with
    | none => rfl
    | some x =>
      obtain ⟨outerVid, tagged⟩ := x
      simp only [swiUntilFail_allOk]

theorem addIngressPvid_ok (hnone : s.portPvid.lookup port = none) (pvid : Nat) :
    addIngressPvid env allOk s port pvid =
      (0, { s with
        portPvid := s.portPvid.emplace port pvid
        swi := execAll env.fm ((bridgeVlanPorts env port).map fun port =>
          .ingressPortPvidAdd port pvid) s.swi }) := by
  unfold addIngressPvid bridgeVlanPorts
  rw [hnone, List.map_append, execAll_append]
  simp only [swiUntilFail_allOk]
  rfl

theorem removeIngressPvid_ok {pvid : Nat} (hpvid : s.portPvid.lookup port = some pvid) :
    removeIngressPvid env allOk s port pvid =
      (0, { s with
        portPvid := s.portPvid.erase port
        swi := execAll env.fm ((bridgeVlanPorts env port).map fun port =>
          .ingressPortPvidRemove port pvid) s.swi }) := by
  unfold removeIngressPvid bridgeVlanPorts
  rw [hpvid, List.map_append, execAll_append]
  simp only [swiUntilFail_allOk, ne_eq, not_true_eq_false, if_false]
  rfl

end NlVlan

end Basebox
