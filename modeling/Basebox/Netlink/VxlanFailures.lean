import Basebox.Netlink.VxlanSwitch
import Mathlib.Data.Finset.Insert

/-!
# An access port that cannot be set up (`nl_vxlan::create_access_port`)

`create_access_port` creates the port, adds it to the tenant and to the flooding. When the port
cannot be added, it calls `delete_access_port`, which looks for the port in `access_port_ids`,
where the port is not yet.

* `TunnelSwitch`: what the calls that succeeded leave on the switch.
* `tryAccessPort_eq`: all that the retries do.
* `createAccessPort_undone_iff`: after a failure nothing is left exactly if it was the port that
  could not be created.
-/

namespace Basebox

/-- What there is of tunnels on the switch. -/
@[ext] structure TunnelSwitch where
  ports : Finset Nat := ∅
  nextHops : Finset Nat := ∅
  /-- The pairs of a port and the id of a tenant. -/
  members : Finset (Nat × Nat) := ∅
  /-- The pairs of the id of a tenant and a port. -/
  floods : Finset (Nat × Nat) := ∅
  /-- The overlay addresses that have been installed so far. -/
  installed : List (Nat × Nat × Mac) := []

namespace TunnelSwitch

/-- The switch after a call that succeeds. -/
def after (w : TunnelSwitch) : SwCall → TunnelSwitch
  | .tunnelAccessPortCreate portId _ _ _ => { w with ports := insert portId w.ports }
  | .tunnelEndpointCreate lportId _ _ => { w with ports := insert lportId w.ports }
  | .tunnelPortDelete lportId => { w with ports := w.ports.erase lportId }
  | .tunnelNextHopCreate nhId _ => { w with nextHops := insert nhId w.nextHops }
  | .tunnelNextHopDelete nhId => { w with nextHops := w.nextHops.erase nhId }
  | .tunnelPortTenantAdd lportId tunnelId =>
    { w with members := insert (lportId, tunnelId) w.members }
  | .tunnelPortTenantRemove lportId tunnelId =>
    { w with members := w.members.erase (lportId, tunnelId) }
  | .addL2OverlayFlood tunnelId lportId => { w with floods := insert (tunnelId, lportId) w.floods }
  | .delL2OverlayFlood tunnelId lportId => { w with floods := w.floods.erase (tunnelId, lportId) }
  | .l2OverlayAddrAdd lportId tunnelId mac =>
    { w with installed := w.installed ++ [(lportId, tunnelId, mac)] }
  | _ => w

/-- The switch has nothing with a port id. -/
structure Free (w : TunnelSwitch) (id : Nat) : Prop where
  port : id ∉ w.ports
  members : ∀ t, (id, t) ∉ w.members
  floods : ∀ t, (t, id) ∉ w.floods

end TunnelSwitch

namespace NlVxlan

/-- The switch after the calls that succeeded. -/
def switch (s : NlVxlan) : TunnelSwitch := s.done.foldl TunnelSwitch.after {}

/-! ## What a call leaves -/

section Send

variable {r : SwResults} {s : NlVxlan} {c : SwCall}

theorem switch_send (h : 0 ≤ r s.calls c) : (s.send r c).2.switch = s.switch.after c := by
  simp [send, switch, h]

theorem switch_send_of_neg (h : r s.calls c < 0) : (s.send r c).2.switch = s.switch := by
  simp [send, switch, not_le.mpr h]

/-- Calls that the switch may refuse as well. -/
theorem switch_send_of_eq (h : s.switch.after c = s.switch) :
    (s.send r c).2.switch = s.switch := by
  by_cases hc : 0 ≤ r s.calls c
  · rw [switch_send hc, h]
  · exact switch_send_of_neg (not_le.mp hc)

/-- A port that has been created stays until it is deleted. -/
theorem mem_ports_send {id : Nat} (h : id ∈ s.switch.ports) (hc : c ≠ .tunnelPortDelete id) :
    id ∈ (s.send r c).2.switch.ports := by
  by_cases hr : 0 ≤ r s.calls c
  · rw [switch_send hr]
    cases c with
    | tunnelPortDelete lportId =>
      exact Finset.mem_erase.mpr ⟨fun he => hc (he ▸ rfl), h⟩
    | tunnelAccessPortCreate portId p v u => exact Finset.mem_insert_of_mem h
    | tunnelEndpointCreate lportId ep nhId => exact Finset.mem_insert_of_mem h
    | _ => exact h
  · rw [switch_send_of_neg (not_le.mp hr)]
    exact h

end Send

/-! ## The retries -/

/-- The switch refuses a call each time that it is repeated, `n` times after `log`. -/
def RefusedTimes (r : SwResults) (log : List SwCall) (c : SwCall) (n : Nat) : Prop :=
  ∀ i < n, r (log ++ List.replicate i c) c < 0

/-- The port is created, or the switch has refused each time. -/
theorem tryAccessPort_eq (r : SwResults) (pportNo vid : Nat) (untagged : Bool) (retries : Nat)
    (s : NlVxlan) :
    let c := SwCall.tunnelAccessPortCreate s.portIdCnt pportNo vid untagged
    ∃ rv log, (rv < 0 ↔ RefusedTimes r s.calls c (retries + 1)) ∧
      tryAccessPort r pportNo vid untagged retries s =
        (rv, { s with calls := log, done := if rv < 0 then s.done else s.done ++ [c] }) := by
  intro c
  induction retries generalizing s with
  | zero =>
    refine ⟨r s.calls c, s.calls ++ [c], ?_, ?_⟩
    · simp [RefusedTimes]
    · simp only [tryAccessPort, send]
      by_cases hc : r s.calls c < 0
      · rw [if_neg (not_le.mpr hc), if_pos hc]
      · rw [if_pos (not_lt.mp hc), if_neg hc]
  | succ n ih =>
    simp only [tryAccessPort]
    by_cases hc : r s.calls c < 0
    · -- The call has no effect, and is repeated.
      obtain ⟨rv, log, hrv, heq⟩ := ih (s.send r c).2
      have hdone : (s.send r c).2.done = s.done := by simp [send, not_le.mpr hc]
      have hshift : RefusedTimes r s.calls c (n + 1 + 1) ↔
          RefusedTimes r (s.calls ++ [c]) c (n + 1) := by
        constructor
        · intro h i hi
          simpa [List.replicate_succ] using h (i + 1) (by omega)
        · intro h i hi
          cases i with
          | zero => simpa using hc
          | succ i => simpa [List.replicate_succ] using h i (by omega)
      refine ⟨rv, log, hrv.trans hshift.symm, ?_⟩
      rw [if_pos (show (s.send r c).1 < 0 from hc)]
      rw [show tryAccessPort r pportNo vid untagged n (s.send r c).2 = _ from heq, hdone]
      rfl
    · refine ⟨r s.calls c, s.calls ++ [c], iff_of_false hc fun h => hc ?_, ?_⟩
      · simpa using h 0 (by omega)
      · rw [if_neg (show ¬ (s.send r c).1 < 0 from hc), if_neg hc]
        simp [send, c, not_lt.mp hc]

/-! ## The failure -/

/-- `access_port_ids` is as before, and the switch has nothing with the id that the next creation
uses. -/
structure AccessPortUndone (s s' : NlVxlan) : Prop where
  ids : s'.accessPortIds = s.accessPortIds
  free : s'.switch.Free s'.portIdCnt

/-- The access port is there already. -/
def AccessPortExists (s : NlVxlan) (pportNo vid : Nat) : Prop :=
  (s.getAccessTunnelPort pportNo vid).lportId ≠ 0 ∨ (s.getAccessTunnelPort pportNo vid).tunnelId ≠ 0

/-- The switch refuses to create the port, each of the fifty times. -/
def CreationRefused (r : SwResults) (s : NlVxlan) (pportNo vid : Nat) (untagged : Bool) : Prop :=
  RefusedTimes r
    (s.calls ++ [.egressBridgePortVlanRemove pportNo vid,
      .ingressPortVlanRemove pportNo vid untagged])
    (.tunnelAccessPortCreate s.portIdCnt pportNo vid untagged) 50

section Failure

variable (r : SwResults) (s : NlVxlan) (flooding : Bool) (tunnelId pportNo vid : Nat)
  (untagged : Bool)

/-- A port that was created is not undone by `delete_access_port`: it is not in the map and stays on
the switch. If another one is there, that one goes. -/
theorem deleteAccessPort_not_undone {s₀ : NlVxlan} (hids : s.accessPortIds = s₀.accessPortIds)
    (hport : s.portIdCnt ∈ s.switch.ports) (wipe : Bool) :
    ¬ AccessPortUndone s₀ (s.deleteAccessPort r flooding pportNo vid wipe).2 := by
  intro h
  unfold deleteAccessPort at h
  cases hfind : s.accessPortIds.find ⟨pportNo, vid⟩ with
  | none =>
    rw [hfind] at h
    exact h.free.port hport
  | some tp =>
    rw [hfind] at h
    have herase : s.accessPortIds.erase ⟨pportNo, vid⟩ = s.accessPortIds := by
      refine Eq.trans ?_ (h.ids.trans hids.symm)
      cases wipe <;> cases flooding <;> rfl
    have hlength := (MultiMap.perm_erase hfind).length_eq
    rw [herase, List.length_cons] at hlength
    omega

/-- `create_access_port` once the port is created. -/
def setupAccessPort : Int × NlVxlan :=
  let (rv, s) := s.send r (.tunnelPortTenantAdd s.portIdCnt tunnelId)
  if rv < 0 then (rv, (s.deleteAccessPort r flooding pportNo vid false).2)
  else
    let (rv, s) := if flooding then s.enableFlooding r tunnelId s.portIdCnt else (rv, s)
    if rv < 0 then
      let s := (s.disableFlooding r tunnelId s.portIdCnt).2
      let s := (s.send r (.tunnelPortTenantRemove s.portIdCnt tunnelId)).2
      (rv, (s.deleteAccessPort r flooding pportNo vid false).2)
    else
      (0, { s with
        accessPortIds := s.accessPortIds.emplace ⟨pportNo, vid⟩
          { lportId := s.portIdCnt, tunnelId := tunnelId }
        portIdCnt := u32 (s.portIdCnt + 1) })

/-- `create_access_port` before that: the calls that drop the VLANs of the port. -/
def dropVlans : NlVxlan :=
  ((s.send r (.egressBridgePortVlanRemove pportNo vid)).2.send r
    (.ingressPortVlanRemove pportNo vid untagged)).2

theorem createAccessPort_eq (hnew : ¬ s.AccessPortExists pportNo vid) :
    s.createAccessPort r flooding tunnelId pportNo vid untagged =
      let (rv, s) := tryAccessPort r pportNo vid untagged 49 (s.dropVlans r pportNo vid untagged)
      if rv < 0 then (rv, s) else s.setupAccessPort r flooding tunnelId pportNo vid := by
  unfold createAccessPort
  rw [if_neg (show ¬ (_ ∨ _) from hnew)]
  rfl

/-- They do nothing to tunnels. -/
theorem switch_dropVlans : (s.dropVlans r pportNo vid untagged).switch = s.switch :=
  (switch_send_of_eq rfl).trans (switch_send_of_eq rfl)

theorem calls_dropVlans : (s.dropVlans r pportNo vid untagged).calls =
    s.calls ++ [.egressBridgePortVlanRemove pportNo vid,
      .ingressPortVlanRemove pportNo vid untagged] := by
  simp [dropVlans, send]

/-- Whatever is done to the tenant and to the flooding, a port that was created stays. -/
theorem setupAccessPort_not_undone {s₀ : NlVxlan} (hids : s.accessPortIds = s₀.accessPortIds)
    (hport : s.portIdCnt ∈ s.switch.ports)
    (hfail : (s.setupAccessPort r flooding tunnelId pportNo vid).1 < 0) :
    ¬ AccessPortUndone s₀ (s.setupAccessPort r flooding tunnelId pportNo vid).2 := by
  have hadded := mem_ports_send (r := r) (c := .tunnelPortTenantAdd s.portIdCnt tunnelId) hport
    (by simp)
  unfold setupAccessPort at hfail ⊢
  by_cases hmember : (s.send r (.tunnelPortTenantAdd s.portIdCnt tunnelId)).1 < 0
  · simp only [hmember, if_true] at hfail ⊢
    exact deleteAccessPort_not_undone r (s.send r _).2 flooding pportNo vid hids hadded false
  · simp only [hmember, if_false] at hfail ⊢
    cases flooding with
    | false => simp [hmember] at hfail
    | true =>
      have hflooded := mem_ports_send (r := r)
        (c := .addL2OverlayFlood tunnelId s.portIdCnt) hadded (by simp)
      simp only [if_true] at hfail ⊢
      split at hfail
      · rename_i hflood
        rw [if_pos hflood]
        refine deleteAccessPort_not_undone r _ true pportNo vid ?_ ?_ false
        · exact hids
        · exact mem_ports_send (mem_ports_send hflooded (by simp)) (by simp)
      · simp at hfail

/-- **The roll-back of `create_access_port`.** After a failure `access_port_ids` is as before and
the switch has nothing with the next port id exactly if it had nothing before, and the failure is
that of the creation: the access port is there already, or the switch refuses to create it each
time. -/
theorem createAccessPort_undone_iff
    (hfail : (s.createAccessPort r flooding tunnelId pportNo vid untagged).1 < 0) :
    AccessPortUndone s (s.createAccessPort r flooding tunnelId pportNo vid untagged).2 ↔
      s.switch.Free s.portIdCnt ∧
        (s.AccessPortExists pportNo vid ∨ CreationRefused r s pportNo vid untagged) := by
  by_cases hexists : s.AccessPortExists pportNo vid
  · unfold createAccessPort
    simp only [if_pos (show _ ∨ _ from hexists)]
    simp only [hexists, true_or, and_true]
    exact ⟨fun h => h.free, fun h => ⟨rfl, h⟩⟩
  rw [createAccessPort_eq r s flooding tunnelId pportNo vid untagged hexists] at hfail ⊢
  have hswitch := switch_dropVlans r s pportNo vid untagged
  have hcalls := calls_dropVlans r s pportNo vid untagged
  have hids : (s.dropVlans r pportNo vid untagged).accessPortIds = s.accessPortIds := rfl
  have hcnt : (s.dropVlans r pportNo vid untagged).portIdCnt = s.portIdCnt := rfl
  generalize s.dropVlans r pportNo vid untagged = s₁ at hswitch hcalls hids hcnt hfail ⊢
  obtain ⟨rv, log, hrv, htried⟩ := tryAccessPort_eq r pportNo vid untagged 49 s₁
  rw [hcalls, hcnt] at hrv
  rw [htried] at hfail ⊢
  simp only at hfail ⊢
  by_cases hneg : rv < 0
  · have hrefused : CreationRefused r s pportNo vid untagged := hrv.mp hneg
    simp only [hneg, if_true, hrefused, or_true, and_true]
    have hfree : (switch { s₁ with calls := log }).Free s₁.portIdCnt ↔
        s.switch.Free s.portIdCnt := by
      rw [hcnt, ← hswitch]
      rfl
    exact ⟨fun h => hfree.mp h.free, fun h => ⟨hids, hfree.mpr h⟩⟩
  · have hnot : ¬ (s.AccessPortExists pportNo vid ∨ CreationRefused r s pportNo vid untagged) :=
      fun h => h.elim hexists fun h => hneg (hrv.mpr h)
    refine iff_of_false ?_ fun h => hnot h.2
    simp only [hneg, if_false] at hfail ⊢
    refine setupAccessPort_not_undone r _ flooding tunnelId pportNo vid hids ?_ hfail
    simp [switch, TunnelSwitch.after]

/-- The switch creates the access port of port 1 and VLAN 10, and refuses to add it to the tenant. -/
def noTenants : SwResults
  | _, .tunnelPortTenantAdd _ _ => -EINVAL
  | _, _ => 0

/-- The port stays on the switch, with the id that the next creation uses. -/
theorem noTenants_not_undone :
    (createAccessPort noTenants {} false 10 1 10 true).1 < 0 ∧
      ¬ AccessPortUndone {} (createAccessPort noTenants {} false 10 1 10 true).2 :=
  ⟨by decide, fun h => absurd h.free.port (by decide)⟩

/-- The switch refuses to create the port. -/
def noAccessPorts : SwResults
  | _, .tunnelAccessPortCreate .. => -EINVAL
  | _, _ => 0

theorem createAccessPort_undone_iff_refused :
    AccessPortUndone {} (createAccessPort noAccessPorts {} true 10 1 10 true).2 ↔
      (switch {}).Free (1 <<< 16 ||| 1) ∧
        (AccessPortExists {} 1 10 ∨ CreationRefused noAccessPorts {} 1 10 true) :=
  createAccessPort_undone_iff noAccessPorts {} true 10 1 10 true (by decide)

end Failure

end NlVxlan

end Basebox
