import Basebox.Netlink.FdbMirror

/-!
# Addresses on the access ports of the overlay (`cnetlink.cc`, `nl_vxlan.cc`)

An address on an access port gets a flow in the tunnel of the port (`add_l2_neigh`). That it is gone
is told to `nl_bridge` alone: `neigh_ll_deleted` tells VXLAN interfaces from other links, not access
ports from other ports, and `delete_l2_neigh_access` is never reached.

* `Spares`: the condition on a step that the flow of an address in a tunnel stays. The deletion of
  the address on an access port is none of the steps that fail it; on a VXLAN interface with the tunnel
  it is one.
* `overlay_kept_iff_along`: the flow is there in every state of a run exactly if all its steps meet
  the condition.
-/

namespace Basebox

namespace FdbSystem

variable {env : FdbEnv} {drv : BridgingDriver} {fm : FmDriver} {s : Fdb} {k : L2Addr}

/-- The address has a flow in the tunnel. -/
def InOverlay (s : Fdb) (k : L2Addr) : Prop := ∃ flow, s.bridging.table.overlay.lookup k = some flow

/-- The flow that goes when an address on a VXLAN interface is gone. -/
def removedFlow (vx : VxlanFinds) (n : RtnlNeigh) : Option L2Addr :=
  if !vx.link.localAddr.any Addr.isInet || n.dst = none || n.lladdr = 0 then none
  else (vx.tunnelId.filter (· ≠ 0)).map fun tunnelId => (tunnelId, n.lladdr)

/-- The condition on a step: the address is not gone from a VXLAN interface with the tunnel, the flow
does not run out, and its port is not deleted. -/
def Spares (env : FdbEnv) (k : L2Addr) (s : FdbSystem) : Ev → Prop
  | .neigh obj _ vx => ∀ n ∈ goneNeigh env obj, env.isVxlan n.ifindex = true →
      removedFlow vx n ≠ some k
  | .expireOverlay a => a = k →
      ∀ flow ∈ s.fdb.bridging.table.overlay.lookup k, flow.idleTimeout = 0
  | .deleteAccessPort ifindex vid _ _ => env.portIdOf ifindex ≠ 0 →
      ∀ tp ∈ s.fdb.accessPortIds.lookup (env.portIdOf ifindex, vid),
        if tp.lportId ≠ 0 then
          ∀ flow ∈ s.fdb.bridging.table.overlay.lookup k, flow.lport ≠ tp.lportId
        else k ≠ (tp.tunnelId, BitVec.allOnes 48)
  | _ => True

theorem overlay_takeOver (sends : NeighRequest → Bool) (i : Int) (port : Nat) (a : L2Addr)
    (permanent update : Bool) :
    (s.takeOver drv fm sends i port a permanent update).bridging.table.overlay =
      s.bridging.table.overlay := by
  unfold Fdb.takeOver
  simp only
  split_ifs <;> exact L2Flows.overlay_l2AddrAdd s.bridging _ _ _ permanent update

theorem overlay_addNeighToFdb (sends : NeighRequest → Bool) (n : RtnlNeigh) (update : Bool) :
    (s.addNeighToFdb env drv fm sends n update).bridging.table.overlay =
      s.bridging.table.overlay := by
  rcases addNeighToFdb_cases env drv fm sends s n update with he | ⟨vid, -, -, he⟩
  · rw [he]
  · rw [he, overlay_takeOver]

theorem InOverlay.addL2NeighPort (h : InOverlay s k) (n : RtnlNeigh) (lport tunnelId : Nat) :
    InOverlay (s.addL2NeighPort drv n lport tunnelId).2 k := by
  unfold Fdb.addL2NeighPort
  split_ifs
  · exact h
  · obtain ⟨flow, hf⟩ := h
    unfold InOverlay L2Flows.l2OverlayAddrAdd L2Flows.send
    change ∃ flow, (BridgingTable.apply drv s.bridging.table
      (.addUnicastOverlay _ _ _)).overlay.lookup k = some flow
    rw [BridgingTable.overlay_add]
    split_ifs
    · exact ⟨_, rfl⟩
    · exact ⟨flow, hf⟩

theorem InOverlay.foldl {β : Type} {f : Fdb → β → Fdb}
    (hf : ∀ s x, InOverlay s k → InOverlay (f s x) k) (l : List β) (h : InOverlay s k) :
    InOverlay (l.foldl f s) k := by
  induction l generalizing s with
  | nil => exact h
  | cons x l ih => exact ih (hf s x h)

theorem InOverlay.addL2NeighAccess (h : InOverlay s k) (n : RtnlNeigh) :
    InOverlay (s.addL2NeighAccess env drv n).2 k := by
  unfold Fdb.addL2NeighAccess
  simp only
  split_ifs
  · exact h
  · exact h
  · exact h.addL2NeighPort n _ _

theorem InOverlay.addL2NeighVxlan (h : InOverlay s k) (vx : VxlanFinds) (n : RtnlNeigh) :
    InOverlay (s.addL2NeighVxlan drv vx n).2 k := by
  unfold Fdb.addL2NeighVxlan
  split_ifs
  · exact h
  · exact h
  · exact h
  · cases vx.tunnelId with
    | none => exact h
    | some tunnelId => exact h.foldl (fun s n h => h.addL2NeighPort n _ tunnelId) _
  · cases vx.tunnelId with
    | none => exact h
    | some tunnelId =>
      cases vx.lportId with
      | none => exact h
      | some lport => exact h.addL2NeighPort n lport tunnelId

/-- The call takes this flow and no other. -/
theorem inOverlay_deleteL2NeighVxlan_iff (h : InOverlay s k) (vx : VxlanFinds) (n : RtnlNeigh) :
    InOverlay (s.deleteL2NeighVxlan drv vx n) k ↔ removedFlow vx n ≠ some k := by
  obtain ⟨flow, hf⟩ := h
  unfold Fdb.deleteL2NeighVxlan removedFlow
  split_ifs
  · exact iff_of_true ⟨flow, hf⟩ (by simp)
  cases vx.tunnelId with
  | none => exact iff_of_true ⟨flow, hf⟩ (by simp)
  | some tunnelId =>
    simp only
    by_cases ht : tunnelId = 0
    · rw [if_pos ht]
      exact iff_of_true ⟨flow, hf⟩ (by simp [ht, Option.filter])
    · rw [if_neg ht]
      unfold InOverlay L2Flows.l2OverlayAddrRemove L2Flows.send
      change (∃ flow, (BridgingTable.apply drv s.bridging.table
        (.removeUnicastOverlay tunnelId n.lladdr)).overlay.lookup k = some flow) ↔ _
      rw [BridgingTable.overlay_remove, hf]
      by_cases hk : k = (tunnelId, n.lladdr)
      · simp [hk, ht, Option.filter]
      · simp [hk, ht, Option.filter, Ne.symm hk]

theorem inOverlay_routeNeighApply_iff (h : InOverlay s k) (sends : NeighRequest → Bool)
    (vx : VxlanFinds) (obj : NeighNlObj) :
    InOverlay (s.routeNeighApply env drv fm sends vx obj) k ↔
      ∀ n ∈ goneNeigh env obj, env.isVxlan n.ifindex = true → removedFlow vx n ≠ some k := by
  cases hn : goneNeigh env obj with
  | none =>
    refine iff_of_true ?_ (by simp)
    refine routeNeighApply_inv (P := fun s => InOverlay s k) h sends hn ?_ ?_ ?_
    · exact fun n _ _ h => h.addL2NeighAccess n
    · exact fun n _ _ h => h.addL2NeighVxlan vx n
    · intro n _ s update h
      unfold InOverlay
      rwa [overlay_addNeighToFdb]
  | some n =>
    rw [routeNeighApply_gone hn]
    by_cases hv : env.isVxlan n.ifindex = true
    · rw [if_pos hv, inOverlay_deleteL2NeighVxlan_iff h]
      simp [hv]
    · rw [if_neg hv]
      refine iff_of_true ?_ (by simp [hv])
      unfold Fdb.removeNeighFromFdb
      split
      · exact h
      · split_ifs <;> exact h

theorem inOverlay_expireOverlay_iff {s : FdbSystem} (h : InOverlay s.fdb k) (a : L2Addr) :
    InOverlay (step env drv fm s (.expireOverlay a)).fdb k ↔ (a = k →
      ∀ flow ∈ s.fdb.bridging.table.overlay.lookup k, flow.idleTimeout = 0) := by
  obtain ⟨flow, hf⟩ := h
  unfold InOverlay
  change (∃ flow, (s.fdb.bridging.table.expireOverlay drv a).1.overlay.lookup k = some flow) ↔ _
  unfold BridgingTable.expireOverlay
  by_cases ha : a = k
  · subst ha
    rw [hf]
    by_cases hidle : flow.idleTimeout = 0
    · simp [hidle, hf]
    · simp [hidle]
  · refine iff_of_true ?_ fun he => absurd he ha
    cases s.fdb.bridging.table.overlay.lookup a with
    | none => exact ⟨flow, hf⟩
    | some flow' =>
      simp only
      split_ifs
      · exact ⟨flow, hf⟩
      · exact ⟨flow, (Table.lookup_erase_ite _ a k).trans (by rw [if_neg (Ne.symm ha), hf])⟩
      · exact ⟨flow, (Table.lookup_erase_ite _ a k).trans (by rw [if_neg (Ne.symm ha), hf])⟩

theorem inOverlay_deleteAccessPort_iff (h : InOverlay s k) (sends : NeighRequest → Bool)
    (ifindex : Int) (vid : Nat) (neighs : List RtnlNeigh) :
    InOverlay (s.deleteAccessPort env drv fm sends ifindex vid neighs) k ↔
      (env.portIdOf ifindex ≠ 0 → ∀ tp ∈ s.accessPortIds.lookup (env.portIdOf ifindex, vid),
        if tp.lportId ≠ 0 then
          ∀ flow ∈ s.bridging.table.overlay.lookup k, flow.lport ≠ tp.lportId
        else k ≠ (tp.tunnelId, BitVec.allOnes 48)) := by
  have hfold : ∀ (ns : List RtnlNeigh) (s : Fdb),
      (ns.foldl (fun s n => s.addNeighToFdb env drv fm sends n false) s).bridging.table.overlay =
        s.bridging.table.overlay := by
    intro ns
    induction ns with
    | nil => exact fun _ => rfl
    | cons n ns ih => exact fun s => (ih _).trans (overlay_addNeighToFdb sends n false)
  obtain ⟨flow, hf⟩ := h
  unfold Fdb.deleteAccessPort
  simp only
  by_cases hp : env.portIdOf ifindex = 0
  · rw [if_pos hp]
    exact iff_of_true ⟨flow, hf⟩ fun hne => absurd hp hne
  rw [if_neg hp]
  unfold InOverlay
  rw [hfold]
  cases htp : s.accessPortIds.lookup (env.portIdOf ifindex, vid) with
  | none => exact iff_of_true ⟨flow, hf⟩ (by simp)
  | some tp =>
    simp only [ne_eq, hp, not_false_eq_true, forall_const, Option.mem_some_iff, forall_eq']
    unfold L2Flows.l2OverlayAddrRemove L2Flows.send
    by_cases hl : tp.lportId = 0
    · rw [if_neg (by simpa using hl), if_neg (by simpa using hl)]
      change (∃ flow, (BridgingTable.apply drv s.bridging.table
        (.removeUnicastOverlay tp.tunnelId _)).overlay.lookup k = some flow) ↔ _
      rw [BridgingTable.overlay_remove, hf]
      split_ifs with hk
      · exact iff_of_false (by simp) fun hne => hne hk
      · exact iff_of_true ⟨flow, rfl⟩ hk
    · rw [if_pos (by simpa using hl), if_pos (by simpa using hl)]
      change (∃ flow, (BridgingTable.apply drv s.bridging.table
        (.removeUnicastOverlayAllLport tp.lportId)).overlay.lookup k = some flow) ↔ _
      rw [BridgingTable.overlay_removeAllLport, hf]
      by_cases hport : flow.lport = tp.lportId <;> simp [Option.filter, hport]

/-- One step from a state with the flow. -/
theorem inOverlay_step_iff {s : FdbSystem} (h : InOverlay s.fdb k) (e : Ev) :
    InOverlay (step env drv fm s e).fdb k ↔ Spares env k s e := by
  cases e with
  | neigh obj sends vx => exact inOverlay_routeNeighApply_iff h sends vx obj
  | expire a =>
    refine iff_of_true ?_ trivial
    have hov : (s.fdb.bridging.table.expire drv a).1.overlay = s.fdb.bridging.table.overlay := by
      unfold BridgingTable.expire
      split
      · rfl
      · split_ifs <;> rfl
    change ∃ flow, (s.fdb.bridging.table.expire drv a).1.overlay.lookup k = some flow
    rwa [hov]
  | expireOverlay a => exact inOverlay_expireOverlay_iff h a
  | fdbTimeout sends =>
    refine iff_of_true ?_ trivial
    simp only [step]
    split
    · exact h
    · unfold Fdb.fdbTimeout
      simp only
      split_ifs <;> exact h
  | setAgeingTime t =>
    refine iff_of_true ?_ trivial
    have hfold : ∀ (l : List (Sigma fun _ : L2Addr => Int)) (b : L2Flows),
        (l.foldl (Fdb.refresh env drv fm) b).table.overlay = b.table.overlay := by
      intro l
      induction l with
      | nil => exact fun _ => rfl
      | cons e l ih => exact fun b => (ih _).trans (L2Flows.overlay_l2AddrAdd b _ _ _ false true)
    change ∃ flow, (List.foldl (Fdb.refresh env drv fm) _ _).table.overlay.lookup k = some flow
    rw [hfold]
    exact h
  | leaveVlan ifindex master vid =>
    refine iff_of_true ?_ trivial
    simp only [step, Fdb.leaveVlan]
    split_ifs <;> exact h
  | joinDomain ifindex vid port =>
    refine iff_of_true ?_ trivial
    simp only [step, Fdb.joinDomain]
    split_ifs <;> exact h
  | createAccessPort ifindex vid port neighs =>
    refine iff_of_true ?_ trivial
    simp only [step, Fdb.createAccessPort]
    split_ifs
    · exact h
    · refine InOverlay.foldl (fun s n h => h.addL2NeighAccess n) _ ?_
      cases port <;> exact h
  | deleteAccessPort ifindex vid neighs sends =>
    exact inOverlay_deleteAccessPort_iff h sends ifindex vid neighs

/-- **What removes an address from the overlay.** A flow in a tunnel is there in every state of a run
exactly if it does not run out, no access port with its logical port is deleted, and the address is
not gone from a VXLAN interface with the tunnel, whatever the kernel reports of it on other ports. -/
theorem overlay_kept_iff_along (env : FdbEnv) (drv : BridgingDriver) (fm : FmDriver)
    (s : FdbSystem) (k : L2Addr) (h : InOverlay s.fdb k) (es : List Ev) :
    (∀ n, InOverlay (run (step env drv fm) s (es.take n)).fdb k) ↔
      Along (step env drv fm) (Spares env k) s es :=
  along_iff_of_step_iff (P := fun s : FdbSystem => InOverlay s.fdb k) h
    (fun _ e h => inOverlay_step_iff h e) es

/-- A port in VLAN 100 becomes an access port of tunnel 5 and learns an address. -/
def accessPortLearns : List Ev :=
  [.createAccessPort 1 100 (some { lportId := 65537, tunnelId := 5 }) [],
    .neigh (.new learnedNeigh) (fun _ => true) FdbWorld.noVxlan]

/-- The address is gone, and stays in the tunnel. -/
theorem accessPortLearns_kept :
    InOverlay (run (step FdbWorld.twoPorts ofdpaBridging ofdpaDriver) {}
      (accessPortLearns ++
        [.neigh (.del learnedNeigh) (fun _ => true) FdbWorld.noVxlan])).fdb (5, 7) := by
  rw [run_append]
  exact (overlay_kept_iff_along FdbWorld.twoPorts ofdpaBridging ofdpaDriver
    (run (step FdbWorld.twoPorts ofdpaBridging ofdpaDriver) {} accessPortLearns) (5, 7)
    ⟨{ idleTimeout := 300, sendFlowRem := true, lport := 65537 }, by decide⟩
    [.neigh (.del learnedNeigh) (fun _ => true) FdbWorld.noVxlan]).mpr
      ⟨by simp [Spares, FdbWorld.twoPorts], trivial⟩ 1

end FdbSystem

end Basebox
