import Basebox.Netlink.FdbSettle

/-!
# `l2_cache` and the flows on the switch

An address in `l2_cache` is left alone: a report of it on its port does nothing
(`addNeighToFdb_cached`). So its flow has to be there, and nothing but the switch may take it away,
which reports that.

* `FdbSystem`: the `Fdb` and the reports of the switch on their way to `fdb_timeout`. `step`: what
  happens to them, in any order and with any result of the requests to the kernel.
* `Mirror`: an address in `l2_cache` has its flow, to its port and with the idle timeout of the
  controller, or the report that it ran out is on its way.
* `Keeps`: the condition on a step. It fails where a flow is deleted behind the back of `l2_cache`
  (an address that the kernel had not handed over is gone, a port becomes an access port, a port leaves
  a VLAN when its link has another master already), where a timeout does not find the port (a bond),
  and where a new ageing time is set for the port of a VLAN interface.
* `mirror_iff_along`: every state of a run is a mirror exactly if all its steps meet the condition.
* `lost_run`: a flow that is lost stays so, whatever is reported of the address on its port, until the
  port leaves the VLAN.
-/

namespace Basebox

/-- The bridge and the timeouts that the switch has reported. -/
structure FdbSystem where
  fdb : Fdb := {}
  /-- The calls of `fdb_timeout` that are to come. -/
  timeouts : List (Nat × L2Addr) := []

namespace FdbSystem

variable (env : FdbEnv) (drv : BridgingDriver) (fm : FmDriver)

/-- What happens to the table. -/
inductive Ev where
  /-- An object of the neighbour cache; `sends` are the results of the requests, `vx` is the VXLAN
  interface that the neighbour is on, if it is on one. -/
  | neigh (obj : NeighNlObj) (sends : NeighRequest → Bool) (vx : VxlanFinds)
  /-- A flow runs out on the switch. -/
  | expire (a : L2Addr)
  | expireOverlay (a : L2Addr)
  /-- The oldest timeout is handled. -/
  | fdbTimeout (sends : NeighRequest → Bool)
  | setAgeingTime (ageingTime : Nat)
  | leaveVlan (ifindex master : Int) (vid : Nat)
  | joinDomain (ifindex : Int) (vid : Nat) (port : AccessTunnelPort)
  | createAccessPort (ifindex : Int) (vid : Nat) (port : Option AccessTunnelPort)
      (neighs : List RtnlNeigh)
  | deleteAccessPort (ifindex : Int) (vid : Nat) (neighs : List RtnlNeigh)
      (sends : NeighRequest → Bool)

/-- The flows after the switch has reported one, and the call that comes of it. -/
def removed (s : FdbSystem) (x : BridgingTable × Option FlowRemoved) : FdbSystem where
  fdb := { s.fdb with bridging := { s.fdb.bridging with table := x.1 } }
  timeouts := s.timeouts ++ (x.2.bind L2Flows.handleBridgingTableRm).toList

/-- The state after an event. -/
def step (s : FdbSystem) : Ev → FdbSystem
  | .neigh obj sends vx => { s with fdb := s.fdb.routeNeighApply env drv fm sends vx obj }
  | .expire a => s.removed (s.fdb.bridging.table.expire drv a)
  | .expireOverlay a => s.removed (s.fdb.bridging.table.expireOverlay drv a)
  | .fdbTimeout sends =>
    match s.timeouts with
    | [] => s
    | (portId, a) :: rest =>
      { fdb := s.fdb.fdbTimeout env sends portId a, timeouts := rest }
  | .setAgeingTime ageingTime => { s with fdb := s.fdb.setAgeingTime env drv fm ageingTime }
  | .leaveVlan ifindex master vid => { s with fdb := s.fdb.leaveVlan env drv ifindex master vid }
  | .joinDomain ifindex vid port => { s with fdb := s.fdb.joinDomain env ifindex vid port }
  | .createAccessPort ifindex vid port neighs =>
    { s with fdb := s.fdb.createAccessPort env drv ifindex vid port neighs }
  | .deleteAccessPort ifindex vid neighs sends =>
    { s with fdb := s.fdb.deleteAccessPort env drv fm sends ifindex vid neighs }

/-- The address that an object puts on a port. -/
def newNeigh : NeighNlObj → Option RtnlNeigh
  | .new n | .change _ n => some n
  | .del _ => none

/-- The VLANs of addresses have 12 bits. -/
def VlanId (n : RtnlNeigh) : Prop := ∀ v ∈ n.vlan, v < 2 ^ 12

/-- The addresses of an event have such VLANs. -/
def Wf (_ : FdbSystem) : Ev → Prop
  | .neigh obj _ _ => ∀ n ∈ newNeigh obj, VlanId n
  | .deleteAccessPort _ _ neighs _ => ∀ n ∈ neighs, VlanId n
  | _ => True

/-- The flow of an address on a port. -/
def HasFlow (s : Fdb) (a : L2Addr) (ifindex : Int) : Prop :=
  s.bridging.table.vlan.lookup a =
    some (s.bridging.unicastFlow fm (env.portOf ifindex) a.1 false)

/-- Every address in `l2_cache` has its flow, or its timeout is on its way. -/
def Mirror (timeouts : List (Nat × L2Addr)) (s : Fdb) : Prop :=
  ∀ a i, s.l2Cache.lookup a = some i → HasFlow env fm s a i ∨ (env.portOf i, a) ∈ timeouts

/-- The address that is gone from the ports of the bridge. -/
def goneNeigh : NeighNlObj → Option RtnlNeigh
  | .new _ => none
  | .change o n => if Fdb.checkLlNeigh env o && !Fdb.checkLlNeigh env n then some o else none
  | .del o => if Fdb.checkLlNeigh env o then some o else none

/-- The address that `remove_neigh_from_fdb` is called with. -/
def removedNeigh (obj : NeighNlObj) : Option RtnlNeigh :=
  (goneNeigh env obj).filter fun n => !env.isVxlan n.ifindex

/-- The condition on a step: an address that stays in `l2_cache` while its flow is deleted, or while
its timeout is handled, has a timeout on its way. -/
def Keeps (s : FdbSystem) : Ev → Prop
  | .neigh obj _ _ => ∀ n ∈ removedNeigh env obj, n.extLearned = false →
      env.bridgeAddr ≠ n.lladdr → ∀ vid ∈ n.vlan, ∀ i,
        s.fdb.l2Cache.lookup (vid, n.lladdr) = some i →
          drv.takes (env.portOf n.ifindex) (env.portOf i) = true →
            (env.portOf i, (vid, n.lladdr)) ∈ s.timeouts
  | .fdbTimeout sends => ∀ portId a rest, s.timeouts = (portId, a) :: rest → ∀ i,
      s.fdb.l2Cache.lookup a = some i → env.portOf i = portId →
        (env.ifindexOf portId = i ∧ env.brLink i = some env.bridge ∧ sends (.delete i a) = true) ∨
          HasFlow env fm s.fdb a i ∨ (portId, a) ∈ rest
  | .setAgeingTime _ => ∀ a i, s.fdb.l2Cache.lookup a = some i →
      env.portIdOf i = env.portOf i ∨ (env.portOf i, a) ∈ s.timeouts
  | .leaveVlan ifindex master vid => env.portOf ifindex ≠ 0 → ∀ a i,
      s.fdb.l2Cache.lookup a = some i → ¬ (i = ifindex ∧ master = env.bridge) → a.1 = vid →
        drv.takes (env.portOf ifindex) (env.portOf i) = true → (env.portOf i, a) ∈ s.timeouts
  | .createAccessPort ifindex vid _ _ => env.portIdOf ifindex ≠ 0 → ∀ a i,
      s.fdb.l2Cache.lookup a = some i → a.1 = vid →
        drv.takes (env.portIdOf ifindex) (env.portOf i) = true → (env.portOf i, a) ∈ s.timeouts
  | _ => True

variable {env drv fm} {timeouts : List (Nat × L2Addr)} {s s' : Fdb}

/-! ## What keeps the mirror, and what does not -/

/-- Fewer addresses, with the flows they had. -/
theorem Mirror.congr (h : Mirror env fm timeouts s)
    (hd : s'.bridging.defaultIdleTimeout = s.bridging.defaultIdleTimeout)
    (hs : ∀ a i, s'.l2Cache.lookup a = some i → s.l2Cache.lookup a = some i ∧
      s'.bridging.table.vlan.lookup a = s.bridging.table.vlan.lookup a) :
    Mirror env fm timeouts s' := by
  intro a i hi
  obtain ⟨hc, hf⟩ := hs a i hi
  refine (h a i hc).imp_left fun hflow => ?_
  unfold HasFlow L2Flows.unicastFlow L2Flows.expiry
  rw [hf, hd]
  exact hflow

/-- **Flows are deleted.** The addresses that stay and lose their flow must have a timeout on its
way. -/
theorem mirror_filter_iff (h : Mirror env fm timeouts s) (s' : Fdb) (taken : L2Addr → Nat → Bool)
    (hd : s'.bridging.defaultIdleTimeout = s.bridging.defaultIdleTimeout)
    (hc : ∀ a i, s'.l2Cache.lookup a = some i → s.l2Cache.lookup a = some i)
    (hf : ∀ a, s'.bridging.table.vlan.lookup a =
      (s.bridging.table.vlan.lookup a).filter fun flow => !taken a flow.port) :
    Mirror env fm timeouts s' ↔ ∀ a i, s'.l2Cache.lookup a = some i →
      taken a (env.portOf i) = true → (env.portOf i, a) ∈ timeouts := by
  have hflow : ∀ (a : L2Addr) (i : Int), s'.bridging.unicastFlow fm (env.portOf i) a.1 false =
      s.bridging.unicastFlow fm (env.portOf i) a.1 false := by
    intro a i
    unfold L2Flows.unicastFlow L2Flows.expiry
    rw [hd]
  constructor
  · intro h' a i hi ht
    refine (h' a i hi).resolve_left fun hfl => ?_
    unfold HasFlow at hfl
    rw [hf] at hfl
    have hnot := (Option.filter_eq_some_iff.mp hfl).2
    have hport : (s'.bridging.unicastFlow fm (env.portOf i) a.1 false).port = env.portOf i := rfl
    rw [hport, ht] at hnot
    exact absurd hnot (by decide)
  · intro hall a i hi
    rcases h a i (hc a i hi) with hfl | hp
    · cases ht : taken a (env.portOf i) with
      | true => exact .inr (hall a i hi ht)
      | false =>
        left
        unfold HasFlow at hfl ⊢
        rw [hf, hfl, hflow]
        have hport : (s.bridging.unicastFlow fm (env.portOf i) a.1 false).port = env.portOf i := rfl
        simp [Option.filter, hport, ht]
    · exact .inr hp

/-- A take-over gives the address its flow, or takes it out of `l2_cache`. -/
theorem Mirror.takeOver (h : Mirror env fm timeouts s) (sends : NeighRequest → Bool) (i : Int)
    (a : L2Addr) (permanent update : Bool) :
    Mirror env fm timeouts (s.takeOver drv fm sends i (env.portOf i) a permanent update) := by
  have hflows : ∀ a', (s.bridging.l2AddrAdd drv fm (env.portOf i) a.1 a.2 permanent
      update).table.vlan.lookup a' = if a' = a then
        some (s.bridging.unicastFlow fm (env.portOf i) a.1 permanent)
      else s.bridging.table.vlan.lookup a' := fun a' =>
    L2Flows.vlan_l2AddrAdd s.bridging _ _ _ a' permanent update
  have herase : Mirror env fm timeouts { s with
      l2Cache := s.l2Cache.erase a
      bridging := s.bridging.l2AddrAdd drv fm (env.portOf i) a.1 a.2 permanent update } := by
    refine h.congr rfl fun a' j hj => ?_
    change (s.l2Cache.erase a).lookup a' = some j at hj
    rw [Table.lookup_erase_ite] at hj
    split_ifs at hj with ha
    exact ⟨hj, (hflows a').trans (if_neg ha)⟩
  unfold Fdb.takeOver
  simp only
  split_ifs with hp hs
  · exact herase
  · intro a' j hj
    change ((s.l2Cache.erase a).insert a i).lookup a' = some j at hj
    by_cases ha : a' = a
    · subst ha
      rw [Table.lookup_insert_ite, if_pos rfl, Option.some.injEq] at hj
      subst hj
      left
      have hp' : permanent = false := by simpa using hp
      subst hp'
      exact (hflows a').trans (if_pos rfl)
    · rw [Table.lookup_insert_ite, if_neg ha] at hj
      exact herase a' j hj
  · exact herase

/-- What `add_neigh_to_fdb` does: nothing, or a take-over. -/
theorem addNeighToFdb_cases (env : FdbEnv) (drv : BridgingDriver) (fm : FmDriver)
    (sends : NeighRequest → Bool) (s : Fdb) (n : RtnlNeigh) (update : Bool) :
    s.addNeighToFdb env drv fm sends n update = s ∨ ∃ vid ∈ n.vlan,
      s.l2Cache.lookup (vid, n.lladdr) ≠ some n.ifindex ∧
      s.addNeighToFdb env drv fm sends n update =
        s.takeOver drv fm sends n.ifindex (env.portOf n.ifindex) (vid, n.lladdr) n.permanent
          update := by
  unfold Fdb.addNeighToFdb
  by_cases hp : env.portOf n.ifindex = 0
  · exact .inl (by simp [hp])
  · cases hv : n.vlan with
    | none => exact .inl (by simp)
    | some vid =>
      by_cases hc : s.l2Cache.lookup (vid, n.lladdr) = some n.ifindex
      · exact .inl (by simp [hc])
      · exact .inr ⟨vid, rfl, hc, by simp [hp, hc]⟩

/-- An address that is in `l2_cache` on the port is left alone, also if it is static now. -/
theorem addNeighToFdb_cached (n : RtnlNeigh) {vid : Nat} (hv : n.vlan = some vid)
    (hc : s.l2Cache.lookup (vid, n.lladdr) = some n.ifindex) (sends : NeighRequest → Bool)
    (update : Bool) : s.addNeighToFdb env drv fm sends n update = s := by
  unfold Fdb.addNeighToFdb
  simp [hv, hc]

theorem Mirror.addNeighToFdb (h : Mirror env fm timeouts s) (sends : NeighRequest → Bool)
    (n : RtnlNeigh) (update : Bool) :
    Mirror env fm timeouts (s.addNeighToFdb env drv fm sends n update) := by
  rcases addNeighToFdb_cases env drv fm sends s n update with he | ⟨vid, -, -, he⟩
  · rwa [he]
  · rw [he]
    exact h.takeOver sends _ _ _ _

/-- Nothing differs but the overlay. -/
structure SameVlans (s s' : Fdb) : Prop where
  l2Cache : s'.l2Cache = s.l2Cache
  vlan : s'.bridging.table.vlan = s.bridging.table.vlan
  defaultIdleTimeout : s'.bridging.defaultIdleTimeout = s.bridging.defaultIdleTimeout

theorem SameVlans.refl (s : Fdb) : SameVlans s s := ⟨rfl, rfl, rfl⟩

theorem SameVlans.trans {s s' s'' : Fdb} (h : SameVlans s s') (h' : SameVlans s' s'') :
    SameVlans s s'' :=
  ⟨h'.1.trans h.1, h'.2.trans h.2, h'.3.trans h.3⟩

theorem sameVlans_foldl {β : Type} {f : Fdb → β → Fdb} (hf : ∀ s x, SameVlans s (f s x))
    (l : List β) (s : Fdb) : SameVlans s (l.foldl f s) := by
  induction l generalizing s with
  | nil => exact .refl s
  | cons x l ih => exact (hf s x).trans (ih (f s x))

theorem Mirror.sameVlans (h : Mirror env fm timeouts s) (hs : SameVlans s s') :
    Mirror env fm timeouts s' :=
  h.congr hs.defaultIdleTimeout fun _ _ hi => ⟨hs.l2Cache ▸ hi, by rw [hs.vlan]⟩

theorem sameVlans_addL2NeighPort (drv : BridgingDriver) (s : Fdb) (n : RtnlNeigh)
    (lport tunnelId : Nat) : SameVlans s (s.addL2NeighPort drv n lport tunnelId).2 := by
  unfold Fdb.addL2NeighPort
  split_ifs <;> exact ⟨rfl, rfl, rfl⟩

theorem sameVlans_addL2NeighAccess (env : FdbEnv) (drv : BridgingDriver) (s : Fdb)
    (n : RtnlNeigh) : SameVlans s (s.addL2NeighAccess env drv n).2 := by
  unfold Fdb.addL2NeighAccess
  simp only
  split_ifs
  · exact .refl s
  · exact .refl s
  · exact sameVlans_addL2NeighPort drv s n _ _

theorem sameVlans_addL2NeighVxlan (drv : BridgingDriver) (vx : VxlanFinds) (s : Fdb)
    (n : RtnlNeigh) : SameVlans s (s.addL2NeighVxlan drv vx n).2 := by
  unfold Fdb.addL2NeighVxlan
  split_ifs
  · exact .refl s
  · exact .refl s
  · exact .refl s
  · cases vx.tunnelId with
    | none => exact .refl s
    | some tunnelId =>
      exact sameVlans_foldl (fun s n => sameVlans_addL2NeighPort drv s n _ tunnelId) _ s
  · cases vx.tunnelId with
    | none => exact .refl s
    | some tunnelId =>
      cases vx.lportId with
      | none => exact .refl s
      | some lport => exact sameVlans_addL2NeighPort drv s n lport tunnelId

theorem sameVlans_l2OverlayAddrRemove (drv : BridgingDriver) (s : Fdb) (tunnelId lport : Nat)
    (mac : Mac) :
    SameVlans s { s with bridging := s.bridging.l2OverlayAddrRemove drv tunnelId lport mac } := by
  unfold L2Flows.l2OverlayAddrRemove L2Flows.send
  split_ifs <;> exact ⟨rfl, rfl, rfl⟩

theorem sameVlans_deleteL2NeighVxlan (drv : BridgingDriver) (vx : VxlanFinds) (s : Fdb)
    (n : RtnlNeigh) : SameVlans s (s.deleteL2NeighVxlan drv vx n) := by
  unfold Fdb.deleteL2NeighVxlan
  split_ifs
  · exact .refl s
  cases vx.tunnelId with
  | none => exact .refl s
  | some tunnelId =>
    simp only
    split_ifs
    · exact .refl s
    · exact sameVlans_l2OverlayAddrRemove drv s tunnelId 0 _

/-! ## The steps -/

/-- A removal takes the flow, and the address out of `l2_cache` if the kernel had handed it over. -/
theorem mirror_removeNeighFromFdb_iff (h : Mirror env fm timeouts s) (n : RtnlNeigh) :
    Mirror env fm timeouts (s.removeNeighFromFdb env drv n) ↔
      (n.extLearned = false → env.bridgeAddr ≠ n.lladdr → ∀ vid ∈ n.vlan, ∀ i,
        s.l2Cache.lookup (vid, n.lladdr) = some i →
          drv.takes (env.portOf n.ifindex) (env.portOf i) = true →
            (env.portOf i, (vid, n.lladdr)) ∈ timeouts) := by
  unfold Fdb.removeNeighFromFdb
  cases hv : n.vlan with
  | none => exact iff_of_true h fun _ _ vid hvid => absurd hvid (by simp)
  | some vid =>
    simp only
    by_cases hb : env.bridgeAddr = n.lladdr
    · rw [if_pos hb]
      exact iff_of_true h fun _ hne => absurd hb hne
    rw [if_neg hb]
    by_cases hgone : n.extLearned = true ∧ (vid, n.lladdr) ∉ s.l2Cache
    · rw [if_pos hgone]
      exact iff_of_true h fun hext => by rw [hgone.1] at hext; cases hext
    rw [if_neg hgone]
    have hiff := mirror_filter_iff h { s with
        l2Cache := if n.extLearned then s.l2Cache.erase (vid, n.lladdr) else s.l2Cache
        bridging := s.bridging.l2AddrRemove drv (env.portOf n.ifindex) vid n.lladdr }
      (fun a p => decide (a = (vid, n.lladdr) ∧ drv.takes (env.portOf n.ifindex) p))
      rfl ?_ fun a => L2Flows.vlan_l2AddrRemove s.bridging _ vid n.lladdr a
    · rw [hiff]
      cases hext : n.extLearned with
      | true =>
        refine iff_of_true (fun a i hi ht => ?_) (by simp)
        have ha := (of_decide_eq_true ht).1
        rw [if_pos rfl, Table.lookup_erase_ite, if_pos ha] at hi
        cases hi
      | false =>
        constructor
        · intro hall _ _ vid' hvid' i hi ht
          obtain rfl := Option.some.inj hvid'
          exact hall _ i (by simpa using hi) (decide_eq_true ⟨rfl, ht⟩)
        · intro hall a i hi ht
          obtain ⟨rfl, ht'⟩ := of_decide_eq_true ht
          exact hall rfl hb vid rfl i (by simpa using hi) ht'
    · intro a i hi
      change (if n.extLearned = true then s.l2Cache.erase (vid, n.lladdr)
        else s.l2Cache).lookup a = some i at hi
      split_ifs at hi
      · rw [Table.lookup_erase_ite] at hi
        split_ifs at hi
        exact hi
      · exact hi

/-- What `neigh_ll_deleted` does with an address that is gone. -/
theorem routeNeighApply_gone {obj : NeighNlObj} {n : RtnlNeigh} (hn : goneNeigh env obj = some n)
    (sends : NeighRequest → Bool) (vx : VxlanFinds) :
    s.routeNeighApply env drv fm sends vx obj =
      if env.isVxlan n.ifindex then s.deleteL2NeighVxlan drv vx n
      else s.removeNeighFromFdb env drv n := by
  cases obj with
  | new m => cases hn
  | change o m =>
    simp only [goneNeigh] at hn
    split_ifs at hn with hc
    obtain rfl := Option.some.inj hn
    simp only [Bool.and_eq_true, Bool.not_eq_true'] at hc
    simp [Fdb.routeNeighApply, Fdb.neighLlUpdated, Fdb.neighLlDeleted, hc.1, hc.2]
  | del o =>
    simp only [goneNeigh] at hn
    split_ifs at hn with hc
    obtain rfl := Option.some.inj hn
    simp [Fdb.routeNeighApply, Fdb.neighLlDeleted, hc]

/-- What the calls that `neigh_ll_created` may make keep, it keeps. -/
theorem neighLlCreated_inv {P : Fdb → Prop} (h : P s) (sends : NeighRequest → Bool)
    {vx : VxlanFinds} {n : RtnlNeigh}
    (hacc : ∀ s, P s → P (s.addL2NeighAccess env drv n).2)
    (hvx : ∀ s, P s → P (s.addL2NeighVxlan drv vx n).2)
    (hadd : ∀ s update, P s → P (s.addNeighToFdb env drv fm sends n update)) :
    P (s.neighLlCreated env drv fm sends vx n) := by
  unfold Fdb.neighLlCreated
  cases Fdb.checkLlNeigh env n with
  | false => exact h
  | true =>
    cases env.isVxlan n.ifindex with
    | true =>
      simp only [Bool.not_true, Bool.false_eq_true, if_false, if_true]
      split_ifs
      · exact hvx _ h
      · exact hadd _ false (hvx _ h)
    | false =>
      simp only [Bool.not_true, Bool.false_eq_true, if_false]
      split_ifs
      · exact hacc _ h
      · exact hadd _ false (hacc _ h)

/-- The same for an object by which no address is gone. -/
theorem routeNeighApply_inv {P : Fdb → Prop} (h : P s) (sends : NeighRequest → Bool)
    {vx : VxlanFinds} {obj : NeighNlObj} (hn : goneNeigh env obj = none)
    (hacc : ∀ n ∈ newNeigh obj, ∀ s, P s → P (s.addL2NeighAccess env drv n).2)
    (hvx : ∀ n ∈ newNeigh obj, ∀ s, P s → P (s.addL2NeighVxlan drv vx n).2)
    (hadd : ∀ n ∈ newNeigh obj, ∀ s update, P s →
      P (s.addNeighToFdb env drv fm sends n update)) :
    P (s.routeNeighApply env drv fm sends vx obj) := by
  cases obj with
  | new n => exact neighLlCreated_inv h sends (hacc n rfl) (hvx n rfl) (hadd n rfl)
  | change o n =>
    simp only [goneNeigh] at hn
    split_ifs at hn with hc
    simp only [Fdb.routeNeighApply, Fdb.neighLlUpdated]
    cases ho : Fdb.checkLlNeigh env o with
    | false =>
      simp only [Bool.not_false, Bool.true_and, if_true]
      split_ifs
      · exact h
      · exact neighLlCreated_inv h sends (hacc n rfl) (hvx n rfl) (hadd n rfl)
    | true =>
      have hm : Fdb.checkLlNeigh env n = true := by simpa [ho] using hc
      simp only [hm, Bool.not_true, Bool.false_and, Bool.false_eq_true, if_false]
      split_ifs
      · exact h
      · exact hadd n rfl s true h
  | del o =>
    simp only [goneNeigh] at hn
    split_ifs at hn with hc
    simpa [Fdb.routeNeighApply, Fdb.neighLlDeleted, hc] using h

/-- What an object does to the flows of the VLANs and to `l2_cache`: it takes an address away, or it
does what a call of `add_neigh_to_fdb` does, if anything. -/
theorem routeNeighApply_vlans {P : Fdb → Prop} (h : P s) (sends : NeighRequest → Bool)
    (vx : VxlanFinds) {obj : NeighNlObj} (hsame : ∀ s s', SameVlans s s' → P s → P s')
    (hadd : ∀ n ∈ newNeigh obj, ∀ s update, P s →
      P (s.addNeighToFdb env drv fm sends n update))
    (hremove : ∀ n ∈ removedNeigh env obj, P (s.removeNeighFromFdb env drv n)) :
    P (s.routeNeighApply env drv fm sends vx obj) := by
  cases hn : goneNeigh env obj with
  | none =>
    refine routeNeighApply_inv h sends hn ?_ ?_ hadd
    · exact fun n _ s => hsame _ _ (sameVlans_addL2NeighAccess env drv s n)
    · exact fun n _ s => hsame _ _ (sameVlans_addL2NeighVxlan drv vx s n)
  | some n =>
    rw [routeNeighApply_gone hn]
    split_ifs with hv
    · exact hsame _ _ (sameVlans_deleteL2NeighVxlan drv vx s n) h
    · exact hremove n (by simp [removedNeigh, hn, Option.filter, hv])

theorem mirror_routeNeighApply_iff (h : Mirror env fm timeouts s) (sends : NeighRequest → Bool)
    (vx : VxlanFinds) (obj : NeighNlObj) :
    Mirror env fm timeouts (s.routeNeighApply env drv fm sends vx obj) ↔
      ∀ n ∈ removedNeigh env obj, n.extLearned = false → env.bridgeAddr ≠ n.lladdr →
        ∀ vid ∈ n.vlan, ∀ i, s.l2Cache.lookup (vid, n.lladdr) = some i →
          drv.takes (env.portOf n.ifindex) (env.portOf i) = true →
            (env.portOf i, (vid, n.lladdr)) ∈ timeouts := by
  cases hn : removedNeigh env obj with
  | none =>
    refine iff_of_true (routeNeighApply_vlans h sends vx ?_ ?_ ?_) (by simp)
    · exact fun _ _ hs h => h.sameVlans hs
    · exact fun n _ _ update h => h.addNeighToFdb sends n update
    · simp [hn]
  | some n =>
    obtain ⟨hgone, hv⟩ := Option.filter_eq_some_iff.mp hn
    rw [routeNeighApply_gone hgone, if_neg (by simpa using hv), mirror_removeNeighFromFdb_iff h]
    simp

/-- A timeout is handled. -/
theorem mirror_fdbTimeout_iff {portId : Nat} {a : L2Addr} {rest : List (Nat × L2Addr)}
    (h : Mirror env fm ((portId, a) :: rest) s) (sends : NeighRequest → Bool) :
    Mirror env fm rest (s.fdbTimeout env sends portId a) ↔ ∀ i,
      s.l2Cache.lookup a = some i → env.portOf i = portId →
        (env.ifindexOf portId = i ∧ env.brLink i = some env.bridge ∧ sends (.delete i a) = true) ∨
          HasFlow env fm s a i ∨ (portId, a) ∈ rest := by
  -- The addresses that stay keep what they have, but for this timeout.
  have hstay : ∀ a' i, s.l2Cache.lookup a' = some i → (a' = a → env.portOf i = portId →
      HasFlow env fm s a' i ∨ (env.portOf i, a') ∈ rest) →
        HasFlow env fm s a' i ∨ (env.portOf i, a') ∈ rest := by
    intro a' i hi hself
    rcases h a' i hi with hf | hp
    · exact .inl hf
    · rcases List.mem_cons.mp hp with hp | hp
      · obtain ⟨hport, ha⟩ := Prod.mk.inj hp
        exact hself ha hport
      · exact .inr hp
  unfold Fdb.fdbTimeout
  simp only
  by_cases hfound : env.brLink (env.ifindexOf portId) = some env.bridge ∧
      s.l2Cache.lookup a = some (env.ifindexOf portId)
  · rw [if_pos hfound]
    obtain ⟨hbr, hl⟩ := hfound
    by_cases hsend : sends (.delete (env.ifindexOf portId) a) = true
    · rw [if_pos hsend]
      refine iff_of_true (fun a' i hi => ?_) (fun i hi _ => ?_)
      · change (s.l2Cache.erase a).lookup a' = some i at hi
        rw [Table.lookup_erase_ite] at hi
        split_ifs at hi with ha
        exact hstay a' i hi fun ha' => absurd ha' ha
      · obtain rfl := Option.some.inj (hl.symm.trans hi)
        exact .inl ⟨rfl, hbr, hsend⟩
    · rw [if_neg hsend]
      constructor
      · intro h' i hi hport
        right
        exact hport ▸ h' a i hi
      · intro hall a' i hi
        refine hstay a' i hi ?_
        rintro rfl hport
        obtain rfl := Option.some.inj (hl.symm.trans hi)
        rcases hall _ hi hport with ⟨-, -, hs⟩ | hr
        · exact absurd hs hsend
        · rw [hport]
          exact hr
  · rw [if_neg hfound]
    constructor
    · intro h' i hi hport
      right
      exact hport ▸ h' a i hi
    · intro hall a' i hi
      refine hstay a' i hi ?_
      rintro rfl hport
      rcases hall i hi hport with ⟨hidx, hbr, -⟩ | hr
      · exact absurd ⟨hidx ▸ hbr, hidx ▸ hi⟩ hfound
      · exact hport ▸ hr

/-- No entry of `l2_cache` is skipped. -/
theorem tracked_eq (s : Fdb) : s.tracked = s.l2Cache.entries :=
  List.filter_eq_self.mpr fun _ _ => by decide

/-- The flows after an update of entries, no two of which are of one address. -/
theorem vlan_refresh (env : FdbEnv) (drv : BridgingDriver) (fm : FmDriver) (b : L2Flows)
    {l : List (Sigma fun _ : L2Addr => Int)} (hl : l.NodupKeys) (a : L2Addr) :
    (l.foldl (Fdb.refresh env drv fm) b).table.vlan.lookup a =
        match l.dlookup a with
        | some i => some (b.unicastFlow fm (env.portIdOf i) a.1 false)
        | none => b.table.vlan.lookup a := by
  induction l generalizing b with
  | nil => rfl
  | cons e l ih =>
    obtain ⟨k, i⟩ := e
    obtain ⟨hk, hl⟩ := List.nodupKeys_cons.mp hl
    rw [List.foldl_cons, ih (Fdb.refresh env drv fm b ⟨k, i⟩) hl]
    have hadd : (Fdb.refresh env drv fm b ⟨k, i⟩).table.vlan.lookup a =
        if a = k then some (b.unicastFlow fm (env.portIdOf i) k.1 false)
        else b.table.vlan.lookup a :=
      L2Flows.vlan_l2AddrAdd b (env.portIdOf i) k.1 k.2 a false true
    by_cases ha : a = k
    · subst ha
      rw [List.dlookup_eq_none.mpr hk, List.dlookup_cons_eq]
      exact hadd.trans (if_pos rfl)
    · rw [List.dlookup_cons_ne l ⟨k, i⟩ ha]
      cases l.dlookup a with
      | some j => rfl
      | none => exact hadd.trans (if_neg ha)

theorem unicastFlow_refresh (b : L2Flows) (l : List (Sigma fun _ : L2Addr => Int)) (p v : Nat)
    (permanent : Bool) :
    (l.foldl (Fdb.refresh env drv fm) b).unicastFlow fm p v permanent =
      b.unicastFlow fm p v permanent := by
  induction l generalizing b with
  | nil => rfl
  | cons e l ih => exact ih (Fdb.refresh env drv fm b e)

theorem unicastFlow_inj (b : L2Flows) {p q v : Nat} {permanent : Bool} :
    b.unicastFlow fm p v permanent = b.unicastFlow fm q v permanent ↔ p = q :=
  ⟨fun h => congrArg UnicastFlow.port h, fun h => by rw [h]⟩

/-- The flows are renewed with the port of the ifindex. -/
theorem mirror_setAgeingTime_iff (ageingTime : Nat) :
    Mirror env fm timeouts (s.setAgeingTime env drv fm ageingTime) ↔
      ∀ a i, s.l2Cache.lookup a = some i →
        env.portIdOf i = env.portOf i ∨ (env.portOf i, a) ∈ timeouts := by
  refine forall_congr' fun a => forall_congr' fun i => forall_congr' fun hi => ?_
  have hflow := vlan_refresh env drv fm (s.bridging.l2SetIdleTimeout (ageingSeconds ageingTime))
    s.l2Cache.nodupKeys a
  rw [show s.l2Cache.entries.dlookup a = some i from hi] at hflow
  have hiff : HasFlow env fm (s.setAgeingTime env drv fm ageingTime) a i ↔
      env.portIdOf i = env.portOf i := by
    unfold HasFlow Fdb.setAgeingTime
    rw [tracked_eq, hflow, unicastFlow_refresh, Option.some.injEq, unicastFlow_inj]
  rw [hiff]

theorem leaveVlan_of_port (drv : BridgingDriver) (s : Fdb) {ifindex : Int}
    (hp : env.portOf ifindex = 0) (master : Int) (vid : Nat) :
    s.leaveVlan env drv ifindex master vid = s := by
  unfold Fdb.leaveVlan
  rw [if_pos hp]

/-- What stays in `l2_cache` when a port leaves a VLAN, and which flows do. -/
theorem leaveVlan_lookup (drv : BridgingDriver) (s : Fdb) {ifindex : Int}
    (hp : env.portOf ifindex ≠ 0) (master : Int) (vid : Nat) (a : L2Addr) :
    (∀ i, (s.leaveVlan env drv ifindex master vid).l2Cache.lookup a = some i ↔
      s.l2Cache.lookup a = some i ∧ ¬ (i = ifindex ∧ master = env.bridge ∧ a.1 = vid)) ∧
    (s.leaveVlan env drv ifindex master vid).bridging.table.vlan.lookup a =
      (s.bridging.table.vlan.lookup a).filter fun flow =>
        !decide (a.1 = vid ∧ drv.takes (env.portOf ifindex) flow.port) := by
  unfold Fdb.leaveVlan
  rw [if_neg hp]
  refine ⟨fun i => ?_, L2Flows.vlan_l2AddrRemoveAllInVlan s.bridging _ vid a⟩
  change (Table.filterMap _ s.l2Cache).lookup a = some i ↔ _
  rw [Table.lookup_filterMap]
  cases s.l2Cache.lookup a with
  | none => simp
  | some j => by_cases hj : j = ifindex ∧ master = env.bridge ∧ a.1 = vid <;> simp [hj] <;> grind

/-- The addresses of a port leave with the VLAN; those that stay must not lose their flows. -/
theorem mirror_leaveVlan_iff (h : Mirror env fm timeouts s) (ifindex master : Int) (vid : Nat) :
    Mirror env fm timeouts (s.leaveVlan env drv ifindex master vid) ↔
      (env.portOf ifindex ≠ 0 → ∀ a i, s.l2Cache.lookup a = some i →
        ¬ (i = ifindex ∧ master = env.bridge) → a.1 = vid →
          drv.takes (env.portOf ifindex) (env.portOf i) = true →
            (env.portOf i, a) ∈ timeouts) := by
  by_cases hp : env.portOf ifindex = 0
  · rw [leaveVlan_of_port drv s hp]
    exact iff_of_true h fun hne => absurd hp hne
  have hlookup := leaveVlan_lookup drv s hp master vid
  have hidle : (s.leaveVlan env drv ifindex master vid).bridging.defaultIdleTimeout =
      s.bridging.defaultIdleTimeout := by
    unfold Fdb.leaveVlan
    rw [if_neg hp]
    rfl
  rw [mirror_filter_iff h (s.leaveVlan env drv ifindex master vid)
    (fun a p => decide (a.1 = vid ∧ drv.takes (env.portOf ifindex) p)) hidle
    (fun a i hi => (((hlookup a).1 i).mp hi).1) fun a => (hlookup a).2]
  simp only [ne_eq, hp, not_false_eq_true, forall_const]
  refine forall_congr' fun a => forall_congr' fun i => ?_
  rw [(hlookup a).1]
  simp only [decide_eq_true_eq]
  tauto

/-- What a port does that becomes an access port. -/
theorem createAccessPort_frame (drv : BridgingDriver) (s : Fdb) {ifindex : Int}
    (hp : env.portIdOf ifindex ≠ 0) (vid : Nat) (port : Option AccessTunnelPort)
    (neighs : List RtnlNeigh) :
    (s.createAccessPort env drv ifindex vid port neighs).l2Cache = s.l2Cache ∧
    (s.createAccessPort env drv ifindex vid port neighs).bridging.table.vlan =
      (s.bridging.l2AddrRemoveAllInVlan drv (env.portIdOf ifindex) vid).table.vlan ∧
    (s.createAccessPort env drv ifindex vid port neighs).bridging.defaultIdleTimeout =
      s.bridging.defaultIdleTimeout := by
  unfold Fdb.createAccessPort
  rw [if_neg hp]
  cases port <;>
    exact let h := sameVlans_foldl (fun s n => sameVlans_addL2NeighAccess env drv s n) _ _
      ⟨h.l2Cache, h.vlan, h.defaultIdleTimeout⟩

/-- The addresses of an access port stay in `l2_cache` and lose their flows. -/
theorem mirror_createAccessPort_iff (h : Mirror env fm timeouts s) (ifindex : Int) (vid : Nat)
    (port : Option AccessTunnelPort) (neighs : List RtnlNeigh) :
    Mirror env fm timeouts (s.createAccessPort env drv ifindex vid port neighs) ↔
      (env.portIdOf ifindex ≠ 0 → ∀ a i, s.l2Cache.lookup a = some i → a.1 = vid →
        drv.takes (env.portIdOf ifindex) (env.portOf i) = true → (env.portOf i, a) ∈ timeouts) := by
  by_cases hp : env.portIdOf ifindex = 0
  · have hs : s.createAccessPort env drv ifindex vid port neighs = s := by
      unfold Fdb.createAccessPort
      rw [if_pos hp]
    rw [hs]
    exact iff_of_true h fun hne => absurd hp hne
  · obtain ⟨hc, hf, hd⟩ := createAccessPort_frame drv s hp vid port neighs
    rw [mirror_filter_iff h (s.createAccessPort env drv ifindex vid port neighs)
      (fun a p => decide (a.1 = vid ∧ drv.takes (env.portIdOf ifindex) p)) hd
      (fun a i hi => by rwa [hc] at hi) fun a => by
        rw [hf]
        exact L2Flows.vlan_l2AddrRemoveAllInVlan s.bridging _ vid a]
    rw [hc]
    simp only [decide_eq_true_eq, forall_const, ne_eq, hp, not_false_eq_true]
    exact forall_congr' fun a => forall_congr' fun i => by tauto

theorem Mirror.deleteAccessPort (h : Mirror env fm timeouts s) (sends : NeighRequest → Bool)
    (ifindex : Int) (vid : Nat) (neighs : List RtnlNeigh) :
    Mirror env fm timeouts (s.deleteAccessPort env drv fm sends ifindex vid neighs) := by
  have hfold : ∀ (ns : List RtnlNeigh) (s : Fdb), Mirror env fm timeouts s →
      Mirror env fm timeouts
        (ns.foldl (fun s n => s.addNeighToFdb env drv fm sends n false) s) := by
    intro ns
    induction ns with
    | nil => exact fun _ h => h
    | cons n ns ih => exact fun s h => ih _ (h.addNeighToFdb sends n false)
  unfold Fdb.deleteAccessPort
  simp only
  split_ifs with hp
  · exact h
  · refine hfold _ _ ?_
    split
    · exact h
    · obtain ⟨hcache, hvlan, htime⟩ := sameVlans_l2OverlayAddrRemove drv s _ _ _
      exact h.sameVlans ⟨hcache, hvlan, htime⟩

/-- A flow that is in place has a timeout, or reports it. -/
theorem sendFlowRem_of_idleTimeout (b : L2Flows) (p v : Nat) (permanent : Bool)
    (h : (b.unicastFlow fm p v permanent).idleTimeout ≠ 0) :
    (b.unicastFlow fm p v permanent).sendFlowRem = true := by
  unfold L2Flows.unicastFlow L2Flows.expiry at h ⊢
  split_ifs at h ⊢ with hc
  · rfl
  · exact absurd rfl h

/-- A flow runs out: its timeout is on its way. -/
theorem Mirror.expire (hE : drv.Encodes) {s : FdbSystem} (h : Mirror env fm s.timeouts s.fdb)
    (hv : ∀ a i, s.fdb.l2Cache.lookup a = some i → a.1 < 2 ^ 12) (a : L2Addr) :
    Mirror env fm (step env drv fm s (.expire a)).timeouts (step env drv fm s (.expire a)).fdb := by
  change Mirror env fm (s.removed (s.fdb.bridging.table.expire drv a)).timeouts
    (s.removed (s.fdb.bridging.table.expire drv a)).fdb
  have hmore : ∀ x ∈ s.timeouts, x ∈ (s.removed (s.fdb.bridging.table.expire drv a)).timeouts :=
    fun x hx => List.mem_append_left _ hx
  have hother : ∀ a' ≠ a, (s.fdb.bridging.table.expire drv a).1.vlan.lookup a' =
      s.fdb.bridging.table.vlan.lookup a' := by
    intro a' ha
    unfold BridgingTable.expire
    cases s.fdb.bridging.table.vlan.lookup a with
    | none => rfl
    | some flow =>
      simp only
      split_ifs
      · rfl
      · exact (Table.lookup_erase_ite _ a a').trans (if_neg ha)
      · exact (Table.lookup_erase_ite _ a a').trans (if_neg ha)
  intro a' i hi
  rcases h a' i hi with hf | hp
  · by_cases ha : a' = a
    · subst ha
      by_cases hidle :
          (s.fdb.bridging.unicastFlow fm (env.portOf i) a'.1 false).idleTimeout = 0
      · left
        have hnone : (s.fdb.bridging.table.expire drv a').1 = s.fdb.bridging.table := by
          simp only [BridgingTable.expire, show _ = _ from hf, hidle, if_true]
        unfold HasFlow at hf ⊢
        change (s.fdb.bridging.table.expire drv a').1.vlan.lookup a' = _
        rw [hnone]
        exact hf
      · right
        have hrem := sendFlowRem_of_idleTimeout _ _ _ _ hidle
        have hmsg : ∃ msg, (s.fdb.bridging.table.expire drv a').2 = some msg := by
          simp only [BridgingTable.expire, show _ = _ from hf, hidle, hrem, if_false, if_true]
          exact ⟨_, rfl⟩
        obtain ⟨msg, hmsg⟩ := hmsg
        have hcall := L2Flows.handleBridgingTableRm_expire hE (hv a' i hi) (env.portOf_lt i) hf hmsg
        refine List.mem_append_right _ ?_
        rw [hmsg, Option.bind_some, hcall]
        exact List.mem_singleton.mpr rfl
    · exact .inl ((hother a' ha).trans hf)
  · exact .inr (hmore _ hp)

/-! ## Runs -/

/-- The addresses in `l2_cache` have VLANs of 12 bits. -/
def Vlans (s : Fdb) : Prop := ∀ a i, s.l2Cache.lookup a = some i → a.1 < 2 ^ 12

theorem Vlans.takeOver (h : Vlans s) (sends : NeighRequest → Bool) (i : Int) (port : Nat)
    {a : L2Addr} (ha : a.1 < 2 ^ 12) (permanent update : Bool) :
    Vlans (s.takeOver drv fm sends i port a permanent update) := by
  intro a' j hj
  by_cases he : a' = a
  · rwa [he]
  · refine h a' j ?_
    unfold Fdb.takeOver at hj
    simp only at hj
    split_ifs at hj <;> grind

theorem Vlans.addNeighToFdb (h : Vlans s) (sends : NeighRequest → Bool) {n : RtnlNeigh}
    (hn : VlanId n) (update : Bool) : Vlans (s.addNeighToFdb env drv fm sends n update) := by
  rcases addNeighToFdb_cases env drv fm sends s n update with he | ⟨vid, hvid, -, he⟩
  · rwa [he]
  · rw [he]
    exact h.takeOver sends _ _ (hn vid hvid) _ _

/-- Nothing else puts addresses into `l2_cache`. -/
theorem Vlans.mono (h : Vlans s)
    (hs : ∀ a i, s'.l2Cache.lookup a = some i → s.l2Cache.lookup a = some i) : Vlans s' :=
  fun a i hi => h a i (hs a i hi)

theorem lookup_removeNeighFromFdb (n : RtnlNeigh) {a : L2Addr} {i : Int}
    (h : (s.removeNeighFromFdb env drv n).l2Cache.lookup a = some i) :
    s.l2Cache.lookup a = some i := by
  unfold Fdb.removeNeighFromFdb at h
  split at h
  · exact h
  · split_ifs at h
    · exact h
    · exact h
    · change (s.l2Cache.erase _).lookup a = some i at h
      rw [Table.lookup_erase_ite] at h
      split_ifs at h
      exact h
    · exact h

theorem Vlans.routeNeighApply (h : Vlans s) (sends : NeighRequest → Bool) (vx : VxlanFinds)
    {obj : NeighNlObj} (hobj : ∀ n ∈ newNeigh obj, VlanId n) :
    Vlans (s.routeNeighApply env drv fm sends vx obj) := by
  refine routeNeighApply_vlans h sends vx ?_ ?_ ?_
  · exact fun _ _ hs h => h.mono fun _ _ hi => hs.l2Cache ▸ hi
  · exact fun n hn _ update h => h.addNeighToFdb sends (hobj n hn) update
  · exact fun n _ => h.mono fun _ _ => lookup_removeNeighFromFdb n

theorem vlans_step {s : FdbSystem} (h : Vlans s.fdb) {e : Ev} (hwf : Wf s e) :
    Vlans (step env drv fm s e).fdb := by
  cases e with
  | neigh obj sends vx => exact h.routeNeighApply sends vx hwf
  | expire a => exact h
  | expireOverlay a => exact h
  | fdbTimeout sends =>
    simp only [step]
    split
    · exact h
    · refine h.mono fun a i hi => ?_
      simp only [Fdb.fdbTimeout] at hi
      split_ifs at hi <;> grind
  | setAgeingTime t => exact h
  | leaveVlan ifindex master vid =>
    by_cases hp : env.portOf ifindex = 0
    · simpa only [step, leaveVlan_of_port drv s.fdb hp] using h
    · exact h.mono fun a i hi => (((leaveVlan_lookup drv s.fdb hp master vid a).1 i).mp hi).1
  | joinDomain ifindex vid port =>
    simp only [step, Fdb.joinDomain]
    split_ifs <;> exact h
  | createAccessPort ifindex vid port neighs =>
    by_cases hp : env.portIdOf ifindex = 0
    · simpa only [step, Fdb.createAccessPort, if_pos hp] using h
    · refine h.mono fun a i hi => ?_
      change (s.fdb.createAccessPort env drv ifindex vid port neighs).l2Cache.lookup a =
        some i at hi
      rwa [(createAccessPort_frame drv s.fdb hp vid port neighs).1] at hi
  | deleteAccessPort ifindex vid neighs sends =>
    have hfold : ∀ (ns : List RtnlNeigh) (s : Fdb), (∀ n ∈ ns, VlanId n) → Vlans s →
        Vlans (ns.foldl (fun s n => s.addNeighToFdb env drv fm sends n false) s) := by
      intro ns
      induction ns with
      | nil => exact fun _ _ h => h
      | cons n ns ih =>
        intro s hns h
        exact ih _ (fun m hm => hns m (List.mem_cons_of_mem n hm))
          (h.addNeighToFdb sends (hns n List.mem_cons_self) false)
    simp only [step, Fdb.deleteAccessPort]
    split_ifs
    · exact h
    · refine hfold _ _ (fun n hn => hwf n (List.mem_of_mem_filter hn)) ?_
      split
      · exact h
      · exact h

/-- A step of a mirror leads to one exactly if it meets the condition. -/
theorem mirror_step_iff (hE : drv.Encodes) {s : FdbSystem} (hv : Vlans s.fdb)
    (h : Mirror env fm s.timeouts s.fdb) (e : Ev) :
    Mirror env fm (step env drv fm s e).timeouts (step env drv fm s e).fdb ↔
      Keeps env drv fm s e := by
  cases e with
  | neigh obj sends vx => exact mirror_routeNeighApply_iff h sends vx obj
  | expire a => exact iff_of_true (h.expire hE hv a) trivial
  | expireOverlay a =>
    refine iff_of_true (fun a' i hi => ?_) trivial
    have hvlan : (s.fdb.bridging.table.expireOverlay drv a).1.vlan =
        s.fdb.bridging.table.vlan := by
      unfold BridgingTable.expireOverlay
      split
      · rfl
      · split_ifs <;> rfl
    refine (h a' i hi).imp (fun hf => ?_) (fun hp => List.mem_append_left _ hp)
    change (s.fdb.bridging.table.expireOverlay drv a).1.vlan.lookup a' = _
    rw [hvlan]
    exact hf
  | fdbTimeout sends =>
    obtain ⟨fdb, timeouts⟩ := s
    cases timeouts with
    | nil => exact iff_of_true h (by simp [Keeps])
    | cons x rest =>
      obtain ⟨portId, a⟩ := x
      refine (mirror_fdbTimeout_iff h sends).trans ?_
      simp only [Keeps, List.cons.injEq, Prod.mk.injEq]
      constructor
      · rintro hall p b r ⟨⟨rfl, rfl⟩, rfl⟩
        exact hall
      · intro hall
        exact hall portId a rest ⟨⟨rfl, rfl⟩, rfl⟩
  | setAgeingTime t => exact mirror_setAgeingTime_iff t
  | leaveVlan ifindex master vid => exact mirror_leaveVlan_iff h ifindex master vid
  | joinDomain ifindex vid port =>
    refine iff_of_true ?_ trivial
    simp only [step, Fdb.joinDomain]
    split_ifs <;> exact h
  | createAccessPort ifindex vid port neighs =>
    exact mirror_createAccessPort_iff h ifindex vid port neighs
  | deleteAccessPort ifindex vid neighs sends =>
    exact iff_of_true (h.deleteAccessPort sends ifindex vid neighs) trivial

/-- **Every state of a run is a mirror exactly if its steps meet the condition.** -/
theorem mirror_iff_along (env : FdbEnv) (drv : BridgingDriver) (fm : FmDriver) (hE : drv.Encodes)
    (es : List Ev) (hwf : Along (step env drv fm) Wf {} es) :
    (∀ n, Mirror env fm (run (step env drv fm) {} (es.take n)).timeouts
      (run (step env drv fm) {} (es.take n)).fdb) ↔
      Along (step env drv fm) (Keeps env drv fm) {} es := by
  refine along_iff_of_inv_under (I := fun s : FdbSystem => Vlans s.fdb)
    (P := fun s : FdbSystem => Mirror env fm s.timeouts s.fdb) ?_ ?_ ?_ ?_ hwf
  · intro a i hi
    cases hi
  · intro a i hi
    cases hi
  · exact fun s e hv _ hwf => vlans_step hv hwf
  · exact fun s e hv h _ => mirror_step_iff hE hv h e

/-- An address that the kernel has learned on port 1. -/
def learnedNeigh : RtnlNeigh := { ifindex := 1, master := 10, vlan := some 100, lladdr := 7 }

/-- The kernel drops the entry before it is told to keep it. -/
def learnedAndGone : List Ev :=
  [.neigh (.new learnedNeigh) (fun _ => true) FdbWorld.noVxlan,
    .neigh (.del learnedNeigh) (fun _ => true) FdbWorld.noVxlan]

theorem learnedAndGone_not_mirror :
    ¬ ∀ n, Mirror FdbWorld.twoPorts ofdpaDriver
      (run (step FdbWorld.twoPorts ofdpaBridging ofdpaDriver) {} (learnedAndGone.take n)).timeouts
      (run (step FdbWorld.twoPorts ofdpaBridging ofdpaDriver) {} (learnedAndGone.take n)).fdb := by
  intro h
  have hwf : Along (step FdbWorld.twoPorts ofdpaBridging ofdpaDriver) Wf {} learnedAndGone := by
    simp [learnedAndGone, learnedNeigh, Along, Wf, newNeigh, VlanId]
  have hkeeps := ((mirror_iff_along FdbWorld.twoPorts ofdpaBridging ofdpaDriver
    ofdpaBridging_encodes learnedAndGone hwf).mp h).2.1
  have hin := hkeeps learnedNeigh (by decide) (by decide) (by decide) 100 rfl 1 (by decide)
    (by decide)
  exact absurd hin (by decide)

/-! ## An address that is left alone -/

/-- An object that does not take the address from its port: one of the address that is gone is not of
the entry that was handed over, and one that the address is on a port names that port. -/
def SamePort (env : FdbEnv) (a : L2Addr) (ifindex : Int) (obj : NeighNlObj) : Prop :=
  (∀ n ∈ removedNeigh env obj, n.vlan = some a.1 → n.lladdr = a.2 → n.extLearned = false) ∧
    ∀ n ∈ newNeigh obj, n.vlan = some a.1 → n.lladdr = a.2 → n.ifindex = ifindex

theorem takeOver_frame (drv : BridgingDriver) (fm : FmDriver) (s : Fdb)
    (sends : NeighRequest → Bool) (i : Int) (port : Nat) {a a' : L2Addr} (ha : a' ≠ a)
    (permanent update : Bool) :
    (s.takeOver drv fm sends i port a permanent update).l2Cache.lookup a' = s.l2Cache.lookup a' ∧
      (s.takeOver drv fm sends i port a permanent update).bridging.table.vlan.lookup a' =
        s.bridging.table.vlan.lookup a' := by
  have hflow : (s.bridging.l2AddrAdd drv fm port a.1 a.2 permanent update).table.vlan.lookup a' =
      s.bridging.table.vlan.lookup a' :=
    (L2Flows.vlan_l2AddrAdd s.bridging port a.1 a.2 a' permanent update).trans (if_neg ha)
  unfold Fdb.takeOver
  simp only
  split_ifs
  · exact ⟨by simp [ha], hflow⟩
  · exact ⟨by simp [ha], hflow⟩
  · exact ⟨by simp [ha], hflow⟩

/-- The condition on a step: it does not say that the address is elsewhere or gone, the ageing time
stays, and the port does not leave the VLAN. -/
def Unmoved (env : FdbEnv) (a : L2Addr) (ifindex : Int) (s : FdbSystem) : Ev → Prop
  | .neigh obj _ _ => SamePort env a ifindex obj
  | .fdbTimeout _ => ∀ x ∈ s.timeouts.head?, x.2 ≠ a
  | .setAgeingTime _ => False
  | .leaveVlan i master vid => i = ifindex → master = env.bridge → a.1 ≠ vid
  | .deleteAccessPort _ _ neighs _ =>
    ∀ n ∈ neighs, n.vlan = some a.1 → n.lladdr = a.2 → n.ifindex = ifindex
  | _ => True

/-- The address is in `l2_cache` and has no flow. -/
def Lost (a : L2Addr) (ifindex : Int) (s : Fdb) : Prop :=
  s.l2Cache.lookup a = some ifindex ∧ s.bridging.table.vlan.lookup a = none

section Lost

variable {a : L2Addr} {i : Int}

theorem Lost.sameVlans (h : Lost a i s) (hs : SameVlans s s') : Lost a i s' :=
  ⟨by rw [hs.l2Cache, h.1], by rw [hs.vlan, h.2]⟩

/-- No flow of the address is left to take away, and it stays in `l2_cache` if it is of an entry that
was not handed over. -/
theorem Lost.removeNeighFromFdb (h : Lost a i s) {n : RtnlNeigh}
    (hn : n.vlan = some a.1 → n.lladdr = a.2 → n.extLearned = false) :
    Lost a i (s.removeNeighFromFdb env drv n) := by
  unfold Fdb.removeNeighFromFdb
  cases hv : n.vlan with
  | none => exact h
  | some vid =>
    simp only
    split_ifs with hb hgone hext
    · exact h
    · exact h
    · have ha : a ≠ (vid, n.lladdr) := by
        rintro rfl
        rw [hn hv rfl] at hext
        cases hext
      refine ⟨(Table.lookup_erase_ite _ _ a).trans ((if_neg ha).trans h.1), ?_⟩
      exact (L2Flows.vlan_l2AddrRemove s.bridging _ vid n.lladdr a).trans (by rw [h.2]; rfl)
    · exact ⟨h.1, (L2Flows.vlan_l2AddrRemove s.bridging _ vid n.lladdr a).trans
        (by rw [h.2]; rfl)⟩

theorem Lost.addNeighToFdb (h : Lost a i s) (sends : NeighRequest → Bool) {n : RtnlNeigh}
    (hn : n.vlan = some a.1 → n.lladdr = a.2 → n.ifindex = i) (update : Bool) :
    Lost a i (s.addNeighToFdb env drv fm sends n update) := by
  rcases addNeighToFdb_cases env drv fm sends s n update with he | ⟨vid, hvid, hne, he⟩
  · rwa [he]
  · rw [he]
    have ha : a ≠ (vid, n.lladdr) := by
      rintro rfl
      rw [hn hvid rfl] at hne
      exact hne h.1
    obtain ⟨h1, h2⟩ := takeOver_frame drv fm s sends n.ifindex (env.portOf n.ifindex) ha n.permanent
      update
    exact ⟨h1.trans h.1, h2.trans h.2⟩

theorem lost_step {s : FdbSystem} (h : Lost a i s.fdb) {e : Ev} (he : Unmoved env a i s e) :
    Lost a i (step env drv fm s e).fdb := by
  cases e with
  | neigh obj sends vx =>
    refine routeNeighApply_vlans h sends vx (fun _ _ hs h => h.sameVlans hs) ?_ ?_
    · exact fun n hn _ update h => h.addNeighToFdb sends (he.2 n hn) update
    · exact fun n hn => h.removeNeighFromFdb (he.1 n hn)
  | expire a' =>
    refine ⟨h.1, ?_⟩
    change (s.fdb.bridging.table.expire drv a').1.vlan.lookup a = none
    unfold BridgingTable.expire
    split
    · exact h.2
    · split_ifs
      · exact h.2
      · exact (Table.lookup_erase_ite _ a' a).trans (by rw [h.2, ite_self])
      · exact (Table.lookup_erase_ite _ a' a).trans (by rw [h.2, ite_self])
  | expireOverlay a' =>
    refine ⟨h.1, ?_⟩
    change (s.fdb.bridging.table.expireOverlay drv a').1.vlan.lookup a = none
    unfold BridgingTable.expireOverlay
    split
    · exact h.2
    · split_ifs <;> exact h.2
  | fdbTimeout sends =>
    obtain ⟨fdb, timeouts⟩ := s
    cases timeouts with
    | nil => exact h
    | cons x rest =>
      have hx : a ≠ x.2 := (he x rfl).symm
      simp only [step, Fdb.fdbTimeout]
      split_ifs
      · exact ⟨(Table.lookup_erase_ite _ x.2 a).trans (by rw [if_neg hx, h.1]), h.2⟩
      · exact h
      · exact h
  | setAgeingTime t => exact he.elim
  | leaveVlan ifindex master vid =>
    by_cases hp : env.portOf ifindex = 0
    · simpa only [step, leaveVlan_of_port drv s.fdb hp] using h
    · obtain ⟨hcache, hflow⟩ := leaveVlan_lookup drv s.fdb hp master vid a
      refine ⟨(hcache i).mpr ⟨h.1, ?_⟩, hflow.trans (by rw [h.2]; rfl)⟩
      rintro ⟨rfl, hm, hv⟩
      exact he rfl hm hv
  | joinDomain ifindex vid port =>
    simp only [step, Fdb.joinDomain]
    split_ifs <;> exact h
  | createAccessPort ifindex vid port neighs =>
    by_cases hp : env.portIdOf ifindex = 0
    · simpa only [step, Fdb.createAccessPort, if_pos hp] using h
    · obtain ⟨hc, hf, -⟩ := createAccessPort_frame drv s.fdb hp vid port neighs
      refine ⟨?_, ?_⟩
      · change (s.fdb.createAccessPort env drv ifindex vid port neighs).l2Cache.lookup a = some i
        rw [hc, h.1]
      · change (s.fdb.createAccessPort env drv ifindex vid port
          neighs).bridging.table.vlan.lookup a = none
        rw [hf, L2Flows.vlan_l2AddrRemoveAllInVlan, h.2]
        rfl
  | deleteAccessPort ifindex vid neighs sends =>
    have hfold : ∀ (ns : List RtnlNeigh) (s : Fdb),
        (∀ n ∈ ns, n.vlan = some a.1 → n.lladdr = a.2 → n.ifindex = i) → Lost a i s →
        Lost a i (ns.foldl (fun s n => s.addNeighToFdb env drv fm sends n false) s) := by
      intro ns
      induction ns with
      | nil => exact fun _ _ h => h
      | cons n ns ih =>
        intro s hns h
        exact ih _ (fun m hm => hns m (List.mem_cons_of_mem n hm))
          (h.addNeighToFdb sends (hns n List.mem_cons_self) false)
    simp only [step, Fdb.deleteAccessPort]
    split_ifs
    · exact h
    · refine hfold _ _ (fun n hn => he n (List.mem_of_mem_filter hn)) ?_
      split
      · exact h
      · obtain ⟨hcache, hvlan, htime⟩ := sameVlans_l2OverlayAddrRemove drv s.fdb _ _ _
        exact h.sameVlans ⟨hcache, hvlan, htime⟩

end Lost

end FdbSystem

end Basebox
