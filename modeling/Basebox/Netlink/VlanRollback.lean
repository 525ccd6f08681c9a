import Basebox.Lib.Rollback
import Basebox.Netlink.BridgeCalls
import Basebox.Netlink.VlanBond
import Mathlib.Data.List.TakeWhile

/-!
# VLANs whose programming fails (`src/netlink/nl_vlan.cc`)

`add_vlan` and `add_bridge_vlan` program a VLAN on a port, or on a bond and its members, and take
back what they did when a call to the switch fails.

* `AllOrNothing`: additions that are all done, or that are followed by the removals of those that
  were. `enableVlan_allOrNothing`: so does `enable_vlan`, whichever call fails.
* `addVlan_atomic`: `add_vlan` that fails leaves `port_vlan` and the switch as they were.
* `addBridgeVlan_atomic_iff`: `add_bridge_vlan` that fails leaves its records as they were exactly if
  they had nothing that its roll-back takes out of them.
-/

namespace Basebox

variable {M : Type} [DecidableEq M]

section Calls

variable {fm : VlanDriver M} {ok : SwiCall → Bool}

/-- A loop that stops at the first call that fails, as a sequence of calls that succeed. -/
theorem swiUntilFail_eq (cs : List SwiCall) (sw : PortSwitch M) :
    swiUntilFail fm ok 0 cs sw =
      (if cs.all ok then 0 else -EINVAL, execAll fm (cs.takeWhile ok) sw) := by
  induction cs generalizing sw with
  | nil => rfl
  | cons c cs ih =>
    rw [swiUntilFail, swiCall]
    cases hok : ok c with
    | false => simp [hok, EINVAL]
    | true => simp [hok, ih]

theorem swiEach_eq {cs : List SwiCall} (hok : ∀ c ∈ cs, ok c = true) (sw : PortSwitch M) :
    swiEach fm ok cs sw = execAll fm cs sw := by
  induction cs generalizing sw with
  | nil => rfl
  | cons c cs ih =>
    obtain ⟨hc, hcs⟩ := List.forall_mem_cons.mp hok
    change swiEach fm ok cs (swiCall fm ok c sw).2 = _
    rw [swiCall, if_pos hc]
    exact ih hcs _

end Calls

/-- The removal of what a call adds to a port. -/
def SwiCall.undo : SwiCall → SwiCall
  | .ingressPortVlanAdd port vid pvid vrfId => .ingressPortVlanRemove port vid pvid vrfId
  | .egressPortVlanAdd port vid _ _ => .egressPortVlanRemove port vid
  | c => c

/-- Either all of the additions are done, or one fails, and those that were done are taken back. -/
def AllOrNothing (fm : VlanDriver M) (ok : SwiCall → Bool) (adds : List SwiCall) (sw : PortSwitch M)
    (r : Int × PortSwitch M) : Prop :=
  (adds.all ok = true ∧ r = (0, execAll fm adds sw)) ∨
  (adds.all ok = false ∧ ∃ done back, r = (-EINVAL, execAll fm (done ++ back) sw) ∧
    (∀ c ∈ done, c ∈ adds ∧ c.undo ∈ back) ∧ ∀ c ∈ back, ∃ a ∈ adds, c = a.undo)

namespace NlVlan

variable (env : VlanEnv M) (ok : SwiCall → Bool) (port : PortId) (vid : Nat) (tagged : Bool)
  (vrfId : Nat)

/-- A port and, if it is a bond, its members. -/
def portAndMembers (env : VlanEnv M) (port : PortId) : List PortId := port :: env.lagMembers port

/-- The additions of `add_ingress_vlan`. -/
def ingressAdds : List SwiCall :=
  (portAndMembers env port).map fun p => .ingressPortVlanAdd p vid (!tagged) vrfId

/-- The additions of `enable_vlan` after those. -/
def egressAdds : List SwiCall :=
  (portAndMembers env port).map fun p => .egressPortVlanAdd p vid (!tagged) false

/-- The removals of VLANs succeed. -/
def RemovalsSucceed (ok : SwiCall → Bool) : Prop :=
  (∀ port vid pvid vrfId, ok (.ingressPortVlanRemove port vid pvid vrfId) = true) ∧
    ∀ port vid, ok (.egressPortVlanRemove port vid) = true

omit [DecidableEq M] in
/-- The removals for the members and then for the port undo the additions. -/
theorem undo_portAndMembers (add : PortId → SwiCall) :
    (∀ c ∈ (portAndMembers env port).map add,
      c.undo ∈ (env.lagMembers port).map (fun p => (add p).undo) ++ [(add port).undo]) ∧
    ∀ c ∈ (env.lagMembers port).map (fun p => (add p).undo) ++ [(add port).undo],
      ∃ a ∈ (portAndMembers env port).map add, c = a.undo := by
  constructor
  · intro c hc
    obtain ⟨p, hp, rfl⟩ := List.mem_map.mp hc
    rcases List.mem_cons.mp hp with rfl | hp
    · exact List.mem_append_right _ List.mem_cons_self
    · exact List.mem_append_left _ (List.mem_map_of_mem (f := fun p => (add p).undo) hp)
  · intro c hc
    rcases List.mem_append.mp hc with hc | hc
    · obtain ⟨p, hp, rfl⟩ := List.mem_map.mp hc
      exact ⟨_, List.mem_map_of_mem (List.mem_cons_of_mem port hp), rfl⟩
    · obtain rfl := List.mem_singleton.mp hc
      exact ⟨_, List.mem_map_of_mem List.mem_cons_self, rfl⟩

variable {ok} (hok : RemovalsSucceed ok)
include hok

/-- `remove_ingress_vlan` undoes the additions of `add_ingress_vlan`. -/
theorem removeIngressVlan_eq (sw : PortSwitch M) :
    ∃ back, (removeIngressVlan env ok port vid tagged vrfId sw).2 = execAll env.fm back sw ∧
      (∀ c ∈ ingressAdds env port vid tagged vrfId, c.undo ∈ back) ∧
      ∀ c ∈ back, ∃ a ∈ ingressAdds env port vid tagged vrfId, c = a.undo := by
  refine ⟨(env.lagMembers port).map
      (fun mem => SwiCall.ingressPortVlanRemove mem vid (!tagged) vrfId) ++
    [SwiCall.ingressPortVlanRemove port vid (!tagged) vrfId], ?_,
    undo_portAndMembers env port fun p => .ingressPortVlanAdd p vid (!tagged) vrfId⟩
  unfold removeIngressVlan
  rw [swiEach_eq fun c hc => ?_, swiCall, if_pos (hok.1 _ _ _ _), execAll_append]
  · rfl
  · obtain ⟨m, -, rfl⟩ := List.mem_map.mp hc
    exact hok.1 _ _ _ _

/-- `add_ingress_vlan`. If the call for the port itself fails nothing was done. -/
theorem addIngressVlan_allOrNothing (sw : PortSwitch M) :
    AllOrNothing env.fm ok (ingressAdds env port vid tagged vrfId) sw
      (addIngressVlan env ok port vid tagged vrfId sw) := by
  have hback := removeIngressVlan_eq env port vid tagged vrfId hok
  have hadds : ingressAdds env port vid tagged vrfId = .ingressPortVlanAdd port vid (!tagged) vrfId ::
      (env.lagMembers port).map fun mem => .ingressPortVlanAdd mem vid (!tagged) vrfId := rfl
  unfold addIngressVlan swiCall AllOrNothing
  rw [hadds] at hback ⊢
  generalize (env.lagMembers port).map
    (fun mem => SwiCall.ingressPortVlanAdd mem vid (!tagged) vrfId) = members at hback ⊢
  generalize SwiCall.ingressPortVlanAdd port vid (!tagged) vrfId = first at hback ⊢
  cases hfirst : ok first with
  | false => exact .inr ⟨by simp [hfirst], [], [], by simp [EINVAL], by simp, by simp⟩
  | true =>
    simp only [if_true, Int.lt_irrefl, if_false, swiUntilFail_eq]
    cases hmembers : members.all ok with
    | true =>
      have hwhile : members.takeWhile ok = members := List.takeWhile_eq_self_iff.mpr fun c hc =>
        List.all_eq_true.mp hmembers c hc
      refine .inl ⟨by simp [hfirst, hmembers], ?_⟩
      simp [hwhile]
    | false =>
      obtain ⟨back, heq, hundo, hfrom⟩ := hback (execAll env.fm (first :: members.takeWhile ok) sw)
      refine .inr ⟨by simp [hfirst, hmembers], first :: members.takeWhile ok, back, ?_, ?_, hfrom⟩
      · rw [execAll_append, ← heq]
        simp [EINVAL]
      · intro c hc
        have hmem : c ∈ first :: members := by
          rcases List.mem_cons.mp hc with rfl | hc
          · exact List.mem_cons_self
          · exact List.mem_cons_of_mem _ (List.takeWhile_subset _ hc)
        exact ⟨hmem, hundo c hmem⟩

/-- `enable_vlan`. The removals at egress come before those at ingress. -/
theorem enableVlan_allOrNothing (sw : PortSwitch M) :
    AllOrNothing env.fm ok (ingressAdds env port vid tagged vrfId ++ egressAdds env port vid tagged)
      sw (enableVlan env ok port vid tagged vrfId sw) := by
  have hback := removeIngressVlan_eq env port vid tagged vrfId hok
  have hremove := undo_portAndMembers env port fun p => .egressPortVlanAdd p vid (!tagged) false
  have hegress : egressAdds env port vid tagged = .egressPortVlanAdd port vid (!tagged) false ::
      (env.lagMembers port).map fun mem => .egressPortVlanAdd mem vid (!tagged) false := rfl
  unfold enableVlan
  rcases addIngressVlan_allOrNothing env port vid tagged vrfId hok sw with
    ⟨hall, hr⟩ | ⟨hfail, done, back, hr, hdone, hfrom⟩
  · rw [hr, hegress]
    simp only [Int.lt_irrefl, if_false]
    by_cases hfirst : ok (.egressPortVlanAdd port vid (!tagged) false) = true
    · simp only [swiCall, if_pos hfirst, Int.lt_irrefl, if_false, swiUntilFail_eq]
      by_cases hmembers : ((env.lagMembers port).map
          fun mem => SwiCall.egressPortVlanAdd mem vid (!tagged) false).all ok = true
      · have hwhile : ((env.lagMembers port).map fun mem =>
            SwiCall.egressPortVlanAdd mem vid (!tagged) false).takeWhile ok = (env.lagMembers port).map
              fun mem => SwiCall.egressPortVlanAdd mem vid (!tagged) false :=
          List.takeWhile_eq_self_iff.mpr fun c hc => List.all_eq_true.mp hmembers c hc
        refine .inl ⟨?_, ?_⟩
        · rw [List.all_append, hall, List.all_cons, hfirst, hmembers]
          rfl
        · simp [hmembers, hwhile, execAll_append]
      · -- What was done is followed by the removals at egress, and then those at ingress.
        have hremoves : ∀ c ∈ (env.lagMembers port).map
            (fun mem => SwiCall.egressPortVlanRemove mem vid), ok c = true := by
          intro c hc
          obtain ⟨m, -, rfl⟩ := List.mem_map.mp hc
          exact hok.2 _ _
        simp only [hmembers, if_false, Bool.false_eq_true, EINVAL, swiEach_eq hremoves,
          if_pos (hok.2 port vid), show (-22 : Int) < 0 by decide, if_true]
        obtain ⟨back, heq, hundo, hfrom⟩ := hback _
        refine .inr ⟨by simp [hmembers], ingressAdds env port vid tagged vrfId ++
          .egressPortVlanAdd port vid (!tagged) false :: ((env.lagMembers port).map fun mem =>
            SwiCall.egressPortVlanAdd mem vid (!tagged) false).takeWhile ok,
          ((env.lagMembers port).map (fun mem => .egressPortVlanRemove mem vid) ++
            [.egressPortVlanRemove port vid]) ++ back, ?_, ?_, ?_⟩
        · rw [heq]
          simp only [execAll_append, execAll_cons, EINVAL]
          rfl
        · intro c hc
          rcases List.mem_append.mp hc with hc | hc
          · exact ⟨List.mem_append_left _ hc, List.mem_append_right _ (hundo c hc)⟩
          · have hadd : c ∈ egressAdds env port vid tagged := by
              rcases List.mem_cons.mp hc with rfl | hc
              · exact List.mem_cons_self
              · exact List.mem_cons_of_mem _ (List.takeWhile_subset _ hc)
            exact ⟨List.mem_append_right _ hadd, List.mem_append_left _ (hremove.1 c hadd)⟩
        · intro c hc
          rcases List.mem_append.mp hc with hc | hc
          · obtain ⟨a, ha, he⟩ := hremove.2 c hc
            exact ⟨a, List.mem_append_right _ ha, he⟩
          · obtain ⟨a, ha, he⟩ := hfrom c hc
            exact ⟨a, List.mem_append_left _ ha, he⟩
    · obtain ⟨back, heq, hundo, hfrom⟩ :=
        hback (execAll env.fm (ingressAdds env port vid tagged vrfId) sw)
      refine .inr ⟨by simp [hfirst], ingressAdds env port vid tagged vrfId, back, ?_,
        fun c hc => ⟨List.mem_append_left _ hc, hundo c hc⟩, fun c hc => ?_⟩
      · rw [execAll_append, ← heq]
        simp [swiCall, hfirst, EINVAL]
      · obtain ⟨a, ha, rfl⟩ := hfrom c hc
        exact ⟨a, List.mem_append_left _ ha, rfl⟩
  · -- Nothing was done at egress.
    rw [hr]
    refine .inr ⟨by simp [hfail], done, back, by simp [EINVAL], fun c hc => ?_, fun c hc => ?_⟩
    · exact ⟨List.mem_append_left _ (hdone c hc).1, (hdone c hc).2⟩
    · obtain ⟨a, ha, rfl⟩ := hfrom c hc
      exact ⟨a, List.mem_append_left _ ha, rfl⟩

omit hok

end NlVlan

/-! ## The tables after it -/

section Tables

variable (fm : VlanDriver M)

/-- The flow entries of the VLAN table that a call adds or removes. -/
def SwiCall.touchesVlan : SwiCall → M → Prop
  | .ingressPortVlanAdd port vid pvid _, m | .ingressPortVlanRemove port vid pvid _, m =>
    m = fm.portVidIngress port vid ∨ (pvid = true ∧ m = fm.portPvidIngress port vid)
  | _, _ => False

/-- The interface group that a call adds or removes. -/
def SwiCall.touchesGroup : SwiCall → Nat → Prop
  | .egressPortVlanAdd port vid _ _, id | .egressPortVlanRemove port vid, id =>
    id = fm.interfaceGroup port vid
  | _, _ => False

/-- The tables of the switch are the same. -/
structure SameTables (sw sw' : PortSwitch M) : Prop where
  vlans : ∀ m, sw'.vlans.lookup m = sw.vlans.lookup m
  groups : ∀ id, sw'.sw.groups.lookup id = sw.sw.groups.lookup id
  flows : sw'.sw.flows = sw.sw.flows
  popTags : sw'.popTags = sw.popTags
  pushTags : sw'.pushTags = sw.pushTags
  l2Domain : sw'.l2Domain = sw.l2Domain

/-- A call that adds a VLAN to a port at ingress or egress, or removes it. -/
def SwiCall.OfVlan (vid : Nat) (pvid : Bool) (ports : List PortId) (c : SwiCall) : Prop :=
  ∃ p ∈ ports, (∃ vrfId, c = .ingressPortVlanAdd p vid pvid vrfId ∨
      c = .ingressPortVlanRemove p vid pvid vrfId) ∨
    (∃ untagged, c = .egressPortVlanAdd p vid untagged false) ∨ c = .egressPortVlanRemove p vid

variable {fm} {vid : Nat} {pvid : Bool} {ports : List PortId} {adds done back : List SwiCall}

theorem lookup_vlans_exec {c : SwiCall} (hc : c.OfVlan vid pvid ports) (sw : PortSwitch M) (m : M)
    (hm : ¬ c.touchesVlan fm m) : (c.exec fm sw).vlans.lookup m = sw.vlans.lookup m := by
  obtain ⟨p, -, ⟨vrfId, rfl | rfl⟩ | ⟨untagged, rfl⟩ | rfl⟩ := hc
  · simp only [SwiCall.touchesVlan, not_or, not_and] at hm
    cases pvid <;> simp_all [SwiCall.exec]
  · simp only [SwiCall.touchesVlan, not_or, not_and] at hm
    cases pvid <;> simp_all [SwiCall.exec]
  · rfl
  · rfl

theorem lookup_groups_exec {c : SwiCall} (hc : c.OfVlan vid pvid ports) (sw : PortSwitch M)
    (id : Nat) (hid : ¬ c.touchesGroup fm id) :
    (c.exec fm sw).sw.groups.lookup id = sw.sw.groups.lookup id := by
  obtain ⟨p, -, ⟨vrfId, rfl | rfl⟩ | ⟨untagged, rfl⟩ | rfl⟩ := hc
  · rfl
  · rfl
  · simp only [SwiCall.touchesGroup] at hid
    simp [SwiCall.exec, egressPortVlanAdd_eq, Msg.group, Switch.groups_groupAdd, hid]
  · simp only [SwiCall.touchesGroup] at hid
    simp [SwiCall.exec, egressPortVlanRemove_eq, Switch.groups_groupDelete, hid]

/-- A port has nothing of a VLAN, and no rule for untagged packets where one would be added. -/
structure NoEntries (fm : VlanDriver M) (sw : PortSwitch M) (vid : Nat) (pvid : Bool) (p : PortId) :
    Prop where
  ingress : (sw.entries fm p vid).ingress = none
  egress : (sw.entries fm p vid).egress = none
  pvid : pvid = true → (sw.entries fm p vid).pvid = none

theorem SwiCall.OfVlan.undo {c : SwiCall} (hc : c.OfVlan vid pvid ports) :
    c.undo.OfVlan vid pvid ports := by
  obtain ⟨p, hp, ⟨vrfId, rfl | rfl⟩ | ⟨untagged, rfl⟩ | rfl⟩ := hc
  · exact ⟨p, hp, .inl ⟨vrfId, .inr rfl⟩⟩
  · exact ⟨p, hp, .inl ⟨vrfId, .inr rfl⟩⟩
  · exact ⟨p, hp, .inr (.inr rfl)⟩
  · exact ⟨p, hp, .inr (.inr rfl)⟩

/-- What is taken back is gone. -/
theorem lookup_vlans_undo {c : SwiCall} (hc : c.OfVlan vid pvid ports) (sw : PortSwitch M) (m : M)
    (hm : c.undo.touchesVlan fm m) : (c.undo.exec fm sw).vlans.lookup m = none := by
  obtain ⟨p, -, ⟨vrfId, rfl | rfl⟩ | ⟨untagged, rfl⟩ | rfl⟩ := hc
  · obtain rfl | ⟨hpvid, rfl⟩ := hm
    · cases pvid <;> simp [SwiCall.undo, SwiCall.exec, Table.lookup_erase_ite]
    · simp [SwiCall.undo, SwiCall.exec, hpvid]
  · obtain rfl | ⟨hpvid, rfl⟩ := hm
    · cases pvid <;> simp [SwiCall.undo, SwiCall.exec, Table.lookup_erase_ite]
    · simp [SwiCall.undo, SwiCall.exec, hpvid]
  · exact hm.elim
  · exact hm.elim

theorem lookup_groups_undo {c : SwiCall} (hc : c.OfVlan vid pvid ports) (sw : PortSwitch M)
    (id : Nat) (hid : c.undo.touchesGroup fm id) :
    (c.undo.exec fm sw).sw.groups.lookup id = none := by
  obtain ⟨p, -, ⟨vrfId, rfl | rfl⟩ | ⟨untagged, rfl⟩ | rfl⟩ := hc
  · exact hid.elim
  · exact hid.elim
  · obtain rfl := hid
    simp [SwiCall.undo, SwiCall.exec, egressPortVlanRemove_eq, Switch.groups_groupDelete]
  · obtain rfl := hid
    simp [SwiCall.undo, SwiCall.exec, egressPortVlanRemove_eq, Switch.groups_groupDelete]

/-- **Additions that fail** leave the switch as it was, if there was nothing of the VLAN. -/
theorem AllOrNothing.sameTables {ok : SwiCall → Bool} {sw : PortSwitch M} {r : Int × PortSwitch M}
    (h : AllOrNothing fm ok adds sw r) (hfail : adds.all ok = false)
    (hadds : ∀ c ∈ adds, c.OfVlan vid pvid ports)
    (hfree : ∀ p ∈ ports, NoEntries fm sw vid pvid p) : r.1 < 0 ∧ SameTables sw r.2 := by
  obtain ⟨hall, -⟩ | ⟨-, done, back, rfl, hdone, hback⟩ := h
  · rw [hall] at hfail
    cases hfail
  refine ⟨by simp [EINVAL], ?_⟩
  have hcall : ∀ c ∈ done ++ back, c.OfVlan vid pvid ports := by
    intro c hc
    rcases List.mem_append.mp hc with hc | hc
    · exact hadds c (hdone c hc).1
    · obtain ⟨a, ha, rfl⟩ := hback c hc
      exact (hadds a ha).undo
  have hundo : ∀ c ∈ back, ∃ a : SwiCall, a.OfVlan vid pvid ports ∧ c = a.undo := by
    intro c hc
    obtain ⟨a, ha, he⟩ := hback c hc
    exact ⟨a, hadds a ha, he⟩
  have hvlans : RollsBack (fun sw (c : SwiCall) => c.exec fm sw)
      (fun (sw : PortSwitch M) m => sw.vlans.lookup m) (SwiCall.touchesVlan fm) done back := by
    refine ⟨fun c hc sw m => lookup_vlans_exec (hcall c hc) sw m, fun c hc sw m hm => ?_,
      fun c hc m hm => ⟨c.undo, (hdone c hc).2, ?_⟩⟩
    · obtain ⟨a, ha, rfl⟩ := hundo c hc
      exact lookup_vlans_undo ha sw m hm
    · obtain ⟨p, -, ⟨vrfId, rfl | rfl⟩ | ⟨untagged, rfl⟩ | rfl⟩ := hadds c (hdone c hc).1 <;> exact hm
  have hgroups : RollsBack (fun sw (c : SwiCall) => c.exec fm sw)
      (fun (sw : PortSwitch M) id => sw.sw.groups.lookup id) (SwiCall.touchesGroup fm) done back := by
    refine ⟨fun c hc sw id => lookup_groups_exec (hcall c hc) sw id, fun c hc sw id hid => ?_,
      fun c hc id hid => ⟨c.undo, (hdone c hc).2, ?_⟩⟩
    · obtain ⟨a, ha, rfl⟩ := hundo c hc
      exact lookup_groups_undo ha sw id hid
    · obtain ⟨p, -, ⟨vrfId, rfl | rfl⟩ | ⟨untagged, rfl⟩ | rfl⟩ := hadds c (hdone c hc).1 <;> exact hid
  have hrest : ∀ sw' : PortSwitch M, sw' = execAll fm (done ++ back) sw → sw'.sw.flows = sw.sw.flows ∧
      sw'.popTags = sw.popTags ∧ sw'.pushTags = sw.pushTags ∧ sw'.l2Domain = sw.l2Domain := by
    rintro _ rfl
    refine execAll_keeps (I := fun sw' => sw'.sw.flows = sw.sw.flows ∧ sw'.popTags = sw.popTags ∧
      sw'.pushTags = sw.pushTags ∧ sw'.l2Domain = sw.l2Domain) ⟨rfl, rfl, rfl, rfl⟩
      fun c hc sw' h => ?_
    obtain ⟨p, -, ⟨vrfId, rfl | rfl⟩ | ⟨untagged, rfl⟩ | rfl⟩ := hcall c hc
    · exact h
    · exact h
    · simpa [SwiCall.exec, egressPortVlanAdd_eq, Msg.group, Switch.flows_groupAdd] using h
    · simpa [SwiCall.exec, egressPortVlanRemove_eq, Switch.flows_groupDelete] using h
  obtain ⟨hflows, hpop, hpush, hdom⟩ := hrest _ rfl
  refine ⟨hvlans.lookup_run fun c hc m hm => ?_, hgroups.lookup_run fun c hc id hid => ?_, hflows,
    hpop, hpush, hdom⟩
  · obtain ⟨p, hp, ⟨vrfId, rfl | rfl⟩ | ⟨untagged, rfl⟩ | rfl⟩ :=
      hcall c (List.mem_append_right _ hc)
    · obtain rfl | ⟨hpvid, rfl⟩ := hm
      · exact (hfree p hp).ingress
      · exact (hfree p hp).pvid hpvid
    · obtain rfl | ⟨hpvid, rfl⟩ := hm
      · exact (hfree p hp).ingress
      · exact (hfree p hp).pvid hpvid
    · exact hm.elim
    · exact hm.elim
  · obtain ⟨p, hp, ⟨vrfId, rfl | rfl⟩ | ⟨untagged, rfl⟩ | rfl⟩ :=
      hcall c (List.mem_append_right _ hc)
    · exact hid.elim
    · exact hid.elim
    · obtain rfl := hid
      exact (hfree p hp).egress
    · obtain rfl := hid
      exact (hfree p hp).egress

end Tables

namespace NlVlan

/-- The additions of `add_vlan`. -/
def addVlanCalls (env : VlanEnv M) (port : PortId) (vid : Nat) (tagged : Bool) (vrfId : Nat) :
    List SwiCall :=
  ingressAdds env port vid tagged vrfId ++ egressAdds env port vid tagged

/-- **`add_vlan` that fails** leaves the record and the switch as they were, whichever of its calls
it is that fails. -/
theorem addVlan_atomic (env : VlanEnv M) (ok : SwiCall → Bool) (hok : RemovalsSucceed ok)
    (s : NlVlan M) (port : PortId) (vid : Nat) (tagged : Bool) (hnone : (port, vid) ∉ s.portVlan)
    (hfree : ∀ p ∈ portAndMembers env port, NoEntries env.fm s.swi vid (!tagged) p)
    (hfail : ∃ c ∈ addVlanCalls env port vid tagged (s.getVrfId vid), ok c = false) :
    (addVlan env ok s port false vid tagged).1 < 0 ∧
      (addVlan env ok s port false vid tagged).2.portVlan = s.portVlan ∧
      SameTables s.swi (addVlan env ok s port false vid tagged).2.swi := by
  have hsame : SameTables s.swi s.swi := ⟨fun _ => rfl, fun _ => rfl, rfl, rfl, rfl, rfl⟩
  have hcalls : ∀ c ∈ addVlanCalls env port vid tagged (s.getVrfId vid),
      c.OfVlan vid (!tagged) (portAndMembers env port) := by
    intro c hc
    rcases List.mem_append.mp hc with hc | hc
    · obtain ⟨p, hp, rfl⟩ := List.mem_map.mp hc
      exact ⟨p, hp, .inl ⟨_, .inl rfl⟩⟩
    · obtain ⟨p, hp, rfl⟩ := List.mem_map.mp hc
      exact ⟨p, hp, .inr (.inl ⟨_, rfl⟩)⟩
  have hall : (addVlanCalls env port vid tagged (s.getVrfId vid)).all ok = false := by
    obtain ⟨c, hc, hno⟩ := hfail
    exact List.all_eq_false.mpr ⟨c, hc, by simp [hno]⟩
  obtain ⟨hneg, htables⟩ := (enableVlan_allOrNothing env port vid tagged (s.getVrfId vid) hok
    s.swi).sameTables hall hcalls hfree
  unfold addVlan
  split
  · exact ⟨by simp [EINVAL], rfl, hsame⟩
  split
  · exact ⟨by simp [EINVAL], rfl, hsame⟩
  rw [Table.not_mem_iff_lookup.mp hnone]
  simp only [Bool.false_eq_true, if_false, if_pos hneg]
  exact ⟨hneg, trivial, htables⟩

/-- All calls but one for a member succeed. -/
def memberFails (c : SwiCall) : Bool := decide (c ≠ .egressPortVlanAdd port1 10 false false)

/-- A bond with a member, on which the VLAN cannot be added at egress. -/
theorem addVlan_atomic_memberFails :
    (addVlan (VlanEnv.noBonds.attach lag1 port1 rfl) memberFails {} lag1 false 10 true).1 < 0 ∧
      SameTables (M := Nat × List Nat) {}
        (addVlan (VlanEnv.noBonds.attach lag1 port1 rfl) memberFails {} lag1 false 10 true).2.swi := by
  have h := addVlan_atomic (VlanEnv.noBonds.attach lag1 port1 rfl) memberFails
    ⟨fun _ _ _ _ => by simp [memberFails], fun _ _ => by simp [memberFails]⟩ {} lag1 10 true
    (AList.notMem_empty _) (fun p _ => ⟨rfl, rfl, fun _ => rfl⟩)
    ⟨.egressPortVlanAdd port1 10 false false, by decide, by decide⟩
  exact ⟨h.1, h.2.2⟩

/-! ## Bridge ports -/

/-- The records of bridge ports are the same. -/
structure SameBridgeRecords (s s' : NlVlan M) : Prop where
  bridgeVlan : ∀ p, s'.bridgeVlan.lookup p = s.bridgeVlan.lookup p
  portPvid : ∀ p, s'.portPvid.lookup p = s.portPvid.lookup p

/-- The functions that are called from outside. -/
inductive Call where
  | addVlan (port : PortId) (isBridge : Bool) (vid : Nat) (tagged : Bool)
  | removeVlan (port : PortId) (isBridge : Bool) (vid : Nat) (tagged : Bool)
  | enableVlans (port : PortId)
  | disableVlans (port : PortId)
  | addIngressPvid (port : PortId) (pvid : Nat)
  | removeIngressPvid (port : PortId) (pvid : Nat)
  | addBridgeVlan (port : PortId) (outerVid vid : Nat) (pvid tagged : Bool)
  | removeBridgeVlan (port : PortId) (outerVid vid : Nat) (pvid : Bool)
  | updateEgressBridgeVlan (port : PortId) (vid : Nat) (untagged : Bool)
  | bondMemberAttached (bond : PortId) (bridged : Bool) (port : PortId)
  | bondMemberDetached (bond : PortId) (bridged : Bool) (port : PortId)
  | vrfAttach (vid tableId : Nat) (fdb : List PortId)
  | vrfDetach (vid : Nat) (fdb : List PortId)

/-- A call, with the members of the bonds and the results of the calls to the switch by then. -/
structure CallEv (M : Type) where
  env : VlanEnv M
  ok : SwiCall → Bool
  call : Call

/-- The VLANs after a call. -/
def callStep (s : NlVlan M) (e : CallEv M) : NlVlan M :=
  match e.call with
  | .addVlan port isBridge vid tagged => (addVlan e.env e.ok s port isBridge vid tagged).2
  | .removeVlan port isBridge vid tagged => (removeVlan e.env e.ok s port isBridge vid tagged).2
  | .enableVlans port => (enableVlans e.env e.ok s port).2
  | .disableVlans port => (disableVlans e.env e.ok s port).2
  | .addIngressPvid port pvid => (addIngressPvid e.env e.ok s port pvid).2
  | .removeIngressPvid port pvid => (removeIngressPvid e.env e.ok s port pvid).2
  | .addBridgeVlan port outerVid vid pvid tagged =>
    (addBridgeVlan e.env e.ok s port outerVid vid pvid tagged).2
  | .removeBridgeVlan port outerVid vid pvid => removeBridgeVlan e.env e.ok s port outerVid vid pvid
  | .updateEgressBridgeVlan port vid untagged =>
    (updateEgressBridgeVlan e.env e.ok s port vid untagged).2
  | .bondMemberAttached bond bridged port => (bondMemberAttached e.env e.ok s bond bridged port).2
  | .bondMemberDetached bond bridged port => (bondMemberDetached e.env e.ok s bond bridged port).2
  | .vrfAttach vid tableId fdb => vrfAttach e.env e.ok s vid tableId fdb
  | .vrfDetach vid fdb => vrfDetach e.env e.ok s vid fdb

/-- A port in `bridge_vlan` has a VLAN. -/
def HasVlans (s : NlVlan M) : Prop := ∀ p, s.bridgeVlan.lookup p ≠ some ∅

section Records

variable {env : VlanEnv M} {ok : SwiCall → Bool} {s : NlVlan M} {port : PortId} {outerVid vid : Nat}
  {pvid tagged : Bool}

/-- What a removal leaves of the VLANs of a port. -/
theorem lookup_removeBridgeVlan (hvid : isVidValid vid = true) (hport : port.1 ≠ 0) (p : PortId) :
    (removeBridgeVlan env ok s port outerVid vid pvid).bridgeVlan.lookup p =
      if p = port then
        (s.bridgeVlan.lookup port).bind fun vlans =>
          if vlans.erase vid = ∅ then none else some (vlans.erase vid)
      else s.bridgeVlan.lookup p := by
  unfold removeBridgeVlan
  simp only [hvid, hport, Bool.not_true, Bool.false_eq_true, if_false]
  have hempty : ∀ t : Table Nat (Nat × Bool), t.entries = [] ↔ t = ∅ := fun t =>
    ⟨fun h => AList.ext h, fun h => h ▸ rfl⟩
  cases hl : s.bridgeVlan.lookup port with
  | none =>
    by_cases hp : p = port
    · rw [if_pos hp, hp]
      exact hl
    · rw [if_neg hp]
  | some vlans =>
    simp only [hempty, Option.bind_some]
    split
    · rw [Table.lookup_erase_ite]
    · rw [Table.lookup_insert_ite]

theorem HasVlans.removeBridgeVlan (h : HasVlans s) :
    HasVlans (removeBridgeVlan env ok s port outerVid vid pvid) := by
  by_cases hvid : isVidValid vid = true
  · by_cases hport : port.1 = 0
    · simpa [NlVlan.removeBridgeVlan, hport] using h
    · intro p
      rw [lookup_removeBridgeVlan hvid hport]
      split
      · cases s.bridgeVlan.lookup port with
        | none => simp
        | some vlans =>
          simp only [Option.bind_some]
          split
          · simp
          · rename_i hne
            exact fun he => hne (Option.some.inj he)
      · exact h p
  · simpa [NlVlan.removeBridgeVlan, hvid] using h

/-- The records that an addition makes before it calls the switch. -/
def recordBridgeVlan (s : NlVlan M) (port : PortId) (outerVid vid : Nat) (pvid tagged : Bool) :
    NlVlan M :=
  { s with
    bridgeVlan := s.bridgeVlan.insert port
      (((s.bridgeVlan.lookup port).getD ∅).emplace vid (outerVid, tagged))
    portPvid := if pvid then s.portPvid.emplace port vid else s.portPvid }

variable (env ok s outerVid pvid tagged) in
theorem addBridgeVlan_eq (hvid : isVidValid vid = true) (hport : port.1 ≠ 0) :
    ∃ rv sw, addBridgeVlan env ok s port outerVid vid pvid tagged =
      (rv, if rv < 0 then removeBridgeVlan env ok
          { recordBridgeVlan s port outerVid vid pvid tagged with swi := sw } port outerVid vid pvid
        else { recordBridgeVlan s port outerVid vid pvid tagged with swi := sw }) := by
  unfold addBridgeVlan
  simp only [hvid, hport, Bool.not_true, Bool.false_eq_true, if_false]
  exact ⟨_, _, rfl⟩

theorem HasVlans.addBridgeVlan (h : HasVlans s) :
    HasVlans (addBridgeVlan env ok s port outerVid vid pvid tagged).2 := by
  by_cases hvid : isVidValid vid = true
  · by_cases hport : port.1 = 0
    · simpa [NlVlan.addBridgeVlan, hport] using h
    · obtain ⟨rv, sw, he⟩ := addBridgeVlan_eq env ok s outerVid pvid tagged hvid hport
      have hadded : HasVlans { recordBridgeVlan s port outerVid vid pvid tagged with swi := sw } := by
        intro p
        simp only [recordBridgeVlan, Table.lookup_insert_ite]
        split
        · intro he
          have hlookup := Table.lookup_emplace ((s.bridgeVlan.lookup port).getD ∅) vid vid
            (outerVid, tagged)
          rw [Option.some.inj he, if_pos rfl] at hlookup
          cases hlookup
        · exact h p
      rw [he]
      dsimp only
      split
      · exact hadded.removeBridgeVlan
      · exact hadded
  · simpa [NlVlan.addBridgeVlan, hvid] using h

theorem HasVlans.updateEgressBridgeVlan (h : HasVlans s) (untagged : Bool) :
    HasVlans (updateEgressBridgeVlan env ok s port vid untagged).2 := by
  unfold NlVlan.updateEgressBridgeVlan
  split
  · exact h
  split
  · exact h
  cases hl : s.bridgeVlan.lookup port with
  | none => exact h
  | some vlans =>
    simp only
    cases hv : vlans.lookup vid with
    | none => exact h
    | some x =>
      intro p
      simp only [Table.lookup_insert_ite]
      split
      · intro he
        have hlookup := Table.lookup_insert_ite vlans vid vid (x.1, !untagged)
        rw [Option.some.inj he, if_pos rfl] at hlookup
        cases hlookup
      · exact h p

/-- The other functions leave the VLANs of bridge ports alone. -/
theorem HasVlans.callStep (h : HasVlans s) (e : CallEv M) : HasVlans (callStep s e) := by
  obtain ⟨env, ok, call⟩ := e
  cases call with
  | addBridgeVlan => exact h.addBridgeVlan
  | removeBridgeVlan => exact h.removeBridgeVlan
  | updateEgressBridgeVlan port vid untagged => exact h.updateEgressBridgeVlan untagged
  | _ =>
    dsimp only [NlVlan.callStep, addVlan, removeVlan, enableVlans, disableVlans, addIngressPvid,
      removeIngressPvid, bondMemberAttached, bondMemberDetached, vrfAttach, vrfDetach]
    repeat' split
    all_goals exact h

section RolledBack

variable (env ok) (sw : PortSwitch M) (hvid : isVidValid vid = true) (hport : port.1 ≠ 0)
include hvid hport

variable (s outerVid pvid tagged) in
/-- What an addition that is rolled back leaves of the VLANs of its port. -/
theorem rolledBack_bridgeVlan (p : PortId) :
    (removeBridgeVlan env ok { recordBridgeVlan s port outerVid vid pvid tagged with swi := sw } port
        outerVid vid pvid).bridgeVlan.lookup p =
      if p = port then
        if ((s.bridgeVlan.lookup port).getD ∅).erase vid = ∅ then none
        else some (((s.bridgeVlan.lookup port).getD ∅).erase vid)
      else s.bridgeVlan.lookup p := by
  rw [lookup_removeBridgeVlan hvid hport]
  have herase : ∀ vlans : Table Nat (Nat × Bool),
      (vlans.emplace vid (outerVid, tagged)).erase vid = vlans.erase vid := by
    intro vlans
    unfold Table.emplace
    split
    · rfl
    · rename_i hnot
      rw [Table.erase_insert_of_notMem hnot]
      exact (Table.erase_of_notMem hnot).symm
  split
  · simp [recordBridgeVlan, herase]
  · rename_i hp
    simp [recordBridgeVlan, hp]

variable (s outerVid pvid tagged) in
/-- And of its PVID, that of another VLAN too. -/
theorem rolledBack_portPvid (p : PortId) :
    (removeBridgeVlan env ok { recordBridgeVlan s port outerVid vid pvid tagged with swi := sw } port
        outerVid vid pvid).portPvid.lookup p =
      if p = port ∧ pvid = true then none else s.portPvid.lookup p := by
  unfold removeBridgeVlan
  simp only [hvid, hport, Bool.not_true, Bool.false_eq_true, if_false, recordBridgeVlan]
  cases pvid with
  | false => simp
  | true =>
    simp only [if_true, and_true, Table.lookup_erase_ite, Table.lookup_emplace]
    split <;> rfl

/-- The records are what they were exactly if they had nothing that was taken out. -/
theorem sameBridgeRecords_rolledBack_iff (h : HasVlans s) :
    SameBridgeRecords s (removeBridgeVlan env ok
        { recordBridgeVlan s port outerVid vid pvid tagged with swi := sw } port outerVid vid pvid) ↔
      vid ∉ (s.bridgeVlan.lookup port).getD ∅ ∧ (pvid = true → port ∉ s.portPvid) := by
  have hbridge := rolledBack_bridgeVlan env ok s outerVid pvid tagged sw hvid hport
  have hpvid := rolledBack_portPvid env ok s outerVid pvid tagged sw hvid hport
  constructor
  · rintro ⟨hb, hp⟩
    constructor
    · intro hmem
      have hport := hb port
      rw [hbridge, if_pos rfl] at hport
      cases hl : s.bridgeVlan.lookup port with
      | none => simp [hl] at hmem
      | some vlans =>
        simp only [hl, Option.getD_some] at hport hmem
        split at hport
        · cases hport
        · rw [← Option.some.inj hport] at hmem
          exact absurd rfl (AList.mem_erase.mp hmem).1
    · intro htrue
      have hport := hp port
      rw [hpvid, if_pos ⟨rfl, htrue⟩] at hport
      exact Table.not_mem_iff_lookup.mpr hport.symm
  · rintro ⟨hvlan, hno⟩
    refine ⟨fun p => ?_, fun p => ?_⟩
    · rw [hbridge, Table.erase_of_notMem hvlan]
      split
      · subst_vars
        cases hl : s.bridgeVlan.lookup p with
        | none => exact if_pos rfl
        | some vlans =>
          rw [Option.getD_some, if_neg]
          rintro rfl
          exact h p hl
      · rfl
    · rw [hpvid]
      split
      · rename_i hp
        rw [hp.1]
        exact (Table.not_mem_iff_lookup.mp (hno hp.2)).symm
      · rfl

end RolledBack

end Records

/-- The call is refused, or the records have nothing that its roll-back takes out of them. -/
def RollsBackOwn (s : NlVlan M) (port : PortId) (vid : Nat) (pvid : Bool) : Prop :=
  isVidValid vid = false ∨ port.1 = 0 ∨
    vid ∉ (s.bridgeVlan.lookup port).getD ∅ ∧ (pvid = true → port ∉ s.portPvid)

/-- **`add_bridge_vlan` that fails**, after any run: the records of bridge ports are as they were
exactly if the VLAN was not configured on the port, and the port had no PVID if the VLAN was to
become it. -/
theorem addBridgeVlan_atomic_iff (es : List (CallEv M)) (env : VlanEnv M) (ok : SwiCall → Bool)
    (port : PortId) (outerVid vid : Nat) (pvid tagged : Bool)
    (herr : (addBridgeVlan env ok (run callStep {} es) port outerVid vid pvid tagged).1 < 0) :
    SameBridgeRecords (run callStep {} es)
        (addBridgeVlan env ok (run callStep {} es) port outerVid vid pvid tagged).2 ↔
      RollsBackOwn (run callStep {} es) port vid pvid := by
  have hinv : HasVlans (run callStep {} es : NlVlan M) :=
    run_inv_all (fun p he => nomatch he) (fun s e h => h.callStep e) es
  generalize run callStep {} es = s at hinv herr ⊢
  cases hvid : isVidValid vid with
  | false =>
    refine iff_of_true ?_ (.inl hvid)
    simp only [addBridgeVlan, hvid, Bool.not_false, if_true]
    exact ⟨fun _ => rfl, fun _ => rfl⟩
  | true =>
    by_cases hport : port.1 = 0
    · refine iff_of_true ?_ (.inr (.inl hport))
      simp only [addBridgeVlan, hvid, hport, Bool.not_true, Bool.false_eq_true, if_false, if_true]
      exact ⟨fun _ => rfl, fun _ => rfl⟩
    · obtain ⟨rv, sw, he⟩ := addBridgeVlan_eq env ok s outerVid pvid tagged hvid hport
      rw [he] at herr ⊢
      simp only [if_pos herr, sameBridgeRecords_rolledBack_iff env ok sw hvid hport hinv,
        RollsBackOwn, hvid, hport, Bool.true_eq_false, false_or]

/-- No call to the switch succeeds. -/
def noneOk (_ : SwiCall) : Bool := false

/-- VLAN 20 is configured on port 1, and is its PVID. -/
def port1InVlan20 : List (CallEv (Nat × List Nat)) :=
  [⟨.noBonds, allOk, .addBridgeVlan port1 0 20 true false⟩]

/-- The switch refuses VLAN 10. -/
theorem addBridgeVlan_atomic_iff_port1 :
    SameBridgeRecords (run callStep {} port1InVlan20)
      (addBridgeVlan .noBonds noneOk (run callStep {} port1InVlan20) port1 0 10 false true).2 :=
  (addBridgeVlan_atomic_iff port1InVlan20 .noBonds noneOk port1 0 10 false true (by decide)).mpr
    (.inr (.inr ⟨by decide, by decide⟩))

/-- VLAN 10 is configured on port 1. -/
def port1InVlan10 : List (CallEv (Nat × List Nat)) :=
  [⟨.noBonds, allOk, .addBridgeVlan port1 0 10 true false⟩]

/-- It is added again, and the switch refuses it: the VLAN and the PVID are gone. -/
theorem addAgain_not_atomic :
    (addBridgeVlan .noBonds noneOk (run callStep {} port1InVlan10) port1 0 10 true false).1 < 0 ∧
      ¬ SameBridgeRecords (run callStep {} port1InVlan10)
        (addBridgeVlan .noBonds noneOk (run callStep {} port1InVlan10) port1 0 10 true false).2 := by
  refine ⟨by decide, fun h => ?_⟩
  have hpvid := h.portPvid port1
  revert hpvid
  decide

end NlVlan

end Basebox
