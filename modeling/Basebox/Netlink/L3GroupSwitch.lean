import Basebox.Netlink.L3EgressMac
import Basebox.Netlink.L3EgressUsers

/-!
# The groups of the router on the switch (`src/netlink/nl_l3.cc`, `src/of-dpa/controller.cc`)

Each operation on the group tables of `nl_l3` sends its messages to the switch. A group whose id is in
one of the tables is there, unless it was an ECMP group that could not be created: the result of
`l3_ecmp_add` is not looked at.

* `GroupSwitch`: the groups of the switch, and `handle`: the messages of an operation.
* `Mirror`: every id in the tables is that of a group of the switch.
* `Mirror.step`: an operation keeps it, if a new ECMP group can be created and the counters are not
  used up.
-/

namespace Basebox

/-- The L3 unicast groups and the ECMP groups of the switch. -/
structure GroupSwitch where
  unicast : Table Nat EgressKey := ∅
  ecmp : Finset Nat := ∅

namespace GroupSwitch

variable {Nh : Type} [DecidableEq Nh]

/-- The switch after an operation on the group tables `g`. -/
def handle (g : L3Groups Nh) (sw : GroupSwitch) : L3Groups.Ev Nh → GroupSwitch
  | .addL3Egress k send =>
    { sw with unicast := ((g.addOp k).map (·.apply send sw.unicast)).getD sw.unicast }
  | .delL3Egress k send =>
    { sw with unicast := ((g.delOp k).map (·.apply send sw.unicast)).getD sw.unicast }
  | .updateL3Egress order _ vid oMac nMac send =>
    { sw with
      unicast := (g.egressUpdates order vid oMac nMac).foldl
        (fun t u => (EgressOp.update u.id u.key).apply (send { u.key with srcMac := oMac }) t)
        sw.unicast }
  | .updateL3Neigh unroutable linkFound portId vid sMac nLlOld nLlNew send =>
    { sw with unicast := ((g.updateOp (linkFound && !unroutable) ⟨portId, vid, sMac, nLlOld⟩
        ⟨portId, vid, sMac, nLlNew⟩).map (·.apply send sw.unicast)).getD sw.unicast }
  | .addL3EcmpGroup nhs send =>
    if nhs ∈ g.nhGrpToL3EcmpMapping ∨ send < 0 then sw
    else { sw with ecmp := insert (g.ecmp.create send).2.1 sw.ecmp }
  | .delL3EcmpGroup nhs send =>
    match g.nhGrpToL3EcmpMapping.lookup nhs with
    | none => sw
    | some x =>
      if x.refcnt - 1 ≤ 0 ∧ x.id ≤ 0x0fffffff ∧ 0 ≤ send then
        { sw with ecmp := sw.ecmp.erase x.id }
      else sw

/-- The switch after several operations. -/
def handleAll (g : L3Groups Nh) (sw : GroupSwitch) : List (L3Groups.Ev Nh) → GroupSwitch
  | [] => sw
  | e :: es => handleAll (g.step e) (sw.handle g e) es

end GroupSwitch

namespace L3Groups

variable {Nh : Type} [DecidableEq Nh]

/-- The groups in the tables have ids of their own and are on the switch. -/
structure Mirror (g : L3Groups Nh) (sw : GroupSwitch) : Prop extends Inv g where
  unicast : ∀ k x, g.l3InterfaceMapping.lookup k = some x → x.id ∈ sw.unicast
  ecmpGroups : ∀ nhs x, g.nhGrpToL3EcmpMapping.lookup nhs = some x → x.id ∈ sw.ecmp

/-- The counters are not used up. -/
def Spare (g : L3Groups Nh) : Prop := g.egress.next + 1 < 2 ^ 32 ∧ g.ecmp.next + 1 < 2 ^ 32

/-- A new ECMP group can be sent to the switch, and the counters are not used up. -/
def Sends (g : L3Groups Nh) (e : Ev Nh) : Prop :=
  Spare g ∧ ∀ nhs send, e = .addL3EcmpGroup nhs send → nhs ∉ g.nhGrpToL3EcmpMapping → 0 ≤ send

/-! ## The counters -/

theorem next_take {p : IdPool} (h : p.next + 1 < 2 ^ 32) (hpos : 0 < p.next) :
    (p.take (2 ^ 32)).2.next ≠ 0 := by
  unfold IdPool.take
  split
  · exact hpos.ne'
  · dsimp only
    rw [Nat.mod_eq_of_lt h]
    exact Nat.succ_ne_zero _

section Step

variable {g : L3Groups Nh} {sw : GroupSwitch}

/-- A step takes at most one id of each kind. -/
theorem next_step (g : L3Groups Nh) (e : Ev Nh) :
    ((g.step e).egress.next = g.egress.next ∨
      (g.step e).egress.next = (g.egress.take (2 ^ 32)).2.next) ∧
    ((g.step e).ecmp.next = g.ecmp.next ∨
      (g.step e).ecmp.next = (g.ecmp.take (2 ^ 32)).2.next) := by
  cases e with
  | addL3Egress k send =>
    simp only [step, addL3Egress, IdPool.create]
    split
    · simp
    · split
      · by_cases hneg : send < 0 <;> simp [hneg]
      · simp
  | delL3Egress k send =>
    simp only [step, delL3Egress, IdPool.l3EgressRemove]
    repeat' split
    all_goals simp [IdPool.give]
  | updateL3Egress order portId vid oMac nMac send => simp [step, updateL3Egress_eq]
  | updateL3Neigh unroutable linkFound portId vid sMac nLlOld nLlNew send =>
    simp only [step, updateL3NeighLl]
    repeat' split
    all_goals simp
  | addL3EcmpGroup nhs send =>
    simp only [step, addL3EcmpGroup, IdPool.create]
    repeat' split
    all_goals simp
  | delL3EcmpGroup nhs send =>
    simp only [step, delL3EcmpGroup, IdPool.l3EcmpRemove]
    repeat' split
    all_goals simp [IdPool.give]

theorem notWrapped_step (h : Inv g) (hs : Spare g) (e : Ev Nh) : NotWrapped (g.step e) := by
  obtain ⟨hegress, hecmp⟩ := next_step g e
  have htake := next_take hs.1 h.egress.next_pos
  have htake' := next_take hs.2 h.ecmp.next_pos
  constructor
  · rcases hegress with he | he <;> rw [he]
    · exact h.egress.next_pos.ne'
    · exact htake
  · rcases hecmp with he | he <;> rw [he]
    · exact h.ecmp.next_pos.ne'
    · exact htake'

/-! ## The groups -/

theorem mem_apply_create {t : Table Nat EgressKey} {send : Int} (i id : Nat) (k : EgressKey) :
    i ∈ (EgressOp.create id k).apply send t ↔ i ∈ t ∨ 0 ≤ send ∧ i = id := by
  simp only [EgressOp.apply]
  split_ifs with h
  · simp [not_le.mpr h]
  · rw [Table.mem_iff_lookup, Table.mem_iff_lookup, Table.lookup_emplace]
    simp only [not_lt.mp h, true_and]
    split_ifs with hi
    · simp [hi]
    · simp [hi]

theorem mem_apply_update {t : Table Nat EgressKey} {send : Int} (i id : Nat) (k : EgressKey) :
    i ∈ (EgressOp.update id k).apply send t ↔ i ∈ t := by
  simp only [EgressOp.apply]
  split_ifs with h
  · rfl
  · rw [AList.mem_insert]
    constructor
    · rintro (rfl | hi)
      · exact not_not.mp fun hn => h (.inr hn)
      · exact hi
    · exact .inr

theorem mem_apply_remove {t : Table Nat EgressKey} {send : Int} {i id : Nat} (hne : i ≠ id) :
    i ∈ (EgressOp.remove id).apply send t ↔ i ∈ t := by
  simp only [EgressOp.apply]
  split_ifs
  · rfl
  · rw [AList.mem_erase]
    exact ⟨fun h => h.2, fun h => ⟨hne, h⟩⟩

theorem Mirror.addL3Egress (h : Mirror g sw) (k : EgressKey) (send : Int)
    (hinv : Inv (g.step (.addL3Egress k send))) :
    Mirror (g.step (.addL3Egress k send)) (sw.handle g (.addL3Egress k send)) := by
  revert hinv
  simp only [step, GroupSwitch.handle, L3Groups.addL3Egress, addOp]
  by_cases hport : k.portId = 0
  · simp only [hport, if_true]
    exact fun _ => h
  · simp only [hport, if_false]
    cases hl : g.l3InterfaceMapping.lookup k with
    | none =>
      simp only [IdPool.create, Option.map_some, Option.getD_some]
      by_cases hneg : send < 0
      · simp only [hneg, if_true]
        intro hinv
        refine ⟨hinv, fun k' x hx => ?_, h.ecmpGroups⟩
        exact (mem_apply_create _ _ _).mpr (.inl (h.unicast k' x hx))
      · simp only [hneg, if_false]
        intro hinv
        refine ⟨hinv, fun k' x hx => ?_, h.ecmpGroups⟩
        rw [Table.lookup_insert_ite] at hx
        split_ifs at hx with hk
        · cases hx
          exact (mem_apply_create _ _ _).mpr (.inr ⟨not_lt.mp hneg, rfl⟩)
        · exact (mem_apply_create _ _ _).mpr (.inl (h.unicast k' x hx))
    | some y =>
      simp only [Option.map_none, Option.getD_none]
      refine fun hinv => ⟨hinv, fun k' x hx => ?_, h.ecmpGroups⟩
      rw [Table.lookup_insert_ite] at hx
      split_ifs at hx with hk
      · cases hx
        exact h.unicast k y hl
      · exact h.unicast k' x hx

theorem Mirror.delL3Egress (h : Mirror g sw) (k : EgressKey) (send : Int)
    (hinv : Inv (g.step (.delL3Egress k send))) :
    Mirror (g.step (.delL3Egress k send)) (sw.handle g (.delL3Egress k send)) := by
  revert hinv
  simp only [step, GroupSwitch.handle, L3Groups.delL3Egress, delOp]
  by_cases hport : k.portId = 0
  · simp only [hport, if_true]
    exact fun _ => h
  · simp only [hport, if_false]
    cases hl : g.l3InterfaceMapping.lookup k with
    | none => exact fun _ => h
    | some y =>
      by_cases hz : y.refcnt - 1 = 0
      · simp only [hz, if_true, IdPool.l3EgressRemove, Option.map_some, Option.getD_some]
        refine fun hinv => ⟨hinv, fun k' x hx => ?_, h.ecmpGroups⟩
        rw [Table.lookup_erase_ite] at hx
        split_ifs at hx with hk
        have hne : x.id ≠ y.id := fun he => hk (h.egress.inj k' k x y hx hl he)
        exact (mem_apply_remove hne).mpr (h.unicast k' x hx)
      · simp only [hz, if_false, Option.map_none, Option.getD_none]
        refine fun hinv => ⟨hinv, fun k' x hx => ?_, h.ecmpGroups⟩
        rw [Table.lookup_insert_ite] at hx
        split_ifs at hx with hk
        · cases hx
          exact h.unicast k y hl
        · exact h.unicast k' x hx

theorem mem_foldl_update (send : EgressUpdate → Int) (us : List EgressUpdate) (i : Nat)
    (t : Table Nat EgressKey) :
    i ∈ us.foldl (fun t u => (EgressOp.update u.id u.key).apply (send u) t) t ↔ i ∈ t := by
  induction us generalizing t with
  | nil => rfl
  | cons u us ih => rw [List.foldl_cons, ih, mem_apply_update]

theorem Mirror.updateL3Egress (h : Mirror g sw) (order : Table.VisitOrder Entry)
    (portId vid : Nat) (oMac nMac : Mac) (send : EgressKey → Int)
    (hinv : Inv (g.step (.updateL3Egress order portId vid oMac nMac send))) :
    Mirror (g.step (.updateL3Egress order portId vid oMac nMac send))
      (sw.handle g (.updateL3Egress order portId vid oMac nMac send)) := by
  have hgroups : (g.step (.updateL3Egress order portId vid oMac nMac send)) = _ :=
    updateL3Egress_eq send
  refine ⟨hinv, fun k x hx => ?_, fun nhs x hx => ?_⟩
  · rw [hgroups] at hx
    refine (mem_foldl_update (fun u => send { u.key with srcMac := oMac }) _ _ _).mpr ?_
    rcases Table.value_of_rekey hx with ⟨k', hk'⟩ | ⟨it, hit, rfl⟩
    · exact h.unicast k' x hk'
    · exact h.unicast it.1 it.2 (mem_updateL3.mp (mem_order.mp hit)).1
  · rw [hgroups] at hx
    exact h.ecmpGroups nhs x hx

omit [DecidableEq Nh] in
/-- `update_l3_neigh` stores the entry of the old address under the new one, or does nothing. -/
theorem updateL3NeighLl_cases (g : L3Groups Nh) (unroutable linkFound : Bool) (portId vid : Nat)
    (sMac nLlOld nLlNew : Mac) (send : Int) :
    let g' := (g.updateL3NeighLl unroutable linkFound portId vid sMac nLlOld nLlNew send).2
    g' = g ∨ ∃ kOld kNew y, g.l3InterfaceMapping.lookup kOld = some y ∧
      g' = { g with l3InterfaceMapping :=
        Table.emplace (g.l3InterfaceMapping.erase kOld) kNew y } := by
  simp only [updateL3NeighLl]
  split
  · exact .inl rfl
  · split
    · exact .inl rfl
    · split
      · exact .inl rfl
      · next y hy =>
        split
        · exact .inl rfl
        · split
          · exact .inl rfl
          · exact .inr ⟨_, _, y, hy, rfl⟩

theorem Mirror.updateL3Neigh (h : Mirror g sw) (unroutable linkFound : Bool) (portId vid : Nat)
    (sMac nLlOld nLlNew : Mac) (send : Int)
    (hinv : Inv (g.step (.updateL3Neigh unroutable linkFound portId vid sMac nLlOld nLlNew send))) :
    Mirror (g.step (.updateL3Neigh unroutable linkFound portId vid sMac nLlOld nLlNew send))
      (sw.handle g (.updateL3Neigh unroutable linkFound portId vid sMac nLlOld nLlNew send)) := by
  have hkeep : ∀ i, i ∈ sw.unicast → i ∈ (sw.handle g
      (.updateL3Neigh unroutable linkFound portId vid sMac nLlOld nLlNew send)).unicast := by
    intro i hi
    simp only [GroupSwitch.handle, updateOp]
    split_ifs
    · exact hi
    · exact hi
    · cases g.l3InterfaceMapping.lookup _ with
      | none => exact hi
      | some y => exact (mem_apply_update _ _ _).mpr hi
  have hcases := updateL3NeighLl_cases g unroutable linkFound portId vid sMac nLlOld nLlNew send
  simp only [step] at hinv ⊢
  rcases hcases with he | ⟨kOld, kNew, y, hy, he⟩
  · rw [he] at hinv ⊢
    exact ⟨hinv, fun k x hx => hkeep _ (h.unicast k x hx), h.ecmpGroups⟩
  · rw [he] at hinv ⊢
    refine ⟨hinv, fun k x hx => ?_, h.ecmpGroups⟩
    rw [Table.lookup_emplace] at hx
    refine hkeep _ ?_
    split_ifs at hx with hk
    · cases hl : (g.l3InterfaceMapping.erase kOld).lookup kNew with
      | none =>
        rw [hl] at hx
        cases hx
        exact h.unicast kOld y hy
      | some z =>
        rw [hl] at hx
        cases hx
        rw [Table.lookup_erase_ite] at hl
        split_ifs at hl
        exact h.unicast kNew z hl
    · rw [Table.lookup_erase_ite] at hx
      split_ifs at hx
      exact h.unicast k x hx

theorem Mirror.addL3EcmpGroup (h : Mirror g sw) (nhs : Finset Nh) (send : Int)
    (hsend : nhs ∉ g.nhGrpToL3EcmpMapping → 0 ≤ send)
    (hinv : Inv (g.step (.addL3EcmpGroup nhs send))) :
    Mirror (g.step (.addL3EcmpGroup nhs send)) (sw.handle g (.addL3EcmpGroup nhs send)) := by
  revert hinv
  simp only [step, GroupSwitch.handle, L3Groups.addL3EcmpGroup]
  cases hl : g.nhGrpToL3EcmpMapping.lookup nhs with
  | none =>
    have hmem := Table.not_mem_iff_lookup.mpr hl
    have hneg : ¬ send < 0 := not_lt.mpr (hsend hmem)
    simp only [hmem, hneg, or_self, if_false, IdPool.create]
    refine fun hinv => ⟨hinv, h.unicast, fun nhs' x hx => ?_⟩
    rw [Table.lookup_insert_ite] at hx
    split_ifs at hx
    · cases hx
      exact Finset.mem_insert_self _ _
    · exact Finset.mem_insert_of_mem (h.ecmpGroups nhs' x hx)
  | some y =>
    have hmem := Table.mem_iff_lookup.mpr ⟨y, hl⟩
    simp only [hmem, true_or, if_true]
    refine fun hinv => ⟨hinv, h.unicast, fun nhs' x hx => ?_⟩
    rw [Table.lookup_insert_ite] at hx
    split_ifs at hx
    · cases hx
      exact h.ecmpGroups nhs y hl
    · exact h.ecmpGroups nhs' x hx

theorem Mirror.delL3EcmpGroup (h : Mirror g sw) (nhs : Finset Nh) (send : Int)
    (hinv : Inv (g.step (.delL3EcmpGroup nhs send))) :
    Mirror (g.step (.delL3EcmpGroup nhs send)) (sw.handle g (.delL3EcmpGroup nhs send)) := by
  revert hinv
  simp only [step, GroupSwitch.handle, L3Groups.delL3EcmpGroup]
  cases hl : g.nhGrpToL3EcmpMapping.lookup nhs with
  | none => exact fun _ => h
  | some y =>
    by_cases hz : y.refcnt - 1 ≤ 0
    · simp only [hz, if_true, true_and]
      refine fun hinv => ⟨hinv, ?_, fun nhs' x hx => ?_⟩
      · intro k x hx
        split_ifs <;> exact h.unicast k x hx
      · rw [Table.lookup_erase_ite] at hx
        split_ifs at hx with hnhs
        have hne : x.id ≠ y.id := fun he => hnhs (h.ecmp.inj nhs' nhs x y hx hl he)
        split_ifs
        · exact Finset.mem_erase.mpr ⟨hne, h.ecmpGroups nhs' x hx⟩
        · exact h.ecmpGroups nhs' x hx
    · simp only [hz, if_false, false_and]
      refine fun hinv => ⟨hinv, h.unicast, fun nhs' x hx => ?_⟩
      rw [Table.lookup_insert_ite] at hx
      split_ifs at hx
      · cases hx
        exact h.ecmpGroups nhs y hl
      · exact h.ecmpGroups nhs' x hx

theorem Mirror.step (h : Mirror g sw) (e : Ev Nh) (hs : Sends g e) :
    Mirror (g.step e) (sw.handle g e) := by
  have hinv := h.toInv.step e (notWrapped_step h.toInv hs.1 e)
  cases e with
  | addL3Egress k send => exact h.addL3Egress k send hinv
  | delL3Egress k send => exact h.delL3Egress k send hinv
  | updateL3Egress order portId vid oMac nMac send =>
    exact h.updateL3Egress order portId vid oMac nMac send hinv
  | updateL3Neigh unroutable linkFound portId vid sMac nLlOld nLlNew send =>
    exact h.updateL3Neigh unroutable linkFound portId vid sMac nLlOld nLlNew send hinv
  | addL3EcmpGroup nhs send => exact h.addL3EcmpGroup nhs send (hs.2 nhs send rfl) hinv
  | delL3EcmpGroup nhs send => exact h.delL3EcmpGroup nhs send hinv

theorem Mirror.run {es : List (Ev Nh)} (h : Mirror g sw) (hs : Along L3Groups.step Sends g es) :
    Mirror (Basebox.run L3Groups.step g es) (sw.handleAll g es) := by
  induction es generalizing g sw with
  | nil => exact h
  | cons e es ih => exact ih (h.step e hs.1) hs.2

theorem mirror_init : Mirror ({} : L3Groups Nh) {} where
  toInv := inv_init
  unicast _ _ h := by cases h
  ecmpGroups _ _ h := by cases h

end Step

end L3Groups

end Basebox
