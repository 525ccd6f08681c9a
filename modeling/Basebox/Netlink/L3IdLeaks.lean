import Basebox.Netlink.L3Egress

/-!
# Ids of groups that are lost (`src/netlink/nl_l3.cc`, `src/of-dpa/controller.cc`)

The controller moves on to the next id also when the message for a group could not be sent.
`add_l3_egress` then does not store the id, `add_l3_ecmp_group` stores it without looking.

* `NoIdLost`: every id that a counter has passed is in a mapping or freed.
* `FailsCleanly`: a creation that fails changes nothing.
* `noIdLost_iff_along`: both hold along a run exactly if no creation fails and no ECMP group is given
  up whose id `l3_ecmp_remove` takes to be out of range.
-/

namespace Basebox

namespace L3Groups

variable {Nh : Type} [DecidableEq Nh]

/-- The calls that take groups and give them back. -/
inductive GroupCall (Nh : Type) where
  | addL3Egress (k : EgressKey) (send : Int)
  | delL3Egress (k : EgressKey) (send : Int)
  | addL3EcmpGroup (nhs : Finset Nh) (send : Int)
  | delL3EcmpGroup (nhs : Finset Nh) (send : Int)

/-- The groups after a call. -/
def groupStep (s : L3Groups Nh) : GroupCall Nh → L3Groups Nh
  | .addL3Egress k send => (s.addL3Egress k send).2.2
  | .delL3Egress k send => (s.delL3Egress k send).2
  | .addL3EcmpGroup nhs send => (s.addL3EcmpGroup nhs send).2.2
  | .delL3EcmpGroup nhs send => (s.delL3EcmpGroup nhs send).2

/-- No id is lost, of either kind. -/
structure NoIdLost (s : L3Groups Nh) : Prop where
  egress : NoLeak s.l3InterfaceMapping s.egress
  ecmp : NoLeak s.nhGrpToL3EcmpMapping s.ecmp

/-- `l3_egress_create` or `l3_ecmp_add` is called, and cannot send its message. -/
def CreateFails (s : L3Groups Nh) : GroupCall Nh → Prop
  | .addL3Egress k send => k.portId ≠ 0 ∧ k ∉ s.l3InterfaceMapping ∧ send < 0
  | .addL3EcmpGroup nhs send => nhs ∉ s.nhGrpToL3EcmpMapping ∧ send < 0
  | _ => False

/-- A creation that fails leaves counters, freed ids and mappings as they were. -/
def FailsCleanly (s : L3Groups Nh) (c : GroupCall Nh) : Prop := CreateFails s c → s.groupStep c = s

/-- The last user of an ECMP group goes, and `l3_ecmp_remove` takes the id to be out of range, which
is in use nowhere else. -/
def GivesUpHighId (s : L3Groups Nh) : GroupCall Nh → Prop
  | .delL3EcmpGroup nhs _ => ∃ x, s.nhGrpToL3EcmpMapping.lookup nhs = some x ∧ x.refcnt - 1 ≤ 0 ∧
      0x0fffffff < x.id ∧ x.id < s.ecmp.next ∧ x.id ∉ s.ecmp.freed ∧
      ∀ nhs' y, nhs' ≠ nhs → s.nhGrpToL3EcmpMapping.lookup nhs' = some y → y.id ≠ x.id
  | _ => False

section Step

variable {s : L3Groups Nh}

theorem failsCleanly_of_not {c : GroupCall Nh} (hno : ¬ CreateFails s c) : FailsCleanly s c :=
  fun hfails => absurd hfails hno

theorem NoIdLost.addL3Egress (h : NoIdLost s) (k : EgressKey) (send : Int) :
    NoIdLost (s.groupStep (.addL3Egress k send)) ∧ FailsCleanly s (.addL3Egress k send) ↔
      ¬ CreateFails s (.addL3Egress k send) := by
  by_cases hp : k.portId = 0
  · have hno : ¬ CreateFails s (.addL3Egress k send) := fun hc => hc.1 hp
    refine iff_of_true ⟨?_, failsCleanly_of_not hno⟩ hno
    simpa only [groupStep, L3Groups.addL3Egress, hp, if_true] using h
  · cases hl : s.l3InterfaceMapping.lookup k with
    | none =>
      have hk : k ∉ s.l3InterfaceMapping := Table.not_mem_iff_lookup.mpr hl
      by_cases hneg : send < 0
      · -- The id is lost: it is neither stored nor given back.
        have hfails : CreateFails s (.addL3Egress k send) := ⟨hp, hk, hneg⟩
        refine iff_of_false (fun hc => ?_) (not_not.mpr hfails)
        have hsame := congrArg L3Groups.egress (hc.2 hfails)
        simp only [groupStep, L3Groups.addL3Egress, hp, hl, IdPool.create, hneg, if_false, if_true]
          at hsame
        exact IdPool.take_ne (by decide) _ hsame
      · have hno : ¬ CreateFails s (.addL3Egress k send) := fun hc => hneg hc.2.2
        refine iff_of_true ⟨?_, failsCleanly_of_not hno⟩ hno
        simp only [groupStep, L3Groups.addL3Egress, hp, hl, IdPool.create, hneg, if_false]
        exact ⟨h.egress.take_insert hk, h.ecmp⟩
    | some x =>
      have hno : ¬ CreateFails s (.addL3Egress k send) := fun hc =>
        hc.2.1 (Table.mem_iff_lookup.mpr ⟨x, hl⟩)
      refine iff_of_true ⟨?_, failsCleanly_of_not hno⟩ hno
      simp only [groupStep, L3Groups.addL3Egress, hp, hl, if_false]
      exact ⟨h.egress.recount hl _, h.ecmp⟩

theorem NoIdLost.delL3Egress (h : NoIdLost s) (k : EgressKey) (send : Int) :
    NoIdLost (s.groupStep (.delL3Egress k send)) := by
  simp only [groupStep, L3Groups.delL3Egress]
  split
  · exact h
  · cases hl : s.l3InterfaceMapping.lookup k with
    | none => exact h
    | some x =>
      simp only
      split
      · exact ⟨h.egress.release hl, h.ecmp⟩
      · exact ⟨h.egress.recount hl _, h.ecmp⟩

/-- The result of `l3_ecmp_add` is not looked at: the id is stored, and the group is not there. -/
theorem NoIdLost.addL3EcmpGroup (h : NoIdLost s) (nhs : Finset Nh) (send : Int) :
    NoIdLost (s.groupStep (.addL3EcmpGroup nhs send)) ∧ FailsCleanly s (.addL3EcmpGroup nhs send) ↔
      ¬ CreateFails s (.addL3EcmpGroup nhs send) := by
  cases hl : s.nhGrpToL3EcmpMapping.lookup nhs with
  | none =>
    have hk : nhs ∉ s.nhGrpToL3EcmpMapping := Table.not_mem_iff_lookup.mpr hl
    have hstays : NoIdLost (s.groupStep (.addL3EcmpGroup nhs send)) := by
      simp only [groupStep, L3Groups.addL3EcmpGroup, hl, IdPool.create]
      exact ⟨h.egress, h.ecmp.take_insert hk⟩
    by_cases hneg : send < 0
    · have hfails : CreateFails s (.addL3EcmpGroup nhs send) := ⟨hk, hneg⟩
      refine iff_of_false (fun hc => ?_) (not_not.mpr hfails)
      have hsame := congrArg L3Groups.ecmp (hc.2 hfails)
      simp only [groupStep, L3Groups.addL3EcmpGroup, hl, IdPool.create] at hsame
      exact IdPool.take_ne (by decide) _ hsame
    · have hno : ¬ CreateFails s (.addL3EcmpGroup nhs send) := fun hc => hneg hc.2
      exact iff_of_true ⟨hstays, failsCleanly_of_not hno⟩ hno
  | some x =>
    have hno : ¬ CreateFails s (.addL3EcmpGroup nhs send) := fun hc =>
      hc.1 (Table.mem_iff_lookup.mpr ⟨x, hl⟩)
    refine iff_of_true ⟨?_, failsCleanly_of_not hno⟩ hno
    simp only [groupStep, L3Groups.addL3EcmpGroup, hl]
    exact ⟨h.egress, h.ecmp.recount hl _⟩

theorem NoIdLost.delL3EcmpGroup_iff (h : NoIdLost s) (nhs : Finset Nh) (send : Int) :
    NoIdLost (s.groupStep (.delL3EcmpGroup nhs send)) ↔
      ¬ GivesUpHighId s (.delL3EcmpGroup nhs send) := by
  cases hl : s.nhGrpToL3EcmpMapping.lookup nhs with
  | none =>
    refine iff_of_true ?_ fun ⟨x, hx, _⟩ => by rw [hl] at hx; cases hx
    simpa only [groupStep, L3Groups.delL3EcmpGroup, hl] using h
  | some x =>
    have hof : GivesUpHighId s (.delL3EcmpGroup nhs send) ↔ x.refcnt - 1 ≤ 0 ∧
        0x0fffffff < x.id ∧ x.id < s.ecmp.next ∧ x.id ∉ s.ecmp.freed ∧
        ∀ nhs' y, nhs' ≠ nhs → s.nhGrpToL3EcmpMapping.lookup nhs' = some y → y.id ≠ x.id := by
      simp [GivesUpHighId, hl]
    rw [hof]
    simp only [groupStep, L3Groups.delL3EcmpGroup, hl]
    by_cases hlast : x.refcnt - 1 ≤ 0
    · simp only [IdPool.l3EcmpRemove, hlast, true_and]
      by_cases hhigh : x.id > 0x0fffffff
      · simp only [if_pos hhigh]
        have herase := h.ecmp.erase_iff hl
        constructor
        · rintro hs ⟨-, hlt, hfree, hother⟩
          rcases herase.mp hs.ecmp (by omega) hlt with ⟨nhs', y, hy, he⟩ | hfreed
          · rw [Table.lookup_erase_ite] at hy
            split at hy
            · cases hy
            · exact hother nhs' y ‹_› hy he
          · exact hfree hfreed
        · intro hnot
          refine ⟨h.egress, herase.mpr fun _ hlt => ?_⟩
          by_contra hno
          rw [not_or] at hno
          refine hnot ⟨hhigh, hlt, hno.2, fun nhs' y hne hy he => hno.1 ⟨nhs', y, ?_, he⟩⟩
          rw [Table.lookup_erase_ite, if_neg hne, hy]
      · simp only [if_neg hhigh]
        exact iff_of_true ⟨h.egress, h.ecmp.release hl⟩ fun hc => hhigh hc.1
    · simp only [hlast, false_and, not_false_iff, iff_true]
      exact ⟨h.egress, h.ecmp.recount hl _⟩

/-- The calls that keep account of the ids. -/
def KeepsIds (s : L3Groups Nh) (c : GroupCall Nh) : Prop := ¬ CreateFails s c ∧ ¬ GivesUpHighId s c

theorem NoIdLost.step_iff (h : NoIdLost s) (c : GroupCall Nh) :
    NoIdLost (s.groupStep c) ∧ FailsCleanly s c ↔ KeepsIds s c := by
  cases c with
  | addL3Egress k send =>
    exact (h.addL3Egress k send).trans (and_iff_left fun hc => hc).symm
  | delL3Egress k send =>
    exact iff_of_true ⟨h.delL3Egress k send, fun hc => hc.elim⟩ ⟨fun hc => hc, fun hc => hc⟩
  | addL3EcmpGroup nhs send =>
    exact (h.addL3EcmpGroup nhs send).trans (and_iff_left fun hc => hc).symm
  | delL3EcmpGroup nhs send =>
    exact (and_iff_left fun hc => hc.elim).trans
      ((h.delL3EcmpGroup_iff nhs send).trans (and_iff_right fun hc => hc).symm)

end Step

/-- **No id is lost.** In every run, every id that a counter has passed is in a mapping or freed in
every state, and every creation that fails leaves all as it was, exactly if no creation fails and no
ECMP group with an id above `0x0fffffff` is given up. -/
theorem noIdLost_iff_along (es : List (GroupCall Nh)) :
    (∀ n, NoIdLost (run groupStep ({} : L3Groups Nh) (es.take n))) ∧
        Along groupStep FailsCleanly ({} : L3Groups Nh) es ↔
      Along groupStep KeepsIds ({} : L3Groups Nh) es :=
  along_and_iff ⟨.init, .init⟩ (fun _ c h => h.step_iff c) es

/-- The controller is not connected when the first egress group is created: its id is lost. -/
theorem notConnected_id_lost :
    ¬ NoIdLost (run groupStep ({} : L3Groups Nat)
      [.addL3Egress { portId := 1, vid := 10, srcMac := 1, dstMac := 2 } (-EINVAL)]) := by
  intro h
  rcases h.egress 1 (by decide) (by decide) with ⟨k, x, hl, -⟩ | hfreed
  · cases hl
  · revert hfreed
    decide

end L3Groups

end Basebox
