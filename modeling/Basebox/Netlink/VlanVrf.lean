import Basebox.Lib.Run
import Basebox.Netlink.Vlan

/-!
# The VRFs of VLAN interfaces

`cnetlink::link_updated` calls `vrf_attach` and `vrf_detach` when a VLAN interface is enslaved to a
VRF, moved to another one, or released. The VRF is kept for the VLAN, not for the interface.

* `linkUpdated`: the update of one interface.
* `Follows`: what an update needs so that every interface has its VRF afterwards.
  `hasMaster_iff_along`: in a run every interface has its VRF in every state exactly if all updates
  are such. An entry is not overwritten, so a move between VRFs is lost; an entry 0 keeps others
  out; and interfaces with one VLAN id share the entry.
-/

namespace Basebox

/-- A VLAN interface. -/
structure VlanLink where
  /-- `get_port_id`. -/
  port : PortId
  /-- `is_bridge_interface`. -/
  isBridge : Bool := false
  /-- `rtnl_link_vlan_get_id`. -/
  vid : Nat

/-- `get_vid`: 0 for an interface that is not on the switch. -/
def VlanLink.getVid (l : VlanLink) : Nat := NlVlan.getVid l.port l.isBridge l.vid

/-- The two types of a VLAN interface that is enslaved to VRFs only. -/
inductive VlanLinkType where
  | vlan
  | vrfSlave

/-- `get_link_type`; the master is given by the table of the VRF. -/
def VlanLinkType.ofMaster : Option Nat → VlanLinkType
  | none => .vlan
  | some _ => .vrfSlave

/-- `nl_vlan` and the VRF that each interface is enslaved to, by its table. -/
structure VrfState (M I : Type) where
  vlan : NlVlan M := {}
  master : I → Option Nat := fun _ => none

namespace VrfState

variable {M I : Type}

/-- An update of the master of an interface. -/
structure Ev (I : Type) where
  link : I
  /-- The table of the new master, if there is one. -/
  master : Option Nat
  /-- The VRF is found in the link cache, and its table is known. -/
  found : Bool := true
  /-- The ports of the FDB entries in the VLAN. -/
  fdb : List PortId := []
  ok : SwiCall → Bool := fun _ => true

/-- `get_vrf_table_id`. -/
def Ev.getVrfTableId (e : Ev I) : Nat :=
  match e.master with
  | none => 0
  | some tableId => if e.found then u16 tableId else 0

section Step

variable [DecidableEq M] [DecidableEq I] (env : VlanEnv M) (links : I → VlanLink)

/-- `link_updated` of a VLAN interface. -/
def linkUpdated (s : VrfState M I) (e : Ev I) : NlVlan M :=
  let vid := (links e.link).getVid
  match VlanLinkType.ofMaster (s.master e.link), VlanLinkType.ofMaster e.master with
  | .vlan, .vlan => s.vlan
  | .vlan, .vrfSlave | .vrfSlave, .vrfSlave =>
    NlVlan.vrfAttach env e.ok s.vlan vid e.getVrfTableId e.fdb
  | .vrfSlave, .vlan => NlVlan.vrfDetach env e.ok s.vlan vid e.fdb

/-- The state after a link update. -/
def step (s : VrfState M I) (e : Ev I) : VrfState M I where
  vlan := linkUpdated env links s e
  master := Function.update s.master e.link e.master

end Step

/-- The VRF id of a master: the low 16 bits of its table, 0 for none. -/
def vrfOf (master : Option Nat) : Nat := u16 (master.getD 0)

/-- Every interface has the VRF of its master. -/
def HasMaster (links : I → VlanLink) (s : VrfState M I) : Prop :=
  ∀ i, s.vlan.getVrfId (links i).vid = vrfOf (s.master i)

/-- The update does not change the VRF id; or the interface is on the switch, it is the only one
with its VLAN, and it is released, or its VLAN has no entry yet and the VRF is found. -/
def Follows (links : I → VlanLink) (s : VrfState M I) (e : Ev I) : Prop :=
  vrfOf e.master = vrfOf (s.master e.link) ∨
    (links e.link).getVid ≠ 0 ∧
    (∀ i, (links i).vid = (links e.link).vid → i = e.link) ∧
    (e.master = none ∨
      s.vlan.vlanVrf.lookup (links e.link).vid = none ∧ e.found = true)

/-! ## One update -/

section Update

variable [DecidableEq M] {env : VlanEnv M} {ok : SwiCall → Bool}

theorem getVrfId_vrfAttach (s : NlVlan M) (vid tableId : Nat) (fdb : List PortId) (v : Nat) :
    (NlVlan.vrfAttach env ok s vid tableId fdb).getVrfId v =
      if v = vid ∧ vid ≠ 0 ∧ s.vlanVrf.lookup vid = none then tableId else s.getVrfId v := by
  unfold NlVlan.vrfAttach NlVlan.getVrfId
  by_cases h0 : vid = 0
  · simp [h0]
  · cases hl : s.vlanVrf.lookup vid with
    | none => simp only [h0, if_false, Option.getD_none, if_true, Table.lookup_emplace, hl]; grind
    | some w =>
      simp only [h0, if_false, Option.getD_some]
      split <;> grind

theorem getVrfId_vrfDetach (s : NlVlan M) (vid : Nat) (fdb : List PortId) (v : Nat) :
    (NlVlan.vrfDetach env ok s vid fdb).getVrfId v =
      if v = vid ∧ vid ≠ 0 then 0 else s.getVrfId v := by
  unfold NlVlan.vrfDetach NlVlan.getVrfId
  by_cases h0 : vid = 0
  · simp [h0]
  · cases hl : s.vlanVrf.lookup vid with
    | none => simp only [h0, if_false]; grind
    | some w => simp only [h0, if_false, Table.lookup_erase_ite]; grind

variable {links : I → VlanLink} {s : VrfState M I}

theorem getVid_eq (l : VlanLink) : l.getVid = 0 ∨ l.getVid = l.vid := by
  unfold VlanLink.getVid NlVlan.getVid
  split
  · exact .inl rfl
  · exact .inr rfl

theorem vrfOf_none : vrfOf none = 0 := rfl

/-- The table that `get_vrf_table_id` finds. -/
theorem getVrfTableId_eq (e : Ev I) :
    e.getVrfTableId = if e.found then vrfOf e.master else 0 := by
  unfold Ev.getVrfTableId vrfOf
  cases e.master with
  | none => simp [u16]
  | some t => rfl

variable [DecidableEq I]

/-- The VRF ids after an update are right exactly if that of the VLAN is, and it is not another one
for other interfaces. -/
theorem hasMaster_step_iff (h : HasMaster links s) (e : Ev I)
    (hframe : ∀ v, v ≠ (links e.link).vid →
      (step env links s e).vlan.getVrfId v = s.vlan.getVrfId v) :
    HasMaster links (step env links s e) ↔
      (step env links s e).vlan.getVrfId (links e.link).vid = vrfOf e.master ∧
      ((∀ i, (links i).vid = (links e.link).vid → i = e.link) ∨
        (step env links s e).vlan.getVrfId (links e.link).vid = vrfOf (s.master e.link)) := by
  have hown : (step env links s e).master e.link = e.master := Function.update_self ..
  have hother : ∀ i, i ≠ e.link → (step env links s e).master i = s.master i :=
    fun i hi => Function.update_of_ne hi ..
  constructor
  · intro hs
    have hl := hs e.link
    rw [hown] at hl
    refine ⟨hl, ?_⟩
    by_cases halone : ∀ i, (links i).vid = (links e.link).vid → i = e.link
    · exact .inl halone
    · push Not at halone
      obtain ⟨i, hv, hi⟩ := halone
      have hsi := hs i
      rw [hother i hi, hv, ← h i, hv, h e.link] at hsi
      exact .inr hsi
  · rintro ⟨hl, hrest⟩ i
    by_cases hi : i = e.link
    · rw [hi, hown]
      exact hl
    · rw [hother i hi]
      by_cases hv : (links i).vid = (links e.link).vid
      · rcases hrest with halone | hsame
        · exact absurd (halone i hv) hi
        · rw [hv, hsame, ← h e.link, ← hv, h i]
      · rw [hframe _ hv, h i]

/-- The VRF ids after an update. -/
theorem getVrfId_step (e : Ev I) (v : Nat) :
    (step env links s e).vlan.getVrfId v =
      if v = (links e.link).vid ∧ (links e.link).getVid ≠ 0 then
        if e.master = none then (if s.master e.link = none then s.vlan.getVrfId v else 0)
        else if s.vlan.vlanVrf.lookup v = none then e.getVrfTableId
        else s.vlan.getVrfId v
      else s.vlan.getVrfId v := by
  unfold step linkUpdated
  cases s.master e.link <;> cases e.master <;>
    simp only [VlanLinkType.ofMaster, getVrfId_vrfAttach, getVrfId_vrfDetach] <;>
    grind [getVid_eq (links e.link)]

theorem step_hasMaster_iff (h : HasMaster links s) (e : Ev I) :
    HasMaster links (step env links s e) ↔ Follows links s e := by
  have hcur := h e.link
  have hnone : s.vlan.vlanVrf.lookup (links e.link).vid = none →
      s.vlan.getVrfId (links e.link).vid = 0 := by
    intro hl
    rw [NlVlan.getVrfId, hl, Option.getD_none]
  rw [hasMaster_step_iff h e fun v hv => by rw [getVrfId_step, if_neg fun hc => hv hc.1]]
  rw [getVrfId_step, getVrfTableId_eq, Follows]
  cases hm : e.master <;> cases hs : s.master e.link <;> grind [vrfOf_none]

end Update

/-- **The interfaces have their VRFs in every state of a run exactly if all updates are such that
the entry of the VLAN can follow**, from the start, where no interface is enslaved. -/
theorem hasMaster_iff_along [DecidableEq M] [DecidableEq I] (env : VlanEnv M)
    (links : I → VlanLink) (es : List (Ev I)) :
    (∀ n, HasMaster links (run (step env links) {} (es.take n))) ↔
      Along (step env links) (Follows links) {} es :=
  along_iff_of_step_iff (P := HasMaster links) (fun _ => rfl)
    (fun _ e h => step_hasMaster_iff h e) es

/-- One interface is enslaved to the VRF with table 10 and then moved to the one with table 20. -/
def moved : List (Ev Unit) := [{ link := (), master := some 10 }, { link := (), master := some 20 }]

/-- VLAN 5 on port 1. -/
def port1Vlan5 : VlanLink where
  port := port1
  vid := 5

/-- The VLAN keeps the VRF that the interface has left. -/
theorem moved_not_hasMaster :
    ¬ HasMaster (fun _ => port1Vlan5) (run (step VlanEnv.noBonds fun _ => port1Vlan5) {} moved) ∧
    (run (step VlanEnv.noBonds fun _ => port1Vlan5) {} moved).vlan.getVrfId 5 = 10 ∧
    (run (step VlanEnv.noBonds fun _ => port1Vlan5) {} moved).master () = some 20 := by
  have hvrf : (run (step VlanEnv.noBonds fun _ => port1Vlan5) {} moved).vlan.getVrfId 5 = 10 := by decide
  refine ⟨fun h => ?_, hvrf, rfl⟩
  have h0 := h ()
  rw [show ((fun _ : Unit => port1Vlan5) ()).vid = 5 from rfl, hvrf] at h0
  revert h0
  decide

end VrfState

end Basebox
