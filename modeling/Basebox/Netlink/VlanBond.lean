import Basebox.Netlink.BridgeCalls

/-!
# VLANs of a bond in the bridge and of its members

The VLANs of a bond that is a bridge port are programmed on its members: on those that are there
when a VLAN is configured by `add_bridge_vlan` and `add_ingress_pvid`, on a port that joins later by
`bond_member_attached`.

* `configure`: a sequence of the calls of `nl_bridge` for a bond.
* `Member`: what a port has that is a member all along. `attached_entries`: what a port has that
  joins afterwards.
* `commutes_iff`: the two are the same exactly if the bond has no PVID, or its PVID is the highest
  of its VLANs. `bond_member_attached` passes the PVID where `ingress_port_vlan_add` takes a flag,
  and so sets a PVID rule for every VLAN; the last one stays.
-/

namespace Basebox

/-- The surroundings with the port as a member of the bond. -/
def VlanEnv.attach {M : Type} (env : VlanEnv M) (bond port : PortId)
    (hport : Nbi.isLag port = false) : VlanEnv M where
  fm := env.fm
  members := Function.update env.members bond
    ((env.members bond).orderedInsert (fun a b => a.1 ≤ b.1) port)
  members_physical b m hm := by
    by_cases hb : b = bond
    · subst hb
      rw [Function.update_self, List.mem_orderedInsert] at hm
      rcases hm with rfl | hm
      · exact hport
      · exact env.members_physical b m hm
    · rw [Function.update_of_ne hb] at hm
      exact env.members_physical b m hm
  portUntaggedVid := env.portUntaggedVid

namespace NlVlan

/-- A call of `nl_bridge` for a bond. -/
inductive BondCall where
  | addBridgeVlan (vid : Nat) (pvid tagged : Bool)
  | addIngressPvid (pvid : Nat)

/-- The VLAN that a call configures. -/
def BondCall.vid? : BondCall → Option Nat
  | .addBridgeVlan vid _ _ => if isVidValid vid then some vid else none
  | .addIngressPvid _ => none

/-- The PVID that a call configures. -/
def BondCall.pvid? : BondCall → Option Nat
  | .addBridgeVlan vid pvid _ => if pvid then some vid else none
  | .addIngressPvid pvid => some pvid

/-- The VLANs that are configured for a bridge port. -/
def vlansOfBond {M : Type} (s : NlVlan M) (bond : PortId) : Table Nat (Nat × Bool) :=
  (s.bridgeVlan.lookup bond).getD ∅

section Configure

variable {M : Type} [DecidableEq M] (env : VlanEnv M) (bond : PortId)

/-- One call. A bond is not a VLAN interface, so there is no outer VLAN. -/
def bondCall (s : NlVlan M) : BondCall → NlVlan M
  | .addBridgeVlan vid pvid tagged => (addBridgeVlan env allOk s bond 0 vid pvid tagged).2
  | .addIngressPvid pvid => (addIngressPvid env allOk s bond pvid).2

/-- A sequence of calls. -/
def configure (s : NlVlan M) (cs : List BondCall) : NlVlan M := run (bondCall env bond) s cs

end Configure

/-- What the ports of the bond are programmed with for a VLAN. -/
def bridgeVlanCalls (vid : Nat) (pvid tagged : Bool) (vrfId : Nat) (port : PortId) :
    List SwiCall :=
  [.egressBridgePortVlanAdd port vid (!tagged), .ingressPortVlanAdd port vid pvid vrfId]

/-- What a call does for each port. -/
def BondCall.calls {M : Type} (s : NlVlan M) (bond port : PortId) : BondCall → List SwiCall
  | .addBridgeVlan vid pvid tagged =>
    if isVidValid vid then bridgeVlanCalls vid pvid tagged (s.getVrfId vid) port else []
  | .addIngressPvid pvid =>
    if s.portPvid.lookup bond = none then [.ingressPortPvidAdd port pvid] else []

theorem BondCall.port_of_mem_calls {M : Type} {s : NlVlan M} {bond port : PortId} {c : BondCall}
    {c' : SwiCall} (h : c' ∈ c.calls s bond port) : c'.port = port := by
  cases c with
  | addBridgeVlan vid pvid tagged =>
    simp only [BondCall.calls, bridgeVlanCalls] at h
    split at h
    · simp only [List.mem_cons, List.not_mem_nil, or_false] at h
      rcases h with rfl | rfl <;> rfl
    · cases h
  | addIngressPvid pvid =>
    simp only [BondCall.calls] at h
    split at h
    · rw [List.mem_singleton.mp h]
      rfl
    · cases h

/-- Two states of `nl_vlan` that differ on the switch only. -/
def SameRecords {M : Type} (s t : NlVlan M) : Prop :=
  s.bridgeVlan = t.bridgeVlan ∧ s.portPvid = t.portPvid ∧ s.vlanVrf = t.vlanVrf

section Spec

variable {M : Type} [DecidableEq M] {env env' : VlanEnv M} {bond : PortId} (hbond : bond.1 ≠ 0)
  {s t : NlVlan M}
include hbond

/-- `add_bridge_vlan` if no call fails. -/
theorem bondCall_addBridgeVlan {vid : Nat} (hvid : isVidValid vid = true) (pvid tagged : Bool) :
    bondCall env bond s (.addBridgeVlan vid pvid tagged) =
      { s with
        bridgeVlan := s.bridgeVlan.insert bond ((s.vlansOfBond bond).emplace vid (0, tagged))
        portPvid := if pvid then s.portPvid.emplace bond vid else s.portPvid
        swi := (swiUntilFail env.fm allOk 0 ((bridgeVlanPorts env bond).flatMap
          (bridgeVlanCalls vid pvid tagged (s.getVrfId vid))) s.swi).2 } := by
  change (addBridgeVlan env allOk s bond 0 vid pvid tagged).2 = _
  rw [addBridgeVlan_ok hbond hvid, swiUntilFail_allOk]
  rfl

omit hbond in
theorem bondCall_addBridgeVlan_of_not_valid {vid : Nat} (hvid : isVidValid vid = false)
    (pvid tagged : Bool) : bondCall env bond s (.addBridgeVlan vid pvid tagged) = s := by
  simp [bondCall, addBridgeVlan, hvid]

omit hbond in
/-- `add_ingress_pvid` if no call fails. -/
theorem bondCall_addIngressPvid (pvid : Nat) :
    bondCall env bond s (.addIngressPvid pvid) =
      if s.portPvid.lookup bond = none then
        { s with
          portPvid := s.portPvid.emplace bond pvid
          swi := (swiCall env.fm allOk (.ingressPortPvidAdd bond pvid)
            (swiUntilFail env.fm allOk 0
              ((env.lagMembers bond).map fun mem => .ingressPortPvidAdd mem pvid) s.swi).2).2 }
      else s := by
  unfold bondCall addIngressPvid
  cases s.portPvid.lookup bond <;> rfl

/-- What is recorded does not depend on the members. -/
theorem SameRecords.bondCall (h : SameRecords s t) (c : BondCall) :
    SameRecords (bondCall env bond s c) (bondCall env' bond t c) := by
  obtain ⟨hb, hp, hv⟩ := h
  cases c with
  | addBridgeVlan vid pvid tagged =>
    cases hvid : isVidValid vid with
    | false =>
      rw [bondCall_addBridgeVlan_of_not_valid hvid, bondCall_addBridgeVlan_of_not_valid hvid]
      exact ⟨hb, hp, hv⟩
    | true =>
      rw [bondCall_addBridgeVlan hbond hvid, bondCall_addBridgeVlan hbond hvid]
      exact ⟨by simp only [vlansOfBond, hb], by simp only [hp], hv⟩
  | addIngressPvid pvid =>
    rw [bondCall_addIngressPvid, bondCall_addIngressPvid, hp]
    split
    · exact ⟨hb, rfl, hv⟩
    · exact ⟨hb, hp, hv⟩

theorem SameRecords.configure (h : SameRecords s t) (cs : List BondCall) :
    SameRecords (configure env bond s cs) (configure env' bond t cs) := by
  induction cs generalizing s t with
  | nil => exact h
  | cons c cs ih => exact ih (h.bondCall hbond c)

/-- The VLANs of the bond after a call. -/
theorem lookup_vlansOfBond (c : BondCall) (v : Nat) :
    ((NlVlan.bondCall env bond s c).vlansOfBond bond).lookup v =
      match c with
      | .addBridgeVlan vid _ tagged =>
        if v = vid ∧ isVidValid vid then some (((s.vlansOfBond bond).lookup v).getD (0, tagged))
        else (s.vlansOfBond bond).lookup v
      | .addIngressPvid _ => (s.vlansOfBond bond).lookup v := by
  cases c with
  | addBridgeVlan vid pvid tagged =>
    cases hvid : isVidValid vid with
    | false => simp [bondCall_addBridgeVlan_of_not_valid hvid, hvid]
    | true =>
      rw [bondCall_addBridgeVlan hbond hvid, vlansOfBond, AList.lookup_insert, Option.getD_some,
        Table.lookup_emplace]
      by_cases hv : v = vid
      · subst hv
        simp [hvid]
      · simp [hv]
  | addIngressPvid pvid =>
    rw [bondCall_addIngressPvid]
    split <;> rfl

/-- The VLANs that are configured. -/
theorem vlansOfBond_configure (cs : List BondCall) (v : Nat) :
    ((NlVlan.configure env bond s cs).vlansOfBond bond).lookup v ≠ none ↔
      (s.vlansOfBond bond).lookup v ≠ none ∨ v ∈ cs.filterMap BondCall.vid? := by
  induction cs generalizing s with
  | nil => simp [NlVlan.configure]
  | cons c cs ih =>
    have hstep : ((NlVlan.bondCall env bond s c).vlansOfBond bond).lookup v ≠ none ↔
        (s.vlansOfBond bond).lookup v ≠ none ∨ c.vid? = some v := by
      rw [lookup_vlansOfBond hbond]
      cases c with
      | addBridgeVlan vid pvid tagged =>
        simp only [BondCall.vid?]
        by_cases hv : v = vid ∧ isVidValid vid = true
        · simp [hv]
        · rw [if_neg hv]
          refine ⟨.inl, fun h => h.resolve_right fun h => hv ?_⟩
          split at h
          · rename_i hvid
            exact ⟨(Option.some.inj h).symm, hvid⟩
          · cases h
      | addIngressPvid pvid => simp [BondCall.vid?]
    rw [show NlVlan.configure env bond s (c :: cs) =
      NlVlan.configure env bond (NlVlan.bondCall env bond s c) cs from rfl, ih, hstep, or_assoc]
    refine or_congr_right ?_
    rw [List.filterMap_cons]
    cases c.vid? <;> simp [eq_comm]

/-- A PVID is recorded exactly if one is configured. -/
theorem portPvid_configure {cs : List BondCall}
    (hcs : ∀ c ∈ cs, ∀ x, c.pvid? = some x → isVidValid x = true) :
    (NlVlan.configure env bond s cs).portPvid.lookup bond = none ↔
      s.portPvid.lookup bond = none ∧ cs.filterMap BondCall.pvid? = [] := by
  induction cs generalizing s with
  | nil => simp [NlVlan.configure]
  | cons c cs ih =>
    obtain ⟨hc, hcs⟩ := List.forall_mem_cons.mp hcs
    have hstep : (NlVlan.bondCall env bond s c).portPvid.lookup bond = none ↔
        s.portPvid.lookup bond = none ∧ c.pvid? = none := by
      cases c with
      | addBridgeVlan vid pvid tagged =>
        cases pvid with
        | false =>
          cases hvid : isVidValid vid with
          | false => simp [bondCall_addBridgeVlan_of_not_valid hvid, BondCall.pvid?]
          | true => simp [bondCall_addBridgeVlan hbond hvid, BondCall.pvid?]
        | true =>
          have hvid := hc vid rfl
          simp [bondCall_addBridgeVlan hbond hvid, BondCall.pvid?, Table.lookup_emplace]
      | addIngressPvid pvid =>
        rw [bondCall_addIngressPvid]
        by_cases hl : s.portPvid.lookup bond = none
        · simp [hl, BondCall.pvid?, Table.lookup_emplace]
        · simp [hl, BondCall.pvid?]
    rw [show NlVlan.configure env bond s (c :: cs) =
      NlVlan.configure env bond (NlVlan.bondCall env bond s c) cs from rfl, ih hcs, hstep,
      List.filterMap_cons]
    cases c.pvid? <;> simp

/-- A bond has no outer VLANs, and the ids of its VLANs are valid. -/
theorem plain_configure (hplain : ∀ v x, (s.vlansOfBond bond).lookup v = some x →
      x.1 = 0 ∧ isVidValid v = true) (cs : List BondCall) :
    ∀ v x, ((NlVlan.configure env bond s cs).vlansOfBond bond).lookup v = some x →
      x.1 = 0 ∧ isVidValid v = true := by
  induction cs generalizing s with
  | nil => exact hplain
  | cons c cs ih =>
    refine ih fun v x hx => ?_
    rw [lookup_vlansOfBond hbond] at hx
    cases c with
    | addBridgeVlan vid pvid tagged =>
      simp only at hx
      split at hx
      · rename_i hv
        obtain ⟨rfl, hvid⟩ := hv
        refine ⟨?_, hvid⟩
        cases hl : (s.vlansOfBond bond).lookup v with
        | none =>
          rw [hl] at hx
          rw [← Option.some.inj hx]
          rfl
        | some y =>
          rw [hl] at hx
          rw [← Option.some.inj hx]
          exact (hplain v y hl).1
      · exact hplain v x hx
    | addIngressPvid pvid => exact hplain v x hx

end Spec

/-! ## The entries of the port -/

/-- The entries of a port at ingress and egress, if it is programmed with what is recorded for a
VLAN. -/
def programmed (port : PortId) (vrfId : Nat) :
    Option (Nat × Bool) → Option VlanAction × Option Group → Option VlanAction × Option Group
  | none, io => io
  | some (_, tagged), io =>
    (some (.filter vrfId), some (io.2.getD (interfaceOf port (!tagged))))

/-- The calls for the ports of a bond: those for one port are made once. -/
theorem ports_foldl {calls : PortId → List SwiCall} (hport : ∀ q, ∀ c ∈ calls q, c.port = q)
    (port : PortId) (v : Nat) (e : PortEntries) (l : List PortId) :
    (port ∉ l → (l.flatMap calls).foldl (fun e c => c.effect port v e) e = e) ∧
    (l.count port = 1 → (l.flatMap calls).foldl (fun e c => c.effect port v e) e =
      (calls port).foldl (fun e c => c.effect port v e) e) := by
  have hother : ∀ q, port ≠ q → ∀ e, (calls q).foldl (fun e c => c.effect port v e) e = e := by
    intro q hq e
    have hall := hport q
    generalize calls q = cs at hall ⊢
    induction cs with
    | nil => rfl
    | cons c cs ih =>
      obtain ⟨hc, hcs⟩ := List.forall_mem_cons.mp hall
      rw [List.foldl_cons, SwiCall.effect_of_port_ne (hc ▸ hq)]
      exact ih hcs
  induction l generalizing e with
  | nil => simp
  | cons q l ih =>
    rw [List.flatMap_cons, List.foldl_append]
    constructor
    · intro hl
      rw [List.mem_cons, not_or] at hl
      obtain ⟨hq, hl⟩ := hl
      rw [hother q hq]
      exact (ih e).1 hl
    · intro hl
      by_cases hq : port = q
      · subst hq
        rw [List.count_cons_self] at hl
        exact (ih _).1 (List.count_eq_zero.mp (by omega))
      · rw [hother q hq]
        rw [List.count_cons_of_ne (Ne.symm hq)] at hl
        exact (ih e).2 hl

section Entries

variable {M : Type} [DecidableEq M] {env : VlanEnv M} (hE : env.fm.Encodes) {bond : PortId}
  (hbond : bond.1 ≠ 0) {s : NlVlan M} {port : PortId} {v : Nat} (hv : v < 2 ^ 12)
include hE hbond hv

/-- A call makes its calls for all ports of the bond. -/
theorem bondCall_entries {c : BondCall} (hc : ∀ x, c.pvid? = some x → x < 2 ^ 12) :
    (bondCall env bond s c).swi.entries env.fm port v =
      ((bridgeVlanPorts env bond).flatMap fun port => c.calls s bond port).foldl
        (fun e c => c.effect port v e) (s.swi.entries env.fm port v) := by
  cases c with
  | addBridgeVlan vid pvid tagged =>
    cases hvid : isVidValid vid with
    | false =>
      rw [bondCall_addBridgeVlan_of_not_valid hvid,
        List.flatMap_eq_nil_iff.mpr fun q _ => by simp [BondCall.calls, hvid]]
      rfl
    | true =>
      have hw := (isVidValid_iff.mp hvid).2
      rw [bondCall_addBridgeVlan hbond hvid]
      simp only [BondCall.calls, hvid, if_true]
      refine swiUntilFail_entries hE hv (fun c hc => ?_) s.swi
      obtain ⟨q, -, hq⟩ := List.mem_flatMap.mp hc
      simp only [bridgeVlanCalls, List.mem_cons, List.not_mem_nil, or_false] at hq
      rcases hq with rfl | rfl <;> exact ⟨hw, by simp⟩
  | addIngressPvid pvid =>
    have hw : pvid < 2 ^ 12 := hc pvid rfl
    rw [bondCall_addIngressPvid]
    by_cases hl : s.portPvid.lookup bond = none
    · have hmem : (swiUntilFail env.fm allOk 0
          ((env.lagMembers bond).map fun mem => .ingressPortPvidAdd mem pvid) s.swi).2.entries
          env.fm port v = _ :=
        swiUntilFail_entries hE hv (fun c hc => by
          obtain ⟨m, -, rfl⟩ := List.mem_map.mp hc
          exact ⟨hw, by simp⟩) s.swi
      have hlast := swiCall_entries hE allOk hv (p := port) (c := .ingressPortPvidAdd bond pvid)
        ⟨hw, by simp⟩ (swiUntilFail env.fm allOk 0
          ((env.lagMembers bond).map fun mem => .ingressPortPvidAdd mem pvid) s.swi).2
      rw [hmem] at hlast
      simp only [hl, if_true, BondCall.calls, bridgeVlanPorts, List.flatMap_append,
        List.foldl_append, ← List.map_eq_flatMap]
      exact hlast
    · rw [if_neg hl, List.flatMap_eq_nil_iff.mpr fun q _ => by simp [BondCall.calls, hl]]
      rfl


/-- A port that is not in the bond is left alone. -/
theorem configure_frame (hport : port ∉ bridgeVlanPorts env bond) {cs : List BondCall}
    (hcs : ∀ c ∈ cs, ∀ x, c.pvid? = some x → x < 2 ^ 12) :
    (configure env bond s cs).swi.entries env.fm port v = s.swi.entries env.fm port v := by
  induction cs generalizing s with
  | nil => rfl
  | cons c cs ih =>
    obtain ⟨hc, hcs⟩ := List.forall_mem_cons.mp hcs
    have hstep : (bondCall env bond s c).swi.entries env.fm port v =
        s.swi.entries env.fm port v := by
      rw [bondCall_entries hE hbond hv hc]
      exact (ports_foldl (fun q c' hc' => BondCall.port_of_mem_calls hc') port v _ _).1 hport
    exact (ih hcs).trans hstep

end Entries

theorem bridgeVlanCalls_foldl (vid : Nat) (pvid tagged : Bool) (vrfId : Nat) (port : PortId)
    (v : Nat) (e : PortEntries) :
    (bridgeVlanCalls vid pvid tagged vrfId port).foldl (fun e c => c.effect port v e) e =
      { ingress := if v = vid then some (.filter vrfId) else e.ingress
        pvid := if pvid then some (.assign vid) else e.pvid
        egress := if v = vid then some (e.egress.getD (interfaceOf port (!tagged)))
          else e.egress } := by
  simp [bridgeVlanCalls, SwiCall.effect]

/-- What a port has that is a member all along, from `s₀` on: what is recorded for the bond. -/
structure Member {M : Type} [DecidableEq M] (fm : VlanDriver M) (bond port : PortId) (pv : Nat)
    (s₀ s : NlVlan M) : Prop where
  vrf : s.vlanVrf = s₀.vlanVrf
  pvid : s.portPvid.lookup bond = none ∨ s.portPvid.lookup bond = some pv
  inOut : ∀ v < 2 ^ 12, (s.swi.entries fm port v).inOut =
    programmed port (s₀.getVrfId v) ((s.vlansOfBond bond).lookup v)
      (s₀.swi.entries fm port v).inOut
  slot : ∀ v < 2 ^ 12, (s.swi.entries fm port v).pvid =
    if s.portPvid.lookup bond = none then (s₀.swi.entries fm port v).pvid else some (.assign pv)

section Member

variable {M : Type} [DecidableEq M] {env : VlanEnv M} (hE : env.fm.Encodes) {bond : PortId}
  (hbond : bond.1 ≠ 0) {s₀ s : NlVlan M} {port : PortId} {pv : Nat} (hpv : isVidValid pv = true)
  (hport : (bridgeVlanPorts env bond).count port = 1)
include hE hbond hpv hport

/-- The port has what the calls for it leave. -/
theorem entries_bondCall {c : BondCall} (hc : ∀ x, c.pvid? = some x → x = pv) {v : Nat}
    (hv : v < 2 ^ 12) : (bondCall env bond s c).swi.entries env.fm port v =
      (c.calls s bond port).foldl (fun e c => c.effect port v e) (s.swi.entries env.fm port v) := by
  have hpv12 := (isVidValid_iff.mp hpv).2
  rw [bondCall_entries hE hbond hv fun x hx => by rw [hc x hx]; exact hpv12]
  exact (ports_foldl (fun q c' hc' => BondCall.port_of_mem_calls hc') port v _ _).2 hport

theorem Member.addBridgeVlan (h : Member env.fm bond port pv s₀ s) {vid : Nat} {pvid tagged : Bool}
    (hc : ∀ x, (BondCall.addBridgeVlan vid pvid tagged).pvid? = some x → x = pv) :
    Member env.fm bond port pv s₀ (NlVlan.bondCall env bond s (.addBridgeVlan vid pvid tagged)) := by
  cases hvid : isVidValid vid with
  | false =>
    rw [bondCall_addBridgeVlan_of_not_valid hvid]
    exact h
  | true =>
    have hent := fun v hv => entries_bondCall hE hbond hpv hport (s := s) (v := v) hc hv
    have hpvid : (NlVlan.bondCall env bond s (.addBridgeVlan vid pvid tagged)).portPvid =
        if pvid then s.portPvid.emplace bond pv else s.portPvid := by
      rw [bondCall_addBridgeVlan hbond hvid]
      cases pvid with
      | false => rfl
      | true => simp [hc vid rfl]
    simp only [BondCall.calls, hvid, if_true, bridgeVlanCalls_foldl] at hent
    refine ⟨?_, ?_, fun v hv => ?_, fun v hv => ?_⟩
    · rw [bondCall_addBridgeVlan hbond hvid]
      exact h.vrf
    · rw [hpvid]
      cases pvid with
      | false => exact h.pvid
      | true =>
        rcases h.pvid with hn | hs
        · exact .inr (by simp [Table.lookup_emplace, hn])
        · exact .inr (by simp [Table.lookup_emplace, hs])
    · have hio := h.inOut v hv
      have hvrf : s.getVrfId v = s₀.getVrfId v := by rw [getVrfId, h.vrf, getVrfId]
      rw [hent v hv, lookup_vlansOfBond hbond]
      by_cases hvv : v = vid
      · subst hvv
        simp only [hvid, and_self, if_true, hvrf]
        cases hl : (s.vlansOfBond bond).lookup v with
        | none =>
          simp only [hl, PortEntries.inOut, programmed, Prod.mk.injEq] at hio
          simp [PortEntries.inOut, programmed, hio.2]
        | some x =>
          simp only [hl, PortEntries.inOut, programmed, Prod.mk.injEq] at hio
          simp [PortEntries.inOut, programmed, hio.2]
      · simp only [hvv, false_and, if_false]
        exact hio
    · rw [hent v hv, hpvid]
      cases pvid with
      | false => exact h.slot v hv
      | true => simp [Table.lookup_emplace, hc vid rfl]

theorem Member.addIngressPvid (h : Member env.fm bond port pv s₀ s) :
    Member env.fm bond port pv s₀ (NlVlan.bondCall env bond s (.addIngressPvid pv)) := by
  rcases h.pvid with hn | hs
  · have hc : ∀ x, (BondCall.addIngressPvid pv).pvid? = some x → x = pv :=
      fun x hx => (Option.some.inj hx).symm
    have hent := fun v hv => entries_bondCall hE hbond hpv hport (s := s) (v := v) hc hv
    have hrec : SameRecords (NlVlan.bondCall env bond s (.addIngressPvid pv))
        { s with portPvid := s.portPvid.emplace bond pv } := by
      rw [bondCall_addIngressPvid, if_pos hn]
      exact ⟨rfl, rfl, rfl⟩
    simp only [BondCall.calls, hn, if_true, List.foldl_cons, List.foldl_nil, SwiCall.effect]
      at hent
    refine ⟨hrec.2.2.trans h.vrf, ?_, fun v hv => ?_, fun v hv => ?_⟩
    · rw [hrec.2.1]
      exact .inr (by simp [Table.lookup_emplace, hn])
    · rw [hent v hv, lookup_vlansOfBond hbond]
      exact h.inOut v hv
    · rw [hent v hv, hrec.2.1]
      simp [Table.lookup_emplace]
  · rw [bondCall_addIngressPvid, if_neg (by simp [hs])]
    exact h

theorem Member.bondCall (h : Member env.fm bond port pv s₀ s) {c : BondCall}
    (hc : ∀ x, c.pvid? = some x → x = pv) :
    Member env.fm bond port pv s₀ (NlVlan.bondCall env bond s c) := by
  cases c with
  | addBridgeVlan vid pvid tagged => exact h.addBridgeVlan hE hbond hpv hport hc
  | addIngressPvid x =>
    obtain rfl : x = pv := hc x rfl
    exact h.addIngressPvid hE hbond hpv hport

theorem Member.configure (h : Member env.fm bond port pv s₀ s) {cs : List BondCall}
    (hcs : ∀ c ∈ cs, ∀ x, c.pvid? = some x → x = pv) :
    Member env.fm bond port pv s₀ (configure env bond s cs) := by
  induction cs generalizing s with
  | nil => exact h
  | cons c cs ih =>
    obtain ⟨hc, hcs⟩ := List.forall_mem_cons.mp hcs
    exact ih (h.bondCall hE hbond hpv hport hc) hcs

end Member

/-! ## A port that joins -/

/-- What a port is programmed with for one VLAN when it joins. -/
def attachCalls (pvid : Nat) (vrfId : Nat → Nat) (port : PortId) (x : Nat × Nat × Bool) :
    List SwiCall :=
  [.egressBridgePortVlanAdd port x.1 (!x.2.2),
    .ingressPortVlanAdd port x.1 (x.1 == pvid) (vrfId x.1)] ++
  if x.2.1 > 0 then
    [.egressPortPushVlanAdd port x.1 x.2.1, .ingressPortPopVlanAdd port x.2.1 x.1 (vrfId x.1)]
  else [.ingressPortVlanAdd port x.1 (pvid != 0) (vrfId x.1)]

section Attach

variable {pvid : Nat} {vrfId : Nat → Nat} {port : PortId} {v : Nat} {l : List (Nat × Nat × Bool)}
  (hl : ∀ x ∈ l, x.2.1 = 0 ∧ x.1 ≠ 0)

theorem attachCalls_foldl {x : Nat × Nat × Bool} (hx : x.2.1 = 0 ∧ x.1 ≠ 0) (e : PortEntries) :
    (attachCalls pvid vrfId port x).foldl (fun e c => c.effect port v e) e =
      { ingress := if v = x.1 then some (.filter (vrfId x.1)) else e.ingress
        pvid := if pvid = 0 then e.pvid else some (.assign x.1)
        egress := if v = x.1 then some (e.egress.getD (interfaceOf port (!x.2.2)))
          else e.egress } := by
  obtain ⟨hx0, hx1⟩ := hx
  by_cases hp : pvid = 0
  · subst hp
    by_cases hv : v = x.1 <;> simp [attachCalls, hx0, hx1, hv, SwiCall.effect]
  · by_cases hv : v = x.1 <;> simp [attachCalls, hx0, hp, hv, SwiCall.effect]

include hl

/-- A VLAN that is not in the list. -/
theorem attach_inOut_of_notMem (hv : v ∉ l.map (·.1)) (e : PortEntries) :
    ((l.flatMap (attachCalls pvid vrfId port)).foldl (fun e c => c.effect port v e) e).inOut =
      e.inOut := by
  induction l generalizing e with
  | nil => rfl
  | cons x l ih =>
    obtain ⟨hx, hl⟩ := List.forall_mem_cons.mp hl
    rw [List.map_cons, List.mem_cons, not_or] at hv
    rw [List.flatMap_cons, List.foldl_append, ih hl hv.2, attachCalls_foldl hx]
    simp [PortEntries.inOut, hv.1]

/-- A VLAN of the list. -/
theorem attach_inOut_of_mem (hnd : (l.map (·.1)).Nodup) {x : Nat × Nat × Bool} (hx : x ∈ l)
    (e : PortEntries) :
    ((l.flatMap (attachCalls pvid vrfId port)).foldl (fun e c => c.effect port x.1 e) e).inOut =
      programmed port (vrfId x.1) (some x.2) e.inOut := by
  induction l generalizing e with
  | nil => cases hx
  | cons y l ih =>
    obtain ⟨hy, hrest⟩ := List.forall_mem_cons.mp hl
    rw [List.map_cons, List.nodup_cons] at hnd
    rw [List.flatMap_cons, List.foldl_append]
    rcases List.mem_cons.mp hx with rfl | hx
    · rw [attach_inOut_of_notMem hrest hnd.1, attachCalls_foldl hy]
      simp [PortEntries.inOut, programmed]
    · have hne : x.1 ≠ y.1 := by
        intro heq
        exact hnd.1 (heq ▸ List.mem_map_of_mem hx)
      rw [ih hrest hnd.2 hx, attachCalls_foldl hy]
      simp [PortEntries.inOut, hne]

/-- The PVID rule is that of the last VLAN. -/
theorem attach_pvid (e : PortEntries) :
    ((l.flatMap (attachCalls pvid vrfId port)).foldl (fun e c => c.effect port v e) e).pvid =
      if pvid = 0 then e.pvid else (l.getLast?.map fun x => VlanAction.assign x.1).or e.pvid := by
  induction l generalizing e with
  | nil => simp
  | cons x l ih =>
    obtain ⟨hx, hl⟩ := List.forall_mem_cons.mp hl
    rw [List.flatMap_cons, List.foldl_append, ih hl, attachCalls_foldl hx]
    by_cases hp : pvid = 0
    · simp [hp]
    · simp only [hp, if_false, List.getLast?_cons]
      cases l.getLast? <;> rfl

end Attach

theorem mem_ascending {V : Type} {t : Table Nat V} {x : Nat × V} :
    x ∈ ascending t ↔ t.lookup x.1 = some x.2 := by
  unfold ascending
  rw [List.mem_insertionSort, List.mem_map]
  constructor
  · rintro ⟨⟨k, w⟩, hmem, rfl⟩
    exact AList.mem_lookup_iff.mpr hmem
  · intro h
    exact ⟨⟨x.1, x.2⟩, AList.mem_lookup_iff.mp h, rfl⟩

theorem nodup_ascending {V : Type} (t : Table Nat V) : ((ascending t).map (·.1)).Nodup := by
  unfold ascending
  have hp := (List.perm_insertionSort (fun a b : Nat × V => a.1 ≤ b.1)
    (t.entries.map fun e => (e.1, e.2))).map (·.1)
  rw [hp.nodup_iff, List.map_map]
  exact t.nodupKeys

/-- The last entry has the highest key. -/
theorem le_getLast_ascending {V : Type} {t : Table Nat V} {x y : Nat × V}
    (hx : (ascending t).getLast? = some x) (hy : y ∈ ascending t) : y.1 ≤ x.1 := by
  have hs : (ascending t).Pairwise fun a b => a.1 ≤ b.1 :=
    List.pairwise_insertionSort (fun a b : Nat × V => a.1 ≤ b.1) _
  generalize ascending t = l at hx hy hs
  rcases List.eq_nil_or_concat l with rfl | ⟨l, z, rfl⟩
  · cases hx
  · rw [List.concat_eq_append] at hx hy hs
    obtain rfl : z = x := by simpa using hx
    rcases List.mem_append.mp hy with hy | hy
    · exact (List.pairwise_append.mp hs).2.2 y hy z (List.mem_singleton_self z)
    · rw [List.mem_singleton.mp hy]

/-- The entries of a port after it has joined a bond in the bridge. -/
theorem attached_entries {M : Type} [DecidableEq M] {env : VlanEnv M} (hE : env.fm.Encodes)
    {s : NlVlan M} {bond port : PortId} (hbond : bond.1 ≠ 0) (hport : port.1 ≠ 0)
    (hplain : ∀ v x, (s.vlansOfBond bond).lookup v = some x → x.1 = 0 ∧ isVidValid v = true)
    {v : Nat} (hv : v < 2 ^ 12) :
    (bondMemberAttached env allOk s bond true port).2.swi.entries env.fm port v =
      ((ascending (s.vlansOfBond bond)).flatMap
        (attachCalls ((s.portPvid.lookup bond).getD 0) s.getVrfId port)).foldl
        (fun e c => c.effect port v e) (s.swi.entries env.fm port v) := by
  unfold bondMemberAttached
  rw [if_neg hbond, if_neg hport, if_pos rfl]
  cases hl : s.bridgeVlan.lookup bond with
  | none =>
    rw [show s.vlansOfBond bond = ∅ by rw [vlansOfBond, hl]; rfl]
    rfl
  | some vlans =>
    have ht : s.vlansOfBond bond = vlans := by rw [vlansOfBond, hl]; rfl
    rw [ht] at hplain ⊢
    refine swiEach_entries hE hv (fun c hc => ?_) s.swi
    obtain ⟨x, hx, hc⟩ := List.mem_flatMap.mp hc
    obtain ⟨hx0, hx1⟩ := hplain x.1 x.2 (mem_ascending.mp hx)
    have hw := (isVidValid_iff.mp hx1).2
    simp only [hx0, Nat.lt_irrefl, gt_iff_lt, if_false, List.cons_append, List.nil_append,
      List.mem_cons, List.not_mem_nil, or_false] at hc
    rcases hc with rfl | rfl | rfl <;> exact ⟨hw, by simp⟩

section Attached

variable {M : Type} [DecidableEq M] {env : VlanEnv M} (hE : env.fm.Encodes) {s : NlVlan M}
  {bond port : PortId} (hbond : bond.1 ≠ 0) (hport : port.1 ≠ 0)
  (hplain : ∀ v x, (s.vlansOfBond bond).lookup v = some x → x.1 = 0 ∧ isVidValid v = true)
  {v : Nat} (hv : v < 2 ^ 12)
include hE hbond hport hplain hv

theorem attached_inOut :
    ((bondMemberAttached env allOk s bond true port).2.swi.entries env.fm port v).inOut =
      programmed port (s.getVrfId v) ((s.vlansOfBond bond).lookup v)
        (s.swi.entries env.fm port v).inOut := by
  have hlist : ∀ x ∈ ascending (s.vlansOfBond bond), x.2.1 = 0 ∧ x.1 ≠ 0 := by
    intro x hx
    obtain ⟨hx0, hx1⟩ := hplain x.1 x.2 (mem_ascending.mp hx)
    have := (isVidValid_iff.mp hx1).1
    exact ⟨hx0, by omega⟩
  rw [attached_entries hE hbond hport hplain hv]
  cases hl : (s.vlansOfBond bond).lookup v with
  | none =>
    refine attach_inOut_of_notMem hlist (fun hmem => ?_) _
    obtain ⟨x, hx, rfl⟩ := List.mem_map.mp hmem
    rw [mem_ascending.mp hx] at hl
    cases hl
  | some x =>
    have hx : (v, x) ∈ ascending (s.vlansOfBond bond) := mem_ascending.mpr hl
    exact attach_inOut_of_mem hlist (nodup_ascending _) hx _

theorem attached_pvid :
    ((bondMemberAttached env allOk s bond true port).2.swi.entries env.fm port v).pvid =
      if (s.portPvid.lookup bond).getD 0 = 0 then (s.swi.entries env.fm port v).pvid
      else
        ((ascending (s.vlansOfBond bond)).getLast?.map fun x => VlanAction.assign x.1).or
          (s.swi.entries env.fm port v).pvid := by
  rw [attached_entries hE hbond hport hplain hv]
  refine attach_pvid (fun x hx => ?_) _
  obtain ⟨hx0, hx1⟩ := hplain x.1 x.2 (mem_ascending.mp hx)
  have := (isVidValid_iff.mp hx1).1
  exact ⟨hx0, by omega⟩

end Attached

/-- There is one PVID rule for a port. -/
theorem pvid_entries {M : Type} [DecidableEq M] {fm : VlanDriver M} (hE : fm.Encodes)
    (sw : PortSwitch M) (port : PortId) (v w : Nat) :
    (sw.entries fm port v).pvid = (sw.entries fm port w).pvid := by
  simp only [PortSwitch.entries]
  rw [(hE.pvid port v port w).mpr rfl]

/-- The highest VLAN is the PVID. -/
theorem getLast_ascending_iff {V : Type} {t : Table Nat V} {vids : List Nat}
    (ht : ∀ v, t.lookup v ≠ none ↔ v ∈ vids) (slot : Option VlanAction) (pv : Nat) :
    ((ascending t).getLast?.map fun x => VlanAction.assign x.1).or slot = some (.assign pv) ↔
      (vids = [] ∧ slot = some (.assign pv)) ∨ (pv ∈ vids ∧ ∀ w ∈ vids, w ≤ pv) := by
  have hmem : ∀ v, v ∈ vids ↔ ∃ x, (v, x) ∈ ascending t := by
    intro v
    rw [← ht, Option.ne_none_iff_exists']
    exact exists_congr fun x => (mem_ascending (x := (v, x))).symm
  cases hlast : (ascending t).getLast? with
  | none =>
    have hnil : vids = [] := by
      refine List.eq_nil_iff_forall_not_mem.mpr fun v hv => ?_
      obtain ⟨x, hx⟩ := (hmem v).mp hv
      rw [List.getLast?_eq_none_iff.mp hlast] at hx
      cases hx
    simp [hnil]
  | some x =>
    have hx : x.1 ∈ vids := (hmem x.1).mpr ⟨x.2, List.mem_of_getLast? hlast⟩
    have hmax : ∀ w ∈ vids, w ≤ x.1 := by
      intro w hw
      obtain ⟨y, hy⟩ := (hmem w).mp hw
      exact le_getLast_ascending hlast hy
    simp only [Option.map_some, Option.some_or, Option.some.injEq, VlanAction.assign.injEq]
    constructor
    · rintro rfl
      exact .inr ⟨hx, hmax⟩
    · rintro (⟨hnil, -⟩ | ⟨hpv, hle⟩)
      · rw [hnil] at hx
        cases hx
      · exact Nat.le_antisymm (hle x.1 hx) (hmax pv hpv)

/-- The bond has no PVID, or the highest of its VLANs is the PVID (or it has none and the port has
the rule already). -/
def Commutes (slot : Option VlanAction) (cs : List BondCall) : Prop :=
  ∀ pv ∈ cs.filterMap BondCall.pvid?,
    (cs.filterMap BondCall.vid? = [] ∧ slot = some (.assign pv)) ∨
    (pv ∈ cs.filterMap BondCall.vid? ∧ ∀ w ∈ cs.filterMap BondCall.vid?, w ≤ pv)

theorem commutes_iff_of_one {slot : Option VlanAction} {cs : List BondCall} {pv : Nat}
    (hne : cs.filterMap BondCall.pvid? ≠ []) (hone : ∀ c ∈ cs, ∀ x, c.pvid? = some x → x = pv) :
    Commutes slot cs ↔
      (cs.filterMap BondCall.vid? = [] ∧ slot = some (.assign pv)) ∨
      (pv ∈ cs.filterMap BondCall.vid? ∧ ∀ w ∈ cs.filterMap BondCall.vid?, w ≤ pv) := by
  have hall : ∀ x ∈ cs.filterMap BondCall.pvid?, x = pv := by
    intro x hx
    obtain ⟨c, hc, hcx⟩ := List.mem_filterMap.mp hx
    exact hone c hc x hcx
  obtain ⟨x, hx⟩ := List.exists_mem_of_ne_nil _ hne
  constructor
  · intro h
    rw [← hall x hx]
    exact h x hx
  · intro h y hy
    rw [hall y hy]
    exact h

theorem ne_of_isLag {bond port : PortId} (hbond : Nbi.isLag bond = true)
    (hport : Nbi.isLag port = false) : port ≠ bond := by
  rintro rfl
  rw [hbond] at hport
  cases hport

/-- The port is one of the ports of the bond once. -/
theorem count_attach {M : Type} {env : VlanEnv M} {bond port : PortId}
    (hbond : Nbi.isLag bond = true) (hport : Nbi.isLag port = false)
    (hnew : port ∉ env.members bond) :
    (bridgeVlanPorts (env.attach bond port hport) bond).count port = 1 := by
  have hmem : (env.attach bond port hport).lagMembers bond =
      (env.members bond).orderedInsert (fun a b => a.1 ≤ b.1) port := by
    rw [VlanEnv.lagMembers, if_pos hbond]
    exact Function.update_self ..
  have hcount := (List.perm_orderedInsert (fun a b : PortId => a.1 ≤ b.1) port
    (env.members bond)).count_eq port
  rw [List.count_cons_self, List.count_eq_zero.mpr hnew] at hcount
  rw [bridgeVlanPorts, hmem, List.count_append, hcount,
    List.count_eq_zero.mpr fun h => ne_of_isLag hbond hport (List.mem_singleton.mp h)]

section Commute

variable {M : Type} [DecidableEq M] {env : VlanEnv M} (hE : env.fm.Encodes) {s : NlVlan M}
  {bond port : PortId} (hbond : Nbi.isLag bond = true) (hport : Nbi.isLag port = false)
  (hnew : port ∉ env.members bond) (hvlans : s.bridgeVlan.lookup bond = none)
  {cs : List BondCall} {pv : Nat} (hpv : isVidValid pv = true)
  (hone : ∀ c ∈ cs, ∀ x, c.pvid? = some x → x = pv)

theorem ne_zero_of_isLag {bond : PortId} (hbond : Nbi.isLag bond = true) : bond.1 ≠ 0 := by
  have := Nbi.isLag_iff.mp hbond
  omega

/-- A bond that is not configured has no VLANs. -/
theorem vlansOfBond_eq_empty {M : Type} {s : NlVlan M} {bond : PortId}
    (hvlans : s.bridgeVlan.lookup bond = none) : s.vlansOfBond bond = ∅ := by
  rw [vlansOfBond, hvlans]
  rfl

include hE hbond hnew hpv hone

/-- The port that is not a member yet. -/
theorem configure_frame_of_notMem (hport : Nbi.isLag port = false) {v : Nat} (hv : v < 2 ^ 12) :
    (configure env bond s cs).swi.entries env.fm port v = s.swi.entries env.fm port v := by
  refine configure_frame hE (ne_zero_of_isLag hbond) hv ?_ fun c hc x hx => ?_
  · rw [bridgeVlanPorts, VlanEnv.lagMembers, if_pos hbond, List.mem_append, not_or]
    exact ⟨hnew, fun h => ne_of_isLag hbond hport (List.mem_singleton.mp h)⟩
  · rw [hone c hc x hx]
    exact (isVidValid_iff.mp hpv).2

include hvlans

/-- The port that is a member from the start. -/
theorem member_attach (hpvid : s.portPvid.lookup bond = none) :
    Member env.fm bond port pv s (configure (env.attach bond port hport) bond s cs) := by
  have hE' : (env.attach bond port hport).fm.Encodes := hE
  have h0 : Member (env.attach bond port hport).fm bond port pv s s :=
    { vrf := rfl
      pvid := .inl hpvid
      inOut := fun v _ => by rw [vlansOfBond_eq_empty hvlans]; rfl
      slot := fun v _ => by rw [if_pos hpvid] }
  exact h0.configure hE' (ne_zero_of_isLag hbond) hpv (count_attach hbond hport hnew) hone

end Commute

/-- A port that joins the configured bond (`later`), against one that was a member all along
(`first`): only the PVID rules can differ. -/
theorem attached_eq_iff {M : Type} [DecidableEq M] {env : VlanEnv M} (hE : env.fm.Encodes)
    {s first later : NlVlan M} {bond port : PortId} (hbond : bond.1 ≠ 0) (hport : port.1 ≠ 0)
    {cs : List BondCall} {pv : Nat} (hpv : isVidValid pv = true)
    (hone : ∀ c ∈ cs, ∀ x, c.pvid? = some x → x = pv)
    (hmember : Member env.fm bond port pv s first) (hrec : SameRecords first later)
    (hvids : ∀ v, (later.vlansOfBond bond).lookup v ≠ none ↔ v ∈ cs.filterMap BondCall.vid?)
    (hpvids : later.portPvid.lookup bond = none ↔ cs.filterMap BondCall.pvid? = [])
    (hplain : ∀ v x, (later.vlansOfBond bond).lookup v = some x → x.1 = 0 ∧ isVidValid v = true)
    (hframe : ∀ v < 2 ^ 12, later.swi.entries env.fm port v = s.swi.entries env.fm port v)
    {v : Nat} (hv : v < 2 ^ 12) :
    (bondMemberAttached env allOk later bond true port).2.swi.entries env.fm port v =
      first.swi.entries env.fm port v ↔ Commutes (s.swi.entries env.fm port 0).pvid cs := by
  obtain ⟨hrecB, hrecP, hrecV⟩ := hrec
  have hin : ((bondMemberAttached env allOk later bond true port).2.swi.entries
      env.fm port v).inOut = (first.swi.entries env.fm port v).inOut := by
    rw [attached_inOut hE hbond hport hplain hv, hmember.inOut v hv, hframe v hv, vlansOfBond,
      ← hrecB, getVrfId, ← hrecV, hmember.vrf]
    rfl
  rw [PortEntries.eq_iff_of_inOut hin, attached_pvid hE hbond hport hplain hv,
    hmember.slot v hv, hframe v hv, hrecP, pvid_entries hE s.swi port v 0]
  rcases hmember.pvid with hn | hs
  · rw [hrecP] at hn
    rw [hn, Option.getD_none, if_pos rfl, if_pos rfl, Commutes, hpvids.mp hn]
    simp
  · rw [hrecP] at hs
    have hpv0 : ¬ pv = 0 := by
      have := (isVidValid_iff.mp hpv).1
      omega
    have hne : cs.filterMap BondCall.pvid? ≠ [] := fun hnil => by simp [hpvids.mpr hnil] at hs
    rw [hs, Option.getD_some, if_neg hpv0, if_neg (by simp), commutes_iff_of_one hne hone]
    exact getLast_ascending_iff hvids _ pv

/-- **The order of joining and configuring does not matter exactly if the PVID is the highest
VLAN of the bond**, for every bond that is not configured, every port that is not a member, and
every configuration with at most one PVID. -/
theorem commutes_iff {M : Type} [DecidableEq M] (env : VlanEnv M) (hE : env.fm.Encodes)
    (s : NlVlan M) (bond port : PortId) (hbond : Nbi.isLag bond = true)
    (hport : Nbi.isLag port = false) (hport0 : port.1 ≠ 0) (hnew : port ∉ env.members bond)
    (hvlans : s.bridgeVlan.lookup bond = none) (hpvid : s.portPvid.lookup bond = none)
    (cs : List BondCall) (pv : Nat) (hpv : isVidValid pv = true)
    (hone : ∀ c ∈ cs, ∀ x, c.pvid? = some x → x = pv) :
    (∀ v < 2 ^ 12,
      (bondMemberAttached env allOk (configure env bond s cs) bond true port).2.swi.entries
          env.fm port v =
        (configure (env.attach bond port hport) bond s cs).swi.entries env.fm port v) ↔
      Commutes (s.swi.entries env.fm port 0).pvid cs := by
  have hbond0 := ne_zero_of_isLag hbond
  have hmember := member_attach hE hbond hport hnew hvlans hpv hone hpvid
  -- the two runs record the same
  have hrec : SameRecords (configure (env.attach bond port hport) bond s cs)
      (configure env bond s cs) := SameRecords.configure hbond0 ⟨rfl, rfl, rfl⟩ cs
  have hvids : ∀ v, ((configure env bond s cs).vlansOfBond bond).lookup v ≠ none ↔
      v ∈ cs.filterMap BondCall.vid? := by
    intro v
    rw [vlansOfBond_configure hbond0, vlansOfBond_eq_empty hvlans, AList.lookup_empty]
    simp
  have hpvids : (configure env bond s cs).portPvid.lookup bond = none ↔
      cs.filterMap BondCall.pvid? = [] := by
    rw [portPvid_configure hbond0 fun c hc x hx => by rw [hone c hc x hx]; exact hpv]
    exact and_iff_right hpvid
  have hplain : ∀ v x, ((configure env bond s cs).vlansOfBond bond).lookup v = some x →
      x.1 = 0 ∧ isVidValid v = true :=
    plain_configure hbond0 (fun v x hx => by rw [vlansOfBond_eq_empty hvlans] at hx; cases hx) cs
  have hframe : ∀ v < 2 ^ 12, (configure env bond s cs).swi.entries env.fm port v =
      s.swi.entries env.fm port v := fun v hv =>
    configure_frame_of_notMem hE hbond hnew hpv hone hport hv
  have hstep := fun v (hv : v < 2 ^ 12) => attached_eq_iff hE hbond0 hport0 hpv hone hmember hrec
    hvids hpvids hplain hframe hv
  constructor
  · intro h
    exact (hstep 0 (by decide)).mp (h 0 (by decide))
  · intro h v hv
    exact (hstep v hv).mpr h

/-- A bond without members. -/
def lag1 : PortId := ⟨Nbi.combinePortType 1 .lag, ⟨1, .inr rfl⟩⟩

/-- Two VLANs; the higher one is the PVID. -/
def highPvid : List BondCall := [.addBridgeVlan 10 false true, .addBridgeVlan 20 true false]

theorem commutes_iff_highPvid :
    Commutes none highPvid ∧ ∀ v < 2 ^ 12,
      (bondMemberAttached .noBonds allOk (configure .noBonds lag1 {} highPvid) lag1 true
        port1).2.swi.entries ofdpaVlanDriver port1 v =
      (configure (VlanEnv.noBonds.attach lag1 port1 rfl) lag1 {} highPvid).swi.entries
        ofdpaVlanDriver port1 v := by
  have hone : ∀ c ∈ highPvid, ∀ x, c.pvid? = some x → x = 20 := by
    simp [highPvid, BondCall.pvid?]
  have hcommutes : Commutes none highPvid := by
    rintro pv hpv
    obtain rfl : pv = 20 := by simpa [highPvid, BondCall.pvid?] using hpv
    exact .inr ⟨by decide, by decide⟩
  refine ⟨hcommutes, ?_⟩
  exact (commutes_iff .noBonds ofdpaVlanDriver_encodes {} lag1 port1 rfl rfl (by decide)
    List.not_mem_nil rfl rfl highPvid 20 rfl hone).mpr hcommutes

/-- Two VLANs; the lower one is the PVID. -/
def lowPvid : List BondCall := [.addBridgeVlan 10 true false, .addBridgeVlan 20 false true]

/-- The port that joins later gets VLAN 20 for its untagged packets, not VLAN 10. -/
theorem lowPvid_not_commutes :
    ¬ (∀ v < 2 ^ 12,
      (bondMemberAttached .noBonds allOk (configure .noBonds lag1 {} lowPvid) lag1 true
        port1).2.swi.entries ofdpaVlanDriver port1 v =
      (configure (VlanEnv.noBonds.attach lag1 port1 rfl) lag1 {} lowPvid).swi.entries
        ofdpaVlanDriver port1 v) ∧
    ((bondMemberAttached .noBonds allOk (configure .noBonds lag1 {} lowPvid) lag1 true
      port1).2.swi.entries ofdpaVlanDriver port1 10).pvid = some (.assign 20) ∧
    ((configure (VlanEnv.noBonds.attach lag1 port1 rfl) lag1 {} lowPvid).swi.entries
      ofdpaVlanDriver port1 10).pvid = some (.assign 10) := by
  have hlater : ((bondMemberAttached .noBonds allOk (configure .noBonds lag1 {} lowPvid) lag1 true
      port1).2.swi.entries ofdpaVlanDriver port1 10).pvid = some (.assign 20) := by decide
  have hfirst : ((configure (VlanEnv.noBonds.attach lag1 port1 rfl) lag1 {} lowPvid).swi.entries
      ofdpaVlanDriver port1 10).pvid = some (.assign 10) := by decide
  refine ⟨fun h => ?_, hlater, hfirst⟩
  rw [h 10 (by decide), hfirst] at hlater
  cases hlater

end NlVlan

end Basebox
