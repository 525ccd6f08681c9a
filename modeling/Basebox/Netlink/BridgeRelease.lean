import Basebox.Lib.Lists
import Basebox.Netlink.SwiFrames
import Basebox.Netlink.BridgeVlans
import Basebox.Netlink.VlanUsers

/-!
# A port that joins the bridge and leaves it again

`cnetlink` disables the VLANs of a port when it is enslaved to the bridge, and enables them when it
is released. In between the port has the VLANs that the bridge says.

* `enslaveAndRelease`: a port is enslaved, its VLANs change any number of times, and it is released.
* `Enslaved`: what holds in between, for the VLANs and the PVID that the port has.
  `Enslaved.gain`, `Enslaved.lose`, `Enslaved.retag`: one turn of the loop of `update_vlans`.
* `enslaveAndRelease_restored`: the switch is as before. The VLANs of the port itself get the VRFs
  that `vlan_vrf` has at that time, and what none of them accounts for may be gone.

No call to the switch fails here, the port is a physical one and the bridge has no VXLAN domain.
-/

namespace Basebox

/-- An entry is as it was, or gone. -/
def SameOrGone {α : Type} (old new : Option α) : Prop := new = old ∨ new = none

theorem SameOrGone.refl {α : Type} (x : Option α) : SameOrGone x x := .inl rfl

theorem SameOrGone.gone {α : Type} (x : Option α) : SameOrGone x none := .inr rfl

theorem SameOrGone.eq_none {α : Type} {x : Option α} (h : SameOrGone none x) : x = none := by
  rcases h with h | h <;> exact h

/-! ## The calls for a bridge port -/

section Calls

variable {M : Type} [DecidableEq M] {fm : VlanDriver M} {s : PortSwitch M}
  {p q : PortId} {v w : Nat}

/-- The switch while a port is in the bridge with the VLANs `c` and the PVID `pv`, compared with
`base`. -/
structure Bridging (fm : VlanDriver M) (base s : PortSwitch M) (p : PortId) (c : Nat → Prop)
    (pv : Option Nat) : Prop where
  others : ∀ q ≠ p, ∀ v < 2 ^ 12, s.entries fm q v = base.entries fm q v
  ingress : ∀ v < 2 ^ 12, ¬ c v →
    SameOrGone (base.entries fm p v).ingress (s.entries fm p v).ingress
  egress : ∀ v < 2 ^ 12, ¬ c v → SameOrGone (base.entries fm p v).egress (s.entries fm p v).egress
  pvid : pv = none → ∀ v < 2 ^ 12, SameOrGone (base.entries fm p v).pvid (s.entries fm p v).pvid
  members : ∀ v < 2 ^ 12, ∀ g, g ∈ s.l2Domain.members v ↔
    g ∈ base.l2Domain.members v ∨ c v ∧ g = fm.groupIdL2Interface p v
  mirrors : ∀ v < 2 ^ 12, L2Domain.Mirrors fm.toFmDriver s.l2Domain s.sw v

variable {base : PortSwitch M} {c : Nat → Prop} {pv : Option Nat}

theorem bridging_refl (hm : ∀ v < 2 ^ 12, L2Domain.Mirrors fm.toFmDriver s.l2Domain s.sw v) :
    Bridging fm s s p (fun _ => False) none where
  others _ _ _ _ := rfl
  ingress _ _ _ := SameOrGone.refl _
  egress _ _ _ := SameOrGone.refl _
  pvid _ _ _ := SameOrGone.refl _
  members v _ g := by simp
  mirrors := hm

theorem Bridging.congr {c' : Nat → Prop} (h : Bridging fm base s p c pv) (hc : ∀ v, c v ↔ c' v) :
    Bridging fm base s p c' pv := by
  rwa [← funext fun v => propext (hc v)]

/-- Calls for the port: what is left to show is what they do to it. -/
theorem Bridging.calls (hE : fm.Encodes) (h : Bridging fm base s p c pv) {cs : List SwiCall}
    (hcs : ∀ x ∈ cs, x.port = p ∧ x.vid < 2 ^ 12) {c' : Nat → Prop} {pv' : Option Nat}
    (hingress : ∀ v < 2 ^ 12, ¬ c' v →
      SameOrGone (base.entries fm p v).ingress ((execAll fm cs s).entries fm p v).ingress)
    (hegress : ∀ v < 2 ^ 12, ¬ c' v →
      SameOrGone (base.entries fm p v).egress ((execAll fm cs s).entries fm p v).egress)
    (hpvid : pv' = none → ∀ v < 2 ^ 12,
      SameOrGone (base.entries fm p v).pvid ((execAll fm cs s).entries fm p v).pvid)
    (hmembers : ∀ v < 2 ^ 12, ∀ g, g ∈ (execAll fm cs s).l2Domain.members v ↔
      g ∈ base.l2Domain.members v ∨ c' v ∧ g = fm.groupIdL2Interface p v) :
    Bridging fm base (execAll fm cs s) p c' pv' where
  others q hq v hv := by
    refine execAll_keeps (I := fun s => s.entries fm q v = base.entries fm q v)
      (h.others q hq v hv) fun x hx s hs => ?_
    obtain ⟨hport, hvid⟩ := hcs x hx
    exact (entries_exec_of_port_ne hE hv hvid (hport ▸ hq)).trans hs
  ingress := hingress
  egress := hegress
  pvid := hpvid
  members := hmembers
  mirrors := execAll_keeps (I := fun s => ∀ v < 2 ^ 12,
      L2Domain.Mirrors fm.toFmDriver s.l2Domain s.sw v) h.mirrors
    fun x hx _ hs => mirrors_exec hE hs (hcs x hx).2

section Steps

variable (hE : fm.Encodes) (h : Bridging fm base s p c pv) (hv : v < 2 ^ 12)
include hE h hv

/-- The two calls for a VLAN that the port gets. -/
theorem Bridging.gain (hlag : Nbi.isLag p = false) (u : Bool) (vrfId : Nat) :
    Bridging fm base (execAll fm
      [.egressBridgePortVlanAdd p v u, .ingressPortVlanAdd p v false vrfId] s) p
      (fun w => c w ∨ w = v) pv := by
  have heff : ∀ w < 2 ^ 12, (execAll fm
      [.egressBridgePortVlanAdd p v u, .ingressPortVlanAdd p v false vrfId] s).entries fm p w =
        (SwiCall.ingressPortVlanAdd p v false vrfId).effect p w
          ((SwiCall.egressBridgePortVlanAdd p v u).effect p w (s.entries fm p w)) := by
    intro w hw
    rw [execAll_cons, execAll_cons, execAll_nil,
      entries_exec hE _ p hw (.ingressPortVlanAdd p v false vrfId) ⟨hv, by simp⟩,
      entries_exec hE _ p hw (.egressBridgePortVlanAdd p v u) ⟨hv, by simp⟩]
  refine h.calls hE ?_ ?_ ?_ ?_ ?_
  · exact List.forall_mem_cons.mpr ⟨⟨rfl, hv⟩, List.forall_mem_singleton.mpr ⟨rfl, hv⟩⟩
  · intro w hw hn
    obtain ⟨hc, hwv⟩ := not_or.mp hn
    rw [heff w hw]
    simpa [SwiCall.effect, hwv] using h.ingress w hw hc
  · intro w hw hn
    obtain ⟨hc, hwv⟩ := not_or.mp hn
    rw [heff w hw]
    simpa [SwiCall.effect, hwv] using h.egress w hw hc
  · intro hpv w hw
    rw [heff w hw]
    simpa [SwiCall.effect] using h.pvid hpv w hw
  · intro w hw g
    change g ∈ ((SwiCall.egressBridgePortVlanAdd p v u).exec fm s).l2Domain.members w ↔ _
    rw [members_egressBridgePortVlanAdd hlag]
    by_cases hwv : w = v
    · subst hwv
      rw [if_pos rfl, Finset.mem_insert, h.members w hw]
      tauto
    · rw [if_neg hwv, h.members w hw, or_iff_left hwv]

/-- The two calls for a VLAN that the port loses. -/
theorem Bridging.lose (hnot : fm.groupIdL2Interface p v ∉ base.l2Domain.members v) (vrfId : Nat) :
    Bridging fm base (execAll fm
      [.egressBridgePortVlanRemove p v, .ingressPortVlanRemove p v false vrfId] s) p
      (fun w => c w ∧ w ≠ v) pv := by
  have hdom : c v → v ∈ s.l2Domain := by
    intro hc
    have hg : fm.groupIdL2Interface p v ∈ s.l2Domain.members v :=
      (h.members v hv _).mpr (.inr ⟨hc, rfl⟩)
    by_contra hno
    rw [L2Domain.members, Table.not_mem_iff_lookup.mp hno] at hg
    cases hg
  have heff : ∀ w < 2 ^ 12, (execAll fm
      [.egressBridgePortVlanRemove p v, .ingressPortVlanRemove p v false vrfId] s).entries fm p w =
        { s.entries fm p w with
          ingress := if w = v then none else (s.entries fm p w).ingress
          egress := if w = v ∧ v ∈ s.l2Domain then none else (s.entries fm p w).egress } := by
    intro w hw
    rw [execAll_cons, execAll_cons, execAll_nil,
      entries_exec hE _ p hw (.ingressPortVlanRemove p v false vrfId) ⟨hv, by simp⟩,
      entries_egressBridgePortVlanRemove hE s p p hw hv]
    simp [SwiCall.effect]
  have hlost : ∀ w, ¬ (c w ∧ w ≠ v) → w ≠ v → ¬ c w := fun w hn hwv hc => hn ⟨hc, hwv⟩
  refine h.calls hE ?_ ?_ ?_ ?_ ?_
  · exact List.forall_mem_cons.mpr ⟨⟨rfl, hv⟩, List.forall_mem_singleton.mpr ⟨rfl, hv⟩⟩
  · intro w hw hn
    rw [heff w hw]
    by_cases hwv : w = v
    · simpa [hwv] using SameOrGone.gone _
    · simpa [hwv] using h.ingress w hw (hlost w hn hwv)
  · intro w hw hn
    rw [heff w hw]
    simp only
    split
    · exact SameOrGone.gone _
    · rename_i hstay
      refine h.egress w hw fun hc => hn ⟨hc, ?_⟩
      rintro rfl
      exact hstay ⟨rfl, hdom hc⟩
  · intro hpv w hw
    rw [heff w hw]
    exact h.pvid hpv w hw
  · intro w hw g
    change g ∈ ((SwiCall.egressBridgePortVlanRemove p v).exec fm s).l2Domain.members w ↔ _
    rw [members_egressBridgePortVlanRemove]
    by_cases hwv : w = v
    · subst hwv
      rw [if_pos rfl, Finset.mem_erase, h.members w hw]
      constructor
      · rintro ⟨hne, hg | hg⟩
        · exact .inl hg
        · exact absurd hg.2 hne
      · rintro (hg | hg)
        · exact ⟨fun e => hnot (e ▸ hg), .inl hg⟩
        · exact absurd rfl hg.1.2
    · rw [if_neg hwv, h.members w hw, and_iff_left hwv]

/-- A VLAN of the port becomes tagged or untagged. -/
theorem Bridging.retag (hc : c v) (u : Bool) :
    Bridging fm base (execAll fm [.egressPortVlanAdd p v u true] s) p c pv := by
  have heff : ∀ w < 2 ^ 12, (execAll fm [.egressPortVlanAdd p v u true] s).entries fm p w =
      (SwiCall.egressPortVlanAdd p v u true).effect p w (s.entries fm p w) :=
    fun w hw => entries_exec hE s p hw (.egressPortVlanAdd p v u true) ⟨hv, by simp⟩
  refine h.calls hE ?_ ?_ ?_ ?_ h.members
  · exact List.forall_mem_singleton.mpr ⟨rfl, hv⟩
  · intro w hw hn
    rw [heff w hw]
    exact h.ingress w hw hn
  · intro w hw hn
    have hwv : w ≠ v := fun e => hn (e ▸ hc)
    rw [heff w hw]
    simpa [SwiCall.effect, hwv] using h.egress w hw hn
  · intro hpv w hw
    rw [heff w hw]
    exact h.pvid hpv w hw

/-- The port gets a PVID. -/
theorem Bridging.addPvid (v' : Nat) :
    Bridging fm base (execAll fm [.ingressPortPvidAdd p v] s) p c (some v') := by
  have heff : ∀ w < 2 ^ 12, (execAll fm [.ingressPortPvidAdd p v] s).entries fm p w =
      (SwiCall.ingressPortPvidAdd p v).effect p w (s.entries fm p w) :=
    fun w hw => entries_exec hE s p hw (.ingressPortPvidAdd p v) ⟨hv, by simp⟩
  refine h.calls hE ?_ ?_ ?_ (fun hpv => nomatch hpv) h.members
  · exact List.forall_mem_singleton.mpr ⟨rfl, hv⟩
  · intro w hw hn
    rw [heff w hw]
    exact h.ingress w hw hn
  · intro w hw hn
    rw [heff w hw]
    exact h.egress w hw hn

/-- The port loses its PVID. -/
theorem Bridging.removePvid :
    Bridging fm base (execAll fm [.ingressPortPvidRemove p v] s) p c none := by
  have heff : ∀ w < 2 ^ 12, (execAll fm [.ingressPortPvidRemove p v] s).entries fm p w =
      (SwiCall.ingressPortPvidRemove p v).effect p w (s.entries fm p w) :=
    fun w hw => entries_exec hE s p hw (.ingressPortPvidRemove p v) ⟨hv, by simp⟩
  refine h.calls hE ?_ ?_ ?_ ?_ h.members
  · exact List.forall_mem_singleton.mpr ⟨rfl, hv⟩
  · intro w hw hn
    rw [heff w hw]
    exact h.ingress w hw hn
  · intro w hw hn
    rw [heff w hw]
    exact h.egress w hw hn
  · intro _ w hw
    rw [heff w hw]
    simpa [SwiCall.effect] using SameOrGone.gone _

end Steps

end Calls

namespace NlBridge

variable {M : Type} [DecidableEq M]

/-! ## The port -/

section Port

variable (env : VlanEnv M)

/-- What `add_interface` does with the VLANs of a port. -/
def addInterface (s : NlBridge M) (p : PortId) (new : BrVlan) : Except Crash (NlBridge M) :=
  s.updateVlans env {} (.port p) [] none (some new)

/-- What `update_interface` does, if the STP state is the same. -/
def updateInterface (s : NlBridge M) (p : PortId) (old new : BrVlan) : Except Crash (NlBridge M) :=
  s.updateVlans env {} (.port p) [] (some old) (some new)

/-- What `delete_interface` does with the VLANs of a port. -/
def deleteInterface (s : NlBridge M) (p : PortId) (old : BrVlan) : Except Crash (NlBridge M) :=
  s.updateVlans env {} (.port p) [] (some old) none

/-- The VLANs of the port change one time after the other, and then it is released. -/
def updateAndDelete (p : PortId) : NlBridge M → BrVlan → List BrVlan → Except Crash (NlBridge M)
  | s, old, [] => s.deleteInterface env p old
  | s, old, new :: news => (s.updateInterface env p old new).bind fun s =>
    updateAndDelete p s new news

/-- `link_created` and `link_deleted` of `cnetlink` for a port of the bridge, with the updates in
between. -/
def enslaveAndRelease (s : NlBridge M) (p : PortId) (new : BrVlan) (news : List BrVlan) :
    Except Crash (NlBridge M) :=
  (({ s with vlan := (s.vlan.disableVlans env allOk p).2 } : NlBridge M).addInterface env p new).bind
    fun s => (updateAndDelete env p s new news).map
      fun s => { s with vlan := (s.vlan.enableVlans env allOk p).2 }

/-- A physical port that is not in the bridge, with its VLANs programmed: VLAN `port_untagged_vid`
untagged and the others tagged. -/
structure Unbridged (p : PortId) (s : NlBridge M) : Prop where
  port : p.1 ≠ 0
  physical : Nbi.isLag p = false
  noDomain : s.vxlanDomBitmap = ∅
  noBridgeVlan : s.vlan.bridgeVlan.lookup p = none
  noPvid : s.vlan.portPvid.lookup p = none
  noFlood : ∀ v < 2 ^ 12, env.fm.groupIdL2Interface p v ∉ s.vlan.swi.l2Domain.members v
  valid : ∀ v, (p, v) ∈ s.vlan.portVlan → NlVlan.isVidValid v = true
  ingress : ∀ v, (p, v) ∈ s.vlan.portVlan →
    ∃ vrfId, (s.vlan.swi.entries env.fm p v).ingress = some (.filter vrfId)
  egress : ∀ v, (p, v) ∈ s.vlan.portVlan →
    (s.vlan.swi.entries env.fm p v).egress = some (interfaceOf p (v == env.portUntaggedVid))
  pvid : (p, env.portUntaggedVid) ∈ s.vlan.portVlan →
    (s.vlan.swi.entries env.fm p env.portUntaggedVid).pvid = some (.assign env.portUntaggedVid)
  /-- The calls that the switch has got. -/
  reached : ∃ cs : List SwiCall, (∀ c ∈ cs, c.vid < 2 ^ 12) ∧ s.vlan.swi = execAll env.fm cs {}

/-- The switch of `s'` is that of `s`, and `nl_vlan` has no record of the port in the bridge. The
VLANs of the port itself have the VRFs of `vlan_vrf`; other entries of the port may be gone. -/
structure Restored (p : PortId) (s s' : NlBridge M) : Prop where
  noBridgeVlan : s'.vlan.bridgeVlan.lookup p = none
  noPvid : s'.vlan.portPvid.lookup p = none
  others : ∀ q ≠ p, ∀ v < 2 ^ 12,
    s'.vlan.swi.entries env.fm q v = s.vlan.swi.entries env.fm q v
  ingress : ∀ v, (p, v) ∈ s.vlan.portVlan →
    (s'.vlan.swi.entries env.fm p v).ingress = some (.filter (s.vlan.getVrfId v))
  egress : ∀ v, (p, v) ∈ s.vlan.portVlan →
    (s'.vlan.swi.entries env.fm p v).egress = (s.vlan.swi.entries env.fm p v).egress
  pvid : (p, env.portUntaggedVid) ∈ s.vlan.portVlan → ∀ v < 2 ^ 12,
    (s'.vlan.swi.entries env.fm p v).pvid = (s.vlan.swi.entries env.fm p v).pvid
  restIngress : ∀ v < 2 ^ 12, (p, v) ∉ s.vlan.portVlan →
    SameOrGone (s.vlan.swi.entries env.fm p v).ingress (s'.vlan.swi.entries env.fm p v).ingress
  restEgress : ∀ v < 2 ^ 12, (p, v) ∉ s.vlan.portVlan →
    SameOrGone (s.vlan.swi.entries env.fm p v).egress (s'.vlan.swi.entries env.fm p v).egress
  restPvid : (p, env.portUntaggedVid) ∉ s.vlan.portVlan → ∀ v < 2 ^ 12,
    SameOrGone (s.vlan.swi.entries env.fm p v).pvid (s'.vlan.swi.entries env.fm p v).pvid
  flood : ∀ v < 2 ^ 12,
    s'.vlan.swi.sw.groups.lookup (env.fm.groupIdL2Flood v v) =
        s.vlan.swi.sw.groups.lookup (env.fm.groupIdL2Flood v v) ∧
      s'.vlan.swi.sw.flows.lookup (.dlfVlan v) = s.vlan.swi.sw.flows.lookup (.dlfVlan v)

end Port

/-! ## While the port is in the bridge -/

/-- What holds while the port is in the bridge with the VLANs `c` and the PVID `pv`, compared with
`base` before it joined. -/
structure Enslaved (env : VlanEnv M) (p : PortId) (base s : NlVlan M) (c : Nat → Prop)
    (pv : Option Nat) : Prop where
  portVlan : s.portVlan = base.portVlan
  vlanVrf : s.vlanVrf = base.vlanVrf
  recorded : ∀ v, v ∈ s.vlansOfPort p ↔ c v
  notEmpty : ∀ vlans, s.bridgeVlan.lookup p = some vlans → vlans.entries ≠ []
  pvid : s.portPvid.lookup p = pv
  swi : Bridging env.fm base.swi s.swi p c pv

section Enslaved

variable {env : VlanEnv M} {p : PortId} {base s : NlVlan M} {c c' : Nat → Prop} {pv : Option Nat}
  {v : Nat}

theorem Enslaved.congr (h : Enslaved env p base s c pv) (hc : ∀ v, c v ↔ c' v) :
    Enslaved env p base s c' pv := by
  rwa [← funext fun v => propext (hc v)]

theorem Enslaved.pvid_congr {pv' : Option Nat} (h : Enslaved env p base s c pv) (hpv : pv = pv') :
    Enslaved env p base s c pv' := hpv ▸ h

omit [DecidableEq M] in
theorem bridgeVlanPorts_physical (hlag : Nbi.isLag p = false) :
    NlVlan.bridgeVlanPorts env p = [p] := by
  simp [NlVlan.bridgeVlanPorts, VlanEnv.lagMembers, hlag]

theorem entries_ne_nil_of_mem {K V : Type} [DecidableEq K] {t : Table K V} {k : K} (h : k ∈ t) :
    t.entries ≠ [] := by
  intro he
  obtain ⟨x, hx⟩ := Table.mem_iff_lookup.mp h
  have := AList.mem_lookup_iff.mp (Option.mem_def.mpr hx)
  rw [he] at this
  cases this

variable (hE : env.fm.Encodes) (hport : p.1 ≠ 0) (hlag : Nbi.isLag p = false)
  (h : Enslaved env p base s c pv)
include hE hport hlag h

theorem Enslaved.gain (hv : 1 ≤ v ∧ v < 2 ^ 12) (tagged : Bool) :
    Enslaved env p base (NlVlan.addBridgeVlan env allOk s p 0 v false tagged).2
      (fun w => c w ∨ w = v) pv := by
  rw [NlVlan.addBridgeVlan_ok hport (NlVlan.isVidValid_iff.mpr hv)]
  have hmem : ∀ w, w ∈ (s.vlansOfPort p).emplace v (0, tagged) ↔ c w ∨ w = v := by
    intro w
    rw [← h.recorded w, Table.mem_iff_lookup, Table.mem_iff_lookup, Table.lookup_emplace]
    by_cases hwv : w = v <;> simp [hwv]
  refine ⟨h.portVlan, h.vlanVrf, fun w => ?_, fun vlans hl => ?_, h.pvid, ?_⟩
  · simpa [NlVlan.vlansOfPort] using hmem w
  · simp only [Table.lookup_insert_ite, if_true, Option.some.injEq] at hl
    subst hl
    exact entries_ne_nil_of_mem ((hmem v).mpr (.inr rfl))
  · simp only [NlVlan.addBridgeVlanCalls, bridgeVlanPorts_physical hlag, List.flatMap_cons,
      List.flatMap_nil, List.append_nil]
    exact h.swi.gain hE hv.2 hlag _ _

theorem Enslaved.lose (hv : 1 ≤ v ∧ v < 2 ^ 12)
    (hnot : env.fm.groupIdL2Interface p v ∉ base.swi.l2Domain.members v) :
    Enslaved env p base (NlVlan.removeBridgeVlan env allOk s p 0 v false)
      (fun w => c w ∧ w ≠ v) pv := by
  rw [NlVlan.removeBridgeVlan_ok hport (NlVlan.isVidValid_iff.mpr hv)]
  have hswi := h.swi.lose hE hv.2 hnot (s.getVrfId v)
  have hcalls : NlVlan.removeBridgeVlanCalls env p v false (s.getVrfId v) =
      [.egressBridgePortVlanRemove p v, .ingressPortVlanRemove p v false (s.getVrfId v)] := by
    simp [NlVlan.removeBridgeVlanCalls, bridgeVlanPorts_physical hlag]
  rw [← hcalls] at hswi
  cases hl : s.bridgeVlan.lookup p with
  | none =>
    have hnone : ∀ w, ¬ c w := by
      intro w hw
      have := (h.recorded w).mpr hw
      rw [NlVlan.vlansOfPort, hl] at this
      cases this
    refine ⟨h.portVlan, h.vlanVrf, fun w => ?_, fun vlans hl' => ?_, h.pvid, hswi⟩
    · exact (h.recorded w).trans (iff_of_false (hnone w) fun hw => hnone w hw.1)
    · exact h.notEmpty vlans hl'
  | some vlans =>
    have hmem : ∀ w, w ∈ vlans.erase v ↔ c w ∧ w ≠ v := by
      intro w
      rw [AList.mem_erase, ← h.recorded w, NlVlan.vlansOfPort, hl, Option.getD_some]
      exact and_comm
    refine ⟨h.portVlan, h.vlanVrf, fun w => ?_, fun vlans' hl' => ?_, h.pvid, hswi⟩
    · rw [← hmem w]
      simp only [NlVlan.vlansOfPort]
      split
      · rename_i hnil
        simp only [Table.lookup_erase_ite, if_true, Option.getD_none]
        exact iff_of_false (AList.notMem_empty w) fun hw => entries_ne_nil_of_mem hw hnil
      · simp only [Table.lookup_insert_ite, if_true, Option.getD_some]
    · simp only at hl'
      split at hl'
      · simp only [Table.lookup_erase_ite, if_true, reduceCtorEq] at hl'
      · rename_i hnil
        simp only [Table.lookup_insert_ite, if_true, Option.some.injEq] at hl'
        subst hl'
        exact hnil

theorem Enslaved.retag (hv : v < 2 ^ 12) (untagged : Bool) :
    Enslaved env p base (NlVlan.updateEgressBridgeVlan env allOk s p v untagged).2 c pv := by
  by_cases hval : NlVlan.isVidValid v = true
  · rw [NlVlan.updateEgressBridgeVlan_ok hport hval]
    cases hl : (s.vlansOfPort p).lookup v with
    | none => exact h
    | some x =>
      obtain ⟨outerVid, tagged⟩ := x
      have hc : c v := (h.recorded v).mp (Table.mem_iff_lookup.mpr ⟨_, hl⟩)
      have hmem : ∀ w, w ∈ (s.vlansOfPort p).insert v (outerVid, !untagged) ↔ c w := by
        intro w
        rw [AList.mem_insert, h.recorded w]
        exact or_iff_right_of_imp fun e => e ▸ hc
      refine ⟨h.portVlan, h.vlanVrf, fun w => ?_, fun vlans hl => ?_, h.pvid, ?_⟩
      · simpa [NlVlan.vlansOfPort] using hmem w
      · simp only [Table.lookup_insert_ite, if_true, Option.some.injEq] at hl
        subst hl
        exact entries_ne_nil_of_mem ((hmem v).mpr hc)
      · simp only [bridgeVlanPorts_physical hlag, List.map_cons, List.map_nil]
        exact h.swi.retag hE hv hc untagged
  · have hnone : NlVlan.updateEgressBridgeVlan env allOk s p v untagged = (-EINVAL, s) := by
      simp [NlVlan.updateEgressBridgeVlan, hval]
    rw [hnone]
    exact h

omit hport in
theorem Enslaved.removeOldPvid {old : BrVlan} (new : BrVlan) (hpv : pv = recordedPvid old) :
    (removeOldPvid env {} s p old new).1 = 0 ∧
      Enslaved env p base (removeOldPvid env {} s p old new).2 c
        (if new.pvid = old.pvid then pv else none) := by
  unfold NlBridge.removeOldPvid
  by_cases hne : new.pvid = old.pvid
  · rw [if_neg fun hch => hch.1 hne, if_pos hne]
    exact ⟨rfl, h⟩
  · rw [if_neg hne]
    cases hval : NlVlan.isVidValid old.pvid with
    | false =>
      rw [if_neg fun hch => nomatch hch.2]
      rw [recordedPvid, hval] at hpv
      exact ⟨rfl, h.pvid_congr hpv⟩
    | true =>
      rw [if_pos ⟨hne, rfl⟩]
      rw [recordedPvid, hval, if_pos rfl] at hpv
      change (NlVlan.removeIngressPvid env allOk s p old.pvid).1 = 0 ∧
        Enslaved env p base (NlVlan.removeIngressPvid env allOk s p old.pvid).2 c none
      rw [NlVlan.removeIngressPvid_ok (h.pvid.trans hpv), bridgeVlanPorts_physical hlag]
      refine ⟨rfl, h.portVlan, h.vlanVrf, h.recorded, h.notEmpty, ?_,
        h.swi.removePvid hE old.pvid_lt⟩
      simp only [Table.lookup_erase_ite, if_true]

omit hport in
theorem Enslaved.addNewPvid {old new : BrVlan}
    (hpv : pv = if new.pvid = old.pvid then recordedPvid old else none) :
    Enslaved env p base (addNewPvid env {} s p old new) c (recordedPvid new) := by
  unfold NlBridge.addNewPvid
  by_cases hne : new.pvid = old.pvid
  · simp only [hne, ne_eq, not_true_eq_false, false_and, if_false, recordedPvid] at hpv ⊢
    exact h.pvid_congr hpv
  · rw [if_neg hne] at hpv
    cases hval : NlVlan.isVidValid new.pvid with
    | false =>
      simp only [hne, ne_eq, not_false_eq_true, true_and, Bool.false_eq_true, if_false,
        recordedPvid, hval]
      exact h.pvid_congr hpv
    | true =>
      simp only [hne, ne_eq, not_false_eq_true, true_and, if_true, recordedPvid, hval]
      change Enslaved env p base (NlVlan.addIngressPvid env allOk s p new.pvid).2 c (some new.pvid)
      rw [NlVlan.addIngressPvid_ok (h.pvid.trans hpv), bridgeVlanPorts_physical hlag]
      refine ⟨h.portVlan, h.vlanVrf, h.recorded, h.notEmpty, ?_,
        h.swi.addPvid hE new.pvid_lt new.pvid⟩
      simp only [Table.lookup_emplace, if_true, h.pvid, hpv, Option.getD_none]

end Enslaved

/-- The VLANs of the port have changed. -/
theorem Enslaved.updateVlans {env : VlanEnv M} (hE : env.fm.Encodes) {p : PortId} (hport : p.1 ≠ 0)
    (hlag : Nbi.isLag p = false) {base : NlVlan M} {s : NlBridge M}
    (hflood : ∀ v < 2 ^ 12, env.fm.groupIdL2Interface p v ∉ base.swi.l2Domain.members v)
    (old new : Option BrVlan) (hdom : ∀ v ∈ (new.getD .noVlans).vlanBitmap, v ∉ s.vxlanDomBitmap)
    (h : Enslaved env p base s.vlan (· ∈ (old.getD .noVlans).vlanBitmap)
      (recordedPvid (old.getD .noVlans))) :
    Runs (fun s' : NlBridge M => s'.vxlanDomBitmap = s.vxlanDomBitmap ∧
        Enslaved env p base s'.vlan (· ∈ (new.getD .noVlans).vlanBitmap)
          (recordedPvid (new.getD .noVlans)))
      (s.updateVlans env {} (.port p) [] old new) := by
  have hknown : (BrLink.port p).unknown = false := by
    simpa [BrLink.unknown] using hport
  generalize hold : old.getD .noVlans = old' at h
  generalize hnew : new.getD .noVlans = new' at hdom
  obtain ⟨hrv, hremove⟩ := h.removeOldPvid hE hlag new' rfl
  refine runs_updateVlans env {} (I := fun done (s' : NlBridge M) =>
    s'.vxlanDomBitmap = s.vxlanDomBitmap ∧
      Enslaved env p base s'.vlan (vlansAfter old' new' done)
        (if new'.pvid = old'.pvid then recordedPvid old' else none)) hold hnew ?_ ⟨rfl, ?_⟩ ?_ ?_ ?_
  · rintro (rfl | hunknown)
    · exact ⟨rfl, h⟩
    · rw [hknown] at hunknown
      cases hunknown
  · exact hremove.congr fun w => vlansAfter_nil.symm
  · exact fun hneg => absurd hneg (Int.not_lt.mpr hrv.ge)
  · rintro done x s' hx ⟨hdom', hs'⟩
    cases x with
    | vlan v =>
      by_cases hmem : v ∈ new'.vlanBitmap
      · have hnodom : v ∉ s'.vxlanDomBitmap := by
          rw [hdom']
          exact hdom v hmem
        simp only [change, changeVlan, hmem, if_true, hnodom, if_false]
        refine ⟨hdom', (hs'.gain hE hport hlag (new'.vlan_valid v hmem) _).congr fun w => ?_⟩
        rw [vlansAfter_vlan]
        by_cases hwv : w = v <;> simp [hwv, hmem]
      · have hv := valid_of_change hx
        simp only [change, changeVlan, hmem, if_false]
        refine ⟨hdom', (hs'.lose hE hport hlag hv (hflood v hv.2)).congr fun w => ?_⟩
        rw [vlansAfter_vlan]
        by_cases hwv : w = v <;> simp [hwv, hmem]
    | untagged v =>
      have hv := lt_of_bit_ne old'.untagged_lt new'.untagged_lt (mem_changes_untagged.mp hx).1
      exact ⟨hdom', (hs'.retag hE hport hlag hv _).congr fun w => vlansAfter_untagged.symm⟩
  · rintro s' ⟨hdom', hs'⟩
    exact ⟨hdom', (hs'.addNewPvid hE hlag rfl).congr fun w => vlansAfter_changes⟩

/-! ## Disabling and enabling the VLANs of the port -/

section OwnVlans

variable {env : VlanEnv M} {p : PortId} {s : NlVlan M}

/-- The calls of `disable_vlan` for a physical port. -/
def disableVlanCalls (env : VlanEnv M) (p : PortId) (s : NlVlan M) (vid : Nat) : List SwiCall :=
  [.ingressPortVlanRemove p vid (vid == env.portUntaggedVid) (s.getVrfId vid),
    .l2AddrRemoveAllInVlan p vid, .egressPortVlanRemove p vid]

/-- The calls of `enable_vlan` for a physical port. -/
def enableVlanCalls (env : VlanEnv M) (p : PortId) (s : NlVlan M) (vid : Nat) : List SwiCall :=
  [.ingressPortVlanAdd p vid (vid == env.portUntaggedVid) (s.getVrfId vid),
    .egressPortVlanAdd p vid (vid == env.portUntaggedVid) false]

theorem disableVlans_physical (hport : p.1 ≠ 0) (hlag : Nbi.isLag p = false) :
    (s.disableVlans env allOk p).2 =
      { s with swi := execAll env.fm ((s.vlansOf p).flatMap (disableVlanCalls env p s)) s.swi } := by
  simp only [NlVlan.disableVlans, hport, if_false, execAll, List.foldl_flatMap]
  congr 2
  funext sw vid
  simp [NlVlan.disableVlan, NlVlan.removeIngressVlan, VlanEnv.lagMembers, hlag, swiCall, allOk,
    swiEach, disableVlanCalls, bne]

theorem enableVlans_physical (hport : p.1 ≠ 0) (hlag : Nbi.isLag p = false) :
    (s.enableVlans env allOk p).2 =
      { s with swi := execAll env.fm ((s.vlansOf p).flatMap (enableVlanCalls env p s)) s.swi } := by
  simp only [NlVlan.enableVlans, hport, if_false, execAll, List.foldl_flatMap]
  congr 2
  funext sw vid
  simp [NlVlan.enableVlan, NlVlan.addIngressVlan, VlanEnv.lagMembers, hlag, swiCall, allOk,
    swiUntilFail, enableVlanCalls, bne]

/-- Calls for the port that are not about the flood groups. -/
theorem own_frame {fm : VlanDriver M} (hE : fm.Encodes) {sw : PortSwitch M} {cs : List SwiCall}
    (hm : ∀ v < 2 ^ 12, L2Domain.Mirrors fm.toFmDriver sw.l2Domain sw.sw v)
    (hcs : ∀ x ∈ cs, x.port = p ∧ x.vid < 2 ^ 12 ∧ ∀ sw, (x.exec fm sw).l2Domain = sw.l2Domain) :
    (∀ q ≠ p, ∀ v < 2 ^ 12, (execAll fm cs sw).entries fm q v = sw.entries fm q v) ∧
    (execAll fm cs sw).l2Domain = sw.l2Domain ∧
    ∀ v < 2 ^ 12,
      L2Domain.Mirrors fm.toFmDriver (execAll fm cs sw).l2Domain (execAll fm cs sw).sw v := by
  refine execAll_keeps (I := fun sw' => (∀ q ≠ p, ∀ v < 2 ^ 12,
    sw'.entries fm q v = sw.entries fm q v) ∧ sw'.l2Domain = sw.l2Domain ∧
      ∀ v < 2 ^ 12, L2Domain.Mirrors fm.toFmDriver sw'.l2Domain sw'.sw v)
    ⟨fun _ _ _ _ => rfl, rfl, hm⟩ ?_
  rintro x hx sw' ⟨hothers, hdom, hm'⟩
  obtain ⟨hport, hvid, hx⟩ := hcs x hx
  refine ⟨fun q hq v hv => ?_, (hx sw').trans hdom, mirrors_exec hE hm' hvid⟩
  exact (entries_exec_of_port_ne hE hv hvid (hport ▸ hq)).trans (hothers q hq v hv)

variable (env p s) in
theorem disableVlanCalls_own {vids : List Nat} (hvids : ∀ w ∈ vids, w < 2 ^ 12) :
    ∀ x ∈ vids.flatMap (disableVlanCalls env p s), x.port = p ∧ x.vid < 2 ^ 12 ∧
      ∀ sw, (x.exec env.fm sw).l2Domain = sw.l2Domain := by
  intro x hx
  obtain ⟨w, hw, hx⟩ := List.mem_flatMap.mp hx
  simp only [disableVlanCalls, List.mem_cons, List.not_mem_nil, or_false] at hx
  rcases hx with rfl | rfl | rfl <;> exact ⟨rfl, hvids w hw, fun _ => rfl⟩

variable (env p s) in
theorem enableVlanCalls_own {vids : List Nat} (hvids : ∀ w ∈ vids, w < 2 ^ 12) :
    ∀ x ∈ vids.flatMap (enableVlanCalls env p s), x.port = p ∧ x.vid < 2 ^ 12 ∧
      ∀ sw, (x.exec env.fm sw).l2Domain = sw.l2Domain := by
  intro x hx
  obtain ⟨w, hw, hx⟩ := List.mem_flatMap.mp hx
  simp only [enableVlanCalls, List.mem_cons, List.not_mem_nil, or_false] at hx
  rcases hx with rfl | rfl <;> exact ⟨rfl, hvids w hw, fun _ => rfl⟩

variable (hE : env.fm.Encodes) {v : Nat} (hv : v < 2 ^ 12) {vids : List Nat}
  (hvids : ∀ w ∈ vids, w < 2 ^ 12) (sw : PortSwitch M)
include hE hv hvids

/-- The entries of the port after its VLANs are disabled. -/
theorem entries_disableVlanCalls :
    (execAll env.fm (vids.flatMap (disableVlanCalls env p s)) sw).entries env.fm p v =
      { ingress := if v ∈ vids then none else (sw.entries env.fm p v).ingress
        pvid := if env.portUntaggedVid ∈ vids then none else (sw.entries env.fm p v).pvid
        egress := if v ∈ vids then none else (sw.entries env.fm p v).egress } := by
  have hturn : ∀ w ∈ vids, ∀ sw : PortSwitch M,
      (execAll env.fm (disableVlanCalls env p s w) sw).entries env.fm p v =
        { ingress := if v = w then none else (sw.entries env.fm p v).ingress
          pvid := if w = env.portUntaggedVid then none else (sw.entries env.fm p v).pvid
          egress := if v = w then none else (sw.entries env.fm p v).egress } := by
    intro w hw sw
    have hw := hvids w hw
    simp only [disableVlanCalls, execAll_cons, execAll_nil]
    rw [entries_exec hE _ p hv (.egressPortVlanRemove p w) ⟨hw, by simp⟩,
      entries_exec hE _ p hv (.l2AddrRemoveAllInVlan p w) ⟨hw, by simp⟩,
      entries_exec hE _ p hv (.ingressPortVlanRemove p w (w == env.portUntaggedVid) (s.getVrfId w))
        ⟨hw, by simp⟩]
    simp [SwiCall.effect]
  have hloop : execAll env.fm (vids.flatMap (disableVlanCalls env p s)) sw =
      vids.foldl (fun sw w => execAll env.fm (disableVlanCalls env p s w) sw) sw :=
    List.foldl_flatMap
  rw [hloop]
  have hingress := foldl_ite (F := fun sw : PortSwitch M => (sw.entries env.fm p v).ingress)
    (G := fun _ => none) (P := fun w => v = w) (fun _ => rfl)
    (fun w hw sw => by rw [hturn w hw sw]) sw
  have hegress := foldl_ite (F := fun sw : PortSwitch M => (sw.entries env.fm p v).egress)
    (G := fun _ => none) (P := fun w => v = w) (fun _ => rfl)
    (fun w hw sw => by rw [hturn w hw sw]) sw
  have hpvid := foldl_ite (F := fun sw : PortSwitch M => (sw.entries env.fm p v).pvid)
    (G := fun _ => none) (P := fun w => w = env.portUntaggedVid) (fun _ => rfl)
    (fun w hw sw => by rw [hturn w hw sw]) sw
  simp only [exists_eq_right, exists_eq_right'] at hingress hegress hpvid
  rw [← hingress, ← hegress, ← hpvid]

/-- The entries of the port after its VLANs are enabled. -/
theorem entries_enableVlanCalls :
    (execAll env.fm (vids.flatMap (enableVlanCalls env p s)) sw).entries env.fm p v =
      { ingress := if v ∈ vids then some (.filter (s.getVrfId v))
          else (sw.entries env.fm p v).ingress
        pvid := if env.portUntaggedVid ∈ vids then some (.assign env.portUntaggedVid)
          else (sw.entries env.fm p v).pvid
        egress := if v ∈ vids then some ((sw.entries env.fm p v).egress.getD
            (interfaceOf p (v == env.portUntaggedVid)))
          else (sw.entries env.fm p v).egress } := by
  have hturn : ∀ w ∈ vids, ∀ sw : PortSwitch M,
      (execAll env.fm (enableVlanCalls env p s w) sw).entries env.fm p v =
        { ingress := if v = w then some (.filter (s.getVrfId v))
            else (sw.entries env.fm p v).ingress
          pvid := if w = env.portUntaggedVid then some (.assign env.portUntaggedVid)
            else (sw.entries env.fm p v).pvid
          egress := if v = w then some ((sw.entries env.fm p v).egress.getD
              (interfaceOf p (v == env.portUntaggedVid)))
            else (sw.entries env.fm p v).egress } := by
    intro w hw sw
    have hw := hvids w hw
    simp only [enableVlanCalls, execAll_cons, execAll_nil]
    rw [entries_exec hE _ p hv (.egressPortVlanAdd p w (w == env.portUntaggedVid) false)
        ⟨hw, by simp⟩,
      entries_exec hE _ p hv (.ingressPortVlanAdd p w (w == env.portUntaggedVid) (s.getVrfId w))
        ⟨hw, by simp⟩]
    by_cases hvw : v = w
    · subst hvw
      by_cases hu : v = env.portUntaggedVid <;> simp [SwiCall.effect, hu]
    · simp only [SwiCall.effect, hvw, and_false, if_false, true_and, beq_iff_eq]
      by_cases hu : w = env.portUntaggedVid <;> simp [hu]
  have hloop : execAll env.fm (vids.flatMap (enableVlanCalls env p s)) sw =
      vids.foldl (fun sw w => execAll env.fm (enableVlanCalls env p s w) sw) sw :=
    List.foldl_flatMap
  rw [hloop]
  have hingress := foldl_ite (F := fun sw : PortSwitch M => (sw.entries env.fm p v).ingress)
    (G := fun _ => some (.filter (s.getVrfId v))) (P := fun w => v = w) (fun _ => rfl)
    (fun w hw sw => by rw [hturn w hw sw]) sw
  have hegress := foldl_ite (F := fun sw : PortSwitch M => (sw.entries env.fm p v).egress)
    (G := fun x => some (x.getD (interfaceOf p (v == env.portUntaggedVid)))) (P := fun w => v = w)
    (fun _ => rfl) (fun w hw sw => by rw [hturn w hw sw]) sw
  have hpvid := foldl_ite (F := fun sw : PortSwitch M => (sw.entries env.fm p v).pvid)
    (G := fun _ => some (.assign env.portUntaggedVid)) (P := fun w => w = env.portUntaggedVid)
    (fun _ => rfl) (fun w hw sw => by rw [hturn w hw sw]) sw
  simp only [exists_eq_right, exists_eq_right'] at hingress hegress hpvid
  rw [← hingress, ← hegress, ← hpvid]

end OwnVlans

/-! ## The round trip -/

section RoundTrip

variable {env : VlanEnv M} {p : PortId} {s : NlBridge M}

/-- The flood groups of a switch that was programmed by calls. -/
theorem reached_mirrors (hE : env.fm.Encodes) {sw : PortSwitch M}
    (h : ∃ cs : List SwiCall, (∀ c ∈ cs, c.vid < 2 ^ 12) ∧ sw = execAll env.fm cs {}) :
    ∀ v < 2 ^ 12, L2Domain.Mirrors env.fm.toFmDriver sw.l2Domain sw.sw v := by
  obtain ⟨cs, hcs, hsw⟩ := h
  rw [hsw]
  exact execAll_keeps (I := fun sw => ∀ v < 2 ^ 12,
      L2Domain.Mirrors env.fm.toFmDriver sw.l2Domain sw.sw v) (fun _ _ => ⟨rfl, rfl⟩)
    fun x hx _ hs => mirrors_exec hE hs (hcs x hx)

theorem Unbridged.mirrors (hE : env.fm.Encodes) (h : Unbridged env p s) :
    ∀ v < 2 ^ 12, L2Domain.Mirrors env.fm.toFmDriver s.vlan.swi.l2Domain s.vlan.swi.sw v :=
  reached_mirrors hE h.reached

theorem Unbridged.vlansOf_lt (h : Unbridged env p s) : ∀ w ∈ s.vlan.vlansOf p, w < 2 ^ 12 :=
  fun w hw => (NlVlan.isVidValid_iff.mp (h.valid w (VlanUsers.mem_vlansOf.mp hw))).2

/-- The port as it joins the bridge. -/
theorem Unbridged.enslaved (hE : env.fm.Encodes) (h : Unbridged env p s) :
    let base := (s.vlan.disableVlans env allOk p).2
    Enslaved env p base base (· ∈ ((none : Option BrVlan).getD .noVlans).vlanBitmap)
      (recordedPvid ((none : Option BrVlan).getD .noVlans)) := by
  rw [disableVlans_physical h.port h.physical]
  have hframe := own_frame hE (h.mirrors hE)
    (disableVlanCalls_own env p s.vlan h.vlansOf_lt)
  refine ⟨rfl, rfl, fun v => ?_, fun vlans hl => ?_, h.noPvid, ?_⟩
  · simp [NlVlan.vlansOfPort, h.noBridgeVlan]
  · exact absurd (hl.symm.trans h.noBridgeVlan) (by simp)
  · exact (bridging_refl hframe.2.2).congr fun v => by simp

omit [DecidableEq M] in
theorem notMem_of_noDomain (hdom : s.vxlanDomBitmap = ∅) (b : BrVlan) :
    ∀ v ∈ b.vlanBitmap, v ∉ s.vxlanDomBitmap := by
  intro v _
  rw [hdom]
  exact Finset.notMem_empty v

/-- The updates of the port, and its release. -/
theorem Enslaved.updateAndDelete (hE : env.fm.Encodes) (hport : p.1 ≠ 0)
    (hlag : Nbi.isLag p = false) {base : NlVlan M}
    (hflood : ∀ v < 2 ^ 12, env.fm.groupIdL2Interface p v ∉ base.swi.l2Domain.members v)
    (news : List BrVlan) {s : NlBridge M} {old : BrVlan} (hdom : s.vxlanDomBitmap = ∅)
    (h : Enslaved env p base s.vlan (· ∈ old.vlanBitmap) (recordedPvid old)) :
    Runs (fun s' : NlBridge M => Enslaved env p base s'.vlan (fun _ => False) none)
      (updateAndDelete env p s old news) := by
  induction news generalizing s old with
  | nil =>
    have hdel := Enslaved.updateVlans hE hport hlag hflood (some old) none
      (notMem_of_noDomain hdom _) h
    exact Runs.imp (fun s' hs' => hs'.2.congr fun v => by simp) hdel
  | cons new news ih =>
    have hupd := Enslaved.updateVlans hE hport hlag hflood (some old) (some new)
      (notMem_of_noDomain hdom _) h
    exact hupd.bind fun s' hs' => ih (hs'.1.trans hdom) hs'.2

/-- Two switches with the same members of a VLAN have the same flood group. -/
theorem flood_eq {fm : FmDriver} {dom dom' : L2Domain} {sw sw' : Switch} {v : Nat}
    (h : L2Domain.Mirrors fm dom sw v) (h' : L2Domain.Mirrors fm dom' sw' v)
    (hmem : dom'.members v = dom.members v) :
    sw'.groups.lookup (fm.groupIdL2Flood v v) = sw.groups.lookup (fm.groupIdL2Flood v v) ∧
      sw'.flows.lookup (.dlfVlan v) = sw.flows.lookup (.dlfVlan v) := by
  rw [h.1, h.2, h'.1, h'.2, hmem]
  exact ⟨rfl, rfl⟩

/-- A port has a record exactly if it has a VLAN. -/
theorem Enslaved.mem_iff {base s : NlVlan M} {c : Nat → Prop} {pv : Option Nat}
    (h : Enslaved env p base s c pv) : p ∈ s.bridgeVlan ↔ ∃ v, c v := by
  simp only [← h.recorded, NlVlan.vlansOfPort]
  cases hl : s.bridgeVlan.lookup p with
  | none => exact iff_of_false (Table.not_mem_iff_lookup.mpr hl) fun ⟨v, hv⟩ => AList.notMem_empty v hv
  | some vlans =>
    refine iff_of_true (Table.mem_iff_lookup.mpr ⟨vlans, hl⟩) ?_
    by_contra hno
    have hempty : vlans = ∅ := Table.eq_empty_of_lookup fun v =>
      Table.not_mem_iff_lookup.mp fun hv => hno ⟨v, hv⟩
    exact absurd (hempty ▸ rfl) (h.notEmpty vlans hl)

theorem Enslaved.lookup_eq_none {base s : NlVlan M} {pv : Option Nat}
    (h : Enslaved env p base s (fun _ => False) pv) : s.bridgeVlan.lookup p = none :=
  Table.not_mem_iff_lookup.mp fun hmem => (h.mem_iff.mp hmem).elim fun _ => id

/-- There is one PVID for a port. -/
theorem entries_pvid {fm : VlanDriver M} (hE : fm.Encodes) {sw : PortSwitch M} (p : PortId)
    (v w : Nat) : (sw.entries fm p v).pvid = (sw.entries fm p w).pvid := by
  exact congrArg sw.vlans.lookup ((hE.pvid p v p w).mpr rfl)

/-- The port leaves the bridge, and its VLANs are enabled. -/
theorem Enslaved.restored (hE : env.fm.Encodes) (h0 : Unbridged env p s) {s' : NlBridge M}
    (h : Enslaved env p (s.vlan.disableVlans env allOk p).2 s'.vlan (fun _ => False) none) :
    Restored env p s { s' with vlan := (s'.vlan.enableVlans env allOk p).2 } := by
  rw [disableVlans_physical h0.port h0.physical] at h
  rw [enableVlans_physical h0.port h0.physical]
  have hvids : s'.vlan.vlansOf p = s.vlan.vlansOf p := by
    simp only [NlVlan.vlansOf, h.portVlan]
  have hvrf : ∀ v, s'.vlan.getVrfId v = s.vlan.getVrfId v := by
    simp only [NlVlan.getVrfId, h.vlanVrf, implies_true]
  have hlt := h0.vlansOf_lt
  have hmem : ∀ v, v ∈ s.vlan.vlansOf p ↔ (p, v) ∈ s.vlan.portVlan := fun v => VlanUsers.mem_vlansOf
  rw [hvids]
  -- The switch before the port joins, and after it has left.
  obtain ⟨hothers₁, hdom₁, -⟩ := own_frame hE (h0.mirrors hE)
    (disableVlanCalls_own env p s.vlan hlt)
  have hentries₁ := fun v hv => entries_disableVlanCalls (p := p) (s := s.vlan) hE (v := v) hv hlt
    s.vlan.swi
  obtain ⟨hothers₂, hdom₂, hmirrors₂⟩ := own_frame hE h.swi.mirrors
    (enableVlanCalls_own env p s'.vlan hlt)
  have hentries₂ := fun v hv => entries_enableVlanCalls (p := p) (s := s'.vlan) hE (v := v) hv hlt
    s'.vlan.swi
  have hingress := fun v hv => h.swi.ingress v hv id
  have hegress := fun v hv => h.swi.egress v hv id
  have hpvid := h.swi.pvid rfl
  have hlt' : ∀ v, (p, v) ∈ s.vlan.portVlan → v < 2 ^ 12 := fun v hv => hlt v ((hmem v).mpr hv)
  constructor
  · exact h.lookup_eq_none
  · exact h.pvid
  · intro q hq v hv
    exact (hothers₂ q hq v hv).trans ((h.swi.others q hq v hv).trans (hothers₁ q hq v hv))
  · intro v hown
    simp only [hentries₂ v (hlt' v hown), if_pos ((hmem v).mpr hown), hvrf]
  · intro v hown
    have hv := hlt' v hown
    have hgone := hegress v hv
    simp only [hentries₁ v hv, if_pos ((hmem v).mpr hown)] at hgone
    simp only [hentries₂ v hv, if_pos ((hmem v).mpr hown), hgone.eq_none, Option.getD_none,
      h0.egress v hown]
  · intro hown v hv
    simp only [hentries₂ v hv, if_pos ((hmem _).mpr hown), ← h0.pvid hown]
    exact entries_pvid hE p _ _
  · intro v hv hno
    have hsame := hingress v hv
    simp only [hentries₁ v hv, if_neg (mt (hmem v).mp hno)] at hsame
    simpa only [hentries₂ v hv, if_neg (mt (hmem v).mp hno)] using hsame
  · intro v hv hno
    have hsame := hegress v hv
    simp only [hentries₁ v hv, if_neg (mt (hmem v).mp hno)] at hsame
    simpa only [hentries₂ v hv, if_neg (mt (hmem v).mp hno)] using hsame
  · intro hno v hv
    have hsame := hpvid v hv
    simp only [hentries₁ v hv, if_neg (mt (hmem _).mp hno)] at hsame
    simpa only [hentries₂ v hv, if_neg (mt (hmem _).mp hno)] using hsame
  · intro v hv
    refine flood_eq (h0.mirrors hE v hv) (hmirrors₂ v hv) (Finset.ext fun g => ?_)
    rw [hdom₂, h.swi.members v hv, hdom₁]
    simp

/-- **A port that joins the bridge and leaves it again** finds the switch as it was, whatever VLANs
it has had in the bridge. -/
theorem enslaveAndRelease_restored (env : VlanEnv M) (hE : env.fm.Encodes) (p : PortId)
    (s : NlBridge M) (h : Unbridged env p s) (new : BrVlan) (news : List BrVlan) :
    Runs (Restored env p s) (s.enslaveAndRelease env p new news) := by
  have hflood : ∀ v < 2 ^ 12, env.fm.groupIdL2Interface p v ∉
      (s.vlan.disableVlans env allOk p).2.swi.l2Domain.members v := by
    rw [disableVlans_physical h.port h.physical]
    have hframe := own_frame hE (h.mirrors hE)
      (disableVlanCalls_own env p s.vlan h.vlansOf_lt)
    simp only [hframe.2.1]
    exact h.noFlood
  have hadd := Enslaved.updateVlans hE h.port h.physical hflood none (some new)
    (s := { s with vlan := (s.vlan.disableVlans env allOk p).2 }) (notMem_of_noDomain h.noDomain _)
    (h.enslaved hE)
  unfold enslaveAndRelease
  refine hadd.bind fun s₁ hs₁ => ?_
  rw [runs_map]
  have hrest := Enslaved.updateAndDelete hE h.port h.physical hflood news
    (hs₁.1.trans h.noDomain) hs₁.2
  exact Runs.imp (fun s₂ hs₂ => hs₂.restored hE h) hrest

/-- The port has no record in the bridge, and every entry is the same. -/
def Unchanged (env : VlanEnv M) (p : PortId) (s s' : NlBridge M) : Prop :=
  s'.vlan.bridgeVlan.lookup p = none ∧ s'.vlan.portPvid.lookup p = none ∧
  ∀ v < 2 ^ 12, (∀ q, s'.vlan.swi.entries env.fm q v = s.vlan.swi.entries env.fm q v) ∧
    s'.vlan.swi.sw.groups.lookup (env.fm.groupIdL2Flood v v) =
      s.vlan.swi.sw.groups.lookup (env.fm.groupIdL2Flood v v) ∧
    s'.vlan.swi.sw.flows.lookup (.dlfVlan v) = s.vlan.swi.sw.flows.lookup (.dlfVlan v)

/-- Nothing changes if the VLANs of the port are programmed with their VRFs, and nothing else is
programmed on it. -/
theorem Restored.unchanged {s' : NlBridge M} (h : Restored env p s s')
    (hvrf : ∀ v, (p, v) ∈ s.vlan.portVlan →
      (s.vlan.swi.entries env.fm p v).ingress = some (.filter (s.vlan.getVrfId v)))
    (honly : ∀ v < 2 ^ 12, (p, v) ∉ s.vlan.portVlan →
      (s.vlan.swi.entries env.fm p v).ingress = none ∧
        (s.vlan.swi.entries env.fm p v).egress = none)
    (hpvid : (p, env.portUntaggedVid) ∉ s.vlan.portVlan → ∀ v < 2 ^ 12,
      (s.vlan.swi.entries env.fm p v).pvid = none) : Unchanged env p s s' := by
  refine ⟨h.noBridgeVlan, h.noPvid, fun v hv => ⟨fun q => ?_, h.flood v hv⟩⟩
  by_cases hq : q = p
  · subst hq
    have hpv : (s'.vlan.swi.entries env.fm q v).pvid = (s.vlan.swi.entries env.fm q v).pvid := by
      by_cases hu : (q, env.portUntaggedVid) ∈ s.vlan.portVlan
      · exact h.pvid hu v hv
      · have hrest := h.restPvid hu v hv
        rw [hpvid hu v hv] at hrest ⊢
        exact hrest.eq_none
    have hio : (s'.vlan.swi.entries env.fm q v).inOut = (s.vlan.swi.entries env.fm q v).inOut := by
      by_cases hown : (q, v) ∈ s.vlan.portVlan
      · simp only [PortEntries.inOut, h.ingress v hown, hvrf v hown, h.egress v hown]
      · have hin := h.restIngress v hv hown
        have hout := h.restEgress v hv hown
        rw [(honly v hv hown).1] at hin
        rw [(honly v hv hown).2] at hout
        simp only [PortEntries.inOut, hin.eq_none, hout.eq_none, honly v hv hown]
    exact (PortEntries.eq_iff_of_inOut hio).mpr hpv
  · exact h.others q hq v hv

end RoundTrip

/-- The first port with VLAN 1 untagged and VLAN 10 tagged. -/
def twoVlans : NlBridge (Nat × List Nat) where
  vlan := (NlVlan.addVlan .noBonds allOk (NlVlan.addVlan .noBonds allOk {} port1 false 1 false).2
    port1 false 10 true).2

theorem mem_twoVlans {v : Nat} (h : (port1, v) ∈ twoVlans.vlan.portVlan) : v = 1 ∨ v = 10 := by
  have hkeys : twoVlans.vlan.portVlan.keys = [(port1, 10), (port1, 1)] := by decide
  rw [AList.mem_keys, hkeys] at h
  simpa [or_comm] using h

theorem twoVlans_unbridged : Unbridged .noBonds port1 twoVlans where
  port := by decide
  physical := by decide
  noDomain := rfl
  noBridgeVlan := rfl
  noPvid := rfl
  noFlood v _ := by
    have hdom : twoVlans.vlan.swi.l2Domain = ∅ := rfl
    simp [hdom, L2Domain.members]
  valid v hv := by
    rcases mem_twoVlans hv with rfl | rfl <;> rfl
  ingress v hv := by
    rcases mem_twoVlans hv with rfl | rfl <;> exact ⟨0, rfl⟩
  egress v hv := by
    rcases mem_twoVlans hv with rfl | rfl <;> rfl
  pvid _ := rfl
  reached := ⟨[.ingressPortVlanAdd port1 1 true 0, .egressPortVlanAdd port1 1 true false,
    .ingressPortVlanAdd port1 10 false 0, .egressPortVlanAdd port1 10 false false], by decide, rfl⟩

-- The linter would take the run to its normal form.
set_option linter.constructorNameAsVariable false in
/-- In the bridge it has VLAN 10 untagged, then VLAN 20 tagged. -/
theorem enslaveAndRelease_restored_twoVlans :
    Unbridged .noBonds port1 twoVlans ∧ Runs (Restored .noBonds port1 twoVlans)
      (twoVlans.enslaveAndRelease .noBonds port1
        { pvid := 10, vlanBitmap := {10}, untaggedBitmap := {10} } [{ vlanBitmap := {20} }]) := by
  have hrestored := enslaveAndRelease_restored .noBonds ofdpaVlanDriver_encodes port1 twoVlans
    twoVlans_unbridged { pvid := 10, vlanBitmap := {10}, untaggedBitmap := {10} }
    [{ vlanBitmap := {20} }]
  refine ⟨twoVlans_unbridged, ?_⟩
  -- `exact` would take the run to its normal form.
  assumption

/-- VLAN 10 of the first port, whose interface has been enslaved to the VRF with table 5 since. There
are no FDB entries, so the switch has not been told. -/
def staleVrf : NlBridge (Nat × List Nat) where
  vlan := NlVlan.vrfAttach .noBonds allOk
    (NlVlan.addVlan .noBonds allOk {} port1 false 10 true).2 10 5 []

/-- VLAN 1 of the first port, added untagged and removed tagged: the PVID is left on the switch. -/
def leftPvid : NlBridge (Nat × List Nat) where
  vlan := (NlVlan.removeVlan .noBonds allOk
    (NlVlan.addVlan .noBonds allOk {} port1 false 1 false).2 port1 false 1 true).2

theorem mem_staleVrf {v : Nat} (h : (port1, v) ∈ staleVrf.vlan.portVlan) : v = 10 := by
  have hkeys : staleVrf.vlan.portVlan.keys = [(port1, 10)] := by decide
  rw [AList.mem_keys, hkeys] at h
  simpa using h

theorem staleVrf_unbridged : Unbridged .noBonds port1 staleVrf where
  port := by decide
  physical := by decide
  noDomain := rfl
  noBridgeVlan := rfl
  noPvid := rfl
  noFlood v _ := by
    have hdom : staleVrf.vlan.swi.l2Domain = ∅ := rfl
    simp [hdom, L2Domain.members]
  valid v hv := by
    rw [mem_staleVrf hv]
    rfl
  ingress v hv := by
    rw [mem_staleVrf hv]
    exact ⟨0, rfl⟩
  egress v hv := by
    rw [mem_staleVrf hv]
    rfl
  pvid h := absurd (mem_staleVrf h) (by decide)
  reached := ⟨[.ingressPortVlanAdd port1 10 false 0, .egressPortVlanAdd port1 10 false false],
    by decide, rfl⟩

theorem leftPvid_unbridged : Unbridged .noBonds port1 leftPvid where
  port := by decide
  physical := by decide
  noDomain := rfl
  noBridgeVlan := rfl
  noPvid := rfl
  noFlood v _ := by
    have hdom : leftPvid.vlan.swi.l2Domain = ∅ := rfl
    simp [hdom, L2Domain.members]
  valid v hv := absurd hv (AList.notMem_empty (port1, v))
  ingress v hv := absurd hv (AList.notMem_empty (port1, v))
  egress v hv := absurd hv (AList.notMem_empty (port1, v))
  pvid hv := absurd hv (AList.notMem_empty (port1, 1))
  reached := ⟨[.ingressPortVlanAdd port1 1 true 0, .egressPortVlanAdd port1 1 true false,
    .ingressPortVlanRemove port1 1 false 0, .egressPortVlanRemove port1 1], by decide, rfl⟩

/-- The released port has another VRF in VLAN 10 than before, or has lost the PVID. -/
theorem staleVrf_and_leftPvid_changed :
    (Unbridged .noBonds port1 staleVrf ∧
      ¬ Runs (Unchanged .noBonds port1 staleVrf) (staleVrf.enslaveAndRelease .noBonds port1 {} [])) ∧
    Unbridged .noBonds port1 leftPvid ∧
      ¬ Runs (Unchanged .noBonds port1 leftPvid)
        (leftPvid.enslaveAndRelease .noBonds port1 { pvid := 1 } []) := by
  refine ⟨⟨staleVrf_unbridged, ?_⟩, leftPvid_unbridged, ?_⟩
  · refine Runs.not_of (P := fun s => (s.vlan.swi.entries ofdpaVlanDriver port1 10).ingress =
      some (.filter 5)) (by decide +kernel) fun s hs hsame => ?_
    have hbefore := congrArg PortEntries.ingress ((hsame.2.2 10 (by decide)).1 port1)
    rw [show VlanEnv.noBonds.fm = ofdpaVlanDriver from rfl, hs] at hbefore
    revert hbefore
    decide
  · refine Runs.not_of (P := fun s => (s.vlan.swi.entries ofdpaVlanDriver port1 1).pvid = none)
      (by decide +kernel) fun s hs hsame => ?_
    have hbefore := congrArg PortEntries.pvid ((hsame.2.2 1 (by decide)).1 port1)
    rw [show VlanEnv.noBonds.fm = ofdpaVlanDriver from rfl, hs] at hbefore
    revert hbefore
    decide

end NlBridge

end Basebox
