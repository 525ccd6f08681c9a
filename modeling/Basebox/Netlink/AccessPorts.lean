import Basebox.Netlink.BridgeCalls
import Basebox.Netlink.BridgeVlans

/-!
# Access ports of the VXLAN domains (`src/netlink/nl_bridge.cc`)

A port becomes an access port because it gets a VLAN that is a VXLAN domain, or because a VLAN that
it has becomes one. Every call to the switch succeeds here, and the cache of libnl has the VLANs
that the events have brought.

* `Accessible`: the access ports are those of the ports that have a VLAN in a VXLAN domain, and the
  other VLANs of a port are programmed (`Programmed`).
* `Good`: the same for any assignment of VLANs to ports, as it is needed between two turns of a loop.
  `Good.gain`, `Good.lose`, `Good.join`, `Good.leave`: what one turn does.
* `accessible_iff_along`: the events keep it exactly if no port loses a VLAN that is a VXLAN domain.
  Such a port stays an access port.
-/

namespace Basebox

/-- The surroundings of `nl_vlan`. A port is in one bond at most. -/
structure BridgeEnv (M : Type) extends VlanEnv M where
  encodes : fm.Encodes
  disjoint : ∀ bond bond' m, m ∈ members bond → m ∈ members bond' → bond = bond'

/-- A port that can be a port of the bridge: it has an id, and is not in a bond. -/
def BridgeEnv.Bridgeable {M : Type} (env : BridgeEnv M) (p : PortId) : Prop :=
  p.1 ≠ 0 ∧ ∀ bond, p ∉ env.lagMembers bond

/-- The VLAN is programmed on the port, at ingress and at egress. -/
def Programmed {M : Type} [DecidableEq M] (fm : VlanDriver M) (s : PortSwitch M) (p : PortId)
    (v : Nat) : Prop :=
  (s.entries fm p v).ingress.isSome = true ∧ (s.entries fm p v).egress.isSome = true

/-- The call takes an entry of a port and a VLAN. -/
def SwiCall.Takes (p : PortId) (v : Nat) : SwiCall → Prop
  | .ingressPortVlanRemove q w _ _ | .egressPortVlanRemove q w | .egressBridgePortVlanRemove q w =>
    p = q ∧ v = w
  | _ => False

section Programmed

variable {M : Type} [DecidableEq M] {fm : VlanDriver M} (hE : fm.Encodes) {s : PortSwitch M}
  {p : PortId} {v : Nat} (hv : v < 2 ^ 12)
include hE hv

theorem Programmed.exec (h : Programmed fm s p v) {c : SwiCall} (hw : c.vid < 2 ^ 12)
    (hc : ¬ c.Takes p v) : Programmed fm (c.exec fm s) p v := by
  obtain ⟨h1, h2⟩ := h
  by_cases hbr : ∃ q w, c = .egressBridgePortVlanRemove q w
  · obtain ⟨q, w, rfl⟩ := hbr
    change w < 2 ^ 12 at hw
    rw [Programmed, entries_egressBridgePortVlanRemove hE s p q hv hw, if_neg fun hm => hc hm.1]
    exact ⟨h1, h2⟩
  · have heff := entries_exec hE s p hv c ⟨hw, fun q w he => hbr ⟨q, w, he⟩⟩
    rw [Programmed, heff]
    cases c with
    | egressPortVlanAdd q w u update =>
      cases update with
      | true =>
        simp only [SwiCall.effect]
        refine ⟨h1, ?_⟩
        split
        · rw [Option.isSome_map]
          exact h2
        · exact h2
      | false =>
        simp only [SwiCall.effect]
        refine ⟨h1, ?_⟩
        split
        · rfl
        · exact h2
    | ingressPortVlanAdd q w pvid vrfId =>
      simp only [SwiCall.effect]
      refine ⟨?_, h2⟩
      split
      · rfl
      · exact h1
    | egressBridgePortVlanAdd q w u =>
      simp only [SwiCall.effect]
      refine ⟨h1, ?_⟩
      split
      · rfl
      · exact h2
    | ingressPortVlanRemove q w pvid vrfId =>
      change ¬ (p = q ∧ v = w) at hc
      simp only [SwiCall.effect]
      rw [if_neg hc]
      exact ⟨h1, h2⟩
    | egressPortVlanRemove q w =>
      change ¬ (p = q ∧ v = w) at hc
      simp only [SwiCall.effect]
      rw [if_neg hc]
      exact ⟨h1, h2⟩
    | _ => exact ⟨h1, h2⟩

theorem Programmed.execAll (h : Programmed fm s p v) {cs : List SwiCall}
    (hcs : ∀ c ∈ cs, c.vid < 2 ^ 12 ∧ ¬ c.Takes p v) : Programmed fm (execAll fm cs s) p v :=
  execAll_keeps (I := fun s => Programmed fm s p v) h
    fun c hc _ hs => hs.exec hE hv (hcs c hc).1 (hcs c hc).2

/-- The two calls of `add_bridge_vlan` for a port. -/
theorem programmed_add (untagged pvid : Bool) (vrfId : Nat) :
    Programmed fm (Basebox.execAll fm
      [.egressBridgePortVlanAdd p v untagged, .ingressPortVlanAdd p v pvid vrfId] s) p v := by
  simp only [execAll_cons, execAll_nil, Programmed]
  rw [entries_exec hE _ p hv (.ingressPortVlanAdd p v pvid vrfId) ⟨hv, by simp⟩,
    entries_exec hE _ p hv (.egressBridgePortVlanAdd p v untagged) ⟨hv, by simp⟩]
  simp [SwiCall.effect]

end Programmed

/-- `add_bridge_vlan` programs the VLAN on all its ports. -/
theorem programmed_addBridgeVlanCalls {M : Type} [DecidableEq M] {env : VlanEnv M}
    (hE : env.fm.Encodes) {s : PortSwitch M} {p q : PortId} {v : Nat} (hv : v < 2 ^ 12)
    (pvid tagged : Bool) (vrfId : Nat) (hp : p ∈ NlVlan.bridgeVlanPorts env q) :
    Programmed env.fm (execAll env.fm
      (NlVlan.addBridgeVlanCalls env q v pvid tagged vrfId) s) p v := by
  obtain ⟨l, l', hl⟩ := List.append_of_mem hp
  rw [NlVlan.addBridgeVlanCalls, hl, List.flatMap_append, List.flatMap_cons, execAll_append,
    execAll_append]
  refine Programmed.execAll hE hv (programmed_add hE hv _ _ _) fun c hc => ?_
  obtain ⟨r, -, hr⟩ := List.mem_flatMap.mp hc
  simp only [List.mem_cons, List.not_mem_nil, or_false] at hr
  rcases hr with rfl | rfl <;> exact ⟨hv, id⟩

namespace BridgeEnv

variable {M : Type} {env : BridgeEnv M} {p q r : PortId}

/-- Two ports of the bridge are programmed on different ports. -/
theorem Bridgeable.eq_of_mem (hp : env.Bridgeable p) (hq : env.Bridgeable q)
    (hrp : r ∈ NlVlan.bridgeVlanPorts env.toVlanEnv p)
    (hrq : r ∈ NlVlan.bridgeVlanPorts env.toVlanEnv q) : p = q := by
  simp only [NlVlan.bridgeVlanPorts, List.mem_append, List.mem_singleton] at hrp hrq
  rcases hrp with hrp | rfl
  · rcases hrq with hrq | rfl
    · unfold VlanEnv.lagMembers at hrp hrq
      split at hrp
      · split at hrq
        · exact env.disjoint p q r hrp hrq
        · cases hrq
      · cases hrp
    · exact absurd hrp (hq.2 p)
  · rcases hrq with hrq | rfl
    · exact absurd hrq (hp.2 q)
    · rfl

end BridgeEnv

namespace NlBridge

variable {M : Type} [DecidableEq M] (env : BridgeEnv M)

/-- The access ports for an assignment of VLANs to the ports (`c`), and of PVIDs. `left` has the
access ports that are left over. -/
structure Good (s : NlBridge M) (c left : PortId → Nat → Prop) (pvid : PortId → Option Nat) :
    Prop where
  same : SameDomain s
  tunnels : ∀ k tp, s.accessPortIds.lookup k = some tp → tp.tunnelId ≠ 0
  domTunnels : ∀ v t, s.vxlanDomain.lookup v = some t → t ≠ 0
  valid : ∀ p v, c p v → 1 ≤ v ∧ v < 2 ^ 12
  access : ∀ p v, env.Bridgeable p →
    ((p, v) ∈ s.accessPortIds ↔ (v ∈ s.vxlanDomain ∧ c p v) ∨ left p v)
  normal : ∀ p v, env.Bridgeable p → c p v → v ∉ s.vxlanDomain → ¬ left p v →
    ∀ q ∈ NlVlan.bridgeVlanPorts env.toVlanEnv p, Programmed env.fm s.vlan.swi q v
  pvids : ∀ p, env.Bridgeable p → s.vlan.portPvid.lookup p = pvid p

/-- Nothing is left over. -/
def nothing (_ : PortId) (_ : Nat) : Prop := False

variable {env} {s : NlBridge M} {c c' left : PortId → Nat → Prop} {pvid : PortId → Option Nat}
  {p : PortId} {v : Nat}

/-- The assignment matters for the ports of the bridge only. -/
theorem Good.congr (h : Good env s c left pvid) {left' : PortId → Nat → Prop}
    (hvalid : ∀ p v, c' p v → 1 ≤ v ∧ v < 2 ^ 12)
    (hc : ∀ p v, env.Bridgeable p → (c p v ↔ c' p v))
    (hleft : ∀ p v, env.Bridgeable p → (left p v ↔ left' p v)) : Good env s c' left' pvid where
  same := h.same
  tunnels := h.tunnels
  domTunnels := h.domTunnels
  valid := hvalid
  access p v hp := by rw [h.access p v hp, hc p v hp, hleft p v hp]
  normal p v hp hcv hdom hl := h.normal p v hp ((hc p v hp).mpr hcv) hdom
    fun hl' => hl ((hleft p v hp).mp hl')
  pvids := h.pvids

/-- Calls to the switch that take nothing. -/
theorem Good.calls (h : Good env s c left pvid) (vlan : NlVlan M) {cs : List SwiCall}
    (hswi : vlan.swi = execAll env.fm cs s.vlan.swi)
    (hcs : ∀ c ∈ cs, c.vid < 2 ^ 12 ∧ ∀ p v, ¬ c.Takes p v) {pvid' : PortId → Option Nat}
    (hpvid : ∀ p, env.Bridgeable p → vlan.portPvid.lookup p = pvid' p) :
    Good env { s with vlan := vlan } c left pvid' where
  same := h.same
  tunnels := h.tunnels
  domTunnels := h.domTunnels
  valid := h.valid
  access := h.access
  normal p v hp hcv hdom hl q hq := by
    rw [show ({ s with vlan := vlan } : NlBridge M).vlan.swi = vlan.swi from rfl, hswi]
    exact (h.normal p v hp hcv hdom hl q hq).execAll env.encodes (h.valid p v hcv).2
      fun c hc => ⟨(hcs c hc).1, (hcs c hc).2 q v⟩
  pvids := hpvid

/-- An access port. The VLAN is a domain, so nothing else is claimed of it. -/
theorem Good.create (h : Good env s c nothing pvid) (hp : env.Bridgeable p)
    (hv : 1 ≤ v ∧ v < 2 ^ 12) (hdom : v ∈ s.vxlanDomain) {t : Nat} (ht : t ≠ 0) (untagged : Bool) :
    Good env (s.createAccessPort env.toVlanEnv {} t p v untagged)
      (fun q w => c q w ∨ q = p ∧ w = v) nothing pvid := by
  have hvalid : ∀ q w, (c q w ∨ q = p ∧ w = v) → 1 ≤ w ∧ w < 2 ^ 12 := by
    rintro q w (hc | ⟨-, rfl⟩)
    · exact h.valid q w hc
    · exact hv
  unfold createAccessPort getAccessTunnelPort
  cases hl : s.accessPortIds.lookup (p, v) with
  | some tp =>
    -- It is one already.
    simp only [Option.getD_some, ne_eq, h.tunnels _ tp hl, not_false_eq_true, or_true, if_true]
    have hc : c p v := by
      have := (h.access p v hp).mp (Table.mem_iff_lookup.mpr ⟨tp, hl⟩)
      exact (this.resolve_right id).2
    refine h.congr hvalid (fun q w _ => ?_) fun _ _ _ => Iff.rfl
    constructor
    · exact .inl
    · rintro (hc' | ⟨rfl, rfl⟩)
      · exact hc'
      · exact hc
  | none =>
    simp only [Option.getD_none, ne_eq, not_true_eq_false, or_self, if_false, if_true]
    constructor
    · exact h.same
    · intro k tp hk
      simp only [Table.lookup_insert_ite] at hk
      split at hk
      · cases hk
        exact ht
      · exact h.tunnels k tp hk
    · exact h.domTunnels
    · exact hvalid
    · intro q w hq
      simp only [AList.mem_insert, Prod.mk.injEq, h.access q w hq]
      constructor
      · rintro (⟨rfl, rfl⟩ | ⟨hw, hc⟩ | hf)
        · exact .inl ⟨hdom, .inr ⟨rfl, rfl⟩⟩
        · exact .inl ⟨hw, .inl hc⟩
        · exact .inr hf
      · rintro (⟨hw, hc | ⟨rfl, rfl⟩⟩ | hf)
        · exact .inr (.inl ⟨hw, hc⟩)
        · exact .inl ⟨rfl, rfl⟩
        · exact .inr (.inr hf)
    · intro q w hq hc hw hleft r hr
      have hwv : w ≠ v := fun e => hw (e ▸ hdom)
      have hcw : c q w := hc.resolve_right fun hqw => hwv hqw.2
      refine Programmed.execAll env.encodes (h.valid q w hcw).2 (h.normal q w hq hcw hw hleft r hr)
        fun call hcall => ?_
      simp only [List.mem_cons, List.not_mem_nil, or_false] at hcall
      rcases hcall with rfl | rfl
      · exact ⟨hv.2, fun ht => hwv ht.2⟩
      · exact ⟨hv.2, fun ht => hwv ht.2⟩
    · exact h.pvids

/-- A VLAN that is no domain is programmed. -/
theorem Good.program (h : Good env s c left pvid) (hp : env.Bridgeable p)
    (hv : 1 ≤ v ∧ v < 2 ^ 12) (isPvid tagged : Bool)
    (hpvid : isPvid = true → pvid p = some v) (hdom : v ∉ s.vxlanDomain) :
    Good env
      { s with vlan := (s.vlan.addBridgeVlan env.toVlanEnv allOk p 0 v isPvid tagged).2 }
      (fun q w => c q w ∨ q = p ∧ w = v) left pvid := by
  have hvid : NlVlan.isVidValid v = true := NlVlan.isVidValid_iff.mpr hv
  rw [NlVlan.addBridgeVlan_ok hp.1 hvid]
  have hcalls : ∀ call ∈ NlVlan.addBridgeVlanCalls env.toVlanEnv p v isPvid tagged
      (s.vlan.getVrfId v), call.vid < 2 ^ 12 ∧ ∀ q w, ¬ call.Takes q w := by
    intro call hcall
    obtain ⟨r, -, hr⟩ := List.mem_flatMap.mp hcall
    simp only [List.mem_cons, List.not_mem_nil, or_false] at hr
    rcases hr with rfl | rfl <;> exact ⟨hv.2, fun _ _ => id⟩
  have hpv : ∀ q, env.Bridgeable q →
      (if isPvid then s.vlan.portPvid.emplace p v else s.vlan.portPvid).lookup q = pvid q := by
    intro q hq
    cases isPvid with
    | false => exact h.pvids q hq
    | true =>
      have hsome := (h.pvids p hp).trans (hpvid rfl)
      rw [if_pos rfl, Table.lookup_emplace, hsome]
      split
      · subst_vars
        exact (hpvid rfl).symm
      · exact h.pvids q hq
  have hgood := h.calls { s.vlan with
    bridgeVlan := s.vlan.bridgeVlan.insert p ((s.vlan.vlansOfPort p).emplace v (0, tagged))
    portPvid := if isPvid then s.vlan.portPvid.emplace p v else s.vlan.portPvid
    swi := execAll env.fm (NlVlan.addBridgeVlanCalls env.toVlanEnv p v isPvid tagged
      (s.vlan.getVrfId v)) s.vlan.swi } rfl hcalls hpv
  constructor
  · exact h.same
  · exact h.tunnels
  · exact h.domTunnels
  · rintro q w (hc | ⟨-, rfl⟩)
    · exact h.valid q w hc
    · exact hv
  · intro q w hq
    refine (h.access q w hq).trans ?_
    constructor
    · exact Or.imp_left fun hw => ⟨hw.1, .inl hw.2⟩
    · rintro (⟨hw, hc | ⟨rfl, rfl⟩⟩ | hl)
      · exact .inl ⟨hw, hc⟩
      · exact absurd hw hdom
      · exact .inr hl
  · rintro q w hq hc hw hl r hr
    by_cases hqw : q = p ∧ w = v
    · obtain ⟨rfl, rfl⟩ := hqw
      exact programmed_addBridgeVlanCalls env.encodes hv.2 _ _ _ hr
    · exact hgood.normal q w hq (hc.resolve_right hqw) hw hl r hr
  · exact hgood.pvids

/-- A VLAN that is no domain is removed from the port. -/
theorem Good.lose (h : Good env s c nothing pvid) (hp : env.Bridgeable p)
    (hv : 1 ≤ v ∧ v < 2 ^ 12) (hdom : v ∉ s.vxlanDomain) :
    Good env { s with vlan := s.vlan.removeBridgeVlan env.toVlanEnv allOk p 0 v false }
      (fun q w => c q w ∧ ¬ (q = p ∧ w = v)) nothing pvid := by
  have hvid : NlVlan.isVidValid v = true := NlVlan.isVidValid_iff.mpr hv
  rw [NlVlan.removeBridgeVlan_ok hp.1 hvid]
  constructor
  · exact h.same
  · exact h.tunnels
  · exact h.domTunnels
  · exact fun q w hc => h.valid q w hc.1
  · intro q w hq
    refine (h.access q w hq).trans ?_
    constructor
    · exact Or.imp_left fun hw => ⟨hw.1, hw.2, fun hqw => hdom (hqw.2 ▸ hw.1)⟩
    · exact Or.imp_left fun hw => ⟨hw.1, hw.2.1⟩
  · intro q w hq hc hw hl r hr
    refine Programmed.execAll env.encodes (h.valid q w hc.1).2 (h.normal q w hq hc.1 hw hl r hr)
      fun call hcall => ?_
    obtain ⟨r', hr', hcall⟩ := List.mem_flatMap.mp hcall
    have hne : ¬ (r = r' ∧ w = v) := by
      rintro ⟨rfl, rfl⟩
      exact hc.2 ⟨hq.eq_of_mem hp hr hr', rfl⟩
    simp only [List.mem_cons, List.not_mem_nil, or_false] at hcall
    rcases hcall with rfl | rfl <;> exact ⟨hv.2, hne⟩
  · exact h.pvids

/-- An access port is deleted. -/
theorem Good.delete (h : Good env s c left pvid) :
    Good env (s.deleteAccessPort p v) (fun q w => c q w ∧ ¬ (q = p ∧ w = v))
      (fun q w => left q w ∧ ¬ (q = p ∧ w = v)) pvid where
  same := h.same
  tunnels k tp hk := by
    simp only [deleteAccessPort, Table.lookup_erase_ite] at hk
    split at hk
    · cases hk
    · exact h.tunnels k tp hk
  domTunnels := h.domTunnels
  valid q w hc := h.valid q w hc.1
  access q w hq := by
    simp only [deleteAccessPort, AList.mem_erase, Prod.mk.injEq, h.access q w hq, ne_eq]
    constructor
    · rintro ⟨hne, hw | hl⟩
      · exact .inl ⟨hw.1, hw.2, hne⟩
      · exact .inr ⟨hl, hne⟩
    · rintro (⟨hw, hc, hne⟩ | ⟨hl, hne⟩)
      · exact ⟨hne, .inl ⟨hw, hc⟩⟩
      · exact ⟨hne, .inr hl⟩
  normal q w hq hc hw hl := h.normal q w hq hc.1 hw fun hleft => hl ⟨hleft, hc.2⟩
  pvids := h.pvids

/-- The ports of the cache with a VLAN. -/
def With (brPorts : BrPorts) (v : Nat) (q : PortId) (w : Nat) : Prop :=
  w = v ∧ ∃ b, (q, b) ∈ brPorts ∧ v ∈ b.vlanBitmap

theorem with_cons {x : PortId × BrVlan} {brPorts : BrPorts} {q : PortId} {w : Nat} :
    With (x :: brPorts) v q w ↔
      (q = x.1 ∧ w = v) ∧ v ∈ x.2.vlanBitmap ∨ With brPorts v q w := by
  constructor
  · rintro ⟨rfl, b, hb, hmem⟩
    rcases List.mem_cons.mp hb with rfl | hb
    · exact .inl ⟨⟨rfl, rfl⟩, hmem⟩
    · exact .inr ⟨rfl, b, hb, hmem⟩
  · rintro (⟨⟨rfl, rfl⟩, hmem⟩ | ⟨rfl, b, hb, hmem⟩)
    · exact ⟨rfl, x.2, List.mem_cons_self .., hmem⟩
    · exact ⟨rfl, b, List.mem_cons_of_mem _ hb, hmem⟩

/-- All ports with a VLAN become access ports. -/
theorem Good.createAll (h : Good env s c nothing pvid) {brPorts : BrPorts}
    (hbr : ∀ x ∈ brPorts, env.Bridgeable x.1) (hv : 1 ≤ v ∧ v < 2 ^ 12) (hdom : v ∈ s.vxlanDomain)
    {t : Nat} (ht : t ≠ 0) :
    Good env (s.updateAccessPorts env.toVlanEnv {} v t brPorts true)
      (fun q w => c q w ∨ With brPorts v q w) nothing pvid := by
  unfold updateAccessPorts
  induction brPorts generalizing s c with
  | nil =>
    refine h.congr ?_ ?_ fun _ _ _ => Iff.rfl
    · simpa [With] using h.valid
    · simp [With]
  | cons x brPorts ih =>
    obtain ⟨hp, hbr⟩ := List.forall_mem_cons.mp hbr
    rw [List.foldl_cons]
    by_cases hb : v ∈ x.2.vlanBitmap
    · have hturn : updateAccessPort env.toVlanEnv {} v t true s x =
          s.createAccessPort env.toVlanEnv {} t x.1 v (decide (v ∈ x.2.untaggedBitmap)) := by
        simp only [updateAccessPort, hb, not_true_eq_false, hp.1, if_false, if_true]
      rw [hturn]
      have hnext := ih (h.create hp hv hdom ht (decide (v ∈ x.2.untaggedBitmap))) hbr
        (by rw [(createAccessPort_domain ..).1]; exact hdom)
      have hiff : ∀ q w, ((c q w ∨ q = x.1 ∧ w = v) ∨ With brPorts v q w) ↔
          (c q w ∨ With (x :: brPorts) v q w) := by
        intro q w
        rw [with_cons, and_iff_left hb, or_assoc]
      refine hnext.congr (fun q w hc => ?_) (fun q w _ => hiff q w) fun _ _ _ => Iff.rfl
      exact hnext.valid q w ((hiff q w).mpr hc)
    · have hturn : updateAccessPort env.toVlanEnv {} v t true s x = s := by
        simp only [updateAccessPort, hb, not_false_eq_true, if_true]
      rw [hturn]
      have hnext := ih h hbr hdom
      have hiff : ∀ q w, With brPorts v q w ↔ With (x :: brPorts) v q w := by
        intro q w
        rw [with_cons]
        exact (or_iff_right fun hx => hb hx.2).symm
      refine hnext.congr (fun q w hc => ?_) (fun q w _ => by rw [hiff]) fun _ _ _ => Iff.rfl
      exact hnext.valid q w (by rwa [hiff])

/-- All ports with a VLAN become ordinary ports. -/
theorem Good.releaseAll (h : Good env s c left pvid) (brPorts : BrPorts)
    (hbr : ∀ x ∈ brPorts, env.Bridgeable x.1 ∧ (v ∈ x.2.vlanBitmap → c x.1 v) ∧
      (x.2.pvid = v → pvid x.1 = some v)) (hv : 1 ≤ v ∧ v < 2 ^ 12) (hdom : v ∉ s.vxlanDomain)
    (t : Nat) :
    Good env (s.updateAccessPorts env.toVlanEnv {} v t brPorts false) c
      (fun q w => left q w ∧ ¬ With brPorts v q w) pvid := by
  unfold updateAccessPorts
  induction brPorts generalizing s left with
  | nil =>
    refine h.congr h.valid (fun _ _ _ => Iff.rfl) ?_
    simp [With]
  | cons x brPorts ih =>
    obtain ⟨⟨hp, hcx, hpv⟩, hbr⟩ := List.forall_mem_cons.mp hbr
    rw [List.foldl_cons]
    by_cases hb : v ∈ x.2.vlanBitmap
    · have hturn : updateAccessPort env.toVlanEnv {} v t false s x =
          { s.deleteAccessPort x.1 v with
            vlan := ((s.deleteAccessPort x.1 v).vlan.addBridgeVlan env.toVlanEnv allOk x.1 0 v
              (x.2.pvid == v) (!decide (v ∈ x.2.untaggedBitmap))).2 } := by
        simp only [updateAccessPort, hb, not_true_eq_false, hp.1, if_false, Bool.false_eq_true]
        rfl
      rw [hturn]
      have hdel := (h.delete (p := x.1) (v := v)).program hp hv (x.2.pvid == v)
        (!decide (v ∈ x.2.untaggedBitmap)) (fun he => hpv (by simpa using he)) hdom
      -- The port has the VLAN all the time.
      have hiff : ∀ q w, env.Bridgeable q →
          ((c q w ∧ ¬ (q = x.1 ∧ w = v)) ∨ q = x.1 ∧ w = v ↔ c q w) := by
        intro q w _
        constructor
        · rintro (hc | ⟨rfl, rfl⟩)
          · exact hc.1
          · exact hcx hb
        · exact fun hc => or_iff_not_imp_right.mpr fun hne => ⟨hc, hne⟩
      have hsame := hdel.congr h.valid hiff fun _ _ _ => Iff.rfl
      refine (ih hsame hbr hdom).congr h.valid (fun _ _ _ => Iff.rfl) fun q w _ => ?_
      rw [with_cons, and_iff_left hb, not_or, and_assoc]
    · have hturn : updateAccessPort env.toVlanEnv {} v t false s x = s := by
        simp only [updateAccessPort, hb, not_false_eq_true, if_true]
      rw [hturn]
      refine (ih h hbr hdom).congr h.valid (fun _ _ _ => Iff.rfl) fun q w _ => ?_
      rw [with_cons, or_iff_right fun hx => hb hx.2]

/-- The ports of the cache have the VLANs and the PVIDs of an assignment. -/
structure Cached (env : BridgeEnv M) (brPorts : BrPorts) (c : PortId → Nat → Prop)
    (pvid : PortId → Option Nat) : Prop where
  bridgeable : ∀ x ∈ brPorts, env.Bridgeable x.1
  vlans : ∀ q w, c q w ↔ ∃ b, (q, b) ∈ brPorts ∧ w ∈ b.vlanBitmap
  pvids : ∀ x ∈ brPorts, NlVlan.isVidValid x.2.pvid = true → pvid x.1 = some x.2.pvid

/-- A VXLAN interface gets a VLAN. -/
theorem Good.join (h : Good env s c nothing pvid) {brPorts : BrPorts}
    (hcache : Cached env brPorts c pvid) {new : BrVlan} (hnew : v ∈ new.vlanBitmap)
    (t : { t : Nat // t ≠ 0 }) :
    Runs (fun s => Good env s c nothing pvid)
      (s.changeVlan env.toVlanEnv {} (.vxlan t) brPorts new v) := by
  have hv := new.vlan_valid v hnew
  have hwith : ∀ q w, With brPorts v q w → c q w := by
    rintro q w ⟨rfl, b, hb, hmem⟩
    exact (hcache.vlans q w).mpr ⟨b, hb, hmem⟩
  simp only [changeVlan, hnew, if_true]
  by_cases hbit : v ∈ s.vxlanDomBitmap
  · rw [if_neg (not_not.mpr hbit)]
    have hall := h.createAll hcache.bridgeable hv ((h.same v).mp hbit) t.2
    refine hall.congr h.valid (fun q w _ => ?_) fun _ _ _ => Iff.rfl
    exact or_iff_left_of_imp (hwith q w)
  · rw [if_pos hbit]
    have hdom : v ∉ s.vxlanDomain := fun hm => hbit ((h.same v).mpr hm)
    -- The VLAN is a domain now, and nobody is an access port in it yet.
    have hnobody : Good env { s with
        vxlanDomain := s.vxlanDomain.emplace v t
        vxlanDomBitmap := insert v s.vxlanDomBitmap } (fun q w => c q w ∧ w ≠ v) nothing pvid := by
      have hmem : ∀ w, w ∈ s.vxlanDomain.emplace v t ↔ w = v ∨ w ∈ s.vxlanDomain := by
        intro w
        rw [Table.emplace, if_neg hdom, AList.mem_insert]
      constructor
      · intro w
        rw [hmem, Finset.mem_insert, h.same w]
      · exact h.tunnels
      · intro w t' ht'
        simp only [Table.lookup_emplace, Table.not_mem_iff_lookup.mp hdom] at ht'
        split at ht'
        · cases ht'
          exact t.2
        · exact h.domTunnels w t' ht'
      · exact fun q w hc => h.valid q w hc.1
      · intro q w hq
        rw [hmem]
        refine (h.access q w hq).trans ?_
        constructor
        · rintro (⟨hw, hc⟩ | hf)
          · exact .inl ⟨.inr hw, hc, fun e => hdom (e ▸ hw)⟩
          · exact .inr hf
        · rintro (⟨hw, hc, hne⟩ | hf)
          · exact .inl ⟨hw.resolve_left hne, hc⟩
          · exact .inr hf
      · intro q w hq hc hw
        rw [hmem, not_or] at hw
        exact h.normal q w hq hc.1 hw.2
      · exact h.pvids
    have hall := hnobody.createAll hcache.bridgeable hv (by simp [Table.emplace, hdom]) t.2
    refine hall.congr h.valid (fun q w _ => ?_) fun _ _ _ => Iff.rfl
    constructor
    · rintro (hc | hw)
      · exact hc.1
      · exact hwith q w hw
    · intro hc
      by_cases hwv : w = v
      · subst hwv
        obtain ⟨b, hb, hmem⟩ := (hcache.vlans q w).mp hc
        exact .inr ⟨rfl, b, hb, hmem⟩
      · exact .inl ⟨hc, hwv⟩

/-- A VXLAN interface loses a VLAN. -/
theorem Good.leave (h : Good env s c nothing pvid) {brPorts : BrPorts}
    (hcache : Cached env brPorts c pvid) (hv : 1 ≤ v ∧ v < 2 ^ 12) {new : BrVlan}
    (hnew : v ∉ new.vlanBitmap) (t : { t : Nat // t ≠ 0 }) :
    Runs (fun s => Good env s c nothing pvid)
      (s.changeVlan env.toVlanEnv {} (.vxlan t) brPorts new v) := by
  simp only [changeVlan, hnew, if_false]
  -- The access ports in the VLAN are left over.
  have hleft : Good env { s with
      vxlanDomBitmap := s.vxlanDomBitmap.erase v
      vxlanDomain := s.vxlanDomain.erase v } c
      (fun q w => w = v ∧ v ∈ s.vxlanDomain ∧ c q v) pvid := by
    constructor
    · intro w
      simp only [Finset.mem_erase, AList.mem_erase, h.same w]
    · exact h.tunnels
    · intro w t' ht'
      simp only [Table.lookup_erase_ite] at ht'
      split at ht'
      · cases ht'
      · exact h.domTunnels w t' ht'
    · exact h.valid
    · intro q w hq
      rw [AList.mem_erase]
      refine (h.access q w hq).trans ?_
      constructor
      · rintro (⟨hw, hc⟩ | hf)
        · by_cases hwv : w = v
          · subst hwv
            exact .inr ⟨rfl, hw, hc⟩
          · exact .inl ⟨⟨hwv, hw⟩, hc⟩
        · exact hf.elim
      · rintro (⟨⟨-, hw⟩, hc⟩ | ⟨rfl, hw, hc⟩)
        · exact .inl ⟨hw, hc⟩
        · exact .inl ⟨hw, hc⟩
    · intro q w hq hc hw hl
      refine h.normal q w hq hc (fun hm => ?_) id
      by_cases hwv : w = v
      · subst hwv
        exact hl ⟨rfl, hm, hc⟩
      · exact hw (AList.mem_erase.mpr ⟨hwv, hm⟩)
    · exact h.pvids
  have hall := hleft.releaseAll brPorts (fun x hx => ⟨hcache.bridgeable x hx,
    fun hmem => (hcache.vlans x.1 v).mpr ⟨x.2, hx, hmem⟩, fun hpv => by
      subst hpv
      exact hcache.pvids x hx (NlVlan.isVidValid_iff.mpr hv)⟩) hv (by simp) t
  refine hall.congr h.valid (fun _ _ _ => Iff.rfl) fun q w _ => ?_
  refine iff_of_false ?_ id
  rintro ⟨⟨rfl, -, hc⟩, hnot⟩
  obtain ⟨b, hb, hmem⟩ := (hcache.vlans q w).mp hc
  exact hnot ⟨rfl, b, hb, hmem⟩

/-- A port gets a VLAN, or loses one that is no domain. -/
theorem Good.changePort (h : Good env s c nothing pvid) (hp : env.Bridgeable p)
    (hv : 1 ≤ v ∧ v < 2 ^ 12) (new : BrVlan) (hlose : v ∉ new.vlanBitmap → v ∉ s.vxlanDomain)
    (brPorts : BrPorts) :
    Runs (fun s' => Good env s'
        (fun q w => if q = p ∧ w = v then v ∈ new.vlanBitmap else c q w) nothing pvid ∧
      s'.vxlanDomain = s.vxlanDomain)
      (s.changeVlan env.toVlanEnv {} (.port p) brPorts new v) := by
  have hvalid : ∀ q w, (if q = p ∧ w = v then v ∈ new.vlanBitmap else c q w) →
      1 ≤ w ∧ w < 2 ^ 12 := by
    intro q w hc
    split at hc
    · rename_i hqw
      exact hqw.2 ▸ hv
    · exact h.valid q w hc
  by_cases hnew : v ∈ new.vlanBitmap
  · have hiff : ∀ q w, env.Bridgeable q → ((c q w ∨ q = p ∧ w = v) ↔
        if q = p ∧ w = v then v ∈ new.vlanBitmap else c q w) := by
      intro q w _
      split
      · rename_i hqw
        exact iff_of_true (.inr hqw) hnew
      · rename_i hqw
        exact or_iff_left hqw
    rw [h.same.gains {} p brPorts new v hnew]
    cases hl : s.vxlanDomain.lookup v with
    | some t =>
      have hcreate := h.create hp hv (Table.mem_iff_lookup.mpr ⟨t, hl⟩) (h.domTunnels v t hl)
        (decide (v ∈ new.untaggedBitmap))
      exact ⟨hcreate.congr hvalid hiff fun _ _ _ => Iff.rfl, (createAccessPort_domain ..).1⟩
    | none =>
      have hprog := h.program hp hv false (!decide (v ∈ new.untaggedBitmap)) (fun hf => nomatch hf)
        (Table.not_mem_iff_lookup.mpr hl)
      exact ⟨hprog.congr hvalid hiff fun _ _ _ => Iff.rfl, rfl⟩
  · simp only [changeVlan, hnew, if_false]
    refine ⟨(h.lose hp hv (hlose hnew)).congr (by simpa only [hnew] using hvalid)
      (fun q w _ => ?_) fun _ _ _ => Iff.rfl, rfl⟩
    split
    · rename_i hqw
      exact iff_of_false (fun hc => hc.2 hqw) id
    · rename_i hqw
      exact and_iff_left hqw

/-- The tagging of a VLAN. -/
theorem Good.changeUntagged (h : Good env s c nothing pvid) (q : PortId) (untagged : Bool) :
    Good env { s with vlan := (s.vlan.updateEgressBridgeVlan env.toVlanEnv allOk q v untagged).2 } c
      nothing pvid := by
  cases hvid : NlVlan.isVidValid v with
  | false =>
    have hsame : (s.vlan.updateEgressBridgeVlan env.toVlanEnv allOk q v untagged).2 = s.vlan := by
      simp [NlVlan.updateEgressBridgeVlan, hvid]
    rw [hsame]
    exact h
  | true =>
    by_cases hq : q.1 = 0
    · have hsame : (s.vlan.updateEgressBridgeVlan env.toVlanEnv allOk q v untagged).2 = s.vlan := by
        simp [NlVlan.updateEgressBridgeVlan, hvid, hq]
      rw [hsame]
      exact h
    · rw [NlVlan.updateEgressBridgeVlan_ok hq hvid]
      split
      · exact h
      · refine h.calls _ rfl (fun call hcall => ?_) h.pvids
        obtain ⟨r, -, rfl⟩ := List.mem_map.mp hcall
        exact ⟨(NlVlan.isVidValid_iff.mp hvid).2, fun _ _ => id⟩

/-- A PVID is removed, if it is the one that is recorded. -/
theorem Good.removePvid (h : Good env s c nothing pvid) (q : PortId) {x : Nat} (hx : x < 2 ^ 12) :
    Good env { s with vlan := (s.vlan.removeIngressPvid env.toVlanEnv allOk q x).2 } c nothing
      (fun p => if p = q ∧ s.vlan.portPvid.lookup q = some x then none else pvid p) := by
  by_cases hl : s.vlan.portPvid.lookup q = some x
  · rw [NlVlan.removeIngressPvid_ok hl]
    refine h.calls _ rfl (fun call hcall => ?_) fun p hp => ?_
    · obtain ⟨r, -, rfl⟩ := List.mem_map.mp hcall
      exact ⟨hx, fun _ _ => id⟩
    · simp only [Table.lookup_erase_ite, hl, and_true]
      split
      · rfl
      · exact h.pvids p hp
  · have hsame : (s.vlan.removeIngressPvid env.toVlanEnv allOk q x).2 = s.vlan := by
      unfold NlVlan.removeIngressPvid
      split
      · rfl
      · rename_i y hy
        rw [if_pos fun e => hl (hy.trans (congrArg some e))]
    rw [hsame]
    simpa only [hl, and_false, if_false] using h

/-- A PVID is added, if there is none. -/
theorem Good.addPvid (h : Good env s c nothing pvid) (q : PortId) {x : Nat} (hx : x < 2 ^ 12) :
    Good env { s with vlan := (s.vlan.addIngressPvid env.toVlanEnv allOk q x).2 } c nothing
      (fun p => if p = q ∧ s.vlan.portPvid.lookup q = none then some x else pvid p) := by
  by_cases hl : s.vlan.portPvid.lookup q = none
  · rw [NlVlan.addIngressPvid_ok hl]
    refine h.calls _ rfl (fun call hcall => ?_) fun p hp => ?_
    · obtain ⟨r, -, rfl⟩ := List.mem_map.mp hcall
      exact ⟨hx, fun _ _ => id⟩
    · simp only [Table.lookup_emplace, hl, and_true, Option.getD_none]
      split
      · rfl
      · exact h.pvids p hp
  · have hsame : (s.vlan.addIngressPvid env.toVlanEnv allOk q x).2 = s.vlan := by
      obtain ⟨y, hy⟩ := Option.ne_none_iff_exists'.mp hl
      simp [NlVlan.addIngressPvid, hy]
    rw [hsame]
    simpa only [hl, and_false, if_false] using h

/-- The PVID that a port had. -/
theorem Good.removeOldPvid (h : Good env s c nothing pvid) (hp : env.Bridgeable p) {old : BrVlan}
    (new : BrVlan)
    (hold : pvid p = recordedPvid old) :
    (removeOldPvid env.toVlanEnv {} s.vlan p old new).1 = 0 ∧
      Good env { s with vlan := (removeOldPvid env.toVlanEnv {} s.vlan p old new).2 } c nothing
        (fun q => if q = p ∧ new.pvid ≠ old.pvid then none else pvid q) := by
  unfold NlBridge.removeOldPvid
  by_cases hch : new.pvid ≠ old.pvid ∧ NlVlan.isVidValid old.pvid = true
  · have hl : s.vlan.portPvid.lookup p = some old.pvid := by
      rw [h.pvids p hp, hold, recordedPvid, if_pos hch.2]
    rw [if_pos hch]
    refine ⟨congrArg Prod.fst (NlVlan.removeIngressPvid_ok hl), ?_⟩
    have hrem := h.removePvid p old.pvid_lt
    simp only [hl, and_true] at hrem
    simp only [hch.1, ne_eq, not_false_eq_true, and_true]
    exact hrem
  · rw [if_neg hch]
    refine ⟨rfl, ?_⟩
    have hfun : (fun q => if q = p ∧ new.pvid ≠ old.pvid then none else pvid q) = pvid := by
      funext q
      split
      · rename_i hq
        obtain ⟨rfl, hne⟩ := hq
        rw [hold, recordedPvid, if_neg fun hv => hch ⟨hne, hv⟩]
      · rfl
    rw [hfun]
    exact h

/-- The PVID that a port gets. -/
theorem Good.addNewPvid {old new : BrVlan} {pvid₀ : PortId → Option Nat}
    (h : Good env s c nothing (fun q => if q = p ∧ new.pvid ≠ old.pvid then none else pvid₀ q))
    (hp : env.Bridgeable p)
    (hold : pvid₀ p = recordedPvid old) :
    Good env { s with vlan := addNewPvid env.toVlanEnv {} s.vlan p old new } c nothing
      (fun q => if q = p then recordedPvid new else pvid₀ q) := by
  unfold NlBridge.addNewPvid
  have hpv := h.pvids p hp
  by_cases hne : new.pvid = old.pvid
  · rw [if_neg fun hch => hch.1 hne]
    have hfun : (fun q => if q = p ∧ new.pvid ≠ old.pvid then none else pvid₀ q) =
        fun q => if q = p then recordedPvid new else pvid₀ q := by
      funext q
      rw [if_neg fun hch => hch.2 hne]
      split
      · subst_vars
        rw [hold, recordedPvid, recordedPvid, hne]
      · rfl
    rwa [hfun] at h
  · simp only [true_and, ne_eq, hne, not_false_eq_true, if_true] at hpv
    cases hval : NlVlan.isVidValid new.pvid with
    | false =>
      rw [if_neg fun hch => nomatch hch.2]
      have hfun : (fun q => if q = p ∧ new.pvid ≠ old.pvid then none else pvid₀ q) =
          fun q => if q = p then recordedPvid new else pvid₀ q := by
        funext q
        simp [hne, recordedPvid, hval]
      rwa [hfun] at h
    | true =>
      rw [if_pos ⟨hne, rfl⟩]
      have hadd := h.addPvid p new.pvid_lt
      have hfun : (fun q => if q = p ∧ s.vlan.portPvid.lookup p = none then some new.pvid
          else if q = p ∧ new.pvid ≠ old.pvid then none else pvid₀ q) =
          fun q => if q = p then recordedPvid new else pvid₀ q := by
        funext q
        simp only [hpv, and_true, recordedPvid, hval, if_true]
        split
        · rfl
        · rename_i hq
          rw [if_neg fun hch => hq hch.1]
      rw [hfun] at hadd
      exact hadd

theorem Good.pvid_congr (h : Good env s c left pvid) {pvid' : PortId → Option Nat}
    (hpvid : ∀ p, env.Bridgeable p → pvid p = pvid' p) : Good env s c left pvid' :=
  { h with pvids := fun p hp => (h.pvids p hp).trans (hpvid p hp) }

/-- The VLANs of a VXLAN interface have changed. Its PVID is kept for no port. -/
theorem Good.updateVxlan (h : Good env s c nothing pvid) {brPorts : BrPorts}
    (hcache : Cached env brPorts c pvid) (t : { t : Nat // t ≠ 0 }) (old new : Option BrVlan) :
    Runs (fun s => Good env s c nothing pvid)
      (s.updateVlans env.toVlanEnv {} (.vxlan t) brPorts old new) := by
  have hno : ∀ p, env.Bridgeable p → p ≠ noPort := by
    rintro p hp rfl
    exact hp.1 rfl
  have hremove : ∀ (old new : BrVlan), Good env
      { s with vlan := (NlBridge.removeOldPvid env.toVlanEnv {} s.vlan noPort old new).2 } c nothing
      pvid := by
    intro old new
    unfold NlBridge.removeOldPvid
    split
    · refine (h.removePvid noPort old.pvid_lt).pvid_congr fun p hp => ?_
      rw [if_neg fun hch => hno p hp hch.1]
    · exact h
  have hadd : ∀ (s : NlBridge M) (old new : BrVlan), Good env s c nothing pvid → Good env
      { s with vlan := NlBridge.addNewPvid env.toVlanEnv {} s.vlan noPort old new } c nothing
      pvid := by
    intro s old new h
    unfold NlBridge.addNewPvid
    split
    · refine (h.addPvid noPort new.pvid_lt).pvid_congr fun p hp => ?_
      rw [if_neg fun hch => hno p hp hch.1]
    · exact h
  refine runs_updateVlans env.toVlanEnv {} (I := fun _ s => Good env s c nothing pvid) rfl rfl
    (fun _ => h) (hremove _ _) (fun _ => hremove _ _) (fun _ x s hx hs => ?_)
    fun s hs => hadd s _ _ hs
  cases x with
  | vlan v =>
    by_cases hnew : v ∈ (new.getD .noVlans).vlanBitmap
    · exact hs.join hcache hnew t
    · exact hs.leave hcache (valid_of_change hx) hnew t
  | untagged v => exact hs.changeUntagged noPort _

/-- The VLANs of a port have changed, and none of those that it has lost is a domain. -/
theorem Good.updatePort (h : Good env s c nothing pvid) (hp : env.Bridgeable p) (brPorts : BrPorts)
    (old new : Option BrVlan) (hc : ∀ w, c p w ↔ w ∈ (old.getD .noVlans).vlanBitmap)
    (hpvid : pvid p = recordedPvid (old.getD .noVlans))
    (hlose : ∀ w ∈ (old.getD .noVlans).vlanBitmap, w ∉ (new.getD .noVlans).vlanBitmap →
      w ∉ s.vxlanDomain) :
    Runs (fun s => Good env s
        (fun q w => if q = p then w ∈ (new.getD .noVlans).vlanBitmap else c q w) nothing
        (fun q => if q = p then recordedPvid (new.getD .noVlans) else pvid q))
      (s.updateVlans env.toVlanEnv {} (.port p) brPorts old new) := by
  have hknown : (BrLink.port p).unknown = false := by
    simpa [BrLink.unknown] using hp.1
  generalize hold : old.getD .noVlans = old' at hc hpvid hlose
  generalize hnew : new.getD .noVlans = new' at hlose
  have hvalid : ∀ done q w, (if q = p then vlansAfter old' new' done w else c q w) →
      1 ≤ w ∧ w < 2 ^ 12 := by
    intro done q w hqw
    split at hqw
    · exact vlansAfter_valid hqw
    · exact h.valid q w hqw
  have hvalid' : ∀ q w, (if q = p then w ∈ new'.vlanBitmap else c q w) → 1 ≤ w ∧ w < 2 ^ 12 := by
    intro q w hqw
    split at hqw
    · exact new'.vlan_valid w hqw
    · exact h.valid q w hqw
  obtain ⟨hrv, hremove⟩ := h.removeOldPvid hp new' hpvid
  refine runs_updateVlans env.toVlanEnv {} (I := fun done s' => Good env s'
    (fun q w => if q = p then vlansAfter old' new' done w else c q w) nothing
    (fun q => if q = p ∧ new'.pvid ≠ old'.pvid then none else pvid q) ∧
      s'.vxlanDomain = s.vxlanDomain) hold hnew ?_ ⟨?_, rfl⟩ ?_ ?_ ?_
  · rintro (rfl | hunknown)
    · refine Good.pvid_congr (h.congr hvalid' (fun q w _ => ?_) fun _ _ _ => Iff.rfl) fun q _ => ?_
      · split
        · subst_vars
          exact hc w
        · rfl
      · split
        · subst_vars
          exact hpvid
        · rfl
    · rw [hknown] at hunknown
      cases hunknown
  · refine hremove.congr (hvalid []) (fun q w _ => ?_) fun _ _ _ => Iff.rfl
    split
    · subst_vars
      exact (hc w).trans vlansAfter_nil.symm
    · rfl
  · exact fun hneg => absurd hneg (Int.not_lt.mpr hrv.ge)
  · rintro done x s' hx ⟨hs', hdom⟩
    cases x with
    | vlan v =>
      have hstep := hs'.changePort hp (valid_of_change hx) new'
        (fun hmem => hdom ▸ hlose v (mem_old_of_change hx hmem) hmem) brPorts
      refine Runs.imp (fun s'' hs'' => ⟨hs''.1.congr (hvalid _) (fun q w _ => ?_)
        fun _ _ _ => Iff.rfl, hs''.2.trans hdom⟩) hstep
      rw [vlansAfter_vlan]
      by_cases hq : q = p <;> by_cases hw : w = v <;> simp [hq, hw]
    | untagged v =>
      refine ⟨(hs'.changeUntagged p _).congr (hvalid _) (fun q w _ => ?_) fun _ _ _ => Iff.rfl, hdom⟩
      rw [vlansAfter_untagged]
  · rintro s' ⟨hs', -⟩
    refine (hs'.addNewPvid hp hpvid).congr hvalid' (fun q w _ => ?_) fun _ _ _ => Iff.rfl
    rw [vlansAfter_changes]

end NlBridge

/-! ## Runs -/

/-- The bridge with the VLANs of its ports. -/
structure BrState (M : Type) where
  br : NlBridge M := {}
  ports : Table PortId BrVlan := ∅
  /-- The VXLAN interfaces, by ifindex. -/
  vxlans : Table Int BrVlan := ∅

namespace BrState

variable {M : Type} [DecidableEq M] (env : BridgeEnv M)

/-- The VLANs of a port or of an interface change; `none` if it leaves the bridge. -/
inductive Ev where
  | port (p : { p : PortId // env.Bridgeable p }) (new : Option BrVlan)
  | vxlan (ifindex : Int) (tunnelId : { t : Nat // t ≠ 0 }) (new : Option BrVlan)

/-- The cache after a change. -/
def setVlans {K : Type} [DecidableEq K] (t : Table K BrVlan) (k : K) : Option BrVlan → Table K BrVlan
  | none => t.erase k
  | some vlans => t.insert k vlans

/-- The bridge ports, as `update_vlans` gets them. -/
def brPorts (s : BrState M) : BrPorts := s.ports.entries.map fun e => (e.1, e.2)

/-- A port link changes, or a VXLAN link does. -/
def exec (s : BrState M) : Ev env → Except Crash (BrState M)
  | .port p new =>
    let s' := { s with ports := setVlans s.ports p.1 new }
    (s.br.updateVlans env.toVlanEnv {} (.port p) s'.brPorts (s.ports.lookup p.1) new).map
      fun br => { s' with br := br }
  | .vxlan ifindex tunnelId new =>
    let s' := { s with vxlans := setVlans s.vxlans ifindex new }
    (s.br.updateVlans env.toVlanEnv {} (.vxlan tunnelId) s'.brPorts (s.vxlans.lookup ifindex) new).map
      fun br => { s' with br := br }

/-- The VLANs of a port; a port that is not in the bridge has none. -/
def vlansOf (s : BrState M) (p : PortId) : BrVlan := (s.ports.lookup p).getD .noVlans

/-- The access ports are those in the VXLAN domains, and the other VLANs are programmed. -/
def Accessible (s : BrState M) : Prop :=
  ∀ p v, env.Bridgeable p →
    ((p, v) ∈ s.br.accessPortIds ↔ v ∈ s.br.vxlanDomain ∧ v ∈ (s.vlansOf p).vlanBitmap) ∧
    (v ∈ (s.vlansOf p).vlanBitmap → v ∉ s.br.vxlanDomain →
      ∀ q ∈ NlVlan.bridgeVlanPorts env.toVlanEnv p, Programmed env.fm s.br.vlan.swi q v)

/-- No port loses a VLAN that is a VXLAN domain. -/
def Keeps (s : BrState M) : Ev env → Prop
  | .port p new => ∀ v ∈ (s.vlansOf p).vlanBitmap, v ∉ (new.getD .noVlans).vlanBitmap →
    v ∉ s.br.vxlanDomain
  | .vxlan .. => True

/-- The PVID that is recorded for a port. -/
def pvidOf (s : BrState M) (p : PortId) : Option Nat :=
  NlBridge.recordedPvid (s.vlansOf p)

/-- The access ports are good for the VLANs of the bridge ports, all of them bridgeable. -/
structure Inv (s : BrState M) : Prop where
  good : s.br.Good env (fun p v => v ∈ (s.vlansOf p).vlanBitmap) NlBridge.nothing s.pvidOf
  bridgeable : ∀ p ∈ s.ports, env.Bridgeable p

variable {env} {s : BrState M}

theorem lookup_setVlans {K : Type} [DecidableEq K] (t : Table K BrVlan) (k k' : K)
    (new : Option BrVlan) : (setVlans t k new).lookup k' = if k' = k then new else t.lookup k' := by
  cases new with
  | none => exact Table.lookup_erase_ite t k k'
  | some vlans => exact Table.lookup_insert_ite t k k' vlans

omit [DecidableEq M] in
theorem mem_brPorts {p : PortId} {b : BrVlan} :
    (p, b) ∈ s.brPorts ↔ s.ports.lookup p = some b := by
  unfold brPorts
  rw [List.mem_map, ← Option.mem_def, AList.mem_lookup_iff]
  constructor
  · rintro ⟨e, he, heq⟩
    cases heq
    exact he
  · exact fun he => ⟨_, he, rfl⟩

theorem Inv.cached (h : Inv env s) :
    NlBridge.Cached env s.brPorts (fun p v => v ∈ (s.vlansOf p).vlanBitmap) s.pvidOf where
  bridgeable x hx := h.bridgeable x.1 (Table.mem_iff_lookup.mpr ⟨x.2, mem_brPorts.mp hx⟩)
  vlans q w := by
    simp only [mem_brPorts, vlansOf]
    cases s.ports.lookup q with
    | none => simp
    | some b => simp
  pvids x hx hval := by
    have hl := mem_brPorts.mp hx
    simp only [pvidOf, vlansOf, hl, Option.getD_some, NlBridge.recordedPvid, hval, if_true]

theorem Inv.accessible (h : Inv env s) : Accessible env s := by
  intro p v hp
  refine ⟨?_, fun hv hdom => h.good.normal p v hp hv hdom id⟩
  rw [h.good.access p v hp]
  exact or_iff_left id

/-- The VLANs of a VXLAN interface change. -/
theorem Inv.vxlan (h : Inv env s) (ifindex : Int) (t : { t : Nat // t ≠ 0 })
    (new : Option BrVlan) : Runs (Inv env) (s.exec env (.vxlan ifindex t new)) := by
  simp only [exec, runs_map]
  refine Runs.imp (fun br hbr => ⟨hbr, h.bridgeable⟩) (h.good.updateVxlan ?_ t _ new)
  exact h.cached

omit [DecidableEq M] in
theorem vlansOf_setVlans {p : PortId} (q : PortId) (new : Option BrVlan) (br : NlBridge M) :
    ({ s with ports := setVlans s.ports p new, br := br } : BrState M).vlansOf q =
      if q = p then new.getD .noVlans else s.vlansOf q := by
  unfold vlansOf
  rw [lookup_setVlans]
  split <;> rfl

/-- The VLANs of a port change. -/
theorem Inv.port (h : Inv env s) (p : { p : PortId // env.Bridgeable p }) (new : Option BrVlan)
    (hk : Keeps env s (.port p new)) : Runs (Inv env) (s.exec env (.port p new)) := by
  simp only [exec, runs_map]
  refine Runs.imp (fun br hbr => ⟨?_, fun q hq => ?_⟩) (h.good.updatePort p.2 _ (s.ports.lookup p.1)
    new (fun w => Iff.rfl) rfl hk)
  · have hpv : ({ s with ports := setVlans s.ports p.1 new, br := br } : BrState M).pvidOf =
        fun q => if q = p.1 then NlBridge.recordedPvid (new.getD .noVlans) else s.pvidOf q := by
      funext q
      unfold pvidOf
      rw [vlansOf_setVlans]
      split <;> rfl
    rw [hpv]
    refine hbr.congr (fun q w => BrVlan.vlan_valid _ w) (fun q w _ => ?_) fun _ _ _ => Iff.rfl
    rw [vlansOf_setVlans]
    split <;> rfl
  · obtain ⟨b, hb⟩ := Table.mem_iff_lookup.mp hq
    simp only [lookup_setVlans] at hb
    split at hb
    · subst_vars
      exact p.2
    · exact h.bridgeable q (Table.mem_iff_lookup.mpr ⟨b, hb⟩)

theorem mem_createAccessPort {br : NlBridge M} {k : PortId × Nat} (hk : k ∈ br.accessPortIds)
    {t : Nat} {p : PortId} {v : Nat} {untagged : Bool} :
    k ∈ (br.createAccessPort env.toVlanEnv {} t p v untagged).accessPortIds := by
  unfold NlBridge.createAccessPort
  simp only
  split
  · exact hk
  · exact (AList.mem_insert _).mpr (.inr hk)

variable (env) in
/-- A port whose VLANs change loses no access port, and the domains stay. -/
theorem updateVlans_port_mono (br : NlBridge M) (p : PortId) (brPorts : BrPorts)
    (old new : Option BrVlan) :
    WhileRuns (fun br' : NlBridge M => br'.vxlanDomain = br.vxlanDomain ∧
        ∀ k ∈ br.accessPortIds, k ∈ br'.accessPortIds)
      (br.updateVlans env.toVlanEnv {} (.port p) brPorts old new) := by
  refine NlBridge.whileRuns_updateVlans _ _ ⟨rfl, fun _ => id⟩ (fun br' _ h => h)
    fun br' x br'' h hx => ?_
  cases x with
  | untagged v =>
    cases hx
    exact h
  | vlan v =>
    simp only [NlBridge.change, NlBridge.changeVlan] at hx
    split at hx
    · split at hx
      · split at hx
        · cases hx
          exact ⟨(NlBridge.createAccessPort_domain ..).1.trans h.1,
            fun k hk => mem_createAccessPort (h.2 k hk)⟩
        · cases hx
      · cases hx
        exact h
    · cases hx
      exact h

theorem inv_init : Inv env ({} : BrState M) where
  good :=
    { same := fun v => by simp
      tunnels := fun _ _ h => by simp at h
      domTunnels := fun _ _ h => by simp at h
      valid := fun _ v h => by simp [vlansOf] at h
      access := fun p v _ => by simp [NlBridge.nothing]
      normal := fun _ _ _ h => by simp [vlansOf] at h
      pvids := fun p _ => by simp [pvidOf, vlansOf, NlBridge.recordedPvid, NlVlan.isVidValid] }
  bridgeable p hp := by simp at hp

/-- **Access ports.** The access ports are those in the VXLAN domains, and the other VLANs of the
ports are programmed, exactly as long as no port loses a VLAN that is a VXLAN domain: such a port
stays an access port. -/
theorem accessible_iff_along (env : BridgeEnv M) (es : List (Ev env)) :
    (∀ n, Runs (Accessible env) (run (procStep (exec env)) (.ok {}) (es.take n))) ↔
      Along (procStep (exec env)) (OnRunning (Keeps env)) (.ok ({} : BrState M)) es := by
  refine runs_iff_along (I := Inv env) inv_init inv_init.accessible (fun s e h _ hk => ?_)
    (fun s e h hl => ?_) es
  · cases e with
    | port p new => exact h.port p new hk
    | vxlan ifindex t new => exact h.vxlan ifindex t new
  · cases e with
    | port p new =>
      refine ⟨fun hr => ?_, fun hk => Runs.imp (fun _ => Inv.accessible) (h.port p new hk)⟩
      intro v hold hnew hdom
      obtain ⟨s', hs', hacc⟩ := runs_iff.mp hr
      obtain ⟨br, hbr, rfl⟩ := map_eq_ok.mp hs'
      have hmono := updateVlans_port_mono env s.br p.1
        ({ s with ports := setVlans s.ports p.1 new } : BrState M).brPorts (s.ports.lookup p.1) new
      rw [hbr] at hmono
      -- It was an access port, and it still is one.
      have hid := hmono.2 _ (((hl p.1 v p.2).1).mpr ⟨hdom, hold⟩)
      have hstill := ((hacc p.1 v p.2).1.mp hid).2
      rw [vlansOf_setVlans, if_pos rfl] at hstill
      exact hnew hstill
    | vxlan ifindex t new =>
      exact iff_of_true (Runs.imp (fun _ => Inv.accessible) (h.vxlan ifindex t new)) trivial

/-- The switch of OF-DPA without bonds. -/
def plainBridge : BridgeEnv (Nat × List Nat) where
  toVlanEnv := VlanEnv.noBonds
  encodes := ofdpaVlanDriver_encodes
  disjoint _ _ _ h := nomatch h

/-- The first port, as a port of the bridge. -/
def bridgePort1 : { p : PortId // plainBridge.Bridgeable p } :=
  ⟨port1, by decide, fun bond h => by
    unfold VlanEnv.lagMembers at h
    split at h <;> cases h⟩

/-- VLAN 10, tagged. -/
def vlan10 : BrVlan := { BrVlan.noVlans with vlanBitmap := {10}, vlan_valid := by decide }

/-- A port gets VLAN 10, which is a VXLAN domain, and loses it again. -/
def gainAndLose10 : List (Ev plainBridge) :=
  [.vxlan 7 ⟨10, by decide⟩ (some vlan10), .port bridgePort1 (some vlan10),
    .port bridgePort1 (some .noVlans)]

theorem gainAndLose10_not_accessible :
    ¬ Runs (Accessible plainBridge) (run (procStep (exec plainBridge)) (.ok {}) gainAndLose10) := by
  refine Runs.not_of (P := fun s => (port1, 10) ∈ s.br.accessPortIds ∧
    10 ∉ (s.vlansOf port1).vlanBitmap) (by decide +kernel) fun s hs hacc => ?_
  exact hs.2 ((hacc port1 10 bridgePort1.2).1.mp hs.1).2

end BrState

end Basebox
