import Basebox.Netlink.BridgeRelease
import Basebox.Netlink.VlanBond

/-!
# A port that joins a bond and leaves it again (`src/netlink/nl_vlan.cc`)

`bond_member_attached` programs the VLANs of a bond on a port, `bond_member_detached` takes them
back. They walk over the same table, and are written apart.

* `attachCalls`, `detachCalls`: the calls for a VLAN of a bond in the bridge. The first adds the VLAN
  at ingress before it looks at the outer VLAN, the second removes it there only without one.
* `SameOnPort`: what the switch has for a port, and the flood groups, are the same.
* `detached_iff`: the switch is as it was exactly if no VLAN of the bond has an outer VLAN, and the
  port has no rule for untagged packets that the bond overwrites.

No call to the switch fails here, and none of the VLANs of the bond is on the port before.
-/

namespace Basebox

namespace NlVlan

open NlBridge (enableVlanCalls disableVlanCalls enableVlanCalls_own disableVlanCalls_own own_frame
  entries_enableVlanCalls entries_disableVlanCalls flood_eq)

variable {M : Type} [DecidableEq M]

/-- What is taken back of a port for one VLAN when it leaves. -/
def detachCalls (pvid : Nat) (vrfId : Nat → Nat) (port : PortId) (x : Nat × Nat × Bool) :
    List SwiCall :=
  .egressBridgePortVlanRemove port x.1 ::
    if x.2.1 > 0 then
      [.ingressPortPopVlanRemove port x.2.1 x.1 (vrfId x.1),
        .egressPortPushVlanRemove port x.1 x.2.1]
    else [.ingressPortVlanRemove port x.1 (pvid != 0) (vrfId x.1)]

/-- The switch has the same for a port, and the same flood groups. -/
structure SameOnPort (fm : VlanDriver M) (port : PortId) (s s' : PortSwitch M) : Prop where
  entries : ∀ v < 2 ^ 12, s'.entries fm port v = s.entries fm port v
  flood : ∀ v < 2 ^ 12,
    s'.sw.groups.lookup (fm.groupIdL2Flood v v) = s.sw.groups.lookup (fm.groupIdL2Flood v v) ∧
      s'.sw.flows.lookup (.dlfVlan v) = s.sw.flows.lookup (.dlfVlan v)
  popTags : ∀ m, s'.popTags.lookup m = s.popTags.lookup m
  pushTags : ∀ m, s'.pushTags.lookup m = s.pushTags.lookup m

/-- The VLANs of a bond that its members get: those of the bridge, or its own. -/
def bondVlans (s : NlVlan M) (bond : PortId) (bridged : Bool) (v : Nat) : Prop :=
  if bridged then v ∈ s.vlansOfBond bond else (bond, v) ∈ s.portVlan

/-- A physical port that has none of the VLANs of a bond. -/
structure Unattached (env : VlanEnv M) (s : NlVlan M) (bond : PortId) (bridged : Bool)
    (port : PortId) : Prop where
  bondId : bond.1 ≠ 0
  portId : port.1 ≠ 0
  physical : Nbi.isLag port = false
  valid : ∀ v, s.bondVlans bond bridged v → isVidValid v = true
  ingress : ∀ v, s.bondVlans bond bridged v → (s.swi.entries env.fm port v).ingress = none
  egress : ∀ v, s.bondVlans bond bridged v → (s.swi.entries env.fm port v).egress = none
  flood : ∀ v, s.bondVlans bond bridged v →
    env.fm.groupIdL2Interface port v ∉ s.swi.l2Domain.members v
  /-- This holds on every switch that was programmed by calls. -/
  mirrors : ∀ v < 2 ^ 12, L2Domain.Mirrors env.fm.toFmDriver s.swi.l2Domain s.swi.sw v

/-- The bond has a rule for untagged packets. -/
def HasPvid (env : VlanEnv M) (s : NlVlan M) (bond : PortId) (bridged : Bool) : Prop :=
  if bridged then (s.portPvid.lookup bond).getD 0 ≠ 0 ∧ s.vlansOfBond bond ≠ ∅
  else (bond, env.portUntaggedVid) ∈ s.portVlan

/-- Nothing is left on the port, and nothing of its own is lost. -/
def LeavesClean (env : VlanEnv M) (s : NlVlan M) (bond : PortId) (bridged : Bool) (port : PortId) :
    Prop :=
  (bridged = true → ∀ v x, (s.vlansOfBond bond).lookup v = some x → x.1 = 0) ∧
  (HasPvid env s bond bridged → ∀ v < 2 ^ 12, (s.swi.entries env.fm port v).pvid = none)

variable {env : VlanEnv M} {s : NlVlan M} {bond port : PortId} {v : Nat}

/-! ## A bond in the bridge -/

section Bridged

variable {pvid : Nat} {vrfId : Nat → Nat} {x : Nat × Nat × Bool} {l : List (Nat × Nat × Bool)}
  {c : SwiCall}

omit [DecidableEq M] in
theorem port_vid_attachCalls (hc : c ∈ attachCalls pvid vrfId port x) :
    c.port = port ∧ c.vid = x.1 := by
  unfold attachCalls at hc
  split at hc
  · simp only [List.cons_append, List.nil_append, List.mem_cons, List.not_mem_nil, or_false] at hc
    rcases hc with rfl | rfl | rfl | rfl <;> exact ⟨rfl, rfl⟩
  · simp only [List.cons_append, List.nil_append, List.mem_cons, List.not_mem_nil, or_false] at hc
    rcases hc with rfl | rfl | rfl <;> exact ⟨rfl, rfl⟩

omit [DecidableEq M] in
theorem port_vid_detachCalls (hc : c ∈ detachCalls pvid vrfId port x) :
    (c.port = port ∧ c.vid = x.1) ∧ c.TakesBack := by
  unfold detachCalls at hc
  split at hc
  · simp only [List.mem_cons, List.not_mem_nil, or_false] at hc
    rcases hc with rfl | rfl | rfl <;> exact ⟨⟨rfl, rfl⟩, trivial⟩
  · simp only [List.mem_cons, List.not_mem_nil, or_false] at hc
    rcases hc with rfl | rfl <;> exact ⟨⟨rfl, rfl⟩, trivial⟩

variable (env pvid vrfId) in
/-- The VLANs of the list are on the switch while the port is a member. -/
theorem attach_domain (hx : x ∈ l) (hlag : Nbi.isLag port = false) (sw : PortSwitch M) :
    x.1 ∈ (execAll env.fm (l.flatMap (attachCalls pvid vrfId port)) sw).l2Domain := by
  have hmem : .egressBridgePortVlanAdd port x.1 (!x.2.2) ∈
      l.flatMap (attachCalls pvid vrfId port) :=
    List.mem_flatMap.mpr ⟨x, hx, List.mem_cons_self⟩
  refine execAll_of_mem (P := fun sw => x.1 ∈ sw.l2Domain) hmem (fun c hc sw h => ?_) fun sw => ?_
  · cases c with
    | egressBridgePortVlanAdd q w untagged =>
      simp only [SwiCall.exec, L2Domain.egressBridgePortVlanAdd]
      split
      · exact h
      · exact (AList.mem_insert _).mpr (.inr h)
    | egressBridgePortVlanRemove q w =>
      obtain ⟨y, -, hy⟩ := List.mem_flatMap.mp hc
      simp only [attachCalls] at hy
      split at hy <;> simp at hy
    | _ => exact h
  · simp only [SwiCall.exec, L2Domain.egressBridgePortVlanAdd, hlag, Bool.false_eq_true, if_false]
    exact (AList.mem_insert _).mpr (.inl rfl)

/-- The VLAN at ingress is not taken back if it has an outer VLAN. -/
theorem ingress_left (hE : env.fm.Encodes) (hx : x ∈ l) (houter : x.2.1 ≠ 0)
    (hnodup : (l.map (·.1)).Nodup) (hvalid : ∀ y ∈ l, y.1 < 2 ^ 12) (sw : PortSwitch M)
    {sw' : PortSwitch M} (hsw : sw' = execAll env.fm (l.flatMap (attachCalls pvid vrfId port) ++
      l.flatMap (detachCalls pvid vrfId port)) sw) :
    (sw'.entries env.fm port x.1).ingress ≠ none := by
  have hlt := hvalid x hx
  have hmem : .ingressPortVlanAdd port x.1 (x.1 == pvid) (vrfId x.1) ∈
      l.flatMap (attachCalls pvid vrfId port) :=
    List.mem_flatMap.mpr ⟨x, hx, List.mem_cons_of_mem _ List.mem_cons_self⟩
  rw [hsw, execAll_append]
  refine execAll_keeps (I := fun sw => (sw.entries env.fm port x.1).ingress ≠ none) ?_ ?_
  · refine execAll_of_mem (P := fun sw => (sw.entries env.fm port x.1).ingress ≠ none) hmem
      (fun c hc sw h => ?_) fun sw => ?_
    · obtain ⟨y, hy, hc⟩ := List.mem_flatMap.mp hc
      have hvid : c.vid < 2 ^ 12 := (port_vid_attachCalls hc).2 ▸ hvalid y hy
      have hlocal : c.Local := by
        refine ⟨hvid, fun q w he => ?_⟩
        subst he
        simp only [attachCalls] at hc
        split at hc <;> simp at hc
      rw [entries_exec hE sw port hlt c hlocal]
      cases c with
      | ingressPortVlanAdd q w b vrf =>
        simp only [SwiCall.effect]
        split
        · simp
        · exact h
      | ingressPortVlanRemove q w b vrf =>
        simp only [attachCalls] at hc
        split at hc <;> simp at hc
      | egressPortVlanAdd q w u update => cases update <;> exact h
      | _ => exact h
    · rw [entries_exec hE sw port hlt (.ingressPortVlanAdd port x.1 (x.1 == pvid) (vrfId x.1))
        ⟨hlt, by simp⟩]
      simp [SwiCall.effect]
  · intro c hc sw h
    obtain ⟨y, hy, hc⟩ := List.mem_flatMap.mp hc
    obtain ⟨⟨-, hvid⟩, -⟩ := port_vid_detachCalls hc
    by_cases hxy : x.1 = y.1
    · -- The calls for the VLAN itself are about the tags.
      obtain rfl : x = y := List.inj_on_of_nodup_map hnodup hx hy hxy
      have hpos := Nat.pos_of_ne_zero houter
      simp only [detachCalls, gt_iff_lt, hpos, if_true, List.mem_cons, List.not_mem_nil,
        or_false] at hc
      rcases hc with rfl | rfl | rfl
      · rw [entries_egressBridgePortVlanRemove hE sw port port hlt hlt]
        exact h
      · exact h
      · exact h
    · have hsame := inOut_exec_of_vid_ne (p := port) hE hlt (hvid ▸ hvalid y hy) (hvid ▸ hxy) sw
      simp only [PortEntries.inOut, Prod.mk.injEq] at hsame
      rw [hsame.1]
      exact h

/-- The calls for the VLANs of the bond are about no other VLAN, and the flood groups change by the
port only. -/
theorem attach_detach_frame (hE : env.fm.Encodes) (hlag : Nbi.isLag port = false)
    (hvalid : ∀ y ∈ l, y.1 < 2 ^ 12) (sw : PortSwitch M) {sw' : PortSwitch M}
    (hsw : sw' = execAll env.fm (l.flatMap (attachCalls pvid vrfId port) ++
      l.flatMap (detachCalls pvid vrfId port)) sw) :
    (∀ v < 2 ^ 12, v ∉ l.map (·.1) →
      (sw'.entries env.fm port v).inOut = (sw.entries env.fm port v).inOut ∧
        sw'.l2Domain.members v = sw.l2Domain.members v) ∧
    (∀ v g, g ≠ env.fm.groupIdL2Interface port v →
      (g ∈ sw'.l2Domain.members v ↔ g ∈ sw.l2Domain.members v)) ∧
    ((∀ v < 2 ^ 12, L2Domain.Mirrors env.fm.toFmDriver sw.l2Domain sw.sw v) →
      ∀ v < 2 ^ 12, L2Domain.Mirrors env.fm.toFmDriver sw'.l2Domain sw'.sw v) := by
  have hcall : ∀ c ∈ l.flatMap (attachCalls pvid vrfId port) ++
      l.flatMap (detachCalls pvid vrfId port), c.port = port ∧ ∃ y ∈ l, c.vid = y.1 := by
    intro c hc
    rcases List.mem_append.mp hc with hc | hc
    · obtain ⟨y, hy, hc⟩ := List.mem_flatMap.mp hc
      exact ⟨(port_vid_attachCalls hc).1, y, hy, (port_vid_attachCalls hc).2⟩
    · obtain ⟨y, hy, hc⟩ := List.mem_flatMap.mp hc
      exact ⟨(port_vid_detachCalls hc).1.1, y, hy, (port_vid_detachCalls hc).1.2⟩
  have hvid : ∀ c ∈ l.flatMap (attachCalls pvid vrfId port) ++
      l.flatMap (detachCalls pvid vrfId port), c.vid < 2 ^ 12 := by
    intro c hc
    obtain ⟨-, y, hy, hcy⟩ := hcall c hc
    exact hcy ▸ hvalid y hy
  subst hsw
  refine ⟨fun v hv hnot => ?_, fun v g hg => ?_, fun hm => ?_⟩
  · refine execAll_keeps (I := fun sw' => (sw'.entries env.fm port v).inOut = _ ∧
      sw'.l2Domain.members v = _) ⟨rfl, rfl⟩ fun c hc sw' h => ?_
    have hne : v ≠ c.vid := by
      obtain ⟨-, y, hy, hcy⟩ := hcall c hc
      rw [hcy]
      rintro rfl
      exact hnot (List.mem_map_of_mem hy)
    exact ⟨(inOut_exec_of_vid_ne hE hv (hvid c hc) hne sw').trans h.1,
      (members_exec_of_vid_ne hne sw').trans h.2⟩
  · exact execAll_keeps (I := fun sw' => g ∈ sw'.l2Domain.members v ↔ _) Iff.rfl
      fun c hc sw' h => (mem_members_exec hlag (hcall c hc).1 hg).trans h
  · exact execAll_keeps (I := fun sw' => ∀ v < 2 ^ 12,
      L2Domain.Mirrors env.fm.toFmDriver sw'.l2Domain sw'.sw v) hm
      fun c hc _ h => mirrors_exec hE h (hvid c hc)

/-- Without outer VLANs, what the calls leave: nothing of the VLANs, and no rule for untagged
packets if there was a PVID. -/
theorem attach_detach_gone (hE : env.fm.Encodes) (hlag : Nbi.isLag port = false)
    (hvalid : ∀ y ∈ l, y.1 < 2 ^ 12) (hplain : ∀ y ∈ l, y.2.1 = 0) (hx : x ∈ l)
    (sw : PortSwitch M) {sw' : PortSwitch M}
    (hsw : sw' = execAll env.fm (l.flatMap (attachCalls pvid vrfId port) ++
      l.flatMap (detachCalls pvid vrfId port)) sw) :
    (sw'.entries env.fm port x.1).ingress = none ∧ (sw'.entries env.fm port x.1).egress = none ∧
      env.fm.groupIdL2Interface port x.1 ∉ sw'.l2Domain.members x.1 ∧
      (pvid ≠ 0 → ∀ v < 2 ^ 12, (sw'.entries env.fm port v).pvid = none) := by
  have hlt := hvalid x hx
  have hback : ∀ c ∈ l.flatMap (detachCalls pvid vrfId port), c.vid < 2 ^ 12 ∧ c.TakesBack := by
    intro c hc
    obtain ⟨y, hy, hc⟩ := List.mem_flatMap.mp hc
    obtain ⟨⟨-, hvid⟩, hback⟩ := port_vid_detachCalls hc
    exact ⟨hvid ▸ hvalid y hy, hback⟩
  have hegress : .egressBridgePortVlanRemove port x.1 ∈ l.flatMap (detachCalls pvid vrfId port) :=
    List.mem_flatMap.mpr ⟨x, hx, List.mem_cons_self⟩
  have hingress : .ingressPortVlanRemove port x.1 (pvid != 0) (vrfId x.1) ∈
      l.flatMap (detachCalls pvid vrfId port) :=
    List.mem_flatMap.mpr ⟨x, hx, by simp [detachCalls, hplain x hx]⟩
  have hdom := attach_domain env pvid vrfId hx hlag sw
  rw [hsw, execAll_append]
  generalize execAll env.fm (l.flatMap (attachCalls pvid vrfId port)) sw = sw₁ at hdom ⊢
  have heffect : ∀ (sw : PortSwitch M) (v : Nat), v < 2 ^ 12 →
      ((SwiCall.ingressPortVlanRemove port x.1 (pvid != 0) (vrfId x.1)).exec env.fm sw).entries env.fm
        port v = _ := fun sw v hv =>
    entries_exec hE sw port hv (.ingressPortVlanRemove port x.1 (pvid != 0) (vrfId x.1))
      ⟨hlt, by simp⟩
  refine ⟨?_, ?_, ?_, fun hpvid v hv => ?_⟩
  · refine taken_of_mem hE (P := fun sw => (sw.entries env.fm port x.1).ingress = none)
      hingress hback (fun _ _ hf => hf.ingress port x.1 hlt) fun sw => ?_
    rw [heffect sw x.1 hlt]
    simp [SwiCall.effect]
  · refine taken_execAll hE (J := fun sw => x.1 ∈ sw.l2Domain)
      (P := fun sw => (sw.entries env.fm port x.1).egress = none) hegress hback hdom
      (fun _ _ hf => (hf.domain x.1).mpr) (fun _ _ hf => hf.egress port x.1 hlt) fun sw hd => ?_
    rw [entries_egressBridgePortVlanRemove hE sw port port hlt hlt]
    simp [hd]
  · refine taken_of_mem hE
      (P := fun sw => env.fm.groupIdL2Interface port x.1 ∉ sw.l2Domain.members x.1) hegress hback
      (fun _ _ hf h hm => h (hf.members x.1 hm)) fun sw => ?_
    rw [members_egressBridgePortVlanRemove, if_pos rfl]
    exact Finset.notMem_erase _ _
  · refine taken_of_mem hE (P := fun sw => (sw.entries env.fm port v).pvid = none) hingress hback
      (fun _ _ hf => hf.pvid port v hv) fun sw => ?_
    rw [heffect sw v hv]
    simp [SwiCall.effect, hpvid]

/-- Without outer VLANs there are no calls for tags, and without a PVID none for untagged packets. -/
theorem attach_detach_same (hE : env.fm.Encodes) (hvalid : ∀ y ∈ l, 1 ≤ y.1 ∧ y.1 < 2 ^ 12)
    (hplain : ∀ y ∈ l, y.2.1 = 0) (sw : PortSwitch M) {sw' : PortSwitch M}
    (hsw : sw' = execAll env.fm (l.flatMap (attachCalls pvid vrfId port) ++
      l.flatMap (detachCalls pvid vrfId port)) sw) :
    sw'.popTags = sw.popTags ∧ sw'.pushTags = sw.pushTags ∧
      (pvid = 0 → ∀ v < 2 ^ 12, (sw'.entries env.fm port v).pvid = (sw.entries env.fm port v).pvid) := by
  have hcall : ∀ c ∈ l.flatMap (attachCalls pvid vrfId port) ++
      l.flatMap (detachCalls pvid vrfId port), ∃ y ∈ l,
        c = .egressBridgePortVlanAdd port y.1 (!y.2.2) ∨
        c = .ingressPortVlanAdd port y.1 (y.1 == pvid) (vrfId y.1) ∨
        c = .ingressPortVlanAdd port y.1 (pvid != 0) (vrfId y.1) ∨
        c = .egressBridgePortVlanRemove port y.1 ∨
        c = .ingressPortVlanRemove port y.1 (pvid != 0) (vrfId y.1) := by
    intro c hc
    rcases List.mem_append.mp hc with hc | hc
    · obtain ⟨y, hy, hc⟩ := List.mem_flatMap.mp hc
      simp only [attachCalls, hplain y hy, gt_iff_lt, Nat.lt_irrefl, if_false, List.cons_append,
        List.nil_append, List.mem_cons, List.not_mem_nil, or_false] at hc
      exact ⟨y, hy, by tauto⟩
    · obtain ⟨y, hy, hc⟩ := List.mem_flatMap.mp hc
      simp only [detachCalls, hplain y hy, gt_iff_lt, Nat.lt_irrefl, if_false, List.mem_cons,
        List.not_mem_nil, or_false] at hc
      exact ⟨y, hy, by tauto⟩
  subst hsw
  refine ⟨?_, ?_, fun hpvid v hv => ?_⟩
  · refine execAll_keeps (I := fun sw' => sw'.popTags = sw.popTags) rfl fun c hc sw' h => ?_
    obtain ⟨y, -, rfl | rfl | rfl | rfl | rfl⟩ := hcall c hc <;> exact h
  · refine execAll_keeps (I := fun sw' => sw'.pushTags = sw.pushTags) rfl fun c hc sw' h => ?_
    obtain ⟨y, -, rfl | rfl | rfl | rfl | rfl⟩ := hcall c hc <;> exact h
  · refine execAll_keeps (I := fun sw' => (sw'.entries env.fm port v).pvid = _) rfl
      fun c hc sw' h => ?_
    obtain ⟨y, hy, hc⟩ := hcall c hc
    obtain ⟨hpos, hlt⟩ := hvalid y hy
    have hne : (y.1 == pvid) = false := beq_false_of_ne (by omega)
    rw [hne, hpvid] at hc
    have hvid : c.vid = y.1 := by rcases hc with rfl | rfl | rfl | rfl | rfl <;> rfl
    have hkeeps : c.KeepsPvid := by
      rcases hc with rfl | rfl | rfl | rfl | rfl
      · trivial
      · rfl
      · rfl
      · trivial
      · rfl
    exact (pvid_exec hE hv (hvid ▸ hlt) hkeeps sw').trans h

end Bridged

variable (env s) in
/-- A port joins a bond in the bridge and leaves it. -/
theorem detached_bridged (hbond : bond.1 ≠ 0) (hport : port.1 ≠ 0) :
    (bondMemberDetached env allOk (bondMemberAttached env allOk s bond true port).2 bond true
      port).2.swi =
      execAll env.fm
        ((ascending (s.vlansOfBond bond)).flatMap
          (attachCalls ((s.portPvid.lookup bond).getD 0) s.getVrfId port) ++
        (ascending (s.vlansOfBond bond)).flatMap
          (detachCalls ((s.portPvid.lookup bond).getD 0) s.getVrfId port)) s.swi := by
  simp only [bondMemberAttached, bondMemberDetached, hbond, hport, if_false, if_true, vlansOfBond]
  cases hl : s.bridgeVlan.lookup bond with
  | none => simp [hl]; rfl
  | some vlans =>
    simp only [hl, swiEach_allOk, execAll_append, Option.getD_some]
    rfl

/-! ## A bond that is no bridge port -/

/-- A port joins such a bond and leaves it. -/
theorem detached_own (hbond : bond.1 ≠ 0) (hport : port.1 ≠ 0) (hlag : Nbi.isLag port = false) :
    (bondMemberDetached env allOk (bondMemberAttached env allOk s bond false port).2 bond false
      port).2.swi =
      execAll env.fm ((s.vlansOf bond).flatMap (disableVlanCalls env port s))
        (execAll env.fm ((s.vlansOf bond).flatMap (enableVlanCalls env port s)) s.swi) := by
  have henable : ∀ v sw, (enableVlan env allOk port v (v != env.portUntaggedVid) (s.getVrfId v)
      sw).2 = execAll env.fm (enableVlanCalls env port s v) sw := by
    intro v sw
    simp [enableVlan, addIngressVlan, VlanEnv.lagMembers, hlag, swiCall, allOk, swiUntilFail,
      enableVlanCalls, bne]
  have hdisable : ∀ v sw, (disableVlan env allOk port v (v != env.portUntaggedVid) (s.getVrfId v)
      sw).2 = execAll env.fm (disableVlanCalls env port s v) sw := by
    intro v sw
    simp [disableVlan, removeIngressVlan, VlanEnv.lagMembers, hlag, swiCall, allOk, swiEach,
      disableVlanCalls, bne]
  simp only [bondMemberAttached, bondMemberDetached, hbond, hport, if_false, Bool.false_eq_true,
    henable]
  have hloop := fun (calls : Nat → List SwiCall) (sw : PortSwitch M) =>
    show execAll env.fm ((s.vlansOf bond).flatMap calls) sw =
      (s.vlansOf bond).foldl (fun sw v => execAll env.fm (calls v) sw) sw from List.foldl_flatMap
  rw [hloop, hloop]
  simp only [← hdisable]
  rfl

/-! ## The result -/

/-- Of an entry that is gone, only that there was none can be said. -/
theorem sameOnPort_pvid {fm : VlanDriver M} {sw sw' : PortSwitch M}
    (h : SameOnPort fm port sw sw') (hgone : ∀ v < 2 ^ 12, (sw'.entries fm port v).pvid = none) :
    ∀ v < 2 ^ 12, (sw.entries fm port v).pvid = none := by
  intro v hv
  rw [← h.entries v hv]
  exact hgone v hv

theorem Unattached.bridged_iff (hE : env.fm.Encodes) (h : Unattached env s bond true port) :
    SameOnPort env.fm port s.swi
      (bondMemberDetached env allOk (bondMemberAttached env allOk s bond true port).2 bond true
        port).2.swi ↔ LeavesClean env s bond true port := by
  have hsw := detached_bridged env s h.bondId h.portId
  have hlist : ∀ y : Nat × Nat × Bool, y ∈ ascending (s.vlansOfBond bond) ↔
      (s.vlansOfBond bond).lookup y.1 = some y.2 := fun y => mem_ascending
  have hvlan : ∀ y ∈ ascending (s.vlansOfBond bond), s.bondVlans bond true y.1 := fun y hy =>
    Table.mem_iff_lookup.mpr ⟨_, (hlist y).mp hy⟩
  have hvalid : ∀ y ∈ ascending (s.vlansOfBond bond), 1 ≤ y.1 ∧ y.1 < 2 ^ 12 := fun y hy =>
    isVidValid_iff.mp (h.valid y.1 (hvlan y hy))
  have hlt := fun y hy => (hvalid y hy).2
  constructor
  · intro hsame
    have hplain : ∀ y ∈ ascending (s.vlansOfBond bond), y.2.1 = 0 := by
      intro y hy
      by_contra houter
      refine ingress_left hE hy houter (nodup_ascending _) hlt s.swi hsw ?_
      rw [hsame.entries y.1 (hlt y hy)]
      exact h.ingress y.1 (hvlan y hy)
    refine ⟨fun _ v x hx => hplain (v, x) ((hlist (v, x)).mpr hx), fun hpvid => ?_⟩
    obtain ⟨hne, hvlans⟩ := hpvid
    -- Some VLAN is taken back, and the rule with it.
    obtain ⟨y, hy⟩ : ∃ y, y ∈ ascending (s.vlansOfBond bond) := by
      by_contra hno
      refine hvlans (Table.eq_empty_of_lookup fun v => ?_)
      rw [Option.eq_none_iff_forall_ne_some]
      exact fun x hx => hno ⟨(v, x), (hlist (v, x)).mpr hx⟩
    have hgone := attach_detach_gone hE h.physical hlt hplain hy s.swi hsw
    exact sameOnPort_pvid hsame (hgone.2.2.2 hne)
  · rintro ⟨hplain, hpvid⟩
    have hplain : ∀ y ∈ ascending (s.vlansOfBond bond), y.2.1 = 0 := fun y hy =>
      hplain rfl y.1 y.2 ((hlist y).mp hy)
    obtain ⟨hother, hgroups, hmirrors⟩ := attach_detach_frame hE h.physical hlt s.swi hsw
    obtain ⟨hpop, hpush, hnoPvid⟩ := attach_detach_same hE hvalid hplain s.swi hsw
    have hgone := fun y hy => attach_detach_gone hE h.physical hlt hplain (x := y) hy s.swi hsw
    have hmembers : ∀ v < 2 ^ 12, (bondMemberDetached env allOk (bondMemberAttached env allOk s bond
        true port).2 bond true port).2.swi.l2Domain.members v = s.swi.l2Domain.members v := by
      intro v hv
      by_cases hmem : v ∈ (ascending (s.vlansOfBond bond)).map (·.1)
      · obtain ⟨y, hy, rfl⟩ := List.mem_map.mp hmem
        refine Finset.ext fun g => ?_
        by_cases hg : g = env.fm.groupIdL2Interface port y.1
        · subst hg
          exact iff_of_false (hgone y hy).2.2.1 (h.flood y.1 (hvlan y hy))
        · exact hgroups y.1 g hg
      · exact (hother v hv hmem).2
    constructor
    · intro v hv
      have hinOut : ((bondMemberDetached env allOk (bondMemberAttached env allOk s bond true port).2
          bond true port).2.swi.entries env.fm port v).inOut = (s.swi.entries env.fm port v).inOut := by
        by_cases hmem : v ∈ (ascending (s.vlansOfBond bond)).map (·.1)
        · obtain ⟨y, hy, rfl⟩ := List.mem_map.mp hmem
          simp only [PortEntries.inOut, (hgone y hy).1, (hgone y hy).2.1, h.ingress y.1 (hvlan y hy),
            h.egress y.1 (hvlan y hy)]
        · exact (hother v hv hmem).1
      refine (PortEntries.eq_iff_of_inOut hinOut).mpr ?_
      by_cases hzero : (s.portPvid.lookup bond).getD 0 = 0
      · exact hnoPvid hzero v hv
      · rcases hl : ascending (s.vlansOfBond bond) with _ | ⟨y, l⟩
        · rw [hsw, hl]
          rfl
        · have hy : y ∈ ascending (s.vlansOfBond bond) := hl ▸ List.mem_cons_self
          have hne : s.vlansOfBond bond ≠ ∅ := by
            intro he
            have hlookup := (hlist y).mp hy
            rw [he] at hlookup
            cases hlookup
          rw [(hgone y hy).2.2.2 hzero v hv, hpvid ⟨hzero, hne⟩ v hv]
    · exact fun v hv => flood_eq (h.mirrors v hv) (hmirrors h.mirrors v hv) (hmembers v hv)
    · exact fun m => by rw [hpop]
    · exact fun m => by rw [hpush]

/-- The calls for VLANs outside of the bridge leave the outer VLANs alone. -/
theorem tags_enableVlanCalls (env : VlanEnv M) (port : PortId) (s : NlVlan M) (vids : List Nat)
    (sw : PortSwitch M) :
    (execAll env.fm (vids.flatMap (enableVlanCalls env port s)) sw).popTags = sw.popTags ∧
      (execAll env.fm (vids.flatMap (enableVlanCalls env port s)) sw).pushTags = sw.pushTags := by
  refine execAll_keeps (I := fun sw' => sw'.popTags = sw.popTags ∧ sw'.pushTags = sw.pushTags)
    ⟨rfl, rfl⟩ fun c hc sw' hs => ?_
  obtain ⟨w, -, hc⟩ := List.mem_flatMap.mp hc
  simp only [enableVlanCalls, List.mem_cons, List.not_mem_nil, or_false] at hc
  rcases hc with rfl | rfl <;> exact hs

theorem tags_disableVlanCalls (env : VlanEnv M) (port : PortId) (s : NlVlan M) (vids : List Nat)
    (sw : PortSwitch M) :
    (execAll env.fm (vids.flatMap (disableVlanCalls env port s)) sw).popTags = sw.popTags ∧
      (execAll env.fm (vids.flatMap (disableVlanCalls env port s)) sw).pushTags = sw.pushTags := by
  refine execAll_keeps (I := fun sw' => sw'.popTags = sw.popTags ∧ sw'.pushTags = sw.pushTags)
    ⟨rfl, rfl⟩ fun c hc sw' hs => ?_
  obtain ⟨w, -, hc⟩ := List.mem_flatMap.mp hc
  simp only [disableVlanCalls, List.mem_cons, List.not_mem_nil, or_false] at hc
  rcases hc with rfl | rfl | rfl <;> exact hs

theorem Unattached.own_iff (hE : env.fm.Encodes) (h : Unattached env s bond false port) :
    SameOnPort env.fm port s.swi
      (bondMemberDetached env allOk (bondMemberAttached env allOk s bond false port).2 bond false
        port).2.swi ↔ LeavesClean env s bond false port := by
  have hmem : ∀ v, v ∈ s.vlansOf bond ↔ (bond, v) ∈ s.portVlan := fun v => VlanUsers.mem_vlansOf
  have hvids : ∀ v ∈ s.vlansOf bond, v < 2 ^ 12 := fun v hv =>
    (isVidValid_iff.mp (h.valid v ((hmem v).mp hv))).2
  rw [detached_own h.bondId h.portId h.physical]
  obtain ⟨-, hdom₁, hmirrors₁⟩ := own_frame hE h.mirrors (enableVlanCalls_own env port s hvids)
  have hentries₁ := fun v hv => entries_enableVlanCalls (p := port) (s := s) (v := v) hE hv hvids
    s.swi
  obtain ⟨hpop₁, hpush₁⟩ := tags_enableVlanCalls env port s (s.vlansOf bond) s.swi
  generalize execAll env.fm ((s.vlansOf bond).flatMap (enableVlanCalls env port s)) s.swi = sw₁
    at hdom₁ hmirrors₁ hentries₁ hpop₁ hpush₁ ⊢
  obtain ⟨hpop₂, hpush₂⟩ := tags_disableVlanCalls env port s (s.vlansOf bond) sw₁
  obtain ⟨-, hdom₂, hmirrors₂⟩ := own_frame hE hmirrors₁ (disableVlanCalls_own env port s hvids)
  have hentries₂ := fun v hv => entries_disableVlanCalls (p := port) (s := s) (v := v) hE hv hvids sw₁
  have hafter : ∀ v < 2 ^ 12, ((execAll env.fm ((s.vlansOf bond).flatMap
      (disableVlanCalls env port s)) sw₁).entries env.fm port v).pvid =
      if (bond, env.portUntaggedVid) ∈ s.portVlan then none
      else (s.swi.entries env.fm port v).pvid := by
    intro v hv
    rw [hentries₂ v hv, hentries₁ v hv]
    simp only [hmem]
    split <;> rfl
  constructor
  · intro hsame
    refine ⟨fun h => absurd h Bool.false_ne_true, fun hpvid => ?_⟩
    have hown : (bond, env.portUntaggedVid) ∈ s.portVlan := hpvid
    refine sameOnPort_pvid hsame fun v hv => ?_
    rw [hafter v hv, if_pos hown]
  · rintro ⟨-, hpvid⟩
    constructor
    · intro v hv
      have hinOut : ((execAll env.fm ((s.vlansOf bond).flatMap (disableVlanCalls env port s))
          sw₁).entries env.fm port v).inOut = (s.swi.entries env.fm port v).inOut := by
        rw [hentries₂ v hv, hentries₁ v hv]
        simp only [PortEntries.inOut, hmem]
        split
        · rename_i hown
          rw [h.ingress v hown, h.egress v hown]
        · rfl
      refine (PortEntries.eq_iff_of_inOut hinOut).mpr ?_
      rw [hafter v hv]
      split
      · rename_i hown
        exact (hpvid hown v hv).symm
      · rfl
    · exact fun v hv => flood_eq (h.mirrors v hv) (hmirrors₂ v hv) (by rw [hdom₂, hdom₁])
    · exact fun m => by rw [hpop₂, hpop₁]
    · exact fun m => by rw [hpush₂, hpush₁]

/-- **A port that joins a bond and leaves it** finds the switch as it was exactly if the bond has no
VLAN with an outer VLAN in the bridge, and no rule for untagged packets over one of the port. -/
theorem detached_iff {M : Type} [DecidableEq M] (env : VlanEnv M) (hE : env.fm.Encodes)
    (s : NlVlan M) (bond : PortId) (bridged : Bool) (port : PortId)
    (h : Unattached env s bond bridged port) :
    SameOnPort env.fm port s.swi
      (bondMemberDetached env allOk (bondMemberAttached env allOk s bond bridged port).2 bond bridged
        port).2.swi ↔ LeavesClean env s bond bridged port := by
  cases bridged with
  | true => exact h.bridged_iff hE
  | false => exact h.own_iff hE

/-- A bond in the bridge with a VLAN, its PVID. -/
def bondInBridge (outerVid : Nat) : NlVlan (Nat × List Nat) where
  bridgeVlan :=
    (∅ : Table PortId _).insert lag1 ((∅ : Table Nat (Nat × Bool)).insert 10 (outerVid, false))
  portPvid := (∅ : Table PortId Nat).insert lag1 10

theorem bondInBridge_unattached (outerVid : Nat) :
    Unattached .noBonds (bondInBridge outerVid) lag1 true port1 where
  bondId := by decide
  portId := by decide
  physical := rfl
  valid v hv := by
    have hmem : v ∈ ((∅ : Table Nat (Nat × Bool)).insert 10 (outerVid, false) :
      Table Nat (Nat × Bool)) := hv
    rw [AList.mem_insert] at hmem
    obtain rfl := hmem.resolve_right (AList.notMem_empty v)
    rfl
  ingress _ _ := rfl
  egress _ _ := rfl
  flood _ _ := Finset.notMem_empty _
  mirrors _ _ := ⟨rfl, rfl⟩

theorem detached_iff_bondInBridge :
    SameOnPort ofdpaVlanDriver port1 (bondInBridge 0).swi
      (bondMemberDetached .noBonds allOk (bondMemberAttached .noBonds allOk (bondInBridge 0) lag1 true
        port1).2 lag1 true port1).2.swi := by
  refine (detached_iff .noBonds ofdpaVlanDriver_encodes (bondInBridge 0) lag1 true port1
    (bondInBridge_unattached 0)).mpr ⟨fun _ v x hx => ?_, fun _ _ _ => rfl⟩
  have hlookup : ((∅ : Table Nat (Nat × Bool)).insert 10 (0, false) :
    Table Nat (Nat × Bool)).lookup v = some x := hx
  rw [Table.lookup_insert_ite] at hlookup
  split at hlookup
  · cases hlookup
    rfl
  · cases hlookup

/-- VLAN 10 is inside outer VLAN 5: it stays on the port at ingress. -/
theorem bondWithOuterVlan_left :
    ¬ SameOnPort ofdpaVlanDriver port1 (bondInBridge 5).swi
      (bondMemberDetached .noBonds allOk (bondMemberAttached .noBonds allOk (bondInBridge 5) lag1 true
        port1).2 lag1 true port1).2.swi := by
  intro h
  have hentries := h.entries 10 (by decide)
  revert hentries
  decide

end NlVlan

end Basebox
