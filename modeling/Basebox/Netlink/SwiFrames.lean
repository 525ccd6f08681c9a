import Basebox.Netlink.BridgeCalls

/-!
# What a call to the switch leaves alone (`src/of-dpa/controller.cc`)

* `entries_exec_of_port_ne`, `inOut_exec_of_vid_ne`, `members_exec_of_vid_ne`, `pvid_exec`: the
  entries of other ports and VLANs, and of untagged packets.
* `SwiCall.TakesBack`, `Fewer`: calls that bring nothing. What one of them takes back stays taken back
  (`taken_execAll`).
-/

namespace Basebox

/-! ## Calls for one port -/

section Calls

variable {M : Type} [DecidableEq M] {fm : VlanDriver M} {s : PortSwitch M}
  {p q : PortId} {v w : Nat}

/-- A call leaves the other ports alone. -/
theorem entries_exec_of_port_ne (hE : fm.Encodes) (hv : v < 2 ^ 12) {c : SwiCall}
    (hw : c.vid < 2 ^ 12) (hq : q ≠ c.port) :
    (c.exec fm s).entries fm q v = s.entries fm q v := by
  by_cases hbr : ∃ q w, c = .egressBridgePortVlanRemove q w
  · obtain ⟨q', w, rfl⟩ := hbr
    change w < 2 ^ 12 at hw
    rw [entries_egressBridgePortVlanRemove hE s q q' hv hw, if_neg fun h => hq h.1.1]
  · rw [entries_exec hE s q hv c ⟨hw, fun q w he => hbr ⟨q, w, he⟩⟩, SwiCall.effect_of_port_ne hq]

theorem members_egressBridgePortVlanAdd (hlag : Nbi.isLag p = false) (u : Bool) :
    ((SwiCall.egressBridgePortVlanAdd p v u).exec fm s).l2Domain.members w =
      if w = v then insert (fm.groupIdL2Interface p v) (s.l2Domain.members v)
      else s.l2Domain.members w := by
  simp only [SwiCall.exec, L2Domain.egressBridgePortVlanAdd, hlag, Bool.false_eq_true, if_false,
    L2Domain.members_insert]

theorem members_egressBridgePortVlanRemove :
    ((SwiCall.egressBridgePortVlanRemove p v).exec fm s).l2Domain.members w =
      if w = v then (s.l2Domain.members v).erase (fm.groupIdL2Interface p v)
      else s.l2Domain.members w := by
  simp only [SwiCall.exec, L2Domain.egressBridgePortVlanRemove]
  cases hl : s.l2Domain.lookup v with
  | none =>
    by_cases hwv : w = v
    · subst hwv
      simp [L2Domain.members, hl]
    · rw [if_neg hwv]
  | some set =>
    rw [L2Domain.members_insert]
    by_cases hwv : w = v
    · simp [hwv, L2Domain.members, hl]
    · rw [if_neg hwv, if_neg hwv]

/-- A call changes the flood groups by the interface group of its port only. -/
theorem mem_members_exec (hlag : Nbi.isLag p = false) {c : SwiCall} (hc : c.port = p) {g : Nat}
    (hg : g ≠ fm.groupIdL2Interface p v) :
    g ∈ (c.exec fm s).l2Domain.members v ↔ g ∈ s.l2Domain.members v := by
  cases c with
  | egressBridgePortVlanAdd q w untagged =>
    obtain rfl : q = p := hc
    rw [members_egressBridgePortVlanAdd hlag]
    split
    · rename_i hvw
      rw [← hvw, Finset.mem_insert, or_iff_right hg]
    · rfl
  | egressBridgePortVlanRemove q w =>
    obtain rfl : q = p := hc
    rw [members_egressBridgePortVlanRemove]
    split
    · rename_i hvw
      rw [← hvw, Finset.mem_erase, and_iff_right hg]
    · rfl
  | _ => rfl

end Calls

/-! ## Calls for other VLANs -/

section Calls

variable {M : Type} [DecidableEq M] {fm : VlanDriver M} {p : PortId} {w : Nat}

/-- A call that is not about the untagged packets of its port. -/
def SwiCall.KeepsPvid : SwiCall → Prop
  | .ingressPortVlanAdd _ _ pvid _ | .ingressPortVlanRemove _ _ pvid _ => pvid = false
  | .ingressPortPvidAdd .. | .ingressPortPvidRemove .. => False
  | _ => True

theorem inOut_exec_of_vid_ne (hE : fm.Encodes) (hw : w < 2 ^ 12) {c : SwiCall}
    (hc : c.vid < 2 ^ 12) (hne : w ≠ c.vid) (s : PortSwitch M) :
    ((c.exec fm s).entries fm p w).inOut = (s.entries fm p w).inOut := by
  by_cases hbr : ∃ q v, c = .egressBridgePortVlanRemove q v
  · obtain ⟨q, v, rfl⟩ := hbr
    simp only [SwiCall.vid] at hc hne
    rw [entries_egressBridgePortVlanRemove hE s p q hw hc]
    simp [PortEntries.inOut, hne]
  · rw [entries_exec hE s p hw c ⟨hc, fun q v he => hbr ⟨q, v, he⟩⟩]
    cases c with
    | egressPortVlanAdd q v u update =>
      simp only [SwiCall.vid] at hne
      cases update <;> simp [SwiCall.effect, PortEntries.inOut, hne]
    | _ =>
      simp only [SwiCall.vid] at hne
      simp [SwiCall.effect, PortEntries.inOut, hne]

theorem members_exec_of_vid_ne {c : SwiCall} (hne : w ≠ c.vid) (s : PortSwitch M) :
    (c.exec fm s).l2Domain.members w = s.l2Domain.members w := by
  cases c with
  | egressBridgePortVlanAdd q v u =>
    simp only [SwiCall.vid] at hne
    simp only [SwiCall.exec, L2Domain.egressBridgePortVlanAdd]
    split
    · rfl
    · rw [L2Domain.members_insert, if_neg hne]
  | egressBridgePortVlanRemove q v =>
    simp only [SwiCall.vid] at hne
    rw [members_egressBridgePortVlanRemove, if_neg hne]
  | _ => rfl

theorem pvid_exec (hE : fm.Encodes) (hw : w < 2 ^ 12) {c : SwiCall} (hc : c.vid < 2 ^ 12)
    (hkeeps : c.KeepsPvid) (s : PortSwitch M) :
    ((c.exec fm s).entries fm p w).pvid = (s.entries fm p w).pvid := by
  by_cases hbr : ∃ q v, c = .egressBridgePortVlanRemove q v
  · obtain ⟨q, v, rfl⟩ := hbr
    simp only [SwiCall.vid] at hc
    rw [entries_egressBridgePortVlanRemove hE s p q hw hc]
  · rw [entries_exec hE s p hw c ⟨hc, fun q v he => hbr ⟨q, v, he⟩⟩]
    cases c with
    | egressPortVlanAdd q v u update => cases update <;> rfl
    | ingressPortPvidAdd | ingressPortPvidRemove => exact hkeeps.elim
    | ingressPortVlanAdd q v pvid vrfId | ingressPortVlanRemove q v pvid vrfId =>
      simp only [SwiCall.KeepsPvid] at hkeeps
      simp [SwiCall.effect, hkeeps]
    | _ => rfl

end Calls

/-! ## Calls that take back -/

/-- A call that takes something back of a bridge port, or changes the group of an interface. -/
def SwiCall.TakesBack : SwiCall → Prop
  | .ingressPortVlanRemove .. | .ingressPortPvidRemove .. | .ingressPortPopVlanRemove ..
  | .egressPortPushVlanRemove .. | .egressBridgePortVlanRemove .. => True
  | .egressPortVlanAdd _ _ _ update => update = true
  | _ => False

section Calls

variable {M : Type} [DecidableEq M] {fm : VlanDriver M} {s s' s'' : PortSwitch M}

/-- From `s` to `s'` nothing has come, and interface groups have gone only in VLANs that `l2_domain`
has. -/
structure Fewer (fm : VlanDriver M) (s s' : PortSwitch M) : Prop where
  ingress : ∀ q, ∀ v < 2 ^ 12, (s.entries fm q v).ingress = none → (s'.entries fm q v).ingress = none
  pvid : ∀ q, ∀ v < 2 ^ 12, (s.entries fm q v).pvid = none → (s'.entries fm q v).pvid = none
  egress : ∀ q, ∀ v < 2 ^ 12, (s.entries fm q v).egress = none → (s'.entries fm q v).egress = none
  egress_kept : ∀ q, ∀ v < 2 ^ 12, v ∉ s.l2Domain → (s'.entries fm q v).egress = none →
    (s.entries fm q v).egress = none
  members : ∀ v, s'.l2Domain.members v ⊆ s.l2Domain.members v
  domain : ∀ v, v ∈ s'.l2Domain ↔ v ∈ s.l2Domain
  popTags : ∀ m, s.popTags.lookup m = none → s'.popTags.lookup m = none
  pushTags : ∀ m, s.pushTags.lookup m = none → s'.pushTags.lookup m = none

theorem fewer_refl : Fewer fm s s where
  ingress _ _ _ h := h
  pvid _ _ _ h := h
  egress _ _ _ h := h
  egress_kept _ _ _ _ h := h
  members _ := Finset.Subset.refl _
  domain _ := Iff.rfl
  popTags _ h := h
  pushTags _ h := h

theorem Fewer.trans (h : Fewer fm s s') (h' : Fewer fm s' s'') : Fewer fm s s'' where
  ingress q v hv hs := h'.ingress q v hv (h.ingress q v hv hs)
  pvid q v hv hs := h'.pvid q v hv (h.pvid q v hv hs)
  egress q v hv hs := h'.egress q v hv (h.egress q v hv hs)
  egress_kept q v hv hd hs :=
    h.egress_kept q v hv hd (h'.egress_kept q v hv (mt (h.domain v).mp hd) hs)
  members v := (h'.members v).trans (h.members v)
  domain v := (h'.domain v).trans (h.domain v)
  popTags m hs := h'.popTags m (h.popTags m hs)
  pushTags m hs := h'.pushTags m (h.pushTags m hs)

/-- A call that changes the entries of ports only, and brings none. -/
theorem fewer_of_effect (hE : fm.Encodes) {c : SwiCall} (hc : c.Local)
    (hdom : (c.exec fm s).l2Domain = s.l2Domain)
    (hentries : ∀ q v, ∀ e : PortEntries, (e.ingress = none → (c.effect q v e).ingress = none) ∧
      (e.pvid = none → (c.effect q v e).pvid = none) ∧
      ((c.effect q v e).egress = none ↔ e.egress = none))
    (hpop : ∀ m, s.popTags.lookup m = none → (c.exec fm s).popTags.lookup m = none)
    (hpush : ∀ m, s.pushTags.lookup m = none → (c.exec fm s).pushTags.lookup m = none) :
    Fewer fm s (c.exec fm s) where
  ingress q v hv := by
    rw [entries_exec hE s q hv c hc]
    exact (hentries q v _).1
  pvid q v hv := by
    rw [entries_exec hE s q hv c hc]
    exact (hentries q v _).2.1
  egress q v hv := by
    rw [entries_exec hE s q hv c hc]
    exact (hentries q v _).2.2.mpr
  egress_kept q v hv _ := by
    rw [entries_exec hE s q hv c hc]
    exact (hentries q v _).2.2.mp
  members v := by rw [hdom]
  domain v := by rw [hdom]
  popTags := hpop
  pushTags := hpush

theorem fewer_egressBridgePortVlanRemove (hE : fm.Encodes) (p : PortId) {w : Nat} (hw : w < 2 ^ 12) :
    Fewer fm s ((SwiCall.egressBridgePortVlanRemove p w).exec fm s) where
  ingress q v hv := by
    rw [entries_egressBridgePortVlanRemove hE s q p hv hw]
    exact id
  pvid q v hv := by
    rw [entries_egressBridgePortVlanRemove hE s q p hv hw]
    exact id
  egress q v hv h := by
    rw [entries_egressBridgePortVlanRemove hE s q p hv hw]
    simp [h]
  egress_kept q v hv hd h := by
    rw [entries_egressBridgePortVlanRemove hE s q p hv hw] at h
    have hnot : ¬ ((q = p ∧ v = w) ∧ w ∈ s.l2Domain) := fun h => hd (h.1.2 ▸ h.2)
    simpa only [hnot, if_false] using h
  members v := by
    rw [members_egressBridgePortVlanRemove]
    split
    · rename_i hvw
      subst hvw
      exact Finset.erase_subset _ _
    · exact Finset.Subset.refl _
  domain v := by
    simp only [SwiCall.exec, L2Domain.egressBridgePortVlanRemove]
    cases hl : s.l2Domain.lookup w with
    | none => rfl
    | some set =>
      have hmem : w ∈ s.l2Domain := Table.mem_iff_lookup.mpr ⟨set, hl⟩
      rw [AList.mem_insert]
      exact or_iff_right_of_imp fun hvw => hvw ▸ hmem
  popTags _ h := h
  pushTags _ h := h

theorem fewer_exec (hE : fm.Encodes) {c : SwiCall} (hvid : c.vid < 2 ^ 12) (hc : c.TakesBack) :
    Fewer fm s (c.exec fm s) := by
  cases c with
  | egressBridgePortVlanRemove q w => exact fewer_egressBridgePortVlanRemove hE q hvid
  | ingressPortVlanRemove q w pvid vrfId =>
    refine fewer_of_effect hE ⟨hvid, by simp⟩ rfl (fun q v e => ?_) (fun _ h => h) fun _ h => h
    refine ⟨fun h => ?_, fun h => ?_, Iff.rfl⟩ <;> simp [SwiCall.effect, h]
  | ingressPortPvidRemove q w =>
    refine fewer_of_effect hE ⟨hvid, by simp⟩ rfl (fun q v e => ?_) (fun _ h => h) fun _ h => h
    refine ⟨fun h => h, fun h => ?_, Iff.rfl⟩
    simp [SwiCall.effect, h]
  | ingressPortPopVlanRemove q outerVid w vrfId =>
    refine fewer_of_effect hE ⟨hvid, by simp⟩ rfl (fun _ _ _ => ⟨id, id, Iff.rfl⟩) (fun m h => ?_)
      fun _ h => h
    simp [SwiCall.exec, Table.lookup_erase_ite, h]
  | egressPortPushVlanRemove q w pushVid =>
    refine fewer_of_effect hE ⟨hvid, by simp⟩ rfl (fun _ _ _ => ⟨id, id, Iff.rfl⟩) (fun _ h => h)
      fun m h => ?_
    simp [SwiCall.exec, Table.lookup_erase_ite, h]
  | egressPortVlanAdd q w untagged update =>
    obtain rfl : update = true := hc
    refine fewer_of_effect hE ⟨hvid, by simp⟩ rfl (fun q v e => ⟨id, id, ?_⟩) (fun _ h => h)
      fun _ h => h
    simp only [SwiCall.effect]
    split <;> simp
  | _ => exact hc.elim

theorem fewer_execAll (hE : fm.Encodes) {cs : List SwiCall}
    (hcs : ∀ c ∈ cs, c.vid < 2 ^ 12 ∧ c.TakesBack) : Fewer fm s (execAll fm cs s) :=
  execAll_keeps (I := Fewer fm s) fewer_refl fun c hc _ h =>
    h.trans (fewer_exec hE (hcs c hc).1 (hcs c hc).2)

/-- What one call takes back stays taken back. -/
theorem taken_execAll (hE : fm.Encodes) {cs : List SwiCall} {c : SwiCall} (hc : c ∈ cs)
    (hcs : ∀ c ∈ cs, c.vid < 2 ^ 12 ∧ c.TakesBack) {P J : PortSwitch M → Prop} (h0 : J s)
    (hJ : ∀ s s', Fewer fm s s' → J s → J s') (hP : ∀ s s', Fewer fm s s' → P s → P s')
    (hstep : ∀ s, J s → P (c.exec fm s)) : P (execAll fm cs s) :=
  execAll_establishes hc h0 (fun x hx _ h => hJ _ _ (fewer_exec hE (hcs x hx).1 (hcs x hx).2) h)
    (fun x hx _ h => hP _ _ (fewer_exec hE (hcs x hx).1 (hcs x hx).2) h) hstep

/-- What one call takes back in any state. -/
theorem taken_of_mem (hE : fm.Encodes) {cs : List SwiCall} {c : SwiCall} (hc : c ∈ cs)
    (hcs : ∀ c ∈ cs, c.vid < 2 ^ 12 ∧ c.TakesBack) {P : PortSwitch M → Prop}
    (hP : ∀ s s', Fewer fm s s' → P s → P s') (hstep : ∀ s, P (c.exec fm s)) :
    P (execAll fm cs s) :=
  taken_execAll hE hc hcs (J := fun _ => True) trivial (fun _ _ _ _ => trivial) hP fun s _ => hstep s

end Calls

end Basebox
