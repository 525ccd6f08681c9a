import Basebox.Lib.Run
import Basebox.Netlink.Vlan

/-!
# What `nl_vlan` does to the entries of a port

* `swiCall_cases`, `swiEach_frame`, `swiUntilFail_frame`: one call, and loops over the members.
* `enableVlan_entries`, `disableVlan_entries`: programming a VLAN on a port leaves the entries of
  other ports alone, except those of its members, also if it fails; and what it does to the port if
  it succeeds.
-/

namespace Basebox

/-- Every call to the switch succeeds. -/
def allOk (_ : SwiCall) : Bool := true

/-- The port of a call. -/
def SwiCall.port : SwiCall → PortId
  | .ingressPortVlanAdd port _ _ _ | .ingressPortVlanRemove port _ _ _ | .ingressPortPvidAdd port _
  | .ingressPortPvidRemove port _ | .ingressPortPopVlanAdd port _ _ _
  | .ingressPortPopVlanRemove port _ _ _ | .egressPortVlanAdd port _ _ _
  | .egressPortVlanRemove port _ | .egressPortPushVlanAdd port _ _
  | .egressPortPushVlanRemove port _ _ | .egressBridgePortVlanAdd port _ _
  | .egressBridgePortVlanRemove port _ | .l2AddrRemoveAllInVlan port _ => port

theorem SwiCall.effect_of_port_ne {c : SwiCall} {p : PortId} (h : p ≠ c.port) (v : Nat)
    (e : PortEntries) : c.effect p v e = e := by
  cases c with
  | egressPortVlanAdd q w u update =>
    simp only [SwiCall.port] at h
    cases update <;> simp [SwiCall.effect, h]
  | _ =>
    simp only [SwiCall.port] at h
    simp [SwiCall.effect, h]

section Calls

variable {M : Type} [DecidableEq M] {fm : VlanDriver M}

theorem swiUntilFail_eq_zero {ok : SwiCall → Bool} (hok : ∀ c, ok c = true) (cs : List SwiCall)
    (s : PortSwitch M) : (swiUntilFail fm ok 0 cs s).1 = 0 := by
  induction cs generalizing s with
  | nil => rfl
  | cons c cs ih =>
    rw [swiUntilFail, swiCall, if_pos (hok c)]
    exact ih _

variable (hE : fm.Encodes) (ok : SwiCall → Bool) {p : PortId} {v : Nat} (hv : v < 2 ^ 12)
include hE hv

theorem swiCall_entries {c : SwiCall} (hc : c.Local) (s : PortSwitch M) :
    (swiCall fm ok c s).2.entries fm p v =
      if ok c then c.effect p v (s.entries fm p v) else s.entries fm p v := by
  unfold swiCall
  cases ok c with
  | false => rfl
  | true => exact entries_exec hE s p hv c hc

/-- A call that succeeds has its effect, one that fails has none. -/
theorem swiCall_cases {c : SwiCall} (hc : c.Local) (s : PortSwitch M) :
    (0 ≤ (swiCall fm ok c s).1 ∧
      (swiCall fm ok c s).2.entries fm p v = c.effect p v (s.entries fm p v)) ∨
    ((swiCall fm ok c s).1 < 0 ∧ (swiCall fm ok c s).2.entries fm p v = s.entries fm p v) := by
  rw [swiCall_entries hE ok hv hc]
  unfold swiCall
  cases ok c with
  | false => exact .inr ⟨by simp [EINVAL], rfl⟩
  | true => exact .inl ⟨Int.le_refl 0, rfl⟩

theorem swiCall_frame {c : SwiCall} (hc : c.Local) (hp : p ≠ c.port) (s : PortSwitch M) :
    (swiCall fm ok c s).2.entries fm p v = s.entries fm p v := by
  rw [swiCall_entries hE ok hv hc, SwiCall.effect_of_port_ne hp, ite_self]

theorem swiEach_frame {cs : List SwiCall} (hc : ∀ c ∈ cs, c.Local ∧ p ≠ c.port)
    (s : PortSwitch M) : (swiEach fm ok cs s).entries fm p v = s.entries fm p v := by
  induction cs generalizing s with
  | nil => rfl
  | cons c cs ih =>
    obtain ⟨⟨hl, hp⟩, hcs⟩ := List.forall_mem_cons.mp hc
    exact (ih hcs _).trans (swiCall_frame hE ok hv hl hp s)

theorem swiUntilFail_frame {cs : List SwiCall} (hc : ∀ c ∈ cs, c.Local ∧ p ≠ c.port) (rv : Int)
    (s : PortSwitch M) : (swiUntilFail fm ok rv cs s).2.entries fm p v = s.entries fm p v := by
  induction cs generalizing rv s with
  | nil => rfl
  | cons c cs ih =>
    obtain ⟨⟨hl, hp⟩, hcs⟩ := List.forall_mem_cons.mp hc
    have h1 := swiCall_frame hE ok hv hl hp s
    rw [swiUntilFail]
    generalize swiCall fm ok c s = r at h1 ⊢
    obtain ⟨rv, s₁⟩ := r
    simp only
    split
    · exact h1
    · exact (ih hcs rv s₁).trans h1

/-- A loop in which no call fails. -/
theorem swiUntilFail_entries {cs : List SwiCall} (hc : ∀ c ∈ cs, c.Local) (s : PortSwitch M) :
    (swiUntilFail fm allOk 0 cs s).2.entries fm p v =
      cs.foldl (fun e c => c.effect p v e) (s.entries fm p v) := by
  induction cs generalizing s with
  | nil => rfl
  | cons c cs ih =>
    obtain ⟨hl, hcs⟩ := List.forall_mem_cons.mp hc
    have h1 := entries_exec hE s p hv c hl
    rw [List.foldl_cons, ← h1]
    exact ih hcs _

theorem swiEach_entries {cs : List SwiCall} (hc : ∀ c ∈ cs, c.Local) (s : PortSwitch M) :
    (swiEach fm allOk cs s).entries fm p v =
      cs.foldl (fun e c => c.effect p v e) (s.entries fm p v) := by
  induction cs generalizing s with
  | nil => rfl
  | cons c cs ih =>
    obtain ⟨hl, hcs⟩ := List.forall_mem_cons.mp hc
    have h1 := entries_exec hE s p hv c hl
    rw [List.foldl_cons, ← h1]
    exact ih hcs _

end Calls

/-- A bond is not one of its members. -/
theorem VlanEnv.notMem_lagMembers_self {M : Type} (env : VlanEnv M) (p : PortId) :
    p ∉ env.lagMembers p := by
  unfold VlanEnv.lagMembers
  cases hl : Nbi.isLag p with
  | false => simp
  | true =>
    intro hm
    rw [env.members_physical p p hm] at hl
    cases hl

/-- The calls of a loop over the members are not about another port. -/
theorem VlanEnv.members_local {M : Type} {env : VlanEnv M} {p q : PortId} {f : PortId → SwiCall}
    (hl : ∀ m, (f m).Local) (hport : ∀ m, (f m).port = m) (hp : p ∉ env.lagMembers q) :
    ∀ c ∈ (env.lagMembers q).map f, c.Local ∧ p ≠ c.port := by
  intro c hc
  obtain ⟨m, hm, rfl⟩ := List.mem_map.mp hc
  refine ⟨hl m, ?_⟩
  rw [hport]
  rintro rfl
  exact hp hm

namespace NlVlan

theorem isVidValid_iff {vid : Nat} : isVidValid vid = true ↔ 1 ≤ vid ∧ vid < 2 ^ 12 := by
  unfold isVidValid
  rw [decide_eq_true_iff]
  omega

/-! ## Programming a VLAN -/

section Program

variable {M : Type} [DecidableEq M] {env : VlanEnv M} (hE : env.fm.Encodes) (ok : SwiCall → Bool)
  {p q : PortId} {v w : Nat} (hv : v < 2 ^ 12) (hw : w < 2 ^ 12) (tagged : Bool) (vrfId : Nat)
  (hp : p ∉ env.lagMembers q)
include hE hv hw hp

theorem removeIngressVlan_cases (s : PortSwitch M) :
    (0 ≤ (removeIngressVlan env ok q w tagged vrfId s).1 ∧
      (removeIngressVlan env ok q w tagged vrfId s).2.entries env.fm p v =
        (SwiCall.ingressPortVlanRemove q w (!tagged) vrfId).effect p v (s.entries env.fm p v)) ∨
    ((removeIngressVlan env ok q w tagged vrfId s).1 < 0 ∧
      (removeIngressVlan env ok q w tagged vrfId s).2.entries env.fm p v =
        s.entries env.fm p v) := by
  have hmem := env.members_local (f := fun mem => .ingressPortVlanRemove mem w (!tagged) vrfId)
    (fun m => ⟨hw, by simp⟩) (fun m => rfl) hp
  rw [← swiEach_frame hE ok hv hmem s]
  exact swiCall_cases hE ok hv (c := .ingressPortVlanRemove q w (!tagged) vrfId) ⟨hw, by simp⟩ _

theorem removeIngressVlan_frame (hq : p ≠ q) (s : PortSwitch M) :
    (removeIngressVlan env ok q w tagged vrfId s).2.entries env.fm p v = s.entries env.fm p v := by
  rcases removeIngressVlan_cases hE ok hv hw tagged vrfId hp s with ⟨-, h⟩ | ⟨-, h⟩
  · rw [h, SwiCall.effect_of_port_ne hq]
  · exact h

/-- The entries of a port after its ingress is programmed. -/
theorem addIngressVlan_entries (s : PortSwitch M) :
    (p ≠ q → (addIngressVlan env ok q w tagged vrfId s).2.entries env.fm p v =
      s.entries env.fm p v) ∧
    (0 ≤ (addIngressVlan env ok q w tagged vrfId s).1 →
      (addIngressVlan env ok q w tagged vrfId s).2.entries env.fm p v =
        (SwiCall.ingressPortVlanAdd q w (!tagged) vrfId).effect p v (s.entries env.fm p v)) := by
  have hmem := env.members_local (f := fun mem => .ingressPortVlanAdd mem w (!tagged) vrfId)
    (fun m => ⟨hw, by simp⟩) (fun m => rfl) hp
  have h1 := swiCall_cases hE ok hv (p := p) (c := .ingressPortVlanAdd q w (!tagged) vrfId)
    ⟨hw, by simp⟩ s
  unfold addIngressVlan
  generalize swiCall env.fm ok (.ingressPortVlanAdd q w (!tagged) vrfId) s = r at h1 ⊢
  obtain ⟨rv, s₁⟩ := r
  simp only at h1 ⊢
  rcases h1 with ⟨h0, h1⟩ | ⟨h0, h1⟩
  · rw [if_neg (by omega)]
    have h2 := swiUntilFail_frame hE ok hv hmem rv s₁
    generalize swiUntilFail env.fm ok rv _ s₁ = r at h2 ⊢
    obtain ⟨rv₂, s₂⟩ := r
    simp only at h2 ⊢
    split
    · refine ⟨fun hq => ?_, fun h => by omega⟩
      rw [removeIngressVlan_frame hE ok hv hw tagged vrfId hp hq, h2, h1,
        SwiCall.effect_of_port_ne hq]
    · refine ⟨fun hq => ?_, fun _ => h2.trans h1⟩
      rw [h2, h1, SwiCall.effect_of_port_ne hq]
  · rw [if_pos h0]
    exact ⟨fun _ => h1, fun h => by omega⟩

/-- The entries of a port after a VLAN is enabled on a port. -/
theorem enableVlan_entries (s : PortSwitch M) :
    (p ≠ q → (enableVlan env ok q w tagged vrfId s).2.entries env.fm p v = s.entries env.fm p v) ∧
    (0 ≤ (enableVlan env ok q w tagged vrfId s).1 →
      (enableVlan env ok q w tagged vrfId s).2.entries env.fm p v =
        (SwiCall.egressPortVlanAdd q w (!tagged) false).effect p v
          ((SwiCall.ingressPortVlanAdd q w (!tagged) vrfId).effect p v (s.entries env.fm p v))) := by
  have hadd := env.members_local (f := fun mem => .egressPortVlanAdd mem w (!tagged) false)
    (fun m => ⟨hw, by simp⟩) (fun m => rfl) hp
  have hrem := env.members_local (f := fun mem => .egressPortVlanRemove mem w)
    (fun m => ⟨hw, by simp⟩) (fun m => rfl) hp
  have h1 := addIngressVlan_entries hE ok hv hw tagged vrfId hp s
  unfold enableVlan
  generalize addIngressVlan env ok q w tagged vrfId s = r at h1 ⊢
  obtain ⟨rv, s₁⟩ := r
  simp only at h1 ⊢
  split
  · exact ⟨h1.1, fun h => by omega⟩
  · rename_i hrv
    have h2 := swiCall_cases hE ok hv (p := p) (c := .egressPortVlanAdd q w (!tagged) false)
      ⟨hw, by simp⟩ s₁
    rw [h1.2 (by omega)] at h2
    generalize swiCall env.fm ok (.egressPortVlanAdd q w (!tagged) false) s₁ = r at h2 ⊢
    obtain ⟨rv₂, s₂⟩ := r
    simp only at h2 ⊢
    rcases h2 with ⟨h0, h2⟩ | ⟨h0, h2⟩
    · rw [if_neg (by omega)]
      have h3 := swiUntilFail_frame hE ok hv hadd rv₂ s₂
      generalize swiUntilFail env.fm ok rv₂ _ s₂ = r at h3 ⊢
      obtain ⟨rv₃, s₃⟩ := r
      simp only at h3 ⊢
      split
      · -- the members failed: everything is taken back
        refine ⟨fun hq => ?_, fun h => by omega⟩
        rw [removeIngressVlan_frame hE ok hv hw tagged vrfId hp hq,
          swiCall_frame hE ok hv (c := .egressPortVlanRemove q w) ⟨hw, by simp⟩ hq,
          swiEach_frame hE ok hv hrem, h3, h2, SwiCall.effect_of_port_ne hq,
          SwiCall.effect_of_port_ne hq]
      · refine ⟨fun hq => ?_, fun _ => h3.trans h2⟩
        rw [h3, h2, SwiCall.effect_of_port_ne hq, SwiCall.effect_of_port_ne hq]
    · rw [if_pos h0]
      refine ⟨fun hq => ?_, fun h => by omega⟩
      rw [removeIngressVlan_frame hE ok hv hw tagged vrfId hp hq, h2, SwiCall.effect_of_port_ne hq]

/-- The entries of a port after a VLAN is disabled on a port. -/
theorem disableVlan_entries (s : PortSwitch M) :
    (p ≠ q → (disableVlan env ok q w tagged vrfId s).2.entries env.fm p v = s.entries env.fm p v) ∧
    (0 ≤ (disableVlan env ok q w tagged vrfId s).1 →
      (disableVlan env ok q w tagged vrfId s).2.entries env.fm p v =
        (SwiCall.egressPortVlanRemove q w).effect p v
          ((SwiCall.ingressPortVlanRemove q w (!tagged) vrfId).effect p v
            (s.entries env.fm p v))) := by
  have hrem := env.members_local (f := fun mem => .egressPortVlanRemove mem w)
    (fun m => ⟨hw, by simp⟩) (fun m => rfl) hp
  have h1 := removeIngressVlan_cases hE ok hv hw tagged vrfId hp s
  have hframe : p ≠ q → (removeIngressVlan env ok q w tagged vrfId s).2.entries env.fm p v =
      s.entries env.fm p v := fun hq => removeIngressVlan_frame hE ok hv hw tagged vrfId hp hq s
  unfold disableVlan
  generalize removeIngressVlan env ok q w tagged vrfId s = r at h1 hframe ⊢
  obtain ⟨rv, s₁⟩ := r
  simp only at h1 hframe ⊢
  rcases h1 with ⟨h0, h1⟩ | ⟨h0, h1⟩
  · rw [if_neg (by omega)]
    have h2 := swiCall_entries hE ok hv (p := p) (c := .l2AddrRemoveAllInVlan q w)
      ⟨hw, by simp⟩ s₁
    rw [show SwiCall.effect p v (s₁.entries env.fm p v) (.l2AddrRemoveAllInVlan q w) =
      s₁.entries env.fm p v from rfl, ite_self] at h2
    generalize swiCall env.fm ok (.l2AddrRemoveAllInVlan q w) s₁ = r at h2 ⊢
    obtain ⟨rv₂, s₂⟩ := r
    simp only at h2 ⊢
    split
    · exact ⟨fun hq => h2.trans (hframe hq), fun h => by omega⟩
    · have h3 := swiCall_cases hE ok hv (p := p) (c := .egressPortVlanRemove q w) ⟨hw, by simp⟩
        (swiEach env.fm ok ((env.lagMembers q).map fun mem => .egressPortVlanRemove mem w) s₂)
      rw [swiEach_frame hE ok hv hrem, h2] at h3
      rcases h3 with ⟨h0', h3⟩ | ⟨h0', h3⟩
      · refine ⟨fun hq => ?_, fun _ => by rw [h3, h1]⟩
        rw [h3, SwiCall.effect_of_port_ne hq, hframe hq]
      · exact ⟨fun hq => h3.trans (hframe hq), fun h => by omega⟩
  · rw [if_pos h0]
    exact ⟨fun _ => h1, fun h => by omega⟩

end Program

/-! ## The counter -/

section Counter

variable {M : Type} [DecidableEq M] {env : VlanEnv M} {ok : SwiCall → Bool} {s : NlVlan M}
  {port : PortId} {vid : Nat} {isBridge tagged : Bool}

theorem addVlan_of_not_valid (h : isVidValid vid = false ∨ port.1 = 0) :
    addVlan env ok s port isBridge vid tagged = (-EINVAL, s) := by
  unfold addVlan
  rcases h with h | h <;> simp [h]

theorem removeVlan_of_none (hl : s.portVlan.lookup (port, vid) = none) :
    removeVlan env ok s port isBridge vid tagged = (-EINVAL, s) := by
  unfold removeVlan
  rw [hl]
  simp

variable (hvid : isVidValid vid = true) (hport : port.1 ≠ 0)
include hvid hport

theorem addVlan_of_some {n : Nat} (hl : s.portVlan.lookup (port, vid) = some n) :
    addVlan env ok s port isBridge vid tagged =
      (0, { s with portVlan := s.portVlan.insert (port, vid) (u32 (n + 1)) }) := by
  unfold addVlan
  simp only [hvid, hport, hl, Bool.not_true, Bool.false_eq_true, if_false]

theorem addVlan_of_bridge (hl : s.portVlan.lookup (port, vid) = none) :
    addVlan env ok s port true vid tagged = (0, s) := by
  unfold addVlan
  simp only [hvid, hport, hl, Bool.not_true, Bool.false_eq_true, if_false, if_true]

theorem addVlan_of_none (hl : s.portVlan.lookup (port, vid) = none) :
    addVlan env ok s port false vid tagged =
      let (rv, sw) := enableVlan env ok port vid tagged (s.getVrfId vid) s.swi
      if rv < 0 then (rv, { s with swi := sw })
      else (rv, { s with swi := sw, portVlan := s.portVlan.emplace (port, vid) 1 }) := by
  unfold addVlan
  simp only [hvid, hport, hl, Bool.not_true, Bool.false_eq_true, if_false]

theorem removeVlan_of_some {n : Nat} (hl : s.portVlan.lookup (port, vid) = some n)
    (hn : pred32 n > 0) :
    removeVlan env ok s port isBridge vid tagged =
      (0, { s with portVlan := s.portVlan.insert (port, vid) (pred32 n) }) := by
  unfold removeVlan
  simp only [hvid, hport, hl, hn, Bool.not_true, Bool.false_eq_true, if_false, if_true]

/-- The last user. -/
theorem removeVlan_of_last {n : Nat} (hl : s.portVlan.lookup (port, vid) = some n)
    (hn : ¬ pred32 n > 0) :
    removeVlan env ok s port isBridge vid tagged =
      if isBridge then (0, { s with portVlan := s.portVlan.erase (port, vid) })
      else
        ((disableVlan env ok port vid tagged (s.getVrfId vid) s.swi).1,
          { s with
            portVlan := s.portVlan.erase (port, vid)
            swi := (disableVlan env ok port vid tagged (s.getVrfId vid) s.swi).2 }) := by
  unfold removeVlan
  simp only [hvid, hport, hl, hn, Bool.not_true, Bool.false_eq_true, if_false]
  rfl

end Counter

/-! ## If no call fails -/

section AllOk

variable {M : Type} [DecidableEq M] (env : VlanEnv M) {ok : SwiCall → Bool}
  (hok : ∀ c, ok c = true) (q : PortId) (w : Nat) (tagged : Bool) (vrfId : Nat)
include hok

theorem enableVlan_eq_zero (s : PortSwitch M) :
    (enableVlan env ok q w tagged vrfId s).1 = 0 := by
  simp [enableVlan, addIngressVlan, swiCall, hok, swiUntilFail_eq_zero hok]

theorem disableVlan_eq_zero (s : PortSwitch M) :
    (disableVlan env ok q w tagged vrfId s).1 = 0 := by
  simp [disableVlan, removeIngressVlan, swiCall, hok]

end AllOk

end NlVlan

end Basebox
