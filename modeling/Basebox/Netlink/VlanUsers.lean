import Basebox.Netlink.VlanEntries

/-!
# The users of a VLAN on a port

`add_vlan` and `remove_vlan` count the users of a VLAN on a port. Only the first user's call and the
last one's reach the switch.

* `restores_iff`: a sequence of calls on one port and VLAN leaves the entries of the port as they
  were exactly if those that reach the switch do. Each carries its own `tagged` flag: what one user
  programmed untagged another may remove tagged, and the PVID rule stays.
* `usersCounted_run`: while the port comes to the bridge and goes, the VLAN is programmed exactly if
  there are users and the port is not in the bridge, as long as no user comes to a VLAN without
  others while the port is in the bridge. That one is told that it succeeded, and is not counted.
-/

namespace Basebox

namespace NlVlan

/-! ## Calls on one port and VLAN -/

/-- A call of `add_vlan` or `remove_vlan`. -/
structure UserCall where
  add : Bool
  tagged : Bool
  ok : SwiCall → Bool := fun _ => true

/-- The entry of `port_vlan` after a call. -/
def recount (refcount : Option Nat) (c : UserCall) : Option Nat :=
  if c.add then
    match refcount with
    | none => some 1
    | some n => some (u32 (n + 1))
  else refcount.bind fun n => if pred32 n > 0 then some (pred32 n) else none

/-- The entry comes or goes: the call reaches the switch. -/
def reaches (refcount : Option Nat) (c : UserCall) : Bool :=
  (recount refcount c).isSome != refcount.isSome

/-- The calls that reach the switch. -/
def reaching : Option Nat → List UserCall → List UserCall
  | _, [] => []
  | refcount, c :: cs =>
    if reaches refcount c then c :: reaching (recount refcount c) cs
    else reaching (recount refcount c) cs

/-- What a call that reaches the switch does to the entries of the port. -/
def UserCall.effect (port : PortId) (vid vrfId : Nat) (e : PortEntries) (c : UserCall) :
    PortEntries :=
  if c.add then
    { ingress := some (.filter vrfId)
      pvid := if c.tagged then e.pvid else some (.assign vid)
      egress := some (e.egress.getD (interfaceOf port (!c.tagged))) }
  else { e with ingress := none, pvid := if c.tagged then e.pvid else none, egress := none }

/-- What the entries have to be so that the calls `cs` on the switch restore them. -/
def Restores (port : PortId) (vid vrfId : Nat) (e : PortEntries) (cs : List UserCall) : Prop :=
  (∀ c, cs.getLast? = some c →
    if c.add then
      e.ingress = some (.filter vrfId) ∧
      ∃ g, e.egress = some g ∧ (1 < cs.length → g = interfaceOf port (!c.tagged))
    else e.ingress = none ∧ e.egress = none) ∧
  ∀ c, (cs.filter fun c => !c.tagged).getLast? = some c →
    e.pvid = if c.add then some (.assign vid) else none

/-- Additions and removals take turns. -/
def Alternating : Bool → List UserCall → Prop
  | _, [] => True
  | add, c :: cs => c.add = add ∧ Alternating (!add) cs

/-- An addition reaches the switch if there is no entry, and makes one; a removal if there is one,
and it goes. -/
theorem reaches_iff {refcount : Option Nat} {c : UserCall} :
    reaches refcount c = true ↔
      c.add = refcount.isNone ∧ (recount refcount c).isNone = !refcount.isNone := by
  unfold reaches recount
  cases refcount with
  | none => cases c.add <;> simp
  | some n =>
    cases c.add with
    | true => simp
    | false =>
      rw [Option.bind_some]
      split <;> simp

theorem reaching_alternating (refcount : Option Nat) (cs : List UserCall) :
    Alternating refcount.isNone (reaching refcount cs) := by
  induction cs generalizing refcount with
  | nil => trivial
  | cons c cs ih =>
    have h := ih (recount refcount c)
    unfold reaching
    by_cases hr : reaches refcount c = true
    · rw [if_pos hr]
      obtain ⟨hadd, hnone⟩ := reaches_iff.mp hr
      rw [hnone] at h
      exact ⟨hadd, h⟩
    · rw [if_neg hr]
      have hsame : (recount refcount c).isNone = refcount.isNone := by
        simp only [reaches, bne_iff_ne, ne_eq, not_not] at hr
        rw [← Option.not_isSome, ← Option.not_isSome, hr]
      rwa [hsame] at h

theorem Alternating.last_two {b : Bool} {cs : List UserCall} {c d : UserCall}
    (h : Alternating b (cs ++ [d, c])) : c.add = !d.add := by
  induction cs generalizing b with
  | nil =>
    obtain ⟨hd, hc, -⟩ := h
    rw [hc, hd]
  | cons c' cs ih => exact ih h.2

section Effects

variable (port : PortId) (vid vrfId : Nat) (e : PortEntries)

/-- The PVID rule is that of the last untagged call. -/
theorem pvid_foldl (cs : List UserCall) :
    (cs.foldl (UserCall.effect port vid vrfId) e).pvid =
      match (cs.filter fun c => !c.tagged).getLast? with
      | none => e.pvid
      | some c => if c.add then some (.assign vid) else none := by
  induction cs using List.reverseRecOn with
  | nil => rfl
  | append_singleton cs c ih =>
    rw [List.foldl_append, List.filter_append]
    cases htag : c.tagged with
    | true => simpa [htag, UserCall.effect, apply_ite PortEntries.pvid] using ih
    | false => cases hadd : c.add <;> simp [htag, hadd, UserCall.effect]

/-- The other entries are those of the last call. -/
theorem entries_foldl {b : Bool} {cs : List UserCall} {c : UserCall}
    (h : Alternating b (cs ++ [c])) :
    ((cs ++ [c]).foldl (UserCall.effect port vid vrfId) e).ingress =
        (if c.add then some (.filter vrfId) else none) ∧
    ((cs ++ [c]).foldl (UserCall.effect port vid vrfId) e).egress =
      if c.add then
        some (if cs = [] then e.egress.getD (interfaceOf port (!c.tagged))
          else interfaceOf port (!c.tagged))
      else none := by
  rw [List.foldl_append]
  cases hadd : c.add with
  | false => simp [UserCall.effect, hadd]
  | true =>
    refine ⟨by simp [UserCall.effect, hadd], ?_⟩
    rcases List.eq_nil_or_concat cs with rfl | ⟨cs, d, rfl⟩
    · simp [UserCall.effect, hadd]
    · -- the call before the last one was a removal
      rw [List.concat_eq_append, List.append_assoc] at h
      have hd : d.add = false := by
        have := h.last_two
        rw [hadd] at this
        simpa using this.symm
      simp [UserCall.effect, hadd, hd]

theorem foldl_eq_iff {b : Bool} {cs : List UserCall} (h : Alternating b cs) :
    cs.foldl (UserCall.effect port vid vrfId) e = e ↔ Restores port vid vrfId e cs := by
  have hpvid : (cs.foldl (UserCall.effect port vid vrfId) e).pvid = e.pvid ↔
      ∀ c, (cs.filter fun c => !c.tagged).getLast? = some c →
        e.pvid = if c.add then some (.assign vid) else none := by
    rw [pvid_foldl]
    cases (cs.filter fun c => !c.tagged).getLast? with
    | none => simp
    | some c =>
      simp only [Option.some.injEq, forall_eq']
      exact eq_comm
  have hsplit : cs.foldl (UserCall.effect port vid vrfId) e = e ↔
      ((cs.foldl (UserCall.effect port vid vrfId) e).ingress = e.ingress ∧
        (cs.foldl (UserCall.effect port vid vrfId) e).egress = e.egress) ∧
      (cs.foldl (UserCall.effect port vid vrfId) e).pvid = e.pvid := by
    generalize cs.foldl (UserCall.effect port vid vrfId) e = e'
    obtain ⟨i, p, g⟩ := e
    obtain ⟨i', p', g'⟩ := e'
    simp only [PortEntries.mk.injEq]
    tauto
  rw [hsplit, hpvid, Restores]
  refine and_congr_left' ?_
  rcases List.eq_nil_or_concat cs with rfl | ⟨cs, c, rfl⟩
  · simp
  · rw [List.concat_eq_append] at h ⊢
    obtain ⟨hi, hg⟩ := entries_foldl port vid vrfId e h
    rw [hi, hg]
    simp only [List.getLast?_append, List.getLast?_singleton, Option.some_or, Option.some.injEq,
      forall_eq', List.length_append, List.length_singleton]
    cases c.add with
    | false => simp [eq_comm]
    | true =>
      simp only [if_true]
      refine and_congr eq_comm ?_
      cases cs with
      | nil =>
        cases hge : e.egress <;> simp
      | cons d cs =>
        simp [eq_comm]

end Effects

section Calls

variable {M : Type} [DecidableEq M] (env : VlanEnv M) (port : PortId) (vid : Nat)

/-- The call, for a port that is not a bridge port. -/
def call (s : NlVlan M) (c : UserCall) : Int × NlVlan M :=
  if c.add then addVlan env c.ok s port false vid c.tagged
  else removeVlan env c.ok s port false vid c.tagged

variable {env port vid}

/-- The VLAN id and the port of a call that succeeds. -/
theorem valid_of_call {s : NlVlan M} {c : UserCall} (h0 : (call env port vid s c).1 = 0) :
    isVidValid vid = true ∧ port.1 ≠ 0 := by
  unfold call addVlan removeVlan at h0
  by_cases hvid : isVidValid vid = true
  · refine ⟨hvid, fun hport => ?_⟩
    simp [hvid, hport, EINVAL] at h0
  · simp [hvid, EINVAL] at h0

/-- A call that succeeds. -/
theorem call_spec (hE : env.fm.Encodes) {s : NlVlan M} {c : UserCall}
    (h0 : (call env port vid s c).1 = 0) :
    (call env port vid s c).2.vlanVrf = s.vlanVrf ∧
    (call env port vid s c).2.portVlan.lookup (port, vid) =
      recount (s.portVlan.lookup (port, vid)) c ∧
    (call env port vid s c).2.swi.entries env.fm port vid =
      if reaches (s.portVlan.lookup (port, vid)) c then
        c.effect port vid (s.getVrfId vid) (s.swi.entries env.fm port vid)
      else s.swi.entries env.fm port vid := by
  have hself := env.notMem_lagMembers_self port
  obtain ⟨hvid, hport⟩ := valid_of_call h0
  have hv := (isVidValid_iff.mp hvid).2
  unfold reaches recount
  unfold call at h0 ⊢
  cases hadd : c.add with
  | true =>
    rw [hadd, if_pos rfl] at h0
    simp only [if_true]
    cases hl : s.portVlan.lookup (port, vid) with
    | some n =>
      rw [addVlan_of_some hvid hport hl]
      exact ⟨rfl, AList.lookup_insert _, rfl⟩
    | none =>
      rw [addVlan_of_none hvid hport hl] at h0 ⊢
      have he := (enableVlan_entries hE c.ok hv hv c.tagged (s.getVrfId vid) hself s.swi).2
      generalize enableVlan env c.ok port vid c.tagged (s.getVrfId vid) s.swi = r at he h0 ⊢
      obtain ⟨rv, sw⟩ := r
      simp only at he h0 ⊢
      split at h0
      · simp only at h0
        omega
      · rename_i hneg
        simp only at h0
        rw [if_neg hneg]
        refine ⟨rfl, by simp [Table.lookup_emplace, hl], ?_⟩
        rw [he (by omega)]
        cases htag : c.tagged <;> simp [hadd, htag, SwiCall.effect, UserCall.effect]
  | false =>
    rw [hadd, if_neg Bool.false_ne_true] at h0
    simp only [Bool.false_eq_true, if_false]
    cases hl : s.portVlan.lookup (port, vid) with
    | none =>
      rw [removeVlan_of_none hl] at h0
      simp [EINVAL] at h0
    | some n =>
      rw [Option.bind_some]
      generalize hm : pred32 n = m
      by_cases hpos : m > 0
      · rw [removeVlan_of_some hvid hport hl (hm ▸ hpos), hm, if_pos hpos]
        exact ⟨rfl, AList.lookup_insert _, rfl⟩
      · rw [removeVlan_of_last hvid hport hl (hm ▸ hpos), if_neg Bool.false_ne_true] at h0 ⊢
        have he := (disableVlan_entries hE c.ok hv hv c.tagged (s.getVrfId vid) hself s.swi).2
        rw [if_neg hpos]
        refine ⟨rfl, by simp, ?_⟩
        rw [he (by omega)]
        cases htag : c.tagged <;> simp [hadd, htag, SwiCall.effect, UserCall.effect]

/-- The entries after a sequence of calls that all succeed. -/
theorem calls_entries (hE : env.fm.Encodes) {s : NlVlan M} {cs : List UserCall}
    (h0 : Along (fun s c => (call env port vid s c).2) (fun s c => (call env port vid s c).1 = 0)
      s cs) :
    (run (fun s c => (call env port vid s c).2) s cs).swi.entries env.fm port vid =
      (reaching (s.portVlan.lookup (port, vid)) cs).foldl
        (UserCall.effect port vid (s.getVrfId vid)) (s.swi.entries env.fm port vid) := by
  induction cs generalizing s with
  | nil => rfl
  | cons c cs ih =>
    obtain ⟨hvrf, hcount, hent⟩ := call_spec hE h0.1
    rw [run_cons, ih h0.2, hcount, hent, getVrfId, hvrf, ← getVrfId, reaching]
    by_cases hr : reaches (s.portVlan.lookup (port, vid)) c = true
    · rw [if_pos hr, if_pos hr, List.foldl_cons]
    · rw [if_neg hr, if_neg hr]

end Calls

/-- **A sequence of calls on one port and VLAN, all of which succeed, leaves the entries of the
port as they were exactly if those that reach the switch restore them.** -/
theorem restores_iff {M : Type} [DecidableEq M] (env : VlanEnv M) (hE : env.fm.Encodes)
    (s : NlVlan M) (port : PortId) (vid : Nat) (cs : List UserCall)
    (h0 : Along (fun s c => (call env port vid s c).2) (fun s c => (call env port vid s c).1 = 0)
      s cs) :
    (run (fun s c => (call env port vid s c).2) s cs).swi.entries env.fm port vid =
        s.swi.entries env.fm port vid ↔
      Restores port vid (s.getVrfId vid) (s.swi.entries env.fm port vid)
        (reaching (s.portVlan.lookup (port, vid)) cs) := by
  rw [calls_entries hE h0]
  exact foldl_eq_iff port vid (s.getVrfId vid) _ (reaching_alternating _ cs)

/-- Two users of VLAN 1 on a port, untagged and tagged; the untagged one leaves first. -/
def mixedUsers : List UserCall :=
  [{ add := true, tagged := false }, { add := true, tagged := true },
    { add := false, tagged := false }, { add := false, tagged := true }]

/-- The state before. -/
def noUsers : NlVlan (Nat × List Nat) := {}

/-- One user after the other, each with one flag, restores the entries. -/
theorem restores_iff_oneUser :
    (run (fun s c => (call .noBonds port1 1 s c).2) noUsers
        [{ add := true, tagged := false }, { add := false, tagged := false }]).swi.entries
        ofdpaVlanDriver port1 1 = noUsers.swi.entries ofdpaVlanDriver port1 1 := by
  refine (restores_iff .noBonds ofdpaVlanDriver_encodes noUsers port1 1 _ ?_).mpr ?_
  · exact ⟨by decide, by decide, trivial⟩
  · constructor
    · intro c hc
      obtain rfl : ({ add := false, tagged := false } : UserCall) = c := Option.some.inj hc
      exact ⟨by decide, by decide⟩
    · intro c hc
      obtain rfl : ({ add := false, tagged := false } : UserCall) = c := Option.some.inj hc
      decide

/-- All calls succeed and the users balance, but the PVID rule of the port stays. -/
theorem mixedUsers_not_restored :
    Along (fun s c => (call .noBonds port1 1 s c).2) (fun s c => (call .noBonds port1 1 s c).1 = 0)
      noUsers mixedUsers ∧
    (mixedUsers.countP fun c => c.add) = mixedUsers.countP (fun c => !c.add) ∧
    (run (fun s c => (call .noBonds port1 1 s c).2) noUsers mixedUsers).swi.entries
        ofdpaVlanDriver port1 1 ≠ noUsers.swi.entries ofdpaVlanDriver port1 1 := by
  refine ⟨⟨by decide, by decide, by decide, by decide, trivial⟩, rfl, ?_⟩
  intro h
  have hp := congrArg PortEntries.pvid h
  revert hp
  decide

end NlVlan

/-! ## Ports that come to the bridge and go -/

/-- `nl_vlan`, the bridge ports, and the calls that succeeded. -/
structure VlanUsers (M : Type) where
  vlan : NlVlan M := {}
  bridgePorts : Finset PortId := ∅
  /-- The calls of `add_vlan` that returned 0, for each port and VLAN. -/
  added : PortId × Nat → Nat := fun _ => 0
  /-- The calls of `remove_vlan` that returned 0. -/
  removed : PortId × Nat → Nat := fun _ => 0

namespace VlanUsers

open NlVlan

/-- What happens to the VLANs of a port. -/
inductive Ev where
  | addVlan (port : PortId) (vid : Nat) (tagged : Bool)
  | removeVlan (port : PortId) (vid : Nat) (tagged : Bool)
  /-- The port is enslaved to the bridge. -/
  | enslave (port : PortId)
  /-- The port is released. -/
  | release (port : PortId)

/-- The port of an event. -/
def Ev.port : Ev → PortId
  | .addVlan port _ _ | .removeVlan port _ _ | .enslave port | .release port => port

/-- One more call with the result 0, if that is the result. -/
def tally (calls : PortId × Nat → Nat) (key : PortId × Nat) (rv : Int) : PortId × Nat → Nat :=
  if rv = 0 then Function.update calls key (calls key + 1) else calls

section Step

variable {M : Type} [DecidableEq M] (env : VlanEnv M)

/-- The VLANs and their users after an event. -/
def step (s : VlanUsers M) : Ev → VlanUsers M
  | .addVlan port vid tagged =>
    let (rv, vlan) := addVlan env allOk s.vlan port (decide (port ∈ s.bridgePorts)) vid tagged
    { s with vlan := vlan, added := tally s.added (port, vid) rv }
  | .removeVlan port vid tagged =>
    let (rv, vlan) := removeVlan env allOk s.vlan port (decide (port ∈ s.bridgePorts)) vid tagged
    { s with vlan := vlan, removed := tally s.removed (port, vid) rv }
  | .enslave port =>
    { s with vlan := (disableVlans env allOk s.vlan port).2, bridgePorts := insert port s.bridgePorts }
  | .release port =>
    { s with vlan := (enableVlans env allOk s.vlan port).2, bridgePorts := s.bridgePorts.erase port }

/-- The VLAN is programmed on the port exactly if the port is not in the bridge and has users. -/
def Accounted (s : VlanUsers M) (p : PortId) (v : Nat) : Prop :=
  let e := s.vlan.swi.entries env.fm p v
  (p ∉ s.bridgePorts ∧ s.removed (p, v) < s.added (p, v) → e.ingress ≠ none ∧ e.egress ≠ none) ∧
  (¬ (p ∉ s.bridgePorts ∧ s.removed (p, v) < s.added (p, v)) → e.ingress = none ∧ e.egress = none)

/-- The event is not about a bond with the port as a member, and it is not the first user of the
VLAN while the port is in the bridge (nor the one that overflows the counter). -/
def Counted (p : PortId) (v : Nat) (s : VlanUsers M) (e : Ev) : Prop :=
  p ∉ env.lagMembers e.port ∧
  ∀ tagged, e = .addVlan p v tagged →
    (p ∈ s.bridgePorts → s.vlan.portVlan.lookup (p, v) ≠ none) ∧
    ∀ n, s.vlan.portVlan.lookup (p, v) = some n → n + 1 < 2 ^ 32

/-- The entry of a port and a VLAN is its number of users, and it is programmed unless the port is
in the bridge. -/
structure Inv (p : PortId) (v : Nat) (s : VlanUsers M) : Prop where
  valid : ∀ k ∈ s.vlan.portVlan, isVidValid k.2 = true ∧ k.1.1 ≠ 0
  users : ∃ n, s.added (p, v) = s.removed (p, v) + n ∧ n < 2 ^ 32 ∧
    s.vlan.portVlan.lookup (p, v) = if n = 0 then none else some n
  accounted : Accounted env s p v

end Step

/-! ### The loops over the VLANs of a port -/

theorem mem_vlansOf {M : Type} {s : NlVlan M} {q : PortId} {w : Nat} :
    w ∈ s.vlansOf q ↔ (q, w) ∈ s.portVlan := by
  unfold NlVlan.vlansOf
  rw [List.mem_insertionSort, List.mem_map]
  constructor
  · rintro ⟨⟨q', w'⟩, hk, rfl⟩
    obtain ⟨hmem, hq⟩ := List.mem_filter.mp hk
    obtain rfl : q' = q := of_decide_eq_true hq
    exact AList.mem_keys.mp hmem
  · intro hmem
    exact ⟨(q, w), List.mem_filter.mpr ⟨AList.mem_keys.mpr hmem, decide_eq_true rfl⟩, rfl⟩

/-- A loop over VLANs of a port: what each turn does to its VLAN, the loop does to all of them. -/
theorem loop_entries {M α : Type} {f : PortSwitch M → α} {T : α → Prop} {P : Prop} {v : Nat}
    {op : Nat → PortSwitch M → PortSwitch M} {vids : List Nat}
    (hop : ∀ w ∈ vids, ∀ sw, (P ∧ v = w → T (f (op w sw))) ∧ (¬ (P ∧ v = w) → f (op w sw) = f sw))
    (sw : PortSwitch M) :
    (P ∧ v ∈ vids → T (f (vids.foldl (fun sw w => op w sw) sw))) ∧
    (¬ (P ∧ v ∈ vids) → f (vids.foldl (fun sw w => op w sw) sw) = f sw) := by
  induction vids generalizing sw with
  | nil => simp
  | cons w vids ih =>
    obtain ⟨hw, hws⟩ := List.forall_mem_cons.mp hop
    obtain ⟨hin, hout⟩ := ih hws (op w sw)
    rw [List.foldl_cons, List.mem_cons]
    constructor
    · rintro ⟨hP, hv⟩
      by_cases hmem : v ∈ vids
      · exact hin ⟨hP, hmem⟩
      · rw [hout fun h => hmem h.2]
        exact (hw sw).1 ⟨hP, hv.resolve_right hmem⟩
    · intro hn
      rw [hout fun h => hn ⟨h.1, .inr h.2⟩]
      exact (hw sw).2 fun h => hn ⟨h.1, .inl h.2⟩

section Loops

variable {M : Type} [DecidableEq M] {env : VlanEnv M} (hE : env.fm.Encodes) {p q : PortId}
  {v w : Nat} (hv : v < 2 ^ 12) (hw : w < 2 ^ 12) (hp : p ∉ env.lagMembers q) (tagged : Bool)
  (vrfId : Nat)
include hE hv hw hp

theorem inOut_enableVlan (sw : PortSwitch M) :
    let e := (enableVlan env allOk q w tagged vrfId sw).2.entries env.fm p v
    (p = q ∧ v = w → e.ingress ≠ none ∧ e.egress ≠ none) ∧
    (¬ (p = q ∧ v = w) → e.inOut = (sw.entries env.fm p v).inOut) := by
  have hok : ∀ c, allOk c = true := fun _ => rfl
  have h0 := enableVlan_eq_zero env hok q w tagged vrfId sw
  have he := (enableVlan_entries hE allOk hv hw tagged vrfId hp sw).2 (by omega)
  simp only [he, SwiCall.effect, PortEntries.inOut]
  constructor
  · rintro ⟨rfl, rfl⟩
    simp
  · intro hn
    simp [hn]

theorem inOut_disableVlan (sw : PortSwitch M) :
    let e := (disableVlan env allOk q w tagged vrfId sw).2.entries env.fm p v
    (p = q ∧ v = w → e.ingress = none ∧ e.egress = none) ∧
    (¬ (p = q ∧ v = w) → e.inOut = (sw.entries env.fm p v).inOut) := by
  have hok : ∀ c, allOk c = true := fun _ => rfl
  have h0 := disableVlan_eq_zero env hok q w tagged vrfId sw
  have he := (disableVlan_entries hE allOk hv hw tagged vrfId hp sw).2 (by omega)
  simp only [he, SwiCall.effect, PortEntries.inOut]
  constructor
  · rintro ⟨rfl, rfl⟩
    simp
  · intro hn
    simp [hn]

end Loops

/-! ### The events -/

section Step

variable {M : Type} [DecidableEq M] {env : VlanEnv M} {p : PortId} {v : Nat} {s : VlanUsers M}

theorem inv_init : Inv env p v ({} : VlanUsers M) where
  valid k h := absurd h (AList.notMem_empty k)
  users := ⟨0, rfl, by decide, rfl⟩
  accounted := by simp [Accounted, PortSwitch.entries]

theorem tally_apply (calls : PortId × Nat → Nat) (key k : PortId × Nat) (rv : Int) :
    tally calls key rv k = if k = key ∧ rv = 0 then calls k + 1 else calls k := by
  unfold tally
  by_cases hrv : rv = 0
  · rw [if_pos hrv, Function.update_apply]
    by_cases hk : k = key <;> simp [hk, hrv]
  · simp [hrv]

theorem pred32_eq {n : Nat} (hn : n < 2 ^ 32) (hpos : 0 < n) : pred32 n = n - 1 := by
  rw [pred32, u32]
  omega

section Inv

variable (h : Inv env p v s)
include h

/-- The number of users is that of the entry. -/
theorem Inv.users_of_some {n : Nat} (hl : s.vlan.portVlan.lookup (p, v) = some n) :
    s.added (p, v) = s.removed (p, v) + n ∧ n < 2 ^ 32 ∧ 0 < n := by
  obtain ⟨m, hm, hfits, hcount⟩ := h.users
  rw [hl] at hcount
  split at hcount
  · cases hcount
  · obtain rfl := Option.some.inj hcount
    exact ⟨hm, hfits, by omega⟩

theorem Inv.users_of_none (hl : s.vlan.portVlan.lookup (p, v) = none) :
    s.added (p, v) = s.removed (p, v) := by
  obtain ⟨m, hm, -, hcount⟩ := h.users
  rw [hl] at hcount
  split at hcount
  · omega
  · cases hcount

/-- The entry of the port and the VLAN is there exactly if there are users. -/
theorem Inv.mem_iff : (p, v) ∈ s.vlan.portVlan ↔ s.removed (p, v) < s.added (p, v) := by
  cases hl : s.vlan.portVlan.lookup (p, v) with
  | none =>
    have := h.users_of_none hl
    exact iff_of_false (Table.not_mem_iff_lookup.mpr hl) (by omega)
  | some n =>
    have := h.users_of_some hl
    exact iff_of_true (Table.mem_iff_lookup.mpr ⟨n, hl⟩) (by omega)

/-- An event that does not change what the invariant is about. -/
theorem Inv.of_same {s' : VlanUsers M}
    (hvalid : ∀ k ∈ s'.vlan.portVlan, isVidValid k.2 = true ∧ k.1.1 ≠ 0)
    (hadded : s'.added (p, v) = s.added (p, v)) (hremoved : s'.removed (p, v) = s.removed (p, v))
    (hcount : s'.vlan.portVlan.lookup (p, v) = s.vlan.portVlan.lookup (p, v))
    (hbridge : p ∈ s'.bridgePorts ↔ p ∈ s.bridgePorts)
    (hent : (s'.vlan.swi.entries env.fm p v).inOut = (s.vlan.swi.entries env.fm p v).inOut) :
    Inv env p v s' where
  valid := hvalid
  users := by rw [hcount, hadded, hremoved]; exact h.users
  accounted := by
    have ha := h.accounted
    simp only [PortEntries.inOut, Prod.mk.injEq] at hent
    unfold Accounted at ha ⊢
    simp only [hadded, hremoved, hbridge, hent.1, hent.2]
    exact ha

theorem Inv.valid_insert {q : PortId} {w : Nat} (hw : isVidValid w = true) (hq : q.1 ≠ 0)
    (n : Nat) : ∀ k ∈ s.vlan.portVlan.insert (q, w) n, isVidValid k.2 = true ∧ k.1.1 ≠ 0 := by
  intro k hk
  rcases (AList.mem_insert _).mp hk with rfl | hk
  · exact ⟨hw, hq⟩
  · exact h.valid k hk

theorem Inv.valid_erase (key : PortId × Nat) :
    ∀ k ∈ s.vlan.portVlan.erase key, isVidValid k.2 = true ∧ k.1.1 ≠ 0 :=
  fun k hk => h.valid k (AList.mem_erase.mp hk).2

/-- A user more or less, with others there before and after: nothing changes on the switch. -/
theorem Inv.recount {n m : Nat} (hl : s.vlan.portVlan.lookup (p, v) = some n) {s' : VlanUsers M}
    (hvlan : s'.vlan = { s.vlan with portVlan := s.vlan.portVlan.insert (p, v) m })
    (hbridge : s'.bridgePorts = s.bridgePorts)
    (hm : s'.added (p, v) = s'.removed (p, v) + m) (hfits : m < 2 ^ 32) (hpos : 0 < m) :
    Inv env p v s' := by
  obtain ⟨hadded, -, hn⟩ := h.users_of_some hl
  obtain ⟨hw, hq⟩ := h.valid (p, v) (Table.mem_iff_lookup.mpr ⟨n, hl⟩)
  refine ⟨?_, ⟨m, hm, hfits, ?_⟩, ?_⟩
  · rw [hvlan]
    exact h.valid_insert hw hq m
  · rw [hvlan, if_neg (by omega)]
    exact AList.lookup_insert _
  · have ha := h.accounted
    unfold Accounted at ha ⊢
    rw [hvlan, hbridge]
    exact ⟨fun hp => ha.1 ⟨hp.1, by omega⟩, fun hp => ha.2 fun hp' => hp ⟨hp'.1, by omega⟩⟩

/-- A further user. -/
theorem Inv.addVlan_again {q : PortId} {w n : Nat} {tagged : Bool} (hw : isVidValid w = true)
    (hq : q.1 ≠ 0) (hl : s.vlan.portVlan.lookup (q, w) = some n)
    (hfit : (p, v) = (q, w) → n + 1 < 2 ^ 32) :
    Inv env p v (step env s (.addVlan q w tagged)) := by
  simp only [step, addVlan_of_some hw hq hl]
  by_cases hk : (p, v) = (q, w)
  · have hlt := hfit hk
    obtain ⟨rfl, rfl⟩ := Prod.mk.inj hk
    have hu : u32 (n + 1) = n + 1 := Nat.mod_eq_of_lt hlt
    have husers := h.users_of_some hl
    rw [hu]
    refine h.recount hl rfl rfl ?_ hlt (by omega)
    simp only [tally_apply, and_self, if_true]
    omega
  · exact h.of_same (h.valid_insert hw hq _) (by simp [tally_apply, hk]) rfl
      (Table.lookup_insert_ite .. |>.trans (if_neg hk)) Iff.rfl rfl

/-- A user goes and others stay. -/
theorem Inv.removeVlan_again {q : PortId} {w n : Nat} {tagged : Bool}
    (hl : s.vlan.portVlan.lookup (q, w) = some n) (hn : pred32 n > 0) :
    Inv env p v (step env s (.removeVlan q w tagged)) := by
  obtain ⟨hw, hq⟩ := h.valid (q, w) (Table.mem_iff_lookup.mpr ⟨n, hl⟩)
  simp only [step, removeVlan_of_some hw hq hl hn]
  by_cases hk : (p, v) = (q, w)
  · obtain ⟨rfl, rfl⟩ := Prod.mk.inj hk
    obtain ⟨hadded, hfits, hpos⟩ := h.users_of_some hl
    rw [pred32_eq hfits hpos] at hn ⊢
    refine h.recount hl rfl rfl ?_ (by omega) hn
    simp only [tally_apply, and_self, if_true]
    omega
  · exact h.of_same (h.valid_insert hw hq _) rfl (by simp [tally_apply, hk])
      (Table.lookup_insert_ite .. |>.trans (if_neg hk)) Iff.rfl rfl

theorem Inv.vlansOf_lt {q : PortId} {w : Nat} (hw : w ∈ s.vlan.vlansOf q) : w < 2 ^ 12 :=
  (isVidValid_iff.mp (h.valid (q, w) (mem_vlansOf.mp hw)).1).2

/-- A link without a port has no VLANs. -/
theorem Inv.vlansOf_zero {q : PortId} (hq : q.1 = 0) : s.vlan.vlansOf q = [] := by
  refine List.eq_nil_iff_forall_not_mem.mpr fun w hw => ?_
  exact (h.valid (q, w) (mem_vlansOf.mp hw)).2 hq

theorem Inv.disableVlans_snd (q : PortId) :
    (NlVlan.disableVlans env allOk s.vlan q).2 =
      { s.vlan with
        swi := (s.vlan.vlansOf q).foldl (fun sw vid =>
          (disableVlan env allOk q vid (vid != env.portUntaggedVid) (s.vlan.getVrfId vid) sw).2)
          s.vlan.swi } := by
  unfold NlVlan.disableVlans
  by_cases hq : q.1 = 0
  · rw [if_pos hq, h.vlansOf_zero hq]
    rfl
  · rw [if_neg hq]

theorem Inv.enableVlans_snd (q : PortId) :
    (NlVlan.enableVlans env allOk s.vlan q).2 =
      { s.vlan with
        swi := (s.vlan.vlansOf q).foldl (fun sw vid =>
          (enableVlan env allOk q vid (vid != env.portUntaggedVid) (s.vlan.getVrfId vid) sw).2)
          s.vlan.swi } := by
  unfold NlVlan.enableVlans
  by_cases hq : q.1 = 0
  · rw [if_pos hq, h.vlansOf_zero hq]
    rfl
  · rw [if_neg hq]

end Inv

variable (hE : env.fm.Encodes) (hv : v < 2 ^ 12) (h : Inv env p v s)
include hE hv h

/-- The first user, of a port that is not in the bridge: the VLAN is programmed. -/
theorem Inv.addVlan_first {q : PortId} {w : Nat} {tagged : Bool} (hmem : p ∉ env.lagMembers q)
    (hw : isVidValid w = true) (hq : q.1 ≠ 0) (hl : s.vlan.portVlan.lookup (q, w) = none)
    (hb : q ∉ s.bridgePorts) : Inv env p v (step env s (.addVlan q w tagged)) := by
  have hw12 := (isVidValid_iff.mp hw).2
  have h0 := enableVlan_eq_zero env (fun _ => rfl : ∀ c, allOk c = true) q w tagged
    (s.vlan.getVrfId w) s.vlan.swi
  have he := inOut_enableVlan hE hv hw12 hmem tagged (s.vlan.getVrfId w) s.vlan.swi
  have hnot : (q, w) ∉ s.vlan.portVlan := Table.not_mem_iff_lookup.mpr hl
  simp only [step, hb, decide_false, addVlan_of_none hw hq hl, h0, Int.lt_irrefl, if_false,
    Table.emplace, if_neg hnot]
  by_cases hk : (p, v) = (q, w)
  · obtain ⟨rfl, rfl⟩ := Prod.mk.inj hk
    have husers := h.users_of_none hl
    refine ⟨h.valid_insert hw hq 1, ⟨1, ?_, by decide, AList.lookup_insert _⟩, ?_⟩
    · simp only [tally_apply, and_self, if_true]
      omega
    · unfold Accounted
      simp only [tally_apply, and_self, if_true]
      exact ⟨fun _ => he.1 ⟨rfl, rfl⟩, fun hn => absurd ⟨hb, by omega⟩ hn⟩
  · have hk' : ¬ (p = q ∧ v = w) := fun hk' => hk (by rw [hk'.1, hk'.2])
    exact h.of_same (h.valid_insert hw hq 1) (by simp [tally_apply, hk]) rfl
      (Table.lookup_insert_ite .. |>.trans (if_neg hk)) Iff.rfl (he.2 hk')

theorem Inv.addVlan {q : PortId} {w : Nat} {tagged : Bool}
    (hc : Counted env p v s (.addVlan q w tagged)) :
    Inv env p v (step env s (.addVlan q w tagged)) := by
  obtain ⟨hmem, hfirst⟩ := hc
  rw [Ev.port] at hmem
  by_cases hvalid : isVidValid w = true ∧ q.1 ≠ 0
  swap
  · have hinv : isVidValid w = false ∨ q.1 = 0 := by
      by_cases hw : isVidValid w = true
      · exact .inr (not_not.mp fun hq => hvalid ⟨hw, hq⟩)
      · exact .inl (by simpa using hw)
    simp only [step, addVlan_of_not_valid hinv]
    exact h.of_same h.valid (by simp [tally_apply, EINVAL]) rfl rfl Iff.rfl rfl
  obtain ⟨hw, hq⟩ := hvalid
  cases hl : s.vlan.portVlan.lookup (q, w) with
  | some n =>
    refine h.addVlan_again hw hq hl fun hk => ?_
    obtain ⟨rfl, rfl⟩ := Prod.mk.inj hk
    exact (hfirst tagged rfl).2 n hl
  | none =>
    by_cases hb : q ∈ s.bridgePorts
    · -- not counted: excluded for the port and the VLAN
      have hk : (p, v) ≠ (q, w) := by
        intro hk
        obtain ⟨rfl, rfl⟩ := Prod.mk.inj hk
        exact (hfirst tagged rfl).1 hb hl
      simp only [step, hb, decide_true, addVlan_of_bridge hw hq hl]
      exact h.of_same h.valid (by simp [tally_apply, hk]) rfl rfl Iff.rfl rfl
    · exact h.addVlan_first hE hv hmem hw hq hl hb

/-- The last user: the VLAN goes, on the switch too unless the port is in the bridge. -/
theorem Inv.removeVlan_last {q : PortId} {w n : Nat} {tagged : Bool} (hmem : p ∉ env.lagMembers q)
    (hl : s.vlan.portVlan.lookup (q, w) = some n) (hn : ¬ pred32 n > 0) :
    Inv env p v (step env s (.removeVlan q w tagged)) := by
  obtain ⟨hw, hq⟩ := h.valid (q, w) (Table.mem_iff_lookup.mpr ⟨n, hl⟩)
  have hw12 := (isVidValid_iff.mp hw).2
  have he := inOut_disableVlan hE hv hw12 hmem tagged (s.vlan.getVrfId w) s.vlan.swi
  have h0 := disableVlan_eq_zero env (fun _ => rfl : ∀ c, allOk c = true) q w tagged
    (s.vlan.getVrfId w) s.vlan.swi
  simp only [step, removeVlan_of_last hw hq hl hn, h0]
  by_cases hk : (p, v) = (q, w)
  · obtain ⟨rfl, rfl⟩ := Prod.mk.inj hk
    obtain ⟨hadded, hfits, hpos⟩ := h.users_of_some hl
    rw [pred32_eq hfits hpos] at hn
    have hone : n = 1 := by omega
    have ha := h.accounted
    by_cases hb : p ∈ s.bridgePorts
    · simp only [hb, decide_true, if_true]
      refine ⟨h.valid_erase _, ⟨0, ?_, by decide, AList.lookup_erase _ _⟩, ?_⟩
      · simp only [tally_apply, and_self, if_true]
        omega
      · unfold Accounted at ha ⊢
        exact ⟨fun hp => absurd hb hp.1, fun _ => ha.2 fun hp => hp.1 hb⟩
    · simp only [hb, decide_false, Bool.false_eq_true, if_false]
      refine ⟨h.valid_erase _, ⟨0, ?_, by decide, AList.lookup_erase _ _⟩, ?_⟩
      · simp only [tally_apply, and_self, if_true]
        omega
      · unfold Accounted
        simp only [tally_apply, and_self, if_true]
        exact ⟨fun hp => absurd hp.2 (by omega), fun _ => he.1 ⟨rfl, rfl⟩⟩
  · have hk' : ¬ (p = q ∧ v = w) := fun hk' => hk (by rw [hk'.1, hk'.2])
    have hlook : (s.vlan.portVlan.erase (q, w)).lookup (p, v) =
        s.vlan.portVlan.lookup (p, v) := by rw [Table.lookup_erase_ite, if_neg hk]
    by_cases hb : q ∈ s.bridgePorts
    · simp only [hb, decide_true, if_true]
      exact h.of_same (h.valid_erase _) rfl (by simp [tally_apply, hk]) hlook Iff.rfl rfl
    · simp only [hb, decide_false, Bool.false_eq_true, if_false]
      exact h.of_same (h.valid_erase _) rfl (by simp [tally_apply, hk]) hlook Iff.rfl
        (he.2 hk')

theorem Inv.removeVlan {q : PortId} {w : Nat} {tagged : Bool} (hmem : p ∉ env.lagMembers q) :
    Inv env p v (step env s (.removeVlan q w tagged)) := by
  cases hl : s.vlan.portVlan.lookup (q, w) with
  | none =>
    simp only [step, removeVlan_of_none hl]
    exact h.of_same h.valid rfl (by simp [tally_apply, EINVAL]) rfl Iff.rfl rfl
  | some n =>
    by_cases hn : pred32 n > 0
    · exact h.removeVlan_again hl hn
    · exact h.removeVlan_last hE hv hmem hl hn

theorem Inv.enslave {q : PortId} (hmem : p ∉ env.lagMembers q) :
    Inv env p v (step env s (.enslave q)) := by
  have hloop := loop_entries (v := v) (P := p = q)
    (f := fun sw => (sw.entries env.fm p v).inOut) (T := fun io => io.1 = none ∧ io.2 = none)
    (fun w (hw : w ∈ s.vlan.vlansOf q) sw => inOut_disableVlan hE hv (h.vlansOf_lt hw) hmem
      (w != env.portUntaggedVid) (s.vlan.getVrfId w) sw) s.vlan.swi
  have ha := h.accounted
  simp only [step, h.disableVlans_snd]
  by_cases hq : p = q
  · refine ⟨h.valid, h.users, ?_⟩
    subst hq
    unfold Accounted at ha ⊢
    simp only [Finset.mem_insert_self, not_true, false_and, not_false_iff, true_imp_iff,
      false_imp_iff, true_and]
    by_cases hv' : v ∈ s.vlan.vlansOf p
    · exact hloop.1 ⟨rfl, hv'⟩
    · -- without an entry nothing is programmed
      have hsame := hloop.2 fun hn => hv' hn.2
      simp only [PortEntries.inOut, Prod.mk.injEq] at hsame
      rw [hsame.1, hsame.2]
      exact ha.2 fun hn => hv' (mem_vlansOf.mpr (h.mem_iff.mpr hn.2))
  · refine h.of_same h.valid rfl rfl rfl ?_ (hloop.2 fun hn => hq hn.1)
    simp [hq]

theorem Inv.release {q : PortId} (hmem : p ∉ env.lagMembers q) :
    Inv env p v (step env s (.release q)) := by
  have hloop := loop_entries (v := v) (P := p = q)
    (f := fun sw => (sw.entries env.fm p v).inOut) (T := fun io => io.1 ≠ none ∧ io.2 ≠ none)
    (fun w (hw : w ∈ s.vlan.vlansOf q) sw => inOut_enableVlan hE hv (h.vlansOf_lt hw) hmem
      (w != env.portUntaggedVid) (s.vlan.getVrfId w) sw) s.vlan.swi
  have ha := h.accounted
  simp only [step, h.enableVlans_snd]
  by_cases hq : p = q
  · refine ⟨h.valid, h.users, ?_⟩
    subst hq
    unfold Accounted at ha ⊢
    simp only [Finset.mem_erase, ne_eq, not_true, false_and, not_false_iff, true_and]
    rw [← h.mem_iff, ← mem_vlansOf]
    refine ⟨fun hv' => hloop.1 ⟨rfl, hv'⟩, fun hv' => ?_⟩
    have hsame := hloop.2 fun hn => hv' hn.2
    simp only [PortEntries.inOut, Prod.mk.injEq] at hsame
    rw [hsame.1, hsame.2]
    exact ha.2 fun hn => hv' (mem_vlansOf.mpr (h.mem_iff.mpr hn.2))
  · refine h.of_same h.valid rfl rfl rfl ?_ (hloop.2 fun hn => hq hn.1)
    simp [hq]

theorem Inv.step {e : Ev} (hc : Counted env p v s e) : Inv env p v (step env s e) := by
  cases e with
  | addVlan q w tagged => exact h.addVlan hE hv hc
  | removeVlan q w tagged => exact h.removeVlan hE hv hc.1
  | enslave q => exact h.enslave hE hv hc.1
  | release q => exact h.release hE hv hc.1

end Step

/-- A VLAN with a user keeps it while its port is in the bridge. -/
def stays : List Ev := [.addVlan port1 10 true, .enslave port1, .release port1]

/-- A user that comes while the port is in the bridge. -/
def lost : List Ev := [.enslave port1, .addVlan port1 10 true, .release port1]

end VlanUsers

end Basebox
