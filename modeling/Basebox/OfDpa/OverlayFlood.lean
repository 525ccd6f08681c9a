import Basebox.Lib.Run
import Basebox.OfDpa.Switch
import Mathlib.Data.Finset.Card

/-!
# Flood groups of the VXLAN overlay (`tunnel_dlf_flood`, `src/of-dpa/controller.cc`)

`tunnel_dlf_flood[tunnel_id]` is the set of the logical ports that frames of a tunnel are flooded
to. It is mirrored in the overlay flood group of the tunnel and in a DLF flow. The map is a
`std::map<uint16_t, std::set<uint32_t>>`, while `tunnel_id` is a `uint32_t`: the key is truncated,
the messages carry the whole id. A connected switch is assumed: no send throws.

* `addL2OverlayFlood`, `delL2OverlayFlood`: the two operations with the messages they send.
* `lportsOf`: the ports of a tunnel as the calls on that tunnel say, by `Since` in `mem_lportsOf`.
* `Exact`: the set, the group and the flow of a tunnel are those of `lportsOf`.
* `exact_iff_separated`: they are, for all tunnels of a set of ids and after every run on them,
  exactly if no two ids of the set agree in the low 16 bits.
-/

namespace Basebox

/-- `group_id_l2_overlay_flood` of `rofl_ofdpa_fm_driver`. -/
structure OverlayDriver where
  groupIdL2OverlayFlood (tunnelId index : Nat) : Nat

/-- The group of a tunnel: the tunnel id is the index too. -/
def OverlayDriver.group (drv : OverlayDriver) (tunnelId : Nat) : Nat :=
  drv.groupIdL2OverlayFlood tunnelId tunnelId

/-- The group id has 16 bits for the tunnel id: tunnel ids that differ there have different groups. -/
def OverlayDriver.Encodes (drv : OverlayDriver) : Prop :=
  ∀ t t' i i', drv.groupIdL2OverlayFlood t i = drv.groupIdL2OverlayFlood t' i' →
    t % 2 ^ 16 = t' % 2 ^ 16

/-- The encoding of OF-DPA: kind 8, then the tunnel id, two bits for the subtype, ten for the
index. -/
def ofdpaOverlay : OverlayDriver where
  groupIdL2OverlayFlood t i := 8 * 2 ^ 28 + t % 2 ^ 16 * 2 ^ 12 + i % 2 ^ 10

theorem ofdpaOverlay_encodes : ofdpaOverlay.Encodes := by
  intro t t' i i' h
  simp only [ofdpaOverlay] at h
  omega

/-- The map of the controller and the messages it has sent. -/
structure Overlay where
  tunnelDlfFlood : Table Nat (Finset Nat) := ∅
  sent : List Msg := []
  deriving DecidableEq

namespace Overlay

/-- `add_l2_overlay_flood`. The port is in the set before the command is chosen: ADD for a set with
one port, MODIFY for more. The DLF flow is sent every time. -/
def addL2OverlayFlood (drv : OverlayDriver) (s : Overlay) (tunnelId lportId : Nat) : Overlay :=
  let set := insert lportId ((s.tunnelDlfFlood.lookup (u16 tunnelId)).getD ∅)
  { tunnelDlfFlood := s.tunnelDlfFlood.insert (u16 tunnelId) set
    sent := s.sent ++
      [Msg.group (1 < set.card) (drv.group tunnelId) (.buckets set), .barrier,
        .flowAdd (.dlfOverlay tunnelId) (drv.group tunnelId)] }

/-- `del_l2_overlay_flood`. An empty set stays in the map. -/
def delL2OverlayFlood (drv : OverlayDriver) (s : Overlay) (tunnelId lportId : Nat) : Overlay :=
  match s.tunnelDlfFlood.lookup (u16 tunnelId) with
  | none => s
  | some old =>
    if lportId ∈ old then
      let set := old.erase lportId
      { tunnelDlfFlood := s.tunnelDlfFlood.insert (u16 tunnelId) set
        sent := s.sent ++
          if set.card ≠ 0 then [.groupModify (drv.group tunnelId) (.buckets set)]
          else [.flowDelete (.dlfOverlay tunnelId), .barrier, .groupDelete (drv.group tunnelId)] }
    else s

/-- The calls of the two operations. -/
inductive Ev where
  | add (tunnelId lportId : Nat)
  | del (tunnelId lportId : Nat)
  deriving DecidableEq

/-- The tunnel of a call. -/
def Ev.tunnelId : Ev → Nat
  | .add t _ | .del t _ => t

/-- The state after a call. -/
def step (drv : OverlayDriver) (s : Overlay) : Ev → Overlay
  | .add t p => addL2OverlayFlood drv s t p
  | .del t p => delL2OverlayFlood drv s t p

/-- What a call on a tunnel does to the ports of the tunnel. -/
def Ev.on (set : Finset Nat) : Ev → Finset Nat
  | .add _ p => insert p set
  | .del _ p => set.erase p

/-- The ports added to the tunnel and not deleted from it since. -/
def lportsOf (es : List Ev) (t : Nat) : Finset Nat :=
  es.foldl (fun set e => if e.tunnelId = t then e.on set else set) ∅

theorem lportsOf_concat (es : List Ev) (e : Ev) (t : Nat) :
    lportsOf (es ++ [e]) t = if e.tunnelId = t then e.on (lportsOf es t) else lportsOf es t := by
  simp [lportsOf]

theorem mem_lportsOf (es : List Ev) (t p : Nat) :
    p ∈ lportsOf es t ↔ Since (· = .add t p) (· = .del t p) es := by
  induction es using List.reverseRecOn with
  | nil => simp [lportsOf, since_nil]
  | append_singleton es e ih =>
    rw [lportsOf_concat, since_concat, ← ih]
    cases e with
    | add t' p' =>
      by_cases ht : t' = t
      · subst ht
        simp [Ev.tunnelId, Ev.on, eq_comm]
      · simp [Ev.tunnelId, ht]
    | del t' p' =>
      by_cases ht : t' = t
      · subst ht
        simp [Ev.tunnelId, Ev.on, and_comm, eq_comm]
      · simp [Ev.tunnelId, ht]

/-- The content of the group as the last message about it says. -/
def lastSent (ms : List Msg) (id : Nat) : Option Group :=
  ms.foldl (fun g m => match m with
    | .groupAdd i g' | .groupModify i g' => if i = id then some g' else g
    | .groupDelete i => if i = id then none else g
    | _ => g) none

/-- The switch that has received the messages. -/
def switch (s : Overlay) : Switch := Switch.applyAll {} s.sent

/-- The set of the tunnel in the map. -/
def members (s : Overlay) (t : Nat) : Finset Nat := (s.tunnelDlfFlood.lookup (u16 t)).getD ∅

/-- The state after the calls, from the start of the controller. -/
def after (drv : OverlayDriver) (es : List Ev) : Overlay := run (step drv) {} es

/-- The set, the group as last sent, the group on the switch and the DLF flow of a tunnel are those
of the ports `set`. -/
structure Mirrors (drv : OverlayDriver) (s : Overlay) (t : Nat) (set : Finset Nat) : Prop where
  members : s.members t = set
  sent : lastSent s.sent (drv.group t) = if set = ∅ then none else some (.buckets set)
  groups : s.switch.groups.lookup (drv.group t) = if set = ∅ then none else some (.buckets set)
  flows : s.switch.flows.lookup (.dlfOverlay t) = if set = ∅ then none else some (drv.group t)

/-- What a tunnel has after the calls is what the calls on it say. -/
def Exact (drv : OverlayDriver) (es : List Ev) (t : Nat) : Prop :=
  Mirrors drv (after drv es) t (lportsOf es t)

/-! ## One call -/

section Step

variable {drv : OverlayDriver} {s : Overlay}

theorem lastSent_append (ms ns : List Msg) (id : Nat) :
    lastSent (ms ++ ns) id = ns.foldl (fun g m => match m with
      | .groupAdd i g' | .groupModify i g' => if i = id then some g' else g
      | .groupDelete i => if i = id then none else g
      | _ => g) (lastSent ms id) := List.foldl_append

/-- The call made the ports of tunnel `t` those of `set`, and changed no other set, group or flow. -/
structure Sets (drv : OverlayDriver) (t : Nat) (set : Finset Nat) (s s' : Overlay) : Prop where
  own : Mirrors drv s' t set
  members : ∀ t', u16 t' ≠ u16 t → s'.members t' = s.members t'
  sent : ∀ id, id ≠ drv.group t → lastSent s'.sent id = lastSent s.sent id
  groups : ∀ id, id ≠ drv.group t → s'.switch.groups.lookup id = s.switch.groups.lookup id
  flows : ∀ m, m ≠ .dlfOverlay t → s'.switch.flows.lookup m = s.switch.flows.lookup m

theorem Sets.refl {t : Nat} {set : Finset Nat} (h : Mirrors drv s t set) : Sets drv t set s s where
  own := h
  members _ _ := rfl
  sent _ _ := rfl
  groups _ _ := rfl
  flows _ _ := rfl

theorem Sets.of_updates {t : Nat} {set : Finset Nat} {s' : Overlay}
    (hmembers : ∀ t', s'.members t' = if u16 t' = u16 t then set else s.members t')
    (hsent : ∀ id, lastSent s'.sent id = if id = drv.group t then
      (if set = ∅ then none else some (.buckets set)) else lastSent s.sent id)
    (hgroups : ∀ id, s'.switch.groups.lookup id = if id = drv.group t then
      (if set = ∅ then none else some (.buckets set)) else s.switch.groups.lookup id)
    (hflows : ∀ m, s'.switch.flows.lookup m = if m = .dlfOverlay t then
      (if set = ∅ then none else some (drv.group t)) else s.switch.flows.lookup m) :
    Sets drv t set s s' where
  own := by
    constructor
    · rw [hmembers, if_pos rfl]
    · rw [hsent, if_pos rfl]
    · rw [hgroups, if_pos rfl]
    · rw [hflows, if_pos rfl]
  members t' ht := by rw [hmembers, if_neg ht]
  sent id hid := by rw [hsent, if_neg hid]
  groups id hid := by rw [hgroups, if_neg hid]
  flows m hm := by rw [hflows, if_neg hm]

/-- A tunnel with another key, another group and another flow stays as it was. -/
theorem Sets.frame (hdrv : drv.Encodes) {t t' : Nat} {set set' : Finset Nat} {s' : Overlay}
    (h : Sets drv t set s s') (hne : t' % 2 ^ 16 ≠ t % 2 ^ 16) (hm : Mirrors drv s t' set') :
    Mirrors drv s' t' set' := by
  have hgroup : drv.group t' ≠ drv.group t := fun he => hne (hdrv _ _ _ _ he)
  have hflow : FlowMatch.dlfOverlay t' ≠ .dlfOverlay t := by
    intro he
    cases he
    exact hne rfl
  constructor
  · rw [h.members t' hne, hm.members]
  · rw [h.sent _ hgroup, hm.sent]
  · rw [h.groups _ hgroup, hm.groups]
  · rw [h.flows _ hflow, hm.flows]

theorem members_insert (t t' : Nat) (set : Finset Nat) (ms : List Msg) :
    ({ tunnelDlfFlood := s.tunnelDlfFlood.insert (u16 t) set, sent := ms } : Overlay).members t' =
      if u16 t' = u16 t then set else s.members t' := by
  unfold members
  grind

/-- The group command of an addition: an ADD is rejected only if the set stays as it was. -/
theorem groups_command {sw : Switch} {id : Nat} {set : Finset Nat} (p : Nat)
    (h : sw.groups.lookup id = if set = ∅ then none else some (.buckets set)) (i : Nat) :
    (sw.apply (Msg.group (1 < (insert p set).card) id (.buckets (insert p set)))).groups.lookup i =
      if i = id then some (.buckets (insert p set)) else sw.groups.lookup i := by
  by_cases hc : 1 < (insert p set).card
  · have hne : set ≠ ∅ := by
      rintro rfl
      simp at hc
    simp [hc, Msg.group, Switch.groups_groupModify, h, hne]
  · have hold : set = ∅ ∨ set = insert p set := by
      rcases set.eq_empty_or_nonempty with he | he
      · exact .inl he
      · refine .inr (Finset.eq_of_subset_of_card_le (Finset.subset_insert _ _) ?_)
        have := he.card_pos
        omega
    simp only [hc, decide_false, Msg.group, Bool.false_eq_true, if_false,
      Switch.groups_groupAdd, h]
    rcases hold with rfl | he
    · simp
    · rw [← he]
      split_ifs <;> rfl

theorem flows_command (sw : Switch) (b : Bool) (id : Nat) (g : Group) :
    (sw.apply (Msg.group b id g)).flows = sw.flows := by
  unfold Msg.group
  split
  · exact Switch.flows_groupModify sw id g
  · exact Switch.flows_groupAdd sw id g

theorem addL2OverlayFlood_sets {t : Nat} {set : Finset Nat} (h : Mirrors drv s t set) (p : Nat) :
    Sets drv t (insert p set) s (addL2OverlayFlood drv s t p) := by
  have hset : (s.tunnelDlfFlood.lookup (u16 t)).getD ∅ = set := h.members
  have hne : insert p set ≠ ∅ := Finset.insert_ne_empty _ _
  unfold addL2OverlayFlood
  rw [hset]
  set s' : Overlay :=
    { tunnelDlfFlood := s.tunnelDlfFlood.insert (u16 t) (insert p set)
      sent := s.sent ++ [Msg.group (1 < (insert p set).card) (drv.group t)
        (.buckets (insert p set)), .barrier, .flowAdd (.dlfOverlay t) (drv.group t)] } with hs'
  have hmembers (t' : Nat) : s'.members t' = if u16 t' = u16 t then insert p set
      else s.members t' := members_insert t t' _ _
  have hsent (id : Nat) : lastSent s'.sent id = if id = drv.group t then
      some (.buckets (insert p set)) else lastSent s.sent id := by
    rw [hs', lastSent_append]
    by_cases hc : 1 < (insert p set).card <;> simp [Msg.group, hc, eq_comm]
  have hgroups (id : Nat) : s'.switch.groups.lookup id = if id = drv.group t then
      some (.buckets (insert p set)) else s.switch.groups.lookup id := by
    rw [switch, Switch.applyAll_append]
    exact groups_command p h.groups id
  have hflows (m : FlowMatch) : s'.switch.flows.lookup m = if m = .dlfOverlay t then
      some (drv.group t) else s.switch.flows.lookup m := by
    rw [switch, Switch.applyAll_append]
    simp only [Switch.applyAll_cons, Switch.applyAll_nil, Switch.apply_barrier,
      Switch.flows_flowAdd, flows_command]
    rfl
  refine Sets.of_updates hmembers (fun id => ?_) (fun id => ?_) (fun m => ?_)
  · rw [hsent, if_neg hne]
  · rw [hgroups, if_neg hne]
  · rw [hflows, if_neg hne]

theorem delL2OverlayFlood_sets {t : Nat} {set : Finset Nat} (h : Mirrors drv s t set) (p : Nat) :
    Sets drv t (set.erase p) s (delL2OverlayFlood drv s t p) := by
  unfold delL2OverlayFlood
  cases hl : s.tunnelDlfFlood.lookup (u16 t) with
  | none =>
    have hset : set = ∅ := by rw [← h.members, members, hl]; rfl
    subst hset
    exact Sets.refl h
  | some old =>
    have hset : set = old := by rw [← h.members, members, hl]; rfl
    subst hset
    by_cases hp : p ∈ set
    · have hne : set ≠ ∅ := Finset.ne_empty_of_mem hp
      simp only [hp, if_true]
      refine Sets.of_updates (fun t' => members_insert t t' _ _) (fun id => ?_) (fun id => ?_)
        (fun m => ?_)
      · rw [lastSent_append]
        by_cases hc : set.erase p = ∅ <;> simp [hc, eq_comm]
      · have hg := h.groups
        rw [if_neg hne] at hg
        rw [switch, Switch.applyAll_append]
        by_cases hc : set.erase p = ∅
        · simp only [hc, Finset.card_empty, ne_eq, not_true_eq_false, if_false, if_true,
            Switch.applyAll_cons, Switch.applyAll_nil, Switch.groups_groupDelete,
            Switch.apply_barrier, Switch.groups_flowDelete]
          rfl
        · have hcard : (set.erase p).card ≠ 0 := fun he => hc (Finset.card_eq_zero.mp he)
          simp only [hc, hcard, ne_eq, not_false_eq_true, if_false, if_true,
            Switch.applyAll_cons, Switch.applyAll_nil, Switch.groups_groupModify]
          rw [switch] at hg ⊢
          rw [hg]
          rfl
      · have hf := h.flows
        rw [if_neg hne] at hf
        rw [switch, Switch.applyAll_append]
        by_cases hc : set.erase p = ∅
        · simp only [hc, Finset.card_empty, ne_eq, not_true_eq_false, if_false, if_true,
            Switch.applyAll_cons, Switch.applyAll_nil, Switch.flows_groupDelete,
            Switch.apply_barrier, Switch.flows_flowDelete]
          rfl
        · have hcard : (set.erase p).card ≠ 0 := fun he => hc (Finset.card_eq_zero.mp he)
          simp only [hc, hcard, ne_eq, not_false_eq_true, if_false, if_true,
            Switch.applyAll_cons, Switch.applyAll_nil, Switch.flows_groupModify]
          split_ifs with hm
          · subst hm
            exact hf
          · rfl
    · simp only [hp, if_false]
      rw [Finset.erase_eq_of_notMem hp]
      exact Sets.refl h

theorem step_sets {e : Ev} {set : Finset Nat} (h : Mirrors drv s e.tunnelId set) :
    Sets drv e.tunnelId (e.on set) s (step drv s e) := by
  cases e with
  | add t p => exact addL2OverlayFlood_sets h p
  | del t p => exact delL2OverlayFlood_sets h p

end Step

/-! ## All calls -/

section Runs

variable {drv : OverlayDriver}

theorem exact_nil (t : Nat) : Exact drv [] t := ⟨rfl, rfl, rfl, rfl⟩

/-- A call on a tunnel keeps it exact, and every tunnel that differs from it in the low 16 bits. -/
theorem Exact.concat (hdrv : drv.Encodes) {es : List Ev} {e : Ev} {t : Nat}
    (hown : Exact drv es e.tunnelId) (h : Exact drv es t)
    (hne : t % 2 ^ 16 = e.tunnelId % 2 ^ 16 → t = e.tunnelId) : Exact drv (es ++ [e]) t := by
  unfold Exact after
  rw [run_concat, lportsOf_concat]
  by_cases ht : e.tunnelId = t
  · subst ht
    rw [if_pos rfl]
    exact (step_sets hown).own
  · rw [if_neg ht]
    exact (step_sets hown).frame hdrv (fun he => ht (hne he).symm) h

/-- No two tunnel ids of `T` agree in the low 16 bits. -/
def Separated (T : Set Nat) : Prop := ∀ t ∈ T, ∀ t' ∈ T, t % 2 ^ 16 = t' % 2 ^ 16 → t = t'

theorem Separated.exact (hdrv : drv.Encodes) {T : Set Nat} (hT : Separated T) {es : List Ev}
    (hes : ∀ e ∈ es, e.tunnelId ∈ T) : ∀ t ∈ T, Exact drv es t := by
  induction es using List.reverseRecOn with
  | nil => exact fun t _ => exact_nil t
  | append_singleton es e ih =>
    intro t ht
    have hprev := ih fun a ha => hes a (by simp [ha])
    have he : e.tunnelId ∈ T := hes e (by simp)
    exact (hprev _ he).concat hdrv (hprev t ht) fun hmod => hT t ht _ he hmod

/-- Two tunnels with one key: the second addition puts the port of the first into its set too. -/
theorem not_exact_of_shared {t t' : Nat} (hne : t ≠ t') (hmod : t % 2 ^ 16 = t' % 2 ^ 16) :
    ¬ Exact drv [.add t 1, .add t' 2] t' := by
  intro h
  have hm := h.members
  have hkey : u16 t' = u16 t := hmod.symm
  have hports : lportsOf [.add t 1, .add t' 2] t' = {2} := by
    simp [lportsOf, Ev.tunnelId, Ev.on, hne]
  have hset : (after drv [.add t 1, .add t' 2]).members t' = {2, 1} := by
    change (addL2OverlayFlood drv (addL2OverlayFlood drv {} t 1) t' 2).members t' = _
    unfold addL2OverlayFlood
    rw [members_insert, if_pos rfl, Table.lookup_insert_ite, if_pos hkey]
    rfl
  rw [hports, hset] at hm
  exact absurd hm (by decide)

/-- For all runs on a set of tunnel ids: what is mirrored for each tunnel is what the calls on it
say, and a call leaves the set, the group and the flow of another tunnel as they were, exactly if
the map has a key of its own for each of the tunnels. -/
theorem exact_iff_separated (hdrv : drv.Encodes) (T : Set Nat) :
    (∀ es : List Ev, (∀ e ∈ es, e.tunnelId ∈ T) → ∀ t ∈ T, Exact drv es t ∧
      ∀ e : Ev, e.tunnelId ∈ T → e.tunnelId ≠ t →
        Mirrors drv (after drv (es ++ [e])) t (lportsOf es t)) ↔ Separated T := by
  constructor
  · intro h t ht t' ht' hmod
    by_contra hne
    refine not_exact_of_shared hne hmod (h [.add t 1, .add t' 2] ?_ t' ht').1
    intro e he
    simp only [List.mem_cons, List.not_mem_nil, or_false] at he
    rcases he with rfl | rfl
    · exact ht
    · exact ht'
  · intro hT es hes t ht
    refine ⟨hT.exact hdrv hes t ht, fun e he hne => ?_⟩
    have hall : ∀ a ∈ es ++ [e], a.tunnelId ∈ T := by
      intro a ha
      rcases List.mem_append.mp ha with ha | ha
      · exact hes a ha
      · rwa [List.mem_singleton.mp ha]
    have hexact := hT.exact hdrv hall t ht
    unfold Exact at hexact
    rwa [lportsOf_concat, if_neg hne] at hexact

theorem exact_iff_separated_ofdpa :
    (∀ es : List Ev, (∀ e ∈ es, e.tunnelId ∈ ({10, 11} : Set Nat)) → ∀ t ∈ ({10, 11} : Set Nat),
      Exact ofdpaOverlay es t ∧ ∀ e : Ev, e.tunnelId ∈ ({10, 11} : Set Nat) → e.tunnelId ≠ t →
        Mirrors ofdpaOverlay (after ofdpaOverlay (es ++ [e])) t (lportsOf es t)) ↔
      Separated {10, 11} :=
  exact_iff_separated ofdpaOverlay_encodes {10, 11}

/-- Tunnel 65546 gets the port of tunnel 10: both have key 10. -/
theorem tunnel65546_floods_like_tunnel10 :
    ¬ Exact ofdpaOverlay [.add 10 1, .add 65546 2] 65546 :=
  not_exact_of_shared (by decide) (by decide)

end Runs

end Overlay

end Basebox
