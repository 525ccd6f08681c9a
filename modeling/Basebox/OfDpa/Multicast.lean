import Basebox.Lib.Lists
import Basebox.Lib.Run
import Basebox.OfDpa.Switch
import Mathlib.Data.Finset.Card

/-!
# The multicast groups of the controller (`mc_groups`, `src/of-dpa/controller.cc`)

An entry of the list is a group and VLAN with the index of its OF-DPA multicast group, the
interface groups of the ports that joined, and those of the ports that are disabled because
their VLAN was removed. A join of a new group takes the index that one pass over the list in
insertion order counts up to; leaves delete entries anywhere in the list.

* `join`, `leave`, `rejoinAllInVlan`, `leaveAllInVlan`: the four operations, on a connected
  switch, with the messages they send.
* `distinct_iff_along`: the entries of a VLAN have distinct indexes in every state of a run
  exactly if every join of a new group finds the indexes of its VLAN, from 1 up to the first
  free one, in ascending order in the list.
-/

namespace Basebox

/-- `struct multicast_entry`. -/
structure McEntry where
  /-- Group MAC and VLAN. -/
  key : Mac × Nat
  index : Nat
  l2Interface : Finset Nat
  disabledL2Interface : Finset Nat
  deriving DecidableEq

/-- The VLAN of an entry. -/
def McEntry.vid (e : McEntry) : Nat := e.key.2

/-- `mc_groups`. -/
abbrev McGroups := List McEntry

namespace McGroups

/-- The search of a group and VLAN: `std::find` compares keys. -/
def hasKey (mac : Mac) (vid : Nat) (e : McEntry) : Bool := e.key == (mac, vid)

/-- The indexes in use in a VLAN, in the order of the list. -/
def indexes (s : McGroups) (vid : Nat) : List Nat := (s.filter (·.vid == vid)).map (·.index)

/-- The index of a new group: the pass over the list. -/
def freeIndex (s : McGroups) (vid : Nat) : Nat :=
  s.foldl (fun index i => if i.vid = vid then if index = i.index then index + 1 else index else index) 1

/-- The messages of a join: the group with its interface groups, and the flow if it is new. -/
def joinMsgs (fm : FmDriver) (mac : Mac) (vid : Nat) (e : McEntry) : List Msg :=
  Msg.group (1 < e.l2Interface.card) (fm.groupIdL2Multicast e.index vid) (.buckets e.l2Interface) ::
    if e.l2Interface.card = 1 then
      [.flowAdd (.multicastVlan vid mac) (fm.groupIdL2Multicast e.index vid)]
    else []

/-- `l2_multicast_group_join`. -/
def join (fm : FmDriver) (s : McGroups) (port vid : Nat) (mac : Mac) : McGroups × List Msg :=
  let groupId := fm.interfaceGroup port vid
  match s.find? (hasKey mac vid) with
  | some e =>
    let e' := { e with
      l2Interface := insert groupId e.l2Interface
      disabledL2Interface := e.disabledL2Interface.erase groupId }
    (modifyFirst (hasKey mac vid) (fun _ => e') s, joinMsgs fm mac vid e')
  | none =>
    let e' : McEntry := ⟨(mac, vid), freeIndex s vid, {groupId}, ∅⟩
    (s ++ [e'], joinMsgs fm mac vid e')

/-- `l2_multicast_group_leave`: the new list, the messages and the return value. -/
def leave (fm : FmDriver) (s : McGroups) (port vid : Nat) (mac : Mac) (disableOnly : Bool) :
    McGroups × List Msg × Int :=
  let groupId := fm.interfaceGroup port vid
  match s.find? (hasKey mac vid) with
  | none => (s, [], -EINVAL)
  | some e =>
    if groupId ∉ e.l2Interface then
      -- Either already disabled or never joined.
      if disableOnly then (s, [], -EINVAL)
      else if groupId ∉ e.disabledL2Interface then (s, [], -EINVAL)
      else
        let e' := { e with disabledL2Interface := e.disabledL2Interface.erase groupId }
        if e'.l2Interface = ∅ ∧ e'.disabledL2Interface = ∅ then
          (s.eraseP (hasKey mac vid), [], 0)
        else (modifyFirst (hasKey mac vid) (fun _ => e') s, [], 0)
    else
      let e' := { e with
        l2Interface := e.l2Interface.erase groupId
        disabledL2Interface :=
          if disableOnly then insert groupId e.disabledL2Interface else e.disabledL2Interface }
      let id := fm.groupIdL2Multicast e.index vid
      if e'.l2Interface ≠ ∅ then
        (modifyFirst (hasKey mac vid) (fun _ => e') s,
          [.groupModify id (.buckets e'.l2Interface), .barrier], 0)
      else
        let msgs := [.flowDelete (.multicastVlan vid mac), .barrier, .groupDelete id]
        -- The entry stays while ports are disabled in it.
        if e'.disabledL2Interface = ∅ then (s.eraseP (hasKey mac vid), msgs, 0)
        else (modifyFirst (hasKey mac vid) (fun _ => e') s, msgs, 0)

/-- The loop of `rejoin_all_in_vlan` from position `i` on, `n` more elements. -/
def rejoinLoop (fm : FmDriver) (port vid : Nat) : Nat → Nat → McGroups → McGroups × List Msg
  | 0, _, s => (s, [])
  | n + 1, i, s =>
    match s[i]? with
    | none => (s, [])
    | some e =>
      if e.vid = vid ∧ fm.interfaceGroup port vid ∈ e.disabledL2Interface then
        let r := join fm s port vid e.key.1
        let r' := rejoinLoop fm port vid n (i + 1) r.1
        (r'.1, r.2 ++ r'.2)
      else rejoinLoop fm port vid n (i + 1) s

/-- `l2_multicast_group_rejoin_all_in_vlan`. -/
def rejoinAllInVlan (fm : FmDriver) (s : McGroups) (port vid : Nat) : McGroups × List Msg :=
  rejoinLoop fm port vid s.length 0 s

/-- The loop of `leave_all_in_vlan` from position `i` on, `n` more elements. -/
def leaveLoop (fm : FmDriver) (port vid : Nat) : Nat → Nat → McGroups → McGroups × List Msg
  | 0, _, s => (s, [])
  | n + 1, i, s =>
    match s[i]? with
    | none => (s, [])
    | some e =>
      if e.vid = vid ∧ fm.interfaceGroup port vid ∈ e.l2Interface then
        let r := leave fm s port vid e.key.1 true
        let r' := leaveLoop fm port vid n (i + 1) r.1
        (r'.1, r.2.1 ++ r'.2)
      else leaveLoop fm port vid n (i + 1) s

/-- `l2_multicast_group_leave_all_in_vlan`. -/
def leaveAllInVlan (fm : FmDriver) (s : McGroups) (port vid : Nat) : McGroups × List Msg :=
  leaveLoop fm port vid s.length 0 s

/-! ## What an operation does to the VLANs and indexes -/

/-- VLAN and index of each entry. -/
def slots (s : McGroups) : List (Nat × Nat) := s.map fun e => (e.vid, e.index)

/-- Any two entries of one VLAN have different indexes. -/
def Distinct (s : McGroups) : Prop := s.Pairwise fun a b => a.vid = b.vid → a.index ≠ b.index

theorem distinct_iff_slots (s : McGroups) :
    Distinct s ↔ (slots s).Pairwise fun a b => a.1 = b.1 → a.2 ≠ b.2 := by
  unfold Distinct slots
  rw [List.pairwise_map]

theorem Distinct.of_slots {s t : McGroups} (h : Distinct s) (hs : (slots t).Sublist (slots s)) :
    Distinct t := by
  rw [distinct_iff_slots] at h ⊢
  exact h.sublist hs

theorem mem_indexes {s : McGroups} {vid i : Nat} :
    i ∈ indexes s vid ↔ ∃ e ∈ s, e.vid = vid ∧ e.index = i := by
  simp [indexes, and_assoc]

/-- The pass looks only at the indexes of the VLAN. -/
theorem freeIndex_eq (s : McGroups) (vid : Nat) :
    freeIndex s vid = firstFit (indexes s vid) 1 := by
  unfold freeIndex firstFit indexes
  suffices h : ∀ n, s.foldl (fun index i => if i.vid = vid then
      if index = i.index then index + 1 else index else index) n =
      ((s.filter (·.vid == vid)).map (·.index)).foldl (fun idx i => if idx = i then idx + 1 else idx) n
    from h 1
  induction s with
  | nil => exact fun _ => rfl
  | cons e s ih =>
    intro n
    rw [List.foldl_cons, ih]
    by_cases h : e.vid = vid <;> simp [h]

theorem distinct_append {s : McGroups} {e : McEntry} (h : Distinct s) :
    Distinct (s ++ [e]) ↔ e.index ∉ indexes s e.vid := by
  unfold Distinct at *
  rw [List.pairwise_append]
  constructor
  · rintro ⟨-, -, hne⟩ hmem
    obtain ⟨a, ha, hv, hi⟩ := mem_indexes.mp hmem
    exact hne a ha e List.mem_cons_self hv hi
  · refine fun hfree => ⟨h, List.pairwise_singleton _ _, fun a ha b hb hv hi => hfree ?_⟩
    rw [List.mem_singleton] at hb
    subst hb
    exact mem_indexes.mpr ⟨a, ha, hv, hi⟩

section Frames

variable {fm : FmDriver} {s : McGroups} {port vid : Nat} {mac : Mac}

/-- A join of a known group changes no VLAN and no index. -/
theorem slots_join_of_some {e : McEntry} (hf : s.find? (hasKey mac vid) = some e) :
    slots (join fm s port vid mac).1 = slots s := by
  unfold join
  simp only [hf]
  exact map_modifyFirst_of_find? hf rfl

/-- A join of a new group appends an entry with the index of the pass. -/
theorem join_of_none (hf : s.find? (hasKey mac vid) = none) :
    (join fm s port vid mac).1 =
      s ++ [⟨(mac, vid), freeIndex s vid, {fm.interfaceGroup port vid}, ∅⟩] := by
  unfold join
  simp only [hf]

/-- A leave at most drops an entry, and changes only the ports of the others. -/
theorem map_leave_sublist {β : Type} {f : McEntry → β}
    (hfe : ∀ e l d, f { e with l2Interface := l, disabledL2Interface := d } = f e)
    (disableOnly : Bool) :
    ((leave fm s port vid mac disableOnly).1.map f).Sublist (s.map f) := by
  unfold leave
  cases hf : s.find? (hasKey mac vid) with
  | none => exact List.Sublist.refl _
  | some e =>
    have hmod : ∀ l d, ((modifyFirst (hasKey mac vid)
        (fun _ => { e with l2Interface := l, disabledL2Interface := d }) s).map f).Sublist
        (s.map f) := fun l d => by rw [map_modifyFirst_of_find? hf (hfe e l d)]
    have herase : ((s.eraseP (hasKey mac vid)).map f).Sublist (s.map f) :=
      List.eraseP_sublist.map f
    dsimp only
    split
    · split
      · exact List.Sublist.refl _
      · split
        · exact List.Sublist.refl _
        · split
          · exact herase
          · exact hmod _ _
    · generalize (if disableOnly then insert (fm.interfaceGroup port vid) e.disabledL2Interface
        else e.disabledL2Interface) = disabled
      split
      · exact hmod _ _
      · split
        · exact herase
        · exact hmod _ _

theorem slots_leave (disableOnly : Bool) :
    (slots (leave fm s port vid mac disableOnly).1).Sublist (slots s) :=
  map_leave_sublist (fun _ _ _ => rfl) disableOnly

theorem find?_hasKey_of_mem {e : McEntry} (he : e ∈ s) (hv : e.vid = vid) :
    ∃ e', s.find? (hasKey e.key.1 vid) = some e' := by
  rw [← Option.isSome_iff_exists, List.find?_isSome]
  exact ⟨e, he, by simp [hasKey, ← hv, McEntry.vid]⟩

theorem slots_rejoinLoop (n i : Nat) : slots (rejoinLoop fm port vid n i s).1 = slots s := by
  induction n generalizing i s with
  | zero => rfl
  | succ n ih =>
    unfold rejoinLoop
    split
    · rfl
    · rename_i e he
      split
      · rename_i hc
        -- The joined group is the one the loop stands on, so it is known.
        obtain ⟨e', hf⟩ := find?_hasKey_of_mem (List.mem_of_getElem? he) hc.1
        exact (ih _).trans (slots_join_of_some hf)
      · exact ih _

theorem slots_leaveLoop (n i : Nat) :
    (slots (leaveLoop fm port vid n i s).1).Sublist (slots s) := by
  induction n generalizing i s with
  | zero => exact List.Sublist.refl _
  | succ n ih =>
    unfold leaveLoop
    split
    · exact List.Sublist.refl _
    · split
      · exact (ih _).trans (slots_leave true)
      · exact ih _

end Frames

/-! ## Runs -/

/-- The calls of the four operations. -/
inductive Ev where
  | join (port vid : Nat) (mac : Mac)
  | leave (port vid : Nat) (mac : Mac) (disableOnly : Bool)
  | rejoinAllInVlan (port vid : Nat)
  | leaveAllInVlan (port vid : Nat)
  deriving DecidableEq

/-- The groups after a call. -/
def step (fm : FmDriver) (s : McGroups) : Ev → McGroups
  | .join port vid mac => (join fm s port vid mac).1
  | .leave port vid mac disableOnly => (leave fm s port vid mac disableOnly).1
  | .rejoinAllInVlan port vid => (rejoinAllInVlan fm s port vid).1
  | .leaveAllInVlan port vid => (leaveAllInVlan fm s port vid).1

/-- A join of a group that is not in the list finds the indexes of its VLAN, from 1 up to the
first one not in use, in ascending order. -/
def InOrder (s : McGroups) : Ev → Prop
  | .join _ vid mac => s.find? (hasKey mac vid) = none → Ascending (indexes s vid) 1
  | _ => True

/-- One call keeps the indexes of each VLAN distinct exactly if it meets `InOrder`. -/
theorem distinct_step_iff (fm : FmDriver) {s : McGroups} (e : Ev) (h : Distinct s) :
    Distinct (step fm s e) ↔ InOrder s e := by
  cases e with
  | join port vid mac =>
    cases hf : s.find? (hasKey mac vid) with
    | some a =>
      refine iff_of_true (h.of_slots ?_) (by simp [InOrder, hf])
      exact (slots_join_of_some hf).symm ▸ List.Sublist.refl _
    | none =>
      rw [step, join_of_none hf, distinct_append h]
      simp only [InOrder, hf, forall_const, ← firstFit_notMem_iff, freeIndex_eq]
      rfl
  | leave port vid mac d => exact iff_of_true (h.of_slots (slots_leave d)) trivial
  | rejoinAllInVlan port vid =>
    exact iff_of_true (h.of_slots ((slots_rejoinLoop _ _).symm ▸ List.Sublist.refl _)) trivial
  | leaveAllInVlan port vid => exact iff_of_true (h.of_slots (slots_leaveLoop _ _)) trivial

/-- In a run from the empty list, any two entries of one VLAN have distinct indexes in every
state reached exactly if every join of a new group meets `InOrder`. -/
theorem distinct_iff_along (fm : FmDriver) (es : List Ev) :
    (∀ n, Distinct (run (step fm) [] (es.take n))) ↔ Along (step fm) InOrder [] es :=
  along_iff_of_step_iff List.Pairwise.nil (fun _ e h => distinct_step_iff fm e h) es

/-- Four groups join VLAN 1 and the first leaves in between: the survivors have the indexes 2
and 1 in this order. -/
def reuseRun : List Ev :=
  [.join 1 1 0x01005e000001, .join 1 1 0x01005e000002, .leave 1 1 0x01005e000001 false,
    .join 1 1 0x01005e000003, .join 1 1 0x01005e000004]

/-- The fourth group then gets index 2, which the second one has. -/
theorem reuseRun_not_distinct :
    indexes (run (step ofdpaDriver) [] reuseRun) 1 = [2, 1, 2] ∧
    ¬ Distinct (run (step ofdpaDriver) [] reuseRun) := by
  have h : slots (run (step ofdpaDriver) [] reuseRun) = [(1, 2), (1, 1), (1, 2)] := by decide
  refine ⟨by decide, ?_⟩
  rw [distinct_iff_slots, h]
  decide

end McGroups

end Basebox
