import Basebox.Netlink.TermMacs

/-!
# Termination MACs when the switch refuses a call (`src/netlink/nl_l3.cc`)

`termination_mac_entries` is changed before the switch is called when an entry is added, and after
it whatever the result when one is removed. `update_l3_termination` moves the entries of a port and
VLAN to another MAC, one family after the other.

* `addL3Termination`, `delL3Termination`, `updateL3Termination`: the functions, with the results of
  the calls of the switch (`ok`). `addL3Termination_ok`, `delL3Termination_ok`: if all succeed they
  are the functions of `TermMacs`.
* `Coherent`: the entries are those on the switch.
* `coherent_iff_along`: they are in every state of a run exactly if no call of the switch fails, one
  excepted: an entry that is moved to the MAC it has may stay on the switch.
-/

namespace Basebox

/-- `termination_mac_entries`, and the termination MAC flows of the switch. -/
structure TermFlows where
  terminationMacEntries : Finset TermKey := ∅
  onSwitch : Finset TermKey := ∅
  deriving DecidableEq

/-- The call of the switch that adds an entry. -/
def TermKey.addCall (key : TermKey) : RouterCall :=
  match key.af with
  | .inet => .l3TerminationAdd key.portId key.vid key.mac
  | .inet6 => .l3TerminationAddV6 key.portId key.vid key.mac

/-- The call that removes it. -/
def TermKey.removeCall (key : TermKey) : RouterCall :=
  match key.af with
  | .inet => .l3TerminationRemove key.portId key.vid key.mac
  | .inet6 => .l3TerminationRemoveV6 key.portId key.vid key.mac

namespace TermFlows

section Functions

variable (ok : RouterCall → Bool) (s : TermFlows)

/-- A call that fails changes nothing on the switch. -/
def call (c : RouterCall) : Int × TermFlows :=
  if ok c then (0, { s with onSwitch := termMacsAfter s.onSwitch c }) else (-EINVAL, s)

/-- `add_l3_termination`. -/
def addL3Termination (portId vid : Nat) (mac : Mac) (af : Af) : Int × TermFlows :=
  let needle : TermKey := { portId := portId, vid := vid, mac := mac, af := af }
  if needle ∈ s.terminationMacEntries then (0, s)
  else
    let s := { s with terminationMacEntries := insert needle s.terminationMacEntries }
    match af with
    | .inet => s.call ok (.l3TerminationAdd portId vid mac)
    | .inet6 => s.call ok (.l3TerminationAddV6 portId vid mac)

/-- `del_l3_termination`. -/
def delL3Termination (portId vid : Nat) (mac : Mac) (af : Af) : Int × TermFlows :=
  let needle : TermKey := { portId := portId, vid := vid, mac := mac, af := af }
  if needle ∉ s.terminationMacEntries then (-ENODATA, s)
  else
    let (rv, s) :=
      match af with
      | .inet => s.call ok (.l3TerminationRemove portId vid mac)
      | .inet6 => s.call ok (.l3TerminationRemoveV6 portId vid mac)
    (rv, { s with terminationMacEntries := s.terminationMacEntries.erase needle })

/-- What `update_l3_termination` does for a family that has the old MAC. The result of the removal
is only logged. -/
def moveL3Termination (portId vid : Nat) (oMac nMac : Mac) (af : Af) : Int × TermFlows :=
  (delL3Termination ok s portId vid oMac af).2.addL3Termination ok portId vid nMac af

/-- `update_l3_termination`. -/
def updateL3Termination (portId vid : Nat) (oMac nMac : Mac) : Int × TermFlows :=
  let (rv, s) :=
    if ⟨portId, vid, oMac, .inet⟩ ∈ s.terminationMacEntries then
      s.moveL3Termination ok portId vid oMac nMac .inet
    else (0, s)
  if rv < 0 then (rv, s)
  else if ⟨portId, vid, oMac, .inet6⟩ ∈ s.terminationMacEntries then
    s.moveL3Termination ok portId vid oMac nMac .inet6
  else (rv, s)

end Functions

/-! ## Without failing calls -/

/-- What is left of the record of all calls. -/
def ofTermMacs (s : TermMacs) : TermFlows where
  terminationMacEntries := s.terminationMacEntries
  onSwitch := s.onSwitch

section Ok

variable {s : TermMacs} {ok : RouterCall → Bool} (hok : ∀ c, ok c = true)
include hok

theorem call_ok (c : RouterCall) : (ofTermMacs s).call ok c = (0, ofTermMacs (s.call c)) := by
  rw [call, if_pos (hok c), ofTermMacs, ofTermMacs, TermMacs.onSwitch_call]
  rfl

theorem addL3Termination_ok (portId vid : Nat) (mac : Mac) (af : Af) :
    (ofTermMacs s).addL3Termination ok portId vid mac af =
      ((s.addL3Termination portId vid mac af).1,
        ofTermMacs (s.addL3Termination portId vid mac af).2) := by
  unfold addL3Termination TermMacs.addL3Termination
  by_cases hmem : (⟨portId, vid, mac, af⟩ : TermKey) ∈ s.terminationMacEntries
  · have hmem' : ⟨portId, vid, mac, af⟩ ∈ (ofTermMacs s).terminationMacEntries := hmem
    simp only [if_pos hmem, if_pos hmem']
  · have hmem' : ⟨portId, vid, mac, af⟩ ∉ (ofTermMacs s).terminationMacEntries := hmem
    simp only [if_neg hmem, if_neg hmem']
    have hcall := call_ok (s := { s with
      terminationMacEntries := insert ⟨portId, vid, mac, af⟩ s.terminationMacEntries }) hok
    cases af with
    | inet => exact hcall (.l3TerminationAdd portId vid mac)
    | inet6 => exact hcall (.l3TerminationAddV6 portId vid mac)

theorem delL3Termination_ok (portId vid : Nat) (mac : Mac) (af : Af) :
    (ofTermMacs s).delL3Termination ok portId vid mac af =
      ((s.delL3Termination portId vid mac af).1,
        ofTermMacs (s.delL3Termination portId vid mac af).2) := by
  unfold delL3Termination TermMacs.delL3Termination
  by_cases hmem : (⟨portId, vid, mac, af⟩ : TermKey) ∈ s.terminationMacEntries
  · have hmem' : ⟨portId, vid, mac, af⟩ ∈ (ofTermMacs s).terminationMacEntries := hmem
    simp only [if_neg (not_not.mpr hmem), if_neg (not_not.mpr hmem')]
    cases af with
    | inet =>
      simp only [call_ok hok]
      rfl
    | inet6 =>
      simp only [call_ok hok]
      rfl
  · have hmem' : ⟨portId, vid, mac, af⟩ ∉ (ofTermMacs s).terminationMacEntries := hmem
    simp only [if_pos hmem, if_pos hmem']

end Ok

/-! ## Events -/

/-- A call of one of the functions. -/
inductive Call where
  | add (key : TermKey)
  | del (key : TermKey)
  | update (portId vid : Nat) (oMac nMac : Mac)

/-- A call, and which calls of the switch succeed then. -/
structure Ev where
  call : Call
  ok : RouterCall → Bool := fun _ => true

/-- The entries after a call. -/
def step (s : TermFlows) (e : Ev) : TermFlows :=
  match e.call with
  | .add key => (s.addL3Termination e.ok key.portId key.vid key.mac key.af).2
  | .del key => (s.delL3Termination e.ok key.portId key.vid key.mac key.af).2
  | .update portId vid oMac nMac => (s.updateL3Termination e.ok portId vid oMac nMac).2

/-- An entry is there exactly if its flow is on the switch. -/
def Coherent (s : TermFlows) : Prop := ∀ key, key ∈ s.terminationMacEntries ↔ key ∈ s.onSwitch

/-- An entry can be moved: nothing fails that is called, unless the MAC is the same and the removal
fails too. -/
def CanMove (ok : RouterCall → Bool) (s : TermFlows) (old new : TermKey) : Prop :=
  if new = old then ok old.removeCall = true → ok new.addCall = true
  else ok old.removeCall = true ∧ (new ∈ s.terminationMacEntries ∨ ok new.addCall = true)

/-- Adding an entry fails. -/
def AddFails (ok : RouterCall → Bool) (s : TermFlows) (new : TermKey) : Prop :=
  new ∉ s.terminationMacEntries ∧ ok new.addCall = false

/-- The calls that keep entries and flows the same. `update_l3_termination` returns when the entry
of the first family cannot be added. -/
def Keeps (s : TermFlows) (e : Ev) : Prop :=
  match e.call with
  | .add key => ¬ AddFails e.ok s key
  | .del key => key ∈ s.terminationMacEntries → e.ok key.removeCall = true
  | .update portId vid oMac nMac =>
    let old (af : Af) : TermKey := ⟨portId, vid, oMac, af⟩
    let new (af : Af) : TermKey := ⟨portId, vid, nMac, af⟩
    (old .inet ∈ s.terminationMacEntries → CanMove e.ok s (old .inet) (new .inet)) ∧
      (¬ (old .inet ∈ s.terminationMacEntries ∧
          AddFails e.ok { s with terminationMacEntries := s.terminationMacEntries.erase (old .inet) }
            (new .inet)) →
        old .inet6 ∈ s.terminationMacEntries → CanMove e.ok s (old .inet6) (new .inet6))

/-! ## What the functions do -/

section Spec

variable {ok : RouterCall → Bool} {s : TermFlows} {key k old new : TermKey}

theorem termMacsAfter_addCall (t : Finset TermKey) (key : TermKey) :
    termMacsAfter t key.addCall = insert key t := by
  obtain ⟨portId, vid, mac, af⟩ := key
  cases af <;> rfl

theorem termMacsAfter_removeCall (t : Finset TermKey) (key : TermKey) :
    termMacsAfter t key.removeCall = t.erase key := by
  obtain ⟨portId, vid, mac, af⟩ := key
  cases af <;> rfl

variable (ok s key) in
theorem addL3Termination_eq :
    s.addL3Termination ok key.portId key.vid key.mac key.af =
      if key ∈ s.terminationMacEntries then (0, s)
      else { s with terminationMacEntries := insert key s.terminationMacEntries }.call ok
        key.addCall := by
  obtain ⟨portId, vid, mac, af⟩ := key
  cases af <;> rfl

variable (ok s key) in
theorem delL3Termination_eq :
    s.delL3Termination ok key.portId key.vid key.mac key.af =
      if key ∉ s.terminationMacEntries then (-ENODATA, s)
      else ((s.call ok key.removeCall).1, { (s.call ok key.removeCall).2 with
        terminationMacEntries := (s.call ok key.removeCall).2.terminationMacEntries.erase key }) := by
  obtain ⟨portId, vid, mac, af⟩ := key
  cases af <;> rfl

theorem mem_entries_add :
    k ∈ (s.addL3Termination ok key.portId key.vid key.mac key.af).2.terminationMacEntries ↔
      k = key ∨ k ∈ s.terminationMacEntries := by
  rw [addL3Termination_eq]
  split
  · exact (or_iff_right_of_imp fun he => he ▸ ‹_›).symm
  · unfold call
    split <;> exact Finset.mem_insert

theorem mem_onSwitch_add :
    k ∈ (s.addL3Termination ok key.portId key.vid key.mac key.af).2.onSwitch ↔
      k ∈ s.onSwitch ∨ k = key ∧ key ∉ s.terminationMacEntries ∧ ok key.addCall = true := by
  rw [addL3Termination_eq]
  split
  · simp [*]
  · unfold call
    split
    · simp [termMacsAfter_addCall, *, or_comm]
    · simp [*]

theorem addL3Termination_neg :
    (s.addL3Termination ok key.portId key.vid key.mac key.af).1 < 0 ↔ AddFails ok s key := by
  rw [addL3Termination_eq, AddFails]
  split
  · simp [*]
  · unfold call
    split <;> simp [*, EINVAL]

theorem mem_entries_del :
    k ∈ (s.delL3Termination ok key.portId key.vid key.mac key.af).2.terminationMacEntries ↔
      k ≠ key ∧ k ∈ s.terminationMacEntries := by
  rw [delL3Termination_eq]
  split
  · exact (and_iff_right_of_imp fun hk he => absurd (he ▸ hk) ‹_›).symm
  · unfold call
    split <;> exact Finset.mem_erase

theorem mem_onSwitch_del :
    k ∈ (s.delL3Termination ok key.portId key.vid key.mac key.af).2.onSwitch ↔
      k ∈ s.onSwitch ∧ ¬ (k = key ∧ key ∈ s.terminationMacEntries ∧ ok key.removeCall = true) := by
  rw [delL3Termination_eq]
  split
  · simp [*]
  · unfold call
    split
    · simp_all [termMacsAfter_removeCall, and_comm]
    · simp [*]

theorem coherent_add_iff (h : Coherent s) :
    Coherent (s.addL3Termination ok key.portId key.vid key.mac key.af).2 ↔ ¬ AddFails ok s key := by
  simp only [Coherent, mem_entries_add, mem_onSwitch_add, AddFails, h _]
  constructor
  · rintro hco ⟨hnot, hfail⟩
    have hkey := (hco key).mp (.inl rfl)
    simp [hnot, hfail] at hkey
  · intro hadds k
    by_cases hk : k = key
    · subst hk
      grind
    · simp [hk]

theorem coherent_del_iff (h : Coherent s) :
    Coherent (s.delL3Termination ok key.portId key.vid key.mac key.af).2 ↔
      (key ∈ s.terminationMacEntries → ok key.removeCall = true) := by
  simp only [Coherent, mem_entries_del, mem_onSwitch_del, h _]
  constructor
  · intro hco hmem
    by_contra hfail
    have hkey := (hco key).mpr ⟨hmem, fun hc => hfail hc.2.2⟩
    exact hkey.1 rfl
  · intro hremoves k
    by_cases hk : k = key
    · subst hk
      grind
    · simp [hk]

section Move

variable {portId vid : Nat} {oMac nMac : Mac} {af : Af} (hold : old = ⟨portId, vid, oMac, af⟩)
  (hnew : new = ⟨portId, vid, nMac, af⟩)
include hold hnew

variable (ok s) in
theorem moveL3Termination_eq :
    s.moveL3Termination ok portId vid oMac nMac af =
      (s.delL3Termination ok old.portId old.vid old.mac old.af).2.addL3Termination ok new.portId
        new.vid new.mac new.af := by
  subst hold hnew
  rfl

theorem mem_entries_move :
    k ∈ (s.moveL3Termination ok portId vid oMac nMac af).2.terminationMacEntries ↔
      k = new ∨ k ≠ old ∧ k ∈ s.terminationMacEntries := by
  rw [moveL3Termination_eq ok s hold hnew, mem_entries_add, mem_entries_del]

theorem mem_onSwitch_move :
    k ∈ (s.moveL3Termination ok portId vid oMac nMac af).2.onSwitch ↔
      (k ∈ s.onSwitch ∧ ¬ (k = old ∧ old ∈ s.terminationMacEntries ∧ ok old.removeCall = true)) ∨
        k = new ∧ ¬ (new ≠ old ∧ new ∈ s.terminationMacEntries) ∧ ok new.addCall = true := by
  rw [moveL3Termination_eq ok s hold hnew, mem_onSwitch_add, mem_onSwitch_del, mem_entries_del]

theorem moveL3Termination_neg :
    (s.moveL3Termination ok portId vid oMac nMac af).1 < 0 ↔
      AddFails ok { s with terminationMacEntries := s.terminationMacEntries.erase old } new := by
  rw [moveL3Termination_eq ok s hold hnew, addL3Termination_neg, AddFails, AddFails, mem_entries_del,
    Finset.mem_erase]

variable (ok) in
/-- The entries of a family that is moved. -/
theorem coherentOn_move_iff (h : ∀ k, k.af = af → (k ∈ s.terminationMacEntries ↔ k ∈ s.onSwitch))
    (hmem : old ∈ s.terminationMacEntries) :
    (∀ k, k.af = af → (k ∈ (s.moveL3Termination ok portId vid oMac nMac af).2.terminationMacEntries ↔
      k ∈ (s.moveL3Termination ok portId vid oMac nMac af).2.onSwitch)) ↔ CanMove ok s old new := by
  simp only [mem_entries_move hold hnew, mem_onSwitch_move hold hnew, CanMove, hmem, true_and]
  have hoaf : old.af = af := by rw [hold]
  have hnaf : new.af = af := by rw [hnew]
  constructor
  · intro hco
    have ho := hco old hoaf
    have hn := hco new hnaf
    have ho' := h old hoaf
    have hn' := h new hnaf
    grind
  · intro hcan k hk
    have hk' := h k hk
    have hn' := h new hnaf
    grind

variable (ok s) in
/-- Those of the other family stay. -/
theorem move_of_af_ne (hk : k.af ≠ af) :
    (k ∈ (s.moveL3Termination ok portId vid oMac nMac af).2.terminationMacEntries ↔
      k ∈ s.terminationMacEntries) ∧
    (k ∈ (s.moveL3Termination ok portId vid oMac nMac af).2.onSwitch ↔ k ∈ s.onSwitch) := by
  have hko : k ≠ old := by
    rintro rfl
    exact hk (by rw [hold])
  have hkn : k ≠ new := by
    rintro rfl
    exact hk (by rw [hnew])
  rw [mem_entries_move hold hnew, mem_onSwitch_move hold hnew]
  simp [hko, hkn]

end Move

theorem coherent_iff : Coherent s ↔
    (∀ k, k.af = .inet → (k ∈ s.terminationMacEntries ↔ k ∈ s.onSwitch)) ∧
      ∀ k, k.af = .inet6 → (k ∈ s.terminationMacEntries ↔ k ∈ s.onSwitch) := by
  refine ⟨fun h => ⟨fun k _ => h k, fun k _ => h k⟩, fun h k => ?_⟩
  cases haf : k.af with
  | inet => exact h.1 k haf
  | inet6 => exact h.2 k haf

section Update

variable {portId vid : Nat} {oMac nMac : Mac} (hold : old = ⟨portId, vid, oMac, .inet6⟩)
  (hnew : new = ⟨portId, vid, nMac, .inet6⟩)
include hold hnew

/-- The second family. -/
theorem coherent_second_iff (rv : Int)
    (h : ∀ k, k.af = .inet6 → (k ∈ s.terminationMacEntries ↔ k ∈ s.onSwitch)) :
    Coherent (if old ∈ s.terminationMacEntries then
        s.moveL3Termination ok portId vid oMac nMac .inet6 else (rv, s)).2 ↔
      (∀ k, k.af = .inet → (k ∈ s.terminationMacEntries ↔ k ∈ s.onSwitch)) ∧
        (old ∈ s.terminationMacEntries → CanMove ok s old new) := by
  split
  · rename_i hmem
    have hother : ∀ k : TermKey, k.af = .inet → k.af ≠ .inet6 := fun k hk => by
      rw [hk]
      exact fun he => nomatch he
    rw [coherent_iff, coherentOn_move_iff ok hold hnew h hmem]
    refine and_congr (forall₂_congr fun k hk => ?_) (by simp [hmem])
    rw [(move_of_af_ne ok s hold hnew (hother k hk)).1, (move_of_af_ne ok s hold hnew (hother k hk)).2]
  · rename_i hnot
    rw [coherent_iff]
    simp only [hnot, false_imp_iff, and_true]
    exact and_iff_left h

end Update

theorem coherent_update_iff (h : Coherent s) (portId vid : Nat) (oMac nMac : Mac) :
    Coherent (s.updateL3Termination ok portId vid oMac nMac).2 ↔
      Keeps s { call := .update portId vid oMac nMac, ok := ok } := by
  simp only [Keeps]
  generalize hold : (⟨portId, vid, oMac, .inet⟩ : TermKey) = old
  generalize hnew : (⟨portId, vid, nMac, .inet⟩ : TermKey) = new
  unfold updateL3Termination
  rw [hold]
  by_cases hmem : old ∈ s.terminationMacEntries
  · simp only [hmem, if_true, true_and, true_imp_iff, ← moveL3Termination_neg hold.symm hnew.symm]
    have hcan := coherentOn_move_iff ok hold.symm hnew.symm (fun k _ => h k) hmem
    have hother : ∀ k : TermKey, k.af = .inet6 → k.af ≠ .inet := fun k hk => by
      rw [hk]
      exact fun he => nomatch he
    have hsame := fun k hk => move_of_af_ne ok s hold.symm hnew.symm (hother k hk)
    have hsecond : ∀ k, k.af = .inet6 →
        (k ∈ (s.moveL3Termination ok portId vid oMac nMac .inet).2.terminationMacEntries ↔
          k ∈ (s.moveL3Termination ok portId vid oMac nMac .inet).2.onSwitch) := by
      intro k hk
      rw [(hsame k hk).1, (hsame k hk).2]
      exact h k
    split
    · -- The second family is not looked at.
      rename_i hneg
      rw [coherent_iff, hcan]
      simp only [hneg, not_true, false_imp_iff, and_true]
      exact and_iff_left hsecond
    · rename_i hpos
      rw [coherent_second_iff rfl rfl _ hsecond, hcan]
      simp only [hpos, not_false_iff, true_imp_iff]
      refine and_congr_right fun _ => ?_
      rw [(hsame ⟨portId, vid, oMac, .inet6⟩ rfl).1]
      refine imp_congr_right fun _ => ?_
      simp only [CanMove, (hsame ⟨portId, vid, nMac, .inet6⟩ rfl).1]
  · simp only [hmem, if_false, false_and, not_false_iff, true_imp_iff, false_imp_iff, true_and,
      Int.lt_irrefl]
    rw [coherent_second_iff rfl rfl _ fun k _ => h k]
    exact and_iff_right fun k _ => h k

theorem coherent_step_iff (h : Coherent s) (e : Ev) : Coherent (step s e) ↔ Keeps s e := by
  obtain ⟨call, ok⟩ := e
  cases call with
  | add key => exact coherent_add_iff h
  | del key => exact coherent_del_iff h
  | update portId vid oMac nMac => exact coherent_update_iff h portId vid oMac nMac

end Spec

/-- **Termination MACs and the switch.** In every state of a run the entries are those on the switch,
exactly if every call of the run keeps it so. -/
theorem coherent_iff_along (es : List Ev) :
    (∀ n, Coherent (run step {} (es.take n))) ↔ Along step Keeps {} es :=
  along_iff_of_step_iff (P := Coherent) (fun _ => Iff.rfl) (fun _ e h => coherent_step_iff h e) es

/-- The termination MAC of a port. -/
def portKey : TermKey := { portId := 1, vid := 1, mac := 5, af := .inet }

/-- No call of the switch succeeds. -/
def refused (_ : RouterCall) : Bool := false

/-- The switch refuses an entry: it is recorded and not programmed, and the next time it is added
that is taken for done, without a call. -/
theorem refused_not_coherent :
    ¬ Coherent (run step {} [{ call := .add portKey, ok := refused }]) ∧
      addL3Termination (fun _ => true) (run step {} [{ call := .add portKey, ok := refused }]) 1 1 5
        .inet = (0, run step {} [{ call := .add portKey, ok := refused }]) := by
  refine ⟨fun h => ?_, by decide⟩
  have hkey := h portKey
  revert hkey
  decide

end TermFlows

end Basebox
