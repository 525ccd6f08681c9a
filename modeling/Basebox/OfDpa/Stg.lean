import Basebox.Lib.Loop
import Basebox.Lib.Run
import Basebox.Lib.Table
import Basebox.Netlink.StpStates
import Mathlib.Data.Finset.Card
import Mathlib.Order.Interval.Finset.Nat

/-!
# Spanning tree groups of the controller (`src/of-dpa/controller.cc`)

A VLAN with STP states of its own has a spanning tree group (STG); the others share STG 1. The
ids 2 to 511 are handed out by a search that goes round from `current_stg`.

* `ofdpaStgCreate`, `ofdpaStgDestroy`, `ofdpaStgStatePortSet`: the operations, with the results of
  their OF-DPA calls as arguments.
* `WF`: the ids in use are those of the VLANs, one each. The operations keep it, and under it the
  search of `find_free_stgid` comes to an end (`findFreeStgid_ne_none`).
* `search_run`: so it does in every state of a run, and gives an id that no VLAN uses.
-/

namespace Basebox

/-- The spanning tree groups of the controller. -/
structure Stgs where
  vlanToStg : Table Nat Nat := ∅
  currentStg : Nat := 2
  /-- The bits that are set in `stg_in_use`. -/
  stgInUse : Finset Nat := ∅

namespace Stgs

/-- `lookup_stpid`: `0` for a VLAN without a group. -/
def lookupStpid (s : Stgs) (vlanId : Nat) : Nat := (s.vlanToStg.lookup vlanId).getD 0

/-- The id that comes after `i` in the search. -/
def nextStg (i : Nat) : Nat := if i + 1 = 512 then 2 else i + 1

/-- The loop of `find_free_stgid`. After 510 tests every id was looked at; `none` is a loop that
goes round for ever. -/
def searchStg (s : Stgs) : Option Nat :=
  whileLoop (fun i => decide (i ∈ s.stgInUse)) nextStg 510 s.currentStg

/-- `find_free_stgid`: an id, which also is the new `current_stg`, or an error. -/
def findFreeStgid (s : Stgs) : Option (Except Int Nat) :=
  if s.vlanToStg.entries.length = 512 - 2 then some (.error (-ENOSPC)) else s.searchStg.map .ok

/-- `ofdpa_stg_create`, with the results of `ofdpaStgCreate` and `ofdpaStgVlanAdd`. `none` if it
does not return. -/
def ofdpaStgCreate (s : Stgs) (vlanId : Nat) (rpcCreate rpcVlanAdd : Int) : Option (Int × Stgs) :=
  if s.lookupStpid vlanId ≠ 0 then some (s.lookupStpid vlanId, s)
  else
    match s.findFreeStgid with
    | none => none
    | some (.error e) => some (e, s)
    | some (.ok stgId) =>
      let s := { s with currentStg := stgId }
      if rpcCreate < 0 then some (rpcCreate, s)
      else if rpcVlanAdd < 0 then some (rpcVlanAdd, s)
      else some (rpcVlanAdd,
        { s with
          vlanToStg := s.vlanToStg.emplace vlanId stgId
          stgInUse := insert s.currentStg s.stgInUse })

/-- `ofdpa_stg_destroy`. -/
def ofdpaStgDestroy (s : Stgs) (vlanId : Nat) (rpcDestroy : Int) : Int × Stgs :=
  let stgId := s.lookupStpid vlanId
  if stgId = 0 then (0, s)
  else if rpcDestroy < 0 then (rpcDestroy, s)
  else (rpcDestroy,
    { s with vlanToStg := s.vlanToStg.erase vlanId, stgInUse := s.stgInUse.erase stgId })

/-- The names that OF-DPA has for the bridge's port states. -/
def bcmState (state : Nat) : Option String :=
  if state = BR_STATE_FORWARDING then some "forward"
  else if state = BR_STATE_BLOCKING then some "block"
  else if state = BR_STATE_DISABLED then some "disable"
  else if state = BR_STATE_LISTENING then some "listen"
  else if state = BR_STATE_LEARNING then some "learn"
  else none

/-- `ofdpa_stg_state_port_set`: the state of a port in a group, as OF-DPA is told to set it. A VLAN
without a group of its own stands for STG 1. -/
def ofdpaStgStatePortSet (s : Stgs) (portId vlanId state : Nat) :
    Except Int ((Nat × Nat) × String) :=
  let stgId := if s.lookupStpid vlanId = 0 then 1 else s.lookupStpid vlanId
  match bcmState state with
  | none => .error (-EINVAL)
  | some bcm => .ok ((portId, stgId), bcm)

theorem bcmState_isSome {state : Nat} : (∃ b, bcmState state = some b) ↔ state ≤ BR_STATE_BLOCKING := by
  unfold bcmState BR_STATE_FORWARDING BR_STATE_BLOCKING BR_STATE_DISABLED BR_STATE_LISTENING
    BR_STATE_LEARNING
  constructor
  · rintro ⟨b, h⟩
    by_contra hgt
    rw [if_neg (by omega), if_neg (by omega), if_neg (by omega), if_neg (by omega),
      if_neg (by omega)] at h
    cases h
  · intro h
    have : state = 0 ∨ state = 1 ∨ state = 2 ∨ state = 3 ∨ state = 4 := by omega
    rcases this with rfl | rfl | rfl | rfl | rfl <;> exact ⟨_, rfl⟩

theorem bcmState_inj {a b : Nat} {t : String} (ha : bcmState a = some t)
    (hb : bcmState b = some t) : a = b := by
  have hall : ∀ a < 5, ∀ b < 5, bcmState a = bcmState b → a = b := by decide
  have ha' : a ≤ 4 := bcmState_isSome.mp ⟨t, ha⟩
  have hb' : b ≤ 4 := bcmState_isSome.mp ⟨t, hb⟩
  exact hall a (by omega) b (by omega) (ha.trans hb.symm)

/-! ## The ids in use -/

/-- The ids that can be handed out. -/
def ids : Finset Nat := Finset.Ico 2 512

/-- The ids in use are those of the VLANs, and no two VLANs have the same. -/
structure WF (s : Stgs) : Prop where
  current : s.currentStg ∈ ids
  range : ∀ i ∈ s.stgInUse, i ∈ ids
  inUse : ∀ i, i ∈ s.stgInUse ↔ ∃ v, s.vlanToStg.lookup v = some i
  inj : ∀ v w i, s.vlanToStg.lookup v = some i → s.vlanToStg.lookup w = some i → v = w

theorem wf_init : WF {} where
  current := by decide
  range _ h := by simp at h
  inUse _ := by simp
  inj _ _ _ h := by cases h

section Search

variable {s : Stgs}

theorem iterate_nextStg {i : Nat} (hi : i ∈ ids) (k : Nat) :
    nextStg^[k] i = (i - 2 + k) % 510 + 2 := by
  have hi' := Finset.mem_Ico.mp hi
  induction k with
  | zero => simp only [Function.iterate_zero, id]; omega
  | succ k ih =>
    rw [Function.iterate_succ_apply', ih, nextStg]
    split <;> omega

theorem WF.lookup_mem (h : WF s) {v i : Nat} (hv : s.vlanToStg.lookup v = some i) : i ∈ ids :=
  h.range i ((h.inUse i).mpr ⟨v, hv⟩)

/-- A VLAN with a group has another id than `0`. -/
theorem WF.lookupStpid_eq_zero (h : WF s) {v : Nat} :
    s.lookupStpid v = 0 ↔ s.vlanToStg.lookup v = none := by
  unfold lookupStpid
  cases hv : s.vlanToStg.lookup v with
  | none => simp
  | some i =>
    have := Finset.mem_Ico.mp (h.lookup_mem hv)
    simp only [Option.getD_some, reduceCtorEq, iff_false]
    omega

/-- The ids of the VLANs, in the order of the map. -/
theorem WF.card_stgInUse (h : WF s) : s.stgInUse.card = s.vlanToStg.entries.length := by
  have himg : s.stgInUse = (s.vlanToStg.entries.map (·.2)).toFinset := by
    ext i
    simp only [h.inUse, List.mem_toFinset, List.mem_map]
    constructor
    · rintro ⟨v, hv⟩
      exact ⟨⟨v, i⟩, AList.mem_lookup_iff.mp hv, rfl⟩
    · rintro ⟨⟨v, j⟩, hv, rfl⟩
      exact ⟨v, AList.mem_lookup_iff.mpr hv⟩
  have hnodup : (s.vlanToStg.entries.map (·.2)).Nodup := by
    refine List.Nodup.map_on ?_ s.vlanToStg.nodupKeys.nodup
    rintro ⟨v, i⟩ hv ⟨w, j⟩ hw rfl
    rw [h.inj v w i (AList.mem_lookup_iff.mpr hv) (AList.mem_lookup_iff.mpr hw)]
  rw [himg, List.toFinset_card_of_nodup hnodup, List.length_map]

/-- While not all ids are in use, the search comes to an end. -/
theorem WF.searchStg_ne_none (h : WF s) (hfull : s.vlanToStg.entries.length ≠ 510) :
    s.searchStg ≠ none := by
  intro hnone
  have hall : ids ⊆ s.stgInUse := by
    intro i hi
    have hi' := Finset.mem_Ico.mp hi
    have hc := Finset.mem_Ico.mp h.current
    -- The id `i` is looked at after that many steps.
    have hk := whileLoop_eq_none.mp hnone ((i - 2 + (510 - (s.currentStg - 2))) % 510)
      (Nat.mod_lt _ (by decide))
    rw [iterate_nextStg h.current] at hk
    rw [show i = (s.currentStg - 2 + (i - 2 + (510 - (s.currentStg - 2))) % 510) % 510 + 2 by omega]
    simpa using hk
  have heq : s.stgInUse = ids := Finset.Subset.antisymm h.range hall
  exact hfull (by rw [← h.card_stgInUse, heq, ids, Nat.card_Ico])

theorem WF.searchStg_eq_some (h : WF s) {i : Nat} (hi : s.searchStg = some i) :
    i ∉ s.stgInUse ∧ i ∈ ids := by
  obtain ⟨hc, k, -, rfl⟩ := whileLoop_eq_some hi
  refine ⟨by simpa using hc, ?_⟩
  rw [iterate_nextStg h.current, ids, Finset.mem_Ico]
  omega

theorem WF.findFreeStgid_ne_none (h : WF s) : s.findFreeStgid ≠ none := by
  unfold findFreeStgid
  split
  · simp
  · simpa using h.searchStg_ne_none (by assumption)

theorem WF.findFreeStgid_eq_some (h : WF s) {r : Except Int Nat} (hf : s.findFreeStgid = some r) :
    r = .error (-ENOSPC) ∨ ∃ i ∈ ids, i ∉ s.stgInUse ∧ r = .ok i := by
  unfold findFreeStgid at hf
  split at hf
  · cases hf
    exact .inl rfl
  · obtain ⟨i, hs, rfl⟩ := Option.map_eq_some_iff.mp hf
    obtain ⟨hi, hid⟩ := h.searchStg_eq_some hs
    exact .inr ⟨i, hid, hi, rfl⟩

/-- A free id is recorded for a VLAN that has none. -/
theorem WF.record (h : WF s) {vid i : Nat} (hl : s.vlanToStg.lookup vid = none) (hid : i ∈ ids)
    (hi : i ∉ s.stgInUse) :
    WF { currentStg := i, stgInUse := insert i s.stgInUse, vlanToStg := s.vlanToStg.insert vid i } where
  current := hid
  range j hj := by
    rcases Finset.mem_insert.mp hj with rfl | hj
    · exact hid
    · exact h.range j hj
  inUse j := by
    simp only [Finset.mem_insert, h.inUse]
    constructor
    · rintro (rfl | ⟨v, hv⟩)
      · exact ⟨vid, by simp⟩
      · exact ⟨v, by grind⟩
    · rintro ⟨v, hv⟩
      grind
  inj v w j hv hw := by
    have hfresh : ∀ v, s.vlanToStg.lookup v ≠ some i :=
      fun v hv => hi ((h.inUse i).mpr ⟨v, hv⟩)
    have := h.inj v w j
    have := hfresh v
    have := hfresh w
    simp only at hv hw
    grind

/-- What a creation can do: nothing but move `current_stg` when it fails, or record a free id. -/
theorem WF.ofdpaStgCreate_cases (h : WF s) (vid : Nat) (rpcCreate rpcVlanAdd : Int) :
    ∃ rv s', s.ofdpaStgCreate vid rpcCreate rpcVlanAdd = some (rv, s') ∧ WF s' ∧
      ((s'.vlanToStg = s.vlanToStg ∧ (rv < 0 ∨ ∃ i, s.vlanToStg.lookup vid = some i)) ∨
       (0 ≤ rv ∧ s.vlanToStg.lookup vid = none ∧
        ∃ i ∈ ids, s'.vlanToStg = s.vlanToStg.insert vid i)) := by
  unfold ofdpaStgCreate
  by_cases hl : s.vlanToStg.lookup vid = none
  · rw [if_neg (by rw [h.lookupStpid_eq_zero.mpr hl]; simp)]
    cases hf : s.findFreeStgid with
    | none => exact absurd hf h.findFreeStgid_ne_none
    | some r =>
      obtain rfl | ⟨i, hid, hi, rfl⟩ := h.findFreeStgid_eq_some hf
      · exact ⟨-ENOSPC, s, rfl, h, .inl ⟨rfl, .inl (by decide)⟩⟩
      · have hmoved : WF { s with currentStg := i } := ⟨hid, h.range, h.inUse, h.inj⟩
        simp only
        by_cases h1 : rpcCreate < 0
        · rw [if_pos h1]
          exact ⟨rpcCreate, _, rfl, hmoved, .inl ⟨rfl, .inl h1⟩⟩
        · rw [if_neg h1]
          by_cases h2 : rpcVlanAdd < 0
          · rw [if_pos h2]
            exact ⟨rpcVlanAdd, _, rfl, hmoved, .inl ⟨rfl, .inl h2⟩⟩
          · have hnew : s.vlanToStg.emplace vid i = s.vlanToStg.insert vid i :=
              if_neg (Table.not_mem_iff_lookup.mpr hl)
            rw [if_neg h2, hnew]
            exact ⟨rpcVlanAdd, _, rfl, h.record hl hid hi, .inr ⟨by omega, hl, i, hid, rfl⟩⟩
  · rw [if_pos (by rw [ne_eq, h.lookupStpid_eq_zero]; exact hl)]
    exact ⟨_, s, rfl, h, .inl ⟨rfl, .inr (Option.ne_none_iff_exists'.mp hl)⟩⟩

/-- What a destruction can do. -/
theorem WF.ofdpaStgDestroy_cases (h : WF s) (vid : Nat) (rpcDestroy : Int) :
    WF (s.ofdpaStgDestroy vid rpcDestroy).2 ∧
      ((s.ofdpaStgDestroy vid rpcDestroy).2.vlanToStg = s.vlanToStg ∨
       (s.ofdpaStgDestroy vid rpcDestroy).2.vlanToStg = s.vlanToStg.erase vid) := by
  unfold ofdpaStgDestroy
  cases hl : s.vlanToStg.lookup vid with
  | none =>
    rw [if_pos (h.lookupStpid_eq_zero.mpr hl)]
    exact ⟨h, .inl rfl⟩
  | some i =>
    have hi : s.lookupStpid vid = i := by simp [lookupStpid, hl]
    rw [if_neg (by rw [h.lookupStpid_eq_zero, hl]; simp), hi]
    by_cases h1 : rpcDestroy < 0
    · rw [if_pos h1]
      exact ⟨h, .inl rfl⟩
    · rw [if_neg h1]
      refine ⟨⟨h.current, fun j hj => h.range j (Finset.mem_of_mem_erase hj), fun j => ?_,
        fun v w j hv hw => h.inj v w j (by grind) (by grind)⟩, .inr rfl⟩
      simp only [Finset.mem_erase, h.inUse]
      constructor
      · rintro ⟨hne, v, hv⟩
        exact ⟨v, by grind⟩
      · rintro ⟨v, hv⟩
        have := h.inj v vid j
        exact ⟨by grind, v, by grind⟩

/-- The error is given exactly when all ids are taken. -/
theorem WF.findFreeStgid_error_iff (h : WF s) :
    s.findFreeStgid = some (.error (-ENOSPC)) ↔
      ∀ i ∈ ids, ∃ v, s.vlanToStg.lookup v = some i := by
  unfold findFreeStgid
  constructor
  · intro hf i hi
    have hfull : s.vlanToStg.entries.length = 510 := by
      by_contra hne
      rw [if_neg hne] at hf
      simp at hf
    have heq : s.stgInUse = ids := by
      refine Finset.eq_of_subset_of_card_le h.range ?_
      rw [h.card_stgInUse, hfull, ids, Nat.card_Ico]
    exact (h.inUse i).mp (heq ▸ hi)
  · intro hall
    have heq : s.stgInUse = ids :=
      Finset.Subset.antisymm h.range fun i hi => (h.inUse i).mpr (hall i hi)
    rw [if_pos]
    rw [← h.card_stgInUse, heq, ids, Nat.card_Ico]

end Search

/-! ## Runs -/

/-- The calls, with the results of their OF-DPA calls. -/
inductive Ev where
  | create (vlanId : Nat) (rpcCreate rpcVlanAdd : Int)
  | destroy (vlanId : Nat) (rpcDestroy : Int)

/-- `none` is for a call that did not return. -/
def step : Option Stgs → Ev → Option Stgs
  | none, _ => none
  | some s, .create vlanId rpcCreate rpcVlanAdd =>
    (s.ofdpaStgCreate vlanId rpcCreate rpcVlanAdd).map (·.2)
  | some s, .destroy vlanId rpcDestroy => some (s.ofdpaStgDestroy vlanId rpcDestroy).2

theorem step_wf {o : Option Stgs} (e : Ev) (h : ∃ s, o = some s ∧ WF s) :
    ∃ s, step o e = some s ∧ WF s := by
  obtain ⟨s, rfl, h⟩ := h
  cases e with
  | create v c a =>
    obtain ⟨rv, s', he, h', -⟩ := h.ofdpaStgCreate_cases v c a
    exact ⟨s', by rw [step, he]; rfl, h'⟩
  | destroy v d => exact ⟨_, rfl, (h.ofdpaStgDestroy_cases v d).1⟩

/-- **The ids of the groups.** After any calls, with any results of the OF-DPA calls: all calls
have returned, the ids in use are those of the VLANs, the search of the next call looks at no bit
outside the set, and it gives an id that no VLAN uses, or an error exactly if there is none. -/
theorem search_run (es : List Ev) :
    ∃ s, run step (some {}) es = some s ∧ WF s ∧ (∀ k, nextStg^[k] s.currentStg < 512) ∧
      ∃ r, s.findFreeStgid = some r ∧
        (r = .error (-ENOSPC) ∨ ∃ i ∈ ids, r = .ok i ∧ ∀ v, s.vlanToStg.lookup v ≠ some i) ∧
        (r = .error (-ENOSPC) ↔ ∀ i ∈ ids, ∃ v, s.vlanToStg.lookup v = some i) := by
  obtain ⟨s, hs, h⟩ : ∃ s, run step (some {}) es = some s ∧ WF s :=
    run_inv_all (I := fun o => ∃ s, o = some s ∧ WF s) ⟨{}, rfl, wf_init⟩
      (fun _ e h => step_wf e h) es
  obtain ⟨r, hr⟩ := Option.ne_none_iff_exists'.mp h.findFreeStgid_ne_none
  refine ⟨s, hs, h, fun k => ?_, r, hr, ?_, ?_⟩
  · rw [iterate_nextStg h.current]
    omega
  · rcases h.findFreeStgid_eq_some hr with rfl | ⟨i, hid, hi, rfl⟩
    · exact .inl rfl
    · exact .inr ⟨i, hid, rfl, fun v hv => hi ((h.inUse i).mpr ⟨v, hv⟩)⟩
  · rw [← h.findFreeStgid_error_iff, hr, Option.some.injEq]

end Stgs

end Basebox
