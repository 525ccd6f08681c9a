import Basebox.Lib.Run
import Basebox.OfDpa.Lag
import Mathlib.Data.Finset.Insert

/-!
# The numbers of the LAGs (`controller::lag_create`, `controller::lag_remove`)

The map `lag` and the trunks of the switch. Both operations change the map before the RPC, which
may fail without effect; the number of a LAG is the value of a counter of 16 bits that stops at a
number in use.

* `KeysExact`: the map has the numbers of the trunks.
* `CreateOk`: the id that is returned is a new one and has a number; and there is no error while a
  number is free.
* `keysExact_iff`: both hold all along exactly as long as no RPC that matters fails and the counter
  does not come round.
-/

namespace Basebox

/-- The LAGs of the controller and the trunks of the switch. -/
structure LagSwitch where
  lags : Lags := {}
  /-- The ids of the trunks. -/
  trunks : Finset Nat := ∅

namespace LagSwitch

/-- The calls for LAGs, with the result of the OF-DPA call. -/
inductive Ev where
  | create (rpc : Int)
  | remove (lagId : Nat) (rpc : Int)

/-- A call of the controller. The RPC has an effect if it does not fail. -/
def step (s : LagSwitch) : Ev → LagSwitch
  | .create rpc =>
    { lags := (s.lags.lagCreate rpc).2.2
      trunks :=
        match (s.lags.lagCreate rpc).2.1 with
        | some lagId => if 0 ≤ rpc then insert lagId s.trunks else s.trunks
        | none => s.trunks }
  | .remove lagId rpc =>
    { lags := (s.lags.lagRemove lagId rpc).2
      trunks := if 0 ≤ rpc then s.trunks.erase lagId else s.trunks }

/-! ## Numbers and trunks -/

/-- The trunk of a number is on the switch. -/
def InUse (s : LagSwitch) (n : Nat) : Prop := ∃ lagId ∈ s.trunks, Nbi.getPortNum lagId = n

/-- The keys of `lag` are the numbers of the trunks. -/
def KeysExact (s : LagSwitch) : Prop := ∀ n, n ∈ s.lags.lag ↔ s.InUse n

/-- The id that `lag_create` returns has a number, which is not in use. It fails only if its RPC
does, or if all numbers from 1 are in use. -/
def CreateOk (s : LagSwitch) : Ev → Prop
  | .create rpc =>
    (∀ lagId, 0 ≤ (s.lags.lagCreate rpc).1 → (s.lags.lagCreate rpc).2.1 = some lagId →
        Nbi.getPortNum lagId ≠ 0 ∧ ¬ s.InUse (Nbi.getPortNum lagId)) ∧
      ((s.lags.lagCreate rpc).1 < 0 →
        (s.lags.lagCreate rpc).2.1.isSome ∧ rpc < 0 ∨ ∀ n, 1 ≤ n → n < 2 ^ 16 → s.InUse n)
  | .remove _ _ => True

/-- What makes a call go wrong is left out: the RPC fails, the id is not that of the LAG with its
number, or the counter is at zero. -/
def Fine (s : LagSwitch) : Ev → Prop
  | .create rpc =>
    if s.lags.lagId ∈ s.lags.lag then ∀ n, 1 ≤ n → n < 2 ^ 16 → n ∈ s.lags.lag
    else s.lags.lagId ≠ 0 ∧ 0 ≤ rpc
  | .remove lagId rpc =>
    Nbi.getPortNum lagId ∈ s.lags.lag →
      0 ≤ rpc ∧ lagId = Nbi.combinePortType (Nbi.getPortNum lagId) .lag

/-- The numbers have 16 bits, and the trunks have ids of LAGs. -/
structure Inv (s : LagSwitch) : Prop where
  lagId : s.lags.lagId < 2 ^ 16
  keys : ∀ n ∈ s.lags.lag, n < 2 ^ 16
  trunks : ∀ lagId ∈ s.trunks, lagId = Nbi.combinePortType (Nbi.getPortNum lagId) .lag

variable {s : LagSwitch}

theorem getPortNum_lt (p : Nat) : Nbi.getPortNum p < 2 ^ 16 := by
  rw [Nbi.getPortNum_eq]
  exact Nat.mod_lt _ (by decide)

/-- The trunk of a number is the one with the id of the LAG. -/
theorem Inv.inUse_iff (h : Inv s) {n : Nat} (hn : n < 2 ^ 16) :
    s.InUse n ↔ Nbi.combinePortType n .lag ∈ s.trunks := by
  constructor
  · rintro ⟨lagId, hmem, rfl⟩
    rw [← h.trunks lagId hmem]
    exact hmem
  · intro hmem
    exact ⟨_, hmem, by rw [Nbi.getPortNum_combine, Nat.mod_eq_of_lt hn]⟩

theorem inv_init : Inv {} where
  lagId := by decide
  keys n hn := by cases hn
  trunks lagId h := by simp at h

theorem keysExact_init : KeysExact {} := fun n => by simp [InUse, AList.notMem_empty]

/-! ## Steps -/

theorem step_create_of_mem (h : s.lags.lagId ∈ s.lags.lag) (rpc : Int) :
    step s (.create rpc) = s := by
  simp [step, Lags.lagCreate, h]

theorem step_create_of_notMem (h : s.lags.lagId ∉ s.lags.lag) (rpc : Int) :
    step s (.create rpc) =
      { lags := ⟨s.lags.lag.insert s.lags.lagId ∅, u16 (s.lags.lagId + 1)⟩
        trunks :=
          if 0 ≤ rpc then insert (Nbi.combinePortType s.lags.lagId .lag) s.trunks
          else s.trunks } := by
  simp [step, Lags.lagCreate, h]

theorem Inv.step (h : Inv s) (e : Ev) : Inv (step s e) := by
  cases e with
  | create rpc =>
    by_cases hmem : s.lags.lagId ∈ s.lags.lag
    · rw [step_create_of_mem hmem]
      exact h
    · rw [step_create_of_notMem hmem]
      refine ⟨Nat.mod_lt _ (by decide), fun n hn => ?_, fun lagId hlag => ?_⟩
      · rcases (AList.mem_insert _).mp hn with rfl | hn
        · exact h.lagId
        · exact h.keys n hn
      · simp only at hlag
        split at hlag
        · rcases Finset.mem_insert.mp hlag with rfl | hlag
          · rw [Nbi.getPortNum_combine, Nat.mod_eq_of_lt h.lagId]
          · exact h.trunks lagId hlag
        · exact h.trunks lagId hlag
  | remove lagId rpc =>
    refine ⟨h.lagId, fun n hn => h.keys n (AList.mem_erase.mp hn).2, fun id hid => ?_⟩
    simp only [LagSwitch.step] at hid
    split at hid
    · exact h.trunks id (Finset.mem_of_mem_erase hid)
    · exact h.trunks id hid

/-- A trunk is created with its number, exactly if the RPC does not fail. -/
theorem keysExact_create_iff (h : Inv s) (hk : KeysExact s) (hmem : s.lags.lagId ∉ s.lags.lag)
    (rpc : Int) : KeysExact (LagSwitch.step s (.create rpc)) ↔ 0 ≤ rpc := by
  rw [step_create_of_notMem hmem]
  constructor
  · intro hk'
    by_contra hneg
    -- The number is in the map, and there is no trunk.
    have hin := (hk' s.lags.lagId).mp ((AList.mem_insert _).mpr (.inl rfl))
    simp only [InUse, hneg, if_false] at hin
    exact hmem ((hk _).mpr hin)
  · intro hpos n
    simp only [hpos, if_true, InUse, Finset.exists_mem_insert, Nbi.getPortNum_combine,
      Nat.mod_eq_of_lt h.lagId]
    rw [AList.mem_insert, eq_comm]
    exact or_congr Iff.rfl (hk n)

/-- A number is removed with its trunk. -/
theorem keysExact_remove_iff (h : Inv s) (hk : KeysExact s) (lagId : Nat) (rpc : Int) :
    KeysExact (LagSwitch.step s (.remove lagId rpc)) ↔ Fine s (.remove lagId rpc) := by
  have hkeys : ∀ n, n ∈ (LagSwitch.step s (.remove lagId rpc)).lags.lag ↔
      n ≠ Nbi.getPortNum lagId ∧ n ∈ s.lags.lag := fun n => AList.mem_erase
  by_cases hmem : Nbi.getPortNum lagId ∈ s.lags.lag
  swap
  · -- The number is not in use, so there is no trunk to be removed.
    have hnot : lagId ∉ s.trunks := fun hin => hmem ((hk _).mpr ⟨lagId, hin, rfl⟩)
    have htrunks : (LagSwitch.step s (.remove lagId rpc)).trunks = s.trunks := by
      simp [LagSwitch.step, Finset.erase_eq_of_notMem hnot]
    refine iff_of_true (fun n => ?_) fun h => absurd h hmem
    rw [hkeys, InUse, htrunks]
    exact ⟨fun hn => (hk n).mp hn.2,
      fun hn => ⟨fun he => hmem (he ▸ (hk n).mpr hn), (hk n).mpr hn⟩⟩
  have htrunk := (h.inUse_iff (getPortNum_lt lagId)).mp ((hk _).mp hmem)
  constructor
  · intro hk' _
    have hgone : Nbi.combinePortType (Nbi.getPortNum lagId) .lag ∉
        (LagSwitch.step s (.remove lagId rpc)).trunks := by
      rw [← (h.step _).inUse_iff (getPortNum_lt lagId), ← hk', hkeys]
      exact fun hn => hn.1 rfl
    simp only [LagSwitch.step] at hgone
    split at hgone
    · next hpos =>
      refine ⟨hpos, ?_⟩
      by_contra hne
      exact hgone (Finset.mem_erase.mpr ⟨Ne.symm hne, htrunk⟩)
    · exact absurd htrunk hgone
  · intro hfine n
    obtain ⟨hpos, hid⟩ := hfine hmem
    rw [hkeys, hk]
    simp only [LagSwitch.step, InUse, hpos, if_true, Finset.mem_erase]
    constructor
    · rintro ⟨hn, id, hin, rfl⟩
      exact ⟨id, ⟨fun he => hn (he ▸ rfl), hin⟩, rfl⟩
    · rintro ⟨id, ⟨hne, hin⟩, rfl⟩
      refine ⟨fun hnum => hne ?_, id, hin, rfl⟩
      rw [h.trunks id hin, hnum, ← hid]

/-- What the id and the result of `lag_create` say. -/
theorem createOk_iff (h : Inv s) (hk : KeysExact s) (rpc : Int) :
    CreateOk s (.create rpc) ↔
      if s.lags.lagId ∈ s.lags.lag then ∀ n, 1 ≤ n → n < 2 ^ 16 → n ∈ s.lags.lag
      else 0 ≤ rpc → s.lags.lagId ≠ 0 := by
  have hneg : (-EINVAL : Int) < 0 := by decide
  have hfree : (∀ n, 1 ≤ n → n < 2 ^ 16 → s.InUse n) ↔
      ∀ n, 1 ≤ n → n < 2 ^ 16 → n ∈ s.lags.lag :=
    forall_congr' fun n => by rw [hk n]
  by_cases hmem : s.lags.lagId ∈ s.lags.lag
  · simp only [CreateOk, Lags.lagCreate, hmem, if_true, reduceCtorEq, false_implies, implies_true,
      true_and, Option.isSome_none, Bool.false_eq_true, false_and, false_or, hneg, true_implies]
    exact hfree
  · have hnot : ¬ s.InUse s.lags.lagId := fun hin => hmem ((hk _).mpr hin)
    have hnum : Nbi.getPortNum (Nbi.combinePortType s.lags.lagId .lag) = s.lags.lagId := by
      rw [Nbi.getPortNum_combine, Nat.mod_eq_of_lt h.lagId]
    simp only [CreateOk, Lags.lagCreate, hmem, if_false, Option.some.injEq, Option.isSome_some,
      true_and]
    constructor
    · rintro ⟨hnew, -⟩ hpos
      rw [← hnum]
      exact (hnew _ hpos rfl).1
    · intro hzero
      refine ⟨?_, .inl⟩
      rintro lagId hpos rfl
      rw [hnum]
      exact ⟨hzero hpos, hnot⟩

/-- A call leaves the numbers those of the trunks, and answers as it should, exactly if it is
fine. -/
theorem step_iff (h : Inv s) (hk : KeysExact s) (e : Ev) :
    KeysExact (step s e) ∧ CreateOk s e ↔ Fine s e := by
  cases e with
  | remove lagId rpc =>
    rw [keysExact_remove_iff h hk]
    exact and_iff_left trivial
  | create rpc =>
    rw [createOk_iff h hk]
    by_cases hmem : s.lags.lagId ∈ s.lags.lag
    · rw [step_create_of_mem hmem]
      simp only [hk, hmem, if_true, true_and, Fine]
    · rw [keysExact_create_iff h hk hmem]
      simp only [hmem, if_false, Fine]
      exact ⟨fun ⟨hpos, hzero⟩ => ⟨hzero hpos, hpos⟩, fun ⟨hzero, hpos⟩ => ⟨hpos, fun _ => hzero⟩⟩

/-! ## Runs -/

/-- The calls of `lag_create`. -/
def creations : List Ev → Nat
  | [] => 0
  | .create _ :: es => creations es + 1
  | .remove _ _ :: es => creations es

/-- The RPC of a creation succeeds, and so does that of a removal whose number is in use, which has
the id of its LAG. -/
def Succeeds (s : LagSwitch) : Ev → Prop
  | .create rpc => 0 ≤ rpc
  | .remove lagId rpc =>
    Nbi.getPortNum lagId ∈ s.lags.lag →
      0 ≤ rpc ∧ lagId = Nbi.combinePortType (Nbi.getPortNum lagId) .lag

/-- Before the counter comes round the numbers are below it, so none is met again. -/
theorem along_fine_iff {k : Nat} (hk : k < 2 ^ 16) (hcnt : s.lags.lagId = (k + 1) % 2 ^ 16)
    (hkeys : ∀ n ∈ s.lags.lag, 1 ≤ n ∧ n ≤ k) (es : List Ev) :
    Along step Fine s es ↔ k + creations es < 2 ^ 16 ∧ Along step Succeeds s es := by
  induction es generalizing s k with
  | nil => exact iff_of_true trivial ⟨hk, trivial⟩
  | cons e es ih =>
    cases e with
    | remove lagId rpc =>
      have hrest := ih hk hcnt (s := step s (.remove lagId rpc))
        fun n hn => hkeys n (AList.mem_erase.mp hn).2
      simp only [Along, creations, hrest, Fine, Succeeds]
      exact and_left_comm
    | create rpc =>
      have hnot : s.lags.lagId ∉ s.lags.lag := fun hmem => by
        have := hkeys _ hmem
        omega
      simp only [Along, creations, Fine, Succeeds, hnot, if_false]
      by_cases hlast : k + 1 < 2 ^ 16
      · have hne : s.lags.lagId ≠ 0 := by omega
        have hrest := ih (s := step s (.create rpc)) hlast (by
            rw [step_create_of_notMem hnot]
            simp only [u16]
            omega)
          fun n hn => by
            rw [step_create_of_notMem hnot] at hn
            rcases (AList.mem_insert _).mp hn with rfl | hn
            · omega
            · have := hkeys n hn
              omega
        rw [hrest, and_iff_right hne, Nat.add_right_comm, ← Nat.add_assoc]
        exact and_left_comm
      · refine iff_of_false (fun h => h.1.1 (by omega)) fun h => by omega

/-- **The numbers of the LAGs.** Over a run the keys of `lag` are the numbers of the trunks on the
switch, every id returned is a new one with a number that is not zero, and `lag_create` fails only
if it must, exactly if there are fewer than `2 ^ 16` creations, their RPCs succeed, and a number in
use is removed with the id of its LAG and an RPC that succeeds. -/
theorem keysExact_iff (es : List Ev) :
    (∀ n, KeysExact (run step {} (es.take n))) ∧ Along step CreateOk {} es ↔
      creations es < 2 ^ 16 ∧ Along step Succeeds {} es := by
  rw [along_and_iff_of_inv inv_init keysExact_init (fun s e h _ => h.step e)
    (fun s e h hk => step_iff h hk e) es, along_fine_iff (k := 0) (by decide) rfl, Nat.zero_add]
  intro n hn
  cases hn

/-- The RPC of the first creation fails: the number stays in the map. -/
theorem refusedTrunk_not_exact : ¬ KeysExact (run step {} [.create (-EINVAL)]) := by
  intro h
  obtain ⟨lagId, hmem, -⟩ := (h 1).mp (by decide)
  have hnone : (run step {} [.create (-EINVAL)]).trunks = ∅ := by decide
  rw [hnone] at hmem
  exact Finset.notMem_empty _ hmem

end LagSwitch

end Basebox
