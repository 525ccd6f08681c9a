import Basebox.Lib.Run
import Basebox.OfDpa.Lag

/-!
# Bonds and their members (`src/netlink/nl_bond.cc`)

`nl_bond` keeps the members of a LAG a second time, in `lag_members`; what is configured on a
bond is configured on these. A connected switch is assumed, and OF-DPA calls that succeed. A call
gets the ifindex of the bond and the port id of the link (`0` for a link that is no port).

* `addLag`, `removeLag`, `addLagMember`, `removeLagMember`: the four operations. A call can end
  the process: `LOG(FATAL)`, or a use of an `end()` iterator.
* `Proc`: the process, with a record of the ports added to each bond and not removed since.
* `Agree`: `lag_members`, `controller::lag` and the record have the same members for every LAG.
* `agree_iff_along`: a run stays in agreement exactly if none of its steps is one of the three
  where the code loses track (`Keeps`).
-/

namespace Basebox

/-- The state of `nl_bond`. -/
structure Bonds where
  ifi2lag : Table Int Nat := ∅
  lagMembers : Table Nat (Finset Nat) := ∅
  /-- The controller behind `swi`. -/
  swi : Lags := {}

/-- How a call can end the process. -/
inductive Crash where
  /-- An `end()` iterator is dereferenced: undefined behaviour. -/
  | endIterator
  /-- `LOG(FATAL)`. -/
  | fatal
  deriving DecidableEq

namespace Bonds

/-- `get_members_by_port_id`. -/
def getMembersByPortId (s : Bonds) (portId : Nat) : Finset Nat :=
  (s.lagMembers.lookup portId).getD ∅

/-- `add_lag`: a LAG is created in any case, and removed again if the bond has one. -/
def addLag (s : Bonds) (bond : Int) : Int × Bonds :=
  match s.swi.lagCreate 0 with
  | (rv, none, _) => (rv, s)
  | (_, some lagId, swi) =>
    match s.ifi2lag.lookup bond with
    | none => (lagId, { s with ifi2lag := s.ifi2lag.insert bond lagId, swi := swi })
    | some old =>
      (old, { s with swi := if lagId ≠ old then (swi.lagRemove lagId 0).2 else swi })

/-- `remove_lag`. `lag_members` keeps its entry. -/
def removeLag (s : Bonds) (bond : Int) : Int × Bonds :=
  match s.ifi2lag.lookup bond with
  | none => (-ENODEV, s)
  | some lagId =>
    let (rv, swi) := s.swi.lagRemove lagId 0
    if rv < 0 then (rv, { s with swi := swi })
    else (0, { s with ifi2lag := s.ifi2lag.erase bond, swi := swi })

/-- `add_lag_member`. -/
def addLagMember (s : Bonds) (bond : Int) (portId : Nat) : Except Crash (Int × Bonds) :=
  match s.ifi2lag.lookup bond with
  | none =>
    let (rv, s) := s.addLag bond
    if rv < 0 then .ok (rv, s)
    else if portId = 0 then .ok (-EINVAL, s)
    -- `lag_members.find(it->second)`, where `it` still is `ifi2lag.end()`.
    else .error .endIterator
  | some lagId =>
    if portId = 0 then .ok (-EINVAL, s)
    else
      let lagMembers := s.lagMembers.insert lagId (insert portId (s.getMembersByPortId lagId))
      let (rv, swi) := s.swi.lagAddMember lagId portId 0
      .ok (if rv < 0 then -EINVAL else 0, { s with lagMembers := lagMembers, swi := swi })

/-- `remove_lag_member`: the entry of the LAG is erased, not the port in it. -/
def removeLagMember (s : Bonds) (bond : Int) (portId : Nat) : Except Crash (Int × Bonds) :=
  match s.ifi2lag.lookup bond with
  | none => .error .fatal
  | some lagId =>
    if portId = 0 then .ok (-EINVAL, s)
    else if lagId ∈ s.lagMembers then
      let (rv, swi) := s.swi.lagRemoveMember lagId portId 0
      .ok (rv, { s with lagMembers := s.lagMembers.erase lagId, swi := swi })
    else .ok (-EINVAL, s)

/-! ## The process and its runs -/

/-- The calls of `nl_bond`. -/
inductive Ev where
  | addLag (bond : Int)
  | removeLag (bond : Int)
  | addLagMember (bond : Int) (portId : Nat)
  | removeLagMember (bond : Int) (portId : Nat)
  deriving DecidableEq

/-- A call, with its result. -/
def exec (s : Bonds) : Ev → Except Crash (Int × Bonds)
  | .addLag bond => .ok (s.addLag bond)
  | .removeLag bond => .ok (s.removeLag bond)
  | .addLagMember bond portId => s.addLagMember bond portId
  | .removeLagMember bond portId => s.removeLagMember bond portId

/-- For each bond with a LAG, the ports added to it and not removed since. -/
abbrev Record := Table Int (Finset Nat)

/-- The members that were added to a bond. -/
def Record.members (r : Record) (bond : Int) : Finset Nat := (r.lookup bond).getD ∅

/-- The record after a call that left the state `s`. A bond that got no LAG gets no member, and
a LAG that is removed takes its members with it. -/
def Record.note (r : Record) (s : Bonds) : Ev → Record
  | .addLag _ => r
  | .removeLag bond => r.erase bond
  | .addLagMember bond portId =>
    if portId = 0 ∨ bond ∉ s.ifi2lag then r else r.insert bond (insert portId (r.members bond))
  | .removeLagMember bond portId =>
    if portId = 0 then r else r.insert bond ((r.members bond).erase portId)

/-- The process, with what has been asked of it. -/
inductive Proc where
  | running (s : Bonds) (r : Record)
  | ended (c : Crash)

/-- The process at its start. -/
def Proc.init : Proc := .running {} ∅

/-- The process after a call. -/
def Proc.next (r : Record) (e : Ev) : Except Crash (Int × Bonds) → Proc
  | .ok (_, s) => .running s (r.note s e)
  | .error c => .ended c

/-- The process after a call. -/
def Proc.step : Proc → Ev → Proc
  | .running s r, e => Proc.next r e (s.exec e)
  | .ended c, _ => .ended c

/-- The members of every bond's LAG are the recorded ones, in `lag_members` and in
`controller::lag`; and the controller has no other LAGs. -/
def Agree (s : Bonds) (r : Record) : Prop :=
  (∀ bond lagId, s.ifi2lag.lookup bond = some lagId →
    s.getMembersByPortId lagId = r.members bond ∧
    s.swi.lag.lookup (Nbi.getPortNum lagId) = some (r.members bond)) ∧
  ∀ n, n ∈ s.swi.lag → ∃ bond, s.ifi2lag.lookup bond = some (Nbi.combinePortType n .lag)

/-- No `end()` iterator was used, and while the process runs the members agree. -/
def Proc.Agree : Proc → Prop
  | .running s r => s.Agree r
  | .ended c => c ≠ .endIterator

/-- A LAG that is created for a bond now would start without members: nothing is left in
`lag_members` of an earlier LAG with this number. -/
def FreshEmpty (s : Bonds) : Prop :=
  s.swi.lagId ∉ s.swi.lag → s.getMembersByPortId (Nbi.combinePortType s.swi.lagId .lag) = ∅

/-- The calls that keep track of the members. -/
def Keeps (s : Bonds) : Ev → Prop
  | .addLag bond => bond ∉ s.ifi2lag → s.FreshEmpty
  | .removeLag _ => True
  | .addLagMember bond portId =>
    -- On a bond without a LAG only a link that is no port, or when no LAG can be created.
    bond ∉ s.ifi2lag → (portId = 0 ∨ s.swi.lagId ∈ s.swi.lag) ∧ s.FreshEmpty
  | .removeLagMember bond portId =>
    -- Only the last member of a LAG.
    ∀ lagId, s.ifi2lag.lookup bond = some lagId → portId ≠ 0 →
      s.getMembersByPortId lagId ⊆ {portId}

/-- The next call keeps within what `nl_bond` supports. -/
def Proc.Keeps : Proc → Ev → Prop
  | .running s _, e => s.Keeps e
  | .ended _, _ => True

/-! ## The calls -/

section Calls

variable {s : Bonds} {bond : Int}

theorem addLag_full (h : s.swi.lagId ∈ s.swi.lag) : s.addLag bond = (-EINVAL, s) := by
  simp [addLag, Lags.lagCreate, h]

/-- A new LAG for a bond. -/
theorem addLag_new (h : s.swi.lagId ∉ s.swi.lag) (hb : s.ifi2lag.lookup bond = none) :
    s.addLag bond = (Int.ofNat (Nbi.combinePortType s.swi.lagId .lag),
      { s with
        ifi2lag := s.ifi2lag.insert bond (Nbi.combinePortType s.swi.lagId .lag)
        swi := { lag := s.swi.lag.insert s.swi.lagId ∅, lagId := u16 (s.swi.lagId + 1) } }) := by
  simp [addLag, Lags.lagCreate, h, hb]

/-- A second LAG for a bond is removed at once; only the counter moves on. -/
theorem addLag_again (h : s.swi.lagId ∉ s.swi.lag) (hlt : s.swi.lagId < 2 ^ 16) {old : Nat}
    (hb : s.ifi2lag.lookup bond = some old) (hold : Nbi.getPortNum old ∈ s.swi.lag) :
    s.addLag bond = (Int.ofNat old,
      { s with swi := { s.swi with lagId := u16 (s.swi.lagId + 1) } }) := by
  have hnum : Nbi.getPortNum (Nbi.combinePortType s.swi.lagId .lag) = s.swi.lagId := by
    rw [Nbi.getPortNum_combine]; omega
  have hne : Nbi.combinePortType s.swi.lagId .lag ≠ old := by
    rintro rfl
    rw [hnum] at hold
    exact h hold
  simp [addLag, Lags.lagCreate, h, hb, hne, Lags.lagRemove, hnum, Table.erase_insert_of_notMem h]

end Calls

/-! ## One step -/

/-- What holds in every state: the LAGs of the bonds are those of the controller, one each. -/
structure Inv (s : Bonds) (r : Record) : Prop where
  next_lt : s.swi.lagId < 2 ^ 16
  lagOf : ∀ b l, s.ifi2lag.lookup b = some l →
    ∃ n < 2 ^ 16, l = Nbi.combinePortType n .lag ∧ n ∈ s.swi.lag
  inj : ∀ b b' l, s.ifi2lag.lookup b = some l → s.ifi2lag.lookup b' = some l → b = b'
  bondOf : ∀ n, n ∈ s.swi.lag → n < 2 ^ 16 ∧
    ∃ b, s.ifi2lag.lookup b = some (Nbi.combinePortType n .lag)
  recOf : ∀ b, b ∉ s.ifi2lag → r.members b = ∅

/-- While the process runs its maps agree with the record. -/
def Proc.Inv : Proc → Prop
  | .running s r => s.Inv r
  | .ended _ => True

theorem inv_init : Inv {} ∅ where
  next_lt := by decide
  lagOf _ _ h := by cases h
  inj _ _ _ h := by cases h
  bondOf _ h := by cases h
  recOf _ _ := rfl

section Step

variable {s : Bonds} {r : Record} {bond : Int} {lagId portId : Nat}

theorem Record.members_insert (r : Record) (b b' : Int) (set : Finset Nat) :
    Record.members (r.insert b set) b' = if b' = b then set else r.members b' := by
  unfold Record.members
  grind

theorem Record.members_erase (r : Record) (b b' : Int) :
    Record.members (r.erase b) b' = if b' = b then ∅ else r.members b' := by
  unfold Record.members
  grind

theorem getPortNum_lag {n : Nat} (h : n < 2 ^ 16) :
    Nbi.getPortNum (Nbi.combinePortType n .lag) = n := by
  rw [Nbi.getPortNum_combine]; omega

/-- Another bond has another LAG, with another number. -/
theorem Inv.num_inj (h : Inv s r) {b b' : Int} {l l' : Nat} (hl : s.ifi2lag.lookup b = some l)
    (hl' : s.ifi2lag.lookup b' = some l') (e : Nbi.getPortNum l = Nbi.getPortNum l') : b = b' := by
  obtain ⟨n, hlt, rfl, -⟩ := h.lagOf b l hl
  obtain ⟨m, hlt', rfl, -⟩ := h.lagOf b' l' hl'
  rw [getPortNum_lag hlt, getPortNum_lag hlt'] at e
  subst e
  exact h.inj b b' _ hl hl'

/-- The counter alone takes part in nothing. -/
theorem Inv.counter (h : Inv s r) (n : Nat) :
    Inv { s with swi := { s.swi with lagId := u16 n } } r where
  next_lt := Nat.mod_lt _ (by decide)
  lagOf := h.lagOf
  inj := h.inj
  bondOf := h.bondOf
  recOf := h.recOf

/-- A new LAG of a bond. -/
theorem Inv.newLag (h : Inv s r) (hn : s.swi.lagId ∉ s.swi.lag)
    (hb : s.ifi2lag.lookup bond = none) : Inv (s.addLag bond).2 r := by
  rw [addLag_new hn hb]
  constructor
  · exact Nat.mod_lt _ (by decide)
  · intro b l hl
    rw [Table.lookup_insert_ite] at hl
    split at hl
    · cases hl
      exact ⟨s.swi.lagId, h.next_lt, rfl, by simp⟩
    · obtain ⟨n, hlt, rfl, hmem⟩ := h.lagOf b l hl
      exact ⟨n, hlt, rfl, by simp [hmem]⟩
  · -- The number is new, so is the id.
    have hnew : ∀ b, s.ifi2lag.lookup b ≠ some (Nbi.combinePortType s.swi.lagId .lag) := by
      intro b hl
      obtain ⟨n, hlt, he, hmem⟩ := h.lagOf b _ hl
      have hnum := congrArg Nbi.getPortNum he
      rw [getPortNum_lag hlt, getPortNum_lag h.next_lt] at hnum
      exact hn (hnum ▸ hmem)
    intro b b' l hl hl'
    rw [Table.lookup_insert_ite] at hl hl'
    have := h.inj b b' l
    have := hnew b
    have := hnew b'
    grind
  · intro n hmem
    rcases (AList.mem_insert _).mp hmem with rfl | hmem
    · exact ⟨h.next_lt, bond, by simp⟩
    · obtain ⟨hlt, b, hl⟩ := h.bondOf n hmem
      have : b ≠ bond := by rintro rfl; rw [hb] at hl; cases hl
      exact ⟨hlt, b, by rw [Table.lookup_insert_ite, if_neg this]; exact hl⟩
  · intro b hmem
    exact h.recOf b fun hb' => hmem (by simp [hb'])

theorem Inv.agree_newLag (h : Inv s r) (ha : Agree s r) (hn : s.swi.lagId ∉ s.swi.lag)
    (hb : s.ifi2lag.lookup bond = none) : Agree (s.addLag bond).2 r ↔ s.FreshEmpty := by
  have hrec : r.members bond = ∅ := h.recOf bond (Table.not_mem_iff_lookup.mpr hb)
  have hall := fun n hmem => ((h.newLag hn hb).bondOf n hmem).2
  rw [addLag_new hn hb] at hall ⊢
  constructor
  · intro ha' _
    exact (ha'.1 bond _ (by simp)).1.trans hrec
  · refine fun hfresh => ⟨fun b l hl => ?_, hall⟩
    rw [Table.lookup_insert_ite] at hl
    split at hl
    · cases hl
      subst_vars
      rw [hrec]
      refine ⟨hfresh hn, ?_⟩
      rw [getPortNum_lag h.next_lt]
      exact AList.lookup_insert _
    · obtain ⟨n, hlt, rfl, hmem⟩ := h.lagOf b l hl
      obtain ⟨h1, h2⟩ := ha.1 b _ hl
      refine ⟨h1, ?_⟩
      rw [getPortNum_lag hlt] at h2 ⊢
      have : n ≠ s.swi.lagId := by rintro rfl; exact hn hmem
      rw [Table.lookup_insert_ite, if_neg this]
      exact h2

/-- What an operation on the members of one LAG leaves alone: it changes the sets of that LAG in
both maps and in the record. -/
theorem Inv.members_update (h : Inv s r) (hb : s.ifi2lag.lookup bond = some lagId) (s' : Bonds)
    {set : Finset Nat} (hi : s'.ifi2lag = s.ifi2lag) (hc : s'.swi.lagId = s.swi.lagId)
    (hlag : ∀ n, s'.swi.lag.lookup n =
      if n = Nbi.getPortNum lagId then some set else s.swi.lag.lookup n) :
    Inv s' (r.insert bond set) := by
  obtain ⟨n, hlt, rfl, hmem⟩ := h.lagOf bond lagId hb
  rw [getPortNum_lag hlt] at hlag
  have hsame : ∀ k, k ∈ s'.swi.lag ↔ k ∈ s.swi.lag := by
    intro k
    obtain ⟨w, hw⟩ := Table.mem_iff_lookup.mp hmem
    rw [Table.mem_iff_lookup, Table.mem_iff_lookup, hlag]
    grind
  constructor
  · rw [hc]; exact h.next_lt
  · simpa only [hi, hsame] using h.lagOf
  · simpa only [hi] using h.inj
  · simpa only [hi, hsame] using h.bondOf
  · intro b hb'
    rw [hi] at hb'
    rw [Record.members_insert, if_neg]
    · exact h.recOf b hb'
    · rintro rfl
      exact hb' (Table.mem_iff_lookup.mpr ⟨_, hb⟩)

/-- The two copies agree after such an operation if they do for that LAG. -/
theorem Inv.agree_update (h : Inv s r) (ha : Agree s r) (hb : s.ifi2lag.lookup bond = some lagId)
    (s' : Bonds) {set : Finset Nat} (hi : s'.ifi2lag = s.ifi2lag)
    (hc : s'.swi.lagId = s.swi.lagId)
    (hlag : ∀ n, s'.swi.lag.lookup n =
      if n = Nbi.getPortNum lagId then some set else s.swi.lag.lookup n)
    (hmem : ∀ l ≠ lagId, s'.lagMembers.lookup l = s.lagMembers.lookup l) :
    Agree s' (r.insert bond set) ↔ s'.getMembersByPortId lagId = set := by
  have hall := (h.members_update hb s' hi hc hlag).bondOf
  constructor
  · intro ha'
    have := (ha'.1 bond lagId (by rw [hi]; exact hb)).1
    rwa [Record.members_insert, if_pos rfl] at this
  · refine fun hset => ⟨fun b l hl => ?_, fun n hn => (hall n hn).2⟩
    rw [hi] at hl
    rw [Record.members_insert, hlag]
    by_cases hbb : b = bond
    · subst hbb
      rw [hb] at hl
      cases hl
      simp [hset]
    · have hnum : Nbi.getPortNum l ≠ Nbi.getPortNum lagId := fun e => hbb (h.num_inj hl hb e)
      have hne : l ≠ lagId := fun e => hnum (congrArg _ e)
      rw [if_neg hbb, if_neg hnum]
      refine ⟨?_, (ha.1 b l hl).2⟩
      rw [getMembersByPortId, hmem l hne]
      exact (ha.1 b l hl).1

/-- A bond without a LAG goes from the record. -/
theorem Inv.erase_unknown (h : Inv s r) (ha : Agree s r) (hb : s.ifi2lag.lookup bond = none) :
    Inv s (r.erase bond) ∧ Agree s (r.erase bond) := by
  have hsame : ∀ b, Record.members (r.erase bond) b = r.members b := by
    intro b
    rw [Record.members_erase]
    split
    · next heq => exact (h.recOf b (heq ▸ Table.not_mem_iff_lookup.mpr hb)).symm
    · rfl
  refine ⟨⟨h.next_lt, h.lagOf, h.inj, h.bondOf, fun b hb' => ?_⟩, ?_, ha.2⟩
  · rw [hsame]
    exact h.recOf b hb'
  · simpa only [hsame] using ha.1

/-- The LAGs that are left, when that of a bond goes. -/
theorem Inv.bondOf_erase (h : Inv s r) (hb : s.ifi2lag.lookup bond = some lagId) (m : Nat)
    (hm : m ∈ s.swi.lag.erase (Nbi.getPortNum lagId)) : m < 2 ^ 16 ∧
      ∃ b, (s.ifi2lag.erase bond).lookup b = some (Nbi.combinePortType m .lag) := by
  obtain ⟨hmn, hm⟩ := AList.mem_erase.mp hm
  obtain ⟨hlt, b, hl⟩ := h.bondOf m hm
  refine ⟨hlt, b, ?_⟩
  rw [Table.lookup_erase_ite, if_neg, hl]
  rintro rfl
  rw [hb] at hl
  cases hl
  exact hmn (getPortNum_lag hlt).symm

theorem Inv.removeLag (h : Inv s r) (ha : Agree s r) (bond : Int) :
    Inv (s.removeLag bond).2 (r.erase bond) ∧ Agree (s.removeLag bond).2 (r.erase bond) := by
  cases hb : s.ifi2lag.lookup bond with
  | none =>
    simp only [Bonds.removeLag, hb]
    exact h.erase_unknown ha hb
  | some lagId =>
    simp only [Bonds.removeLag, hb, Lags.lagRemove, Int.lt_irrefl, if_false]
    have hold : ∀ b l, (s.ifi2lag.erase bond).lookup b = some l →
        b ≠ bond ∧ s.ifi2lag.lookup b = some l := by grind
    have hbondOf := h.bondOf_erase hb
    refine ⟨⟨h.next_lt, fun b l hl => ?_, fun b b' l hl hl' => ?_, hbondOf, fun b hb' => ?_⟩,
      fun b l hl => ?_, fun m hm => (hbondOf m hm).2⟩
    · obtain ⟨hbb, hl⟩ := hold b l hl
      obtain ⟨m, hlt, rfl, hm⟩ := h.lagOf b l hl
      refine ⟨m, hlt, rfl, AList.mem_erase.mpr ⟨fun e => hbb (h.num_inj hl hb ?_), hm⟩⟩
      rw [getPortNum_lag hlt]
      exact e
    · exact h.inj b b' l (hold b l hl).2 (hold b' l hl').2
    · rw [Record.members_erase]
      split
      · rfl
      · next hne => exact h.recOf b fun hm => hb' (AList.mem_erase.mpr ⟨hne, hm⟩)
    · obtain ⟨hbb, hl⟩ := hold b l hl
      rw [Record.members_erase, if_neg hbb, Table.lookup_erase_ite,
        if_neg fun e => hbb (h.num_inj hl hb e)]
      exact ha.1 b l hl

theorem Inv.addLag (h : Inv s r) (ha : Agree s r) (bond : Int) :
    Inv (s.addLag bond).2 r ∧
      (Agree (s.addLag bond).2 r ↔ (bond ∉ s.ifi2lag → s.FreshEmpty)) := by
  by_cases hn : s.swi.lagId ∈ s.swi.lag
  · rw [addLag_full hn]
    exact ⟨h, iff_of_true ha fun _ hn' => absurd hn hn'⟩
  · cases hb : s.ifi2lag.lookup bond with
    | none =>
      refine ⟨h.newLag hn hb, (h.agree_newLag ha hn hb).trans ?_⟩
      exact ⟨fun hf _ => hf, fun hf => hf (Table.not_mem_iff_lookup.mpr hb)⟩
    | some old =>
      obtain ⟨m, hlt, rfl, hm⟩ := h.lagOf bond old hb
      rw [addLag_again hn h.next_lt hb (by rw [getPortNum_lag hlt]; exact hm)]
      exact ⟨h.counter _, iff_of_true ha
        fun hnb => absurd (Table.mem_iff_lookup.mpr ⟨_, hb⟩) hnb⟩

theorem addLag_mem (hn : s.swi.lagId ∉ s.swi.lag) (hb : s.ifi2lag.lookup bond = none) :
    0 ≤ (s.addLag bond).1 := by
  rw [addLag_new hn hb]
  exact Int.natCast_nonneg _

theorem Inv.step_addLagMember (h : Inv s r) (ha : Agree s r) :
    let p := Proc.next r (.addLagMember bond portId) (s.addLagMember bond portId)
    p.Inv ∧ (p.Agree ↔ s.Keeps (.addLagMember bond portId)) := by
  cases hb : s.ifi2lag.lookup bond with
  | none =>
    have hnot : bond ∉ s.ifi2lag := Table.not_mem_iff_lookup.mpr hb
    simp only [addLagMember, hb, Keeps]
    by_cases hn : s.swi.lagId ∈ s.swi.lag
    · have hneg : (-EINVAL : Int) < 0 := by decide
      rw [addLag_full hn]
      simp only [hneg, if_true, Proc.next, Record.note, hnot, not_false_eq_true, or_true]
      exact ⟨h, iff_of_true ha fun _ => ⟨.inr hn, fun hn' => absurd hn hn'⟩⟩
    · have hpos := addLag_mem hn hb
      rw [if_neg (by omega)]
      by_cases hp : portId = 0
      · simp only [hp, if_true, Proc.next, Record.note, true_or]
        obtain ⟨hi, hiff⟩ := h.addLag ha bond
        exact ⟨hi, hiff.trans (by simp [hnot])⟩
      · simp [hp, hnot, hn, Proc.next, Proc.Inv, Proc.Agree]
  | some lagId =>
    have hmem : bond ∈ s.ifi2lag := Table.mem_iff_lookup.mpr ⟨_, hb⟩
    have hkeeps : s.Keeps (.addLagMember bond portId) := fun hnb => absurd hmem hnb
    simp only [addLagMember, hb]
    by_cases hp : portId = 0
    · simp only [hp, if_true, Proc.next, Record.note, true_or]
      exact ⟨h, iff_of_true ha (hp ▸ hkeeps)⟩
    · obtain ⟨m, hlt, rfl, -⟩ := h.lagOf bond _ hb
      obtain ⟨hg, hl⟩ := ha.1 bond _ hb
      rw [Lags.lagAddMember_eq portId 0 (by simp) hl]
      simp only [hp, if_false, Proc.next, Record.note, hmem, not_true_eq_false, or_self]
      refine ⟨h.members_update hb _ rfl rfl fun n => Table.lookup_insert_ite _ _ _ _,
        iff_of_true ?_ hkeeps⟩
      refine Iff.mpr (h.agree_update ha hb _ rfl rfl (fun n => Table.lookup_insert_ite _ _ _ _)
        fun l hl => ?_) ?_
      · simp [hl]
      · rw [getMembersByPortId, AList.lookup_insert]
        exact congrArg (insert portId) hg

theorem Inv.step_removeLagMember (h : Inv s r) (ha : Agree s r) :
    let p := Proc.next r (.removeLagMember bond portId) (s.removeLagMember bond portId)
    p.Inv ∧ (p.Agree ↔ s.Keeps (.removeLagMember bond portId)) := by
  cases hb : s.ifi2lag.lookup bond with
  | none => simp [removeLagMember, hb, Keeps, Proc.next, Proc.Inv, Proc.Agree]
  | some lagId =>
    simp only [removeLagMember, hb]
    by_cases hp : portId = 0
    · simp only [hp, if_true, Proc.next, Record.note]
      exact ⟨h, iff_of_true ha fun _ _ hne => absurd rfl hne⟩
    · have hl : Nbi.isLag lagId = true := by
        obtain ⟨m, -, rfl, -⟩ := h.lagOf bond lagId hb
        simp
      obtain ⟨hg, hset⟩ := ha.1 bond lagId hb
      have hkeeps : s.Keeps (.removeLagMember bond portId) ↔ ∅ = (r.members bond).erase portId := by
        rw [eq_comm, Finset.erase_eq_empty_iff, ← Finset.subset_singleton_iff, ← hg]
        exact ⟨fun hk => hk lagId hb hp, fun hs l hl _ => by rw [hb] at hl; cases hl; exact hs⟩
      rw [hkeeps]
      simp only [hp, if_false, Proc.next, Record.note]
      by_cases hm : lagId ∈ s.lagMembers
      · simp only [hm, if_true]
        have hlag := Lags.lookup_lagRemoveMember portId 0 hl hset
        have hc := Lags.lagId_lagRemoveMember s.swi lagId portId 0
        refine ⟨h.members_update hb _ rfl hc hlag,
          Iff.trans (h.agree_update ha hb _ rfl hc hlag fun l hl => ?_) ?_⟩
        · simp [hl]
        · simp [getMembersByPortId]
      · -- Without an entry there is no member to remove.
        simp only [hm, if_false]
        have hnone : r.members bond = ∅ := by
          rw [← hg, getMembersByPortId, Table.not_mem_iff_lookup.mp hm]; rfl
        rw [hnone] at hset ⊢
        have hlag : ∀ n, s.swi.lag.lookup n =
            if n = Nbi.getPortNum lagId then some ∅ else s.swi.lag.lookup n := by
          intro n
          split
          · subst_vars; exact hset
          · rfl
        exact ⟨h.members_update hb s rfl rfl hlag,
          iff_of_true ((h.agree_update ha hb s rfl rfl hlag fun _ _ => rfl).mpr (hg.trans hnone)) rfl⟩

/-- One step from a state in agreement: it stays in agreement exactly if it is one of those that
keep track. -/
theorem Inv.step (h : Inv s r) (ha : Agree s r) (e : Ev) :
    let p := Proc.step (.running s r) e
    p.Inv ∧ (p.Agree ↔ s.Keeps e) := by
  cases e with
  | addLag bond => exact h.addLag ha bond
  | removeLag bond =>
    obtain ⟨hi, ha'⟩ := h.removeLag ha bond
    exact ⟨hi, iff_of_true ha' trivial⟩
  | addLagMember bond portId => exact h.step_addLagMember ha
  | removeLagMember bond portId => exact h.step_removeLagMember ha

end Step

/-! ## Runs -/

/-- **The two copies of the members.** In every state of a run the members of every LAG are the
ports added and not removed since, in `lag_members` and in `controller::lag`, and no `end()`
iterator was used, exactly if every step of the run keeps track of the members. -/
theorem agree_iff_along (es : List Ev) :
    (∀ n, (run Proc.step Proc.init (es.take n)).Agree) ↔ Along Proc.step Proc.Keeps Proc.init es := by
  refine along_iff_of_inv (s := Proc.init) (I := Proc.Inv) inv_init ?_ ?_ ?_ es
  · exact ⟨fun _ _ h => (by cases h), fun _ h => (by cases h)⟩
  · rintro (⟨s, r⟩ | c) e hi ha
    · exact (Bonds.Inv.step hi ha e).1
    · trivial
  · rintro (⟨s, r⟩ | c) e hi ha
    · exact (Bonds.Inv.step hi ha e).2
    · exact iff_of_true ha trivial

/-- A bond gets two members and loses one: the other is gone from `lag_members`. -/
theorem removeMember_not_agree :
    ¬ (run Proc.step Proc.init
      [.addLag 5, .addLagMember 5 1, .addLagMember 5 2, .removeLagMember 5 1]).Agree := by
  intro h
  have := (h.1 5 (Nbi.combinePortType 1 .lag) (by decide)).1
  revert this
  decide

end Bonds

end Basebox
