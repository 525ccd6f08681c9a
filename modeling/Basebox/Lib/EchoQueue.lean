import Mathlib.Data.List.Basic
import Mathlib.Data.Set.Subsingleton
import Mathlib.Logic.Function.Basic
import Mathlib.Tactic.SplitIfs

/-!
# A handler whose writes come back to it

A source has a value for each key and reports every change of it to a queue. The handler of the
queue keeps a copy. When a report does not agree with the copy, it writes the reported value to the
copy and to the source, and the source reports that write too if it changed anything. So a report
that was overtaken by another one undoes it.

* `EchoQueue`: the source, the queue and the copy (`cell`). `change`: the source changes by itself;
  `handle`: the handler takes the next report.
* `Note`: what a report says. A report that a value is gone may be one that the handler ignores
  (`keep`).
* `Coherent`: the last report of a key is about the value that the source has. It holds of every
  state that is reached (`coherent_change`, `coherent_handle`).
* `Calm`: from the first report that the handler does not ignore on, all reports of a key name one
  value.
* `settles_iff_calm`: left alone, the handler comes to an end with the queue exactly if all keys are
  calm. `handle_length`: it then takes at most two turns for each report.
* `Owned`: a key whose reports make the handler write nothing has at the source what the copy will
  have, written by the handler. It stays so while the source does not take a written value for its own
  (`Keeps`), and in an empty queue source and copy agree (`source_of_empty`).
-/

namespace Basebox

/-- A report. -/
inductive Note (V : Type) where
  /-- The value is `v`. -/
  | value (v : V)
  /-- There is no value any more. -/
  | gone
  /-- To be ignored. -/
  | keep
  deriving DecidableEq

/-- A value at the source, and whether the handler wrote it. -/
abbrev Sourced (V : Type) := V × Bool

/-- A source, the notes about its changes, and the copy that follows them. -/
structure EchoQueue (K V : Type) where
  source : K → Option (Sourced V)
  queue : List (K × Note V)
  cell : K → Option V

namespace EchoQueue

variable {K V : Type} [DecidableEq K]

/-- The reports of a key. -/
def notes (k : K) (queue : List (K × Note V)) : List (Note V) :=
  queue.filterMap fun e => if e.1 = k then some e.2 else none

section Notes

variable {k k' : K} {n : Note V} {queue : List (K × Note V)}

@[simp] theorem notes_nil : notes k ([] : List (K × Note V)) = [] := rfl

@[simp] theorem notes_cons_self : notes k ((k, n) :: queue) = n :: notes k queue := by
  simp [notes]

theorem notes_cons_of_ne (h : k' ≠ k) : notes k ((k', n) :: queue) = notes k queue := by
  simp [notes, h]

@[simp] theorem notes_concat_self : notes k (queue ++ [(k, n)]) = notes k queue ++ [n] := by
  simp [notes]

theorem notes_concat_of_ne (h : k' ≠ k) : notes k (queue ++ [(k', n)]) = notes k queue := by
  simp [notes, h]

end Notes

variable [DecidableEq V]

/-- The report of a change from `old` to `new`: that a value which the handler did not write is gone
is ignored. -/
def report (old new : Option (Sourced V)) : Note V :=
  match new, old with
  | some v, _ => .value v.1
  | none, some (_, true) => .gone
  | none, _ => .keep

/-- The source gets the value `x`. -/
def change (q : EchoQueue K V) (k : K) (x : Option (Sourced V)) : EchoQueue K V :=
  { q with
    source := Function.update q.source k x
    queue := if q.source k = x then q.queue else q.queue ++ [(k, report (q.source k) x)] }

/-- The handler writes `v` to the copy and to the source. -/
def write (q : EchoQueue K V) (k : K) (v : V) : EchoQueue K V :=
  change { q with cell := Function.update q.cell k (some v) } k (some (v, true))

/-- The handler takes the next report. -/
def handle (q : EchoQueue K V) : EchoQueue K V :=
  match q.queue with
  | [] => q
  | (k, n) :: rest =>
    let q := { q with queue := rest }
    match n with
    | .keep => q
    | .gone => { q with cell := Function.update q.cell k none }
    | .value v => if q.cell k = some v then q else q.write k v

/-- A report that changes nothing when the copy is `c`. -/
def Idle (c : Option V) (n : Note V) : Prop := n = .keep ∨ ∃ v, n = .value v ∧ c = some v

instance (c : Option V) (n : Note V) : Decidable (Idle c n) :=
  match n with
  | .keep => .isTrue (.inl rfl)
  | .gone => .isFalse (by rintro (h | ⟨v, h, -⟩) <;> cases h)
  | .value v => decidable_of_iff (c = some v) (by simp [Idle])

/-- The reports from the first one on that changes something. -/
def pending (c : Option V) (ns : List (Note V)) : List (Note V) := ns.dropWhile fun n => Idle c n

/-- The values that reports name. -/
def values (ns : List (Note V)) : Set V := { v | Note.value v ∈ ns }

/-- The pending reports of the key name one value. -/
def Calm (q : EchoQueue K V) (k : K) : Prop :=
  (values (pending (q.cell k) (notes k q.queue))).Subsingleton

/-- The source has the value of the last report of the key. -/
def Coherent (q : EchoQueue K V) : Prop :=
  ∀ k v b, q.source k = some (v, b) →
    (notes k q.queue).getLast? = some (.value v) ∨ notes k q.queue = [] ∧ q.cell k = some v

/-- Left alone, the handler empties the queue. -/
def Settles (q : EchoQueue K V) : Prop := ∃ n, (handle^[n] q).queue = []

/-! ## The reports of one key -/

section Change

variable {k k' : K} {q : EchoQueue K V} {x : Option (Sourced V)}

theorem notes_change_self (h : q.source k ≠ x) :
    notes k (q.change k x).queue = notes k q.queue ++ [report (q.source k) x] := by
  simp [change, h]

theorem notes_change_of_eq (h : q.source k = x) : (q.change k x).queue = q.queue := by
  simp [change, h]

theorem notes_change_of_ne (h : k' ≠ k) :
    notes k (q.change k' x).queue = notes k q.queue := by
  unfold change
  split_ifs
  · rfl
  · exact notes_concat_of_ne h

end Change

/-! ## The source and its last report -/

section Coherent

variable {q : EchoQueue K V}

theorem coherent_change (h : q.Coherent) (k : K) (x : Option (Sourced V)) :
    (q.change k x).Coherent := by
  intro k' v b hs
  by_cases hk : k = k'
  · subst hk
    obtain rfl : x = some (v, b) := by simpa [change] using hs
    by_cases hx : q.source k = some (v, b)
    · rw [notes_change_of_eq hx]
      exact h k v b hx
    · rw [notes_change_self hx]
      left
      simp [report]
  · rw [notes_change_of_ne hk]
    refine h k' v b ?_
    simpa [change, Function.update_of_ne (Ne.symm hk)] using hs

/-- A write of the handler, whose report was the last one or was overtaken. -/
theorem coherent_write {k : K} {u : V} {rest : List (K × Note V)}
    (h : q.Coherent) (hq : q.queue = (k, .value u) :: rest) :
    (write { q with queue := rest } k u).Coherent := by
  intro k' v b hs
  by_cases hk : k = k'
  · subst hk
    obtain ⟨rfl, rfl⟩ : u = v ∧ true = b := by simpa [write, change] using hs
    by_cases hx : q.source k = some (u, true)
    · have hold := h k u true hx
      rw [hq, notes_cons_self] at hold
      have hlast := hold.resolve_right (by simp)
      have hqueue : (write { q with queue := rest } k u).queue = rest := notes_change_of_eq hx
      rw [hqueue]
      cases hn : notes k rest with
      | nil => exact .inr ⟨rfl, by simp [write, change]⟩
      | cons m ms =>
        left
        rwa [hn, List.getLast?_cons_cons] at hlast
    · left
      rw [write, notes_change_self (by exact hx)]
      simp [report]
  · have hs' : q.source k' = some (v, b) := by
      simpa [write, change, Function.update_of_ne (Ne.symm hk)] using hs
    have hold := h k' v b hs'
    rw [hq, notes_cons_of_ne hk] at hold
    rw [write, notes_change_of_ne hk]
    refine hold.imp_right fun ⟨hn, hc⟩ => ⟨hn, ?_⟩
    simpa [change, Function.update_of_ne (Ne.symm hk)] using hc

omit [DecidableEq V] in
/-- A report that is not of a value, or of the value of the copy, is dropped. -/
theorem coherent_drop {k : K} {n : Note V} {rest : List (K × Note V)} {c : K → Option V}
    (h : q.Coherent) (hq : q.queue = (k, n) :: rest) (hc : ∀ k' ≠ k, c k' = q.cell k')
    (hn : ∀ v, n = .value v → c k = some v) :
    Coherent { q with queue := rest, cell := c } := by
  intro k' v b hs
  have hold := h k' v b hs
  rw [hq] at hold
  by_cases hk : k = k'
  · subst hk
    rw [notes_cons_self] at hold
    have hlast := hold.resolve_right (by simp)
    cases hrest : notes k rest with
    | nil =>
      rw [hrest, List.getLast?_singleton, Option.some.injEq] at hlast
      exact .inr ⟨rfl, hn v hlast⟩
    | cons m ms =>
      left
      rwa [hrest, List.getLast?_cons_cons] at hlast
  · rw [notes_cons_of_ne hk, ← hc k' (Ne.symm hk)] at hold
    exact hold

theorem coherent_handle (h : q.Coherent) : q.handle.Coherent := by
  cases hq : q.queue with
  | nil => simpa [handle, hq] using h
  | cons e rest =>
    obtain ⟨k, n⟩ := e
    cases n with
    | keep =>
      simp only [handle, hq]
      exact coherent_drop h hq (fun _ _ => rfl) (by simp)
    | gone =>
      simp only [handle, hq]
      exact coherent_drop h hq (fun _ hk => Function.update_of_ne hk _ _) (by simp)
    | value v =>
      simp only [handle, hq]
      split_ifs with hc
      · exact coherent_drop h hq (fun _ _ => rfl) (by simpa using hc)
      · exact coherent_write h hq

end Coherent

/-! ## Calm keys stay calm, and others do not become calm -/

section Calm

variable {c : Option V} {ns : List (Note V)} {u v : V}

theorem mem_pending {n : Note V} (h : n ∈ ns) (hn : ¬ Idle c n) : n ∈ pending c ns := by
  unfold pending
  induction ns with
  | nil => cases h
  | cons m ms ih =>
    rw [List.dropWhile_cons]
    split_ifs with hm
    · rcases List.mem_cons.mp h with rfl | h
      · exact absurd (of_decide_eq_true hm) hn
      · exact ih h
    · exact h

theorem pending_cons_idle {n : Note V} (h : Idle c n) : pending c (n :: ns) = pending c ns := by
  simp [pending, h]

theorem pending_cons_of_not_idle {n : Note V} (h : ¬ Idle c n) :
    pending c (n :: ns) = n :: ns := by
  simp [pending, h]

theorem values_pending_subset : values (pending c ns) ⊆ values ns :=
  fun _ h => (List.dropWhile_suffix _).subset h

theorem getLast?_pending (h : pending c ns ≠ []) : (pending c ns).getLast? = ns.getLast? := by
  obtain ⟨front, hf⟩ := List.dropWhile_suffix (fun n => decide (Idle c n)) (l := ns)
  change front ++ pending c ns = ns at hf
  conv_rhs => rw [← hf]
  rw [List.getLast?_append_of_ne_nil _ h]

/-- Without a copy, nothing but ignored reports is idle. -/
theorem values_pending_none : values (pending none ns) = values ns :=
  Set.Subset.antisymm values_pending_subset fun v hv => mem_pending hv (by simp [Idle])

/-- After a write of `v`, whose report is the last one, the key is calm if all reports are of
`v`. -/
theorem pending_some_iff (h : ns = [] ∨ ns.getLast? = some (.value v)) :
    (values (pending (some v) ns)).Subsingleton ↔ ∀ u ∈ values ns, u = v := by
  constructor
  · intro hs u hu
    by_contra hne
    have hu' : Note.value u ∈ pending (some v) ns := mem_pending hu (by simp [Idle, Ne.symm hne])
    have hns : ns ≠ [] := by
      rintro rfl
      simp [values] at hu
    have hlast := getLast?_pending (List.ne_nil_of_mem hu')
    rw [h.resolve_left hns] at hlast
    exact hne (hs hu' (List.mem_of_getLast? hlast))
  · intro hall a ha b hb
    rw [hall a (values_pending_subset ha), hall b (values_pending_subset hb)]

omit [DecidableEq V] in
theorem subsingleton_cons_iff :
    (values (.value v :: ns)).Subsingleton ↔ ∀ u ∈ values ns, u = v := by
  constructor
  · intro h u hu
    exact h (List.mem_cons_of_mem _ hu) List.mem_cons_self
  · intro h a ha b hb
    have heq : ∀ w ∈ values (.value v :: ns), w = v := by
      intro w hw
      rcases List.mem_cons.mp hw with hw | hw
      · exact Note.value.inj hw
      · exact h w hw
    rw [heq a ha, heq b hb]

variable {q : EchoQueue K V} {k : K} {rest : List (K × Note V)}

/-- What a turn of the handler does to a key that the report is not of. -/
theorem handle_frame {n : Note V} (hq : q.queue = (k, n) :: rest) {k' : K} (hk : k ≠ k') :
    q.handle.cell k' = q.cell k' ∧ notes k' q.handle.queue = notes k' q.queue := by
  rw [hq, notes_cons_of_ne hk]
  cases n with
  | keep => simp [handle, hq]
  | gone => simp [handle, hq, Function.update_of_ne (Ne.symm hk)]
  | value v =>
    simp only [handle, hq]
    split_ifs
    · exact ⟨rfl, rfl⟩
    · refine ⟨?_, ?_⟩
      · simp [write, change, Function.update_of_ne (Ne.symm hk)]
      · rw [write, notes_change_of_ne hk]

/-- The reports of the key after a write: the last one is of the value that was written. -/
theorem notes_write (h : q.Coherent) (hq : q.queue = (k, .value v) :: rest) :
    (notes k (write { q with queue := rest } k v).queue = notes k rest ∨
      notes k (write { q with queue := rest } k v).queue = notes k rest ++ [.value v]) ∧
    (notes k (write { q with queue := rest } k v).queue = [] ∨
      (notes k (write { q with queue := rest } k v).queue).getLast? = some (.value v)) := by
  by_cases hx : q.source k = some (v, true)
  · have hqueue : (write { q with queue := rest } k v).queue = rest := notes_change_of_eq hx
    have hold := h k v true hx
    rw [hq, notes_cons_self] at hold
    have hlast := hold.resolve_right (by simp)
    rw [hqueue]
    refine ⟨.inl rfl, ?_⟩
    cases hn : notes k rest with
    | nil => exact .inl rfl
    | cons m ms => rw [hn, List.getLast?_cons_cons] at hlast; exact .inr hlast
  · have hnotes : notes k (write { q with queue := rest } k v).queue =
        notes k rest ++ [.value v] := by
      rw [write, notes_change_self (by exact hx)]
      rfl
    rw [hnotes]
    exact ⟨.inr rfl, .inr (by simp)⟩

/-- A turn of the handler makes no key calm and none restless. -/
theorem calm_handle (h : q.Coherent) (k' : K) : q.handle.Calm k' ↔ q.Calm k' := by
  cases hq : q.queue with
  | nil => simp [handle, hq]
  | cons e rest =>
    obtain ⟨k, n⟩ := e
    by_cases hk : k = k'
    · subst hk
      unfold Calm
      rw [hq, notes_cons_self]
      cases n with
      | keep =>
        rw [pending_cons_idle (.inl rfl)]
        simp only [handle, hq]
      | gone =>
        rw [pending_cons_of_not_idle (by simp [Idle])]
        simp only [handle, hq, Function.update_self]
        rw [values_pending_none]
        simp [values]
      | value v =>
        simp only [handle, hq]
        split_ifs with hc
        · rw [pending_cons_idle (.inr ⟨v, rfl, hc⟩)]
        · rw [pending_cons_of_not_idle (by simp [Idle, hc]), subsingleton_cons_iff]
          have hcell : (write { q with queue := rest } k v).cell k = some v := by
            simp [write, change]
          obtain ⟨hn, hlast⟩ := notes_write h hq
          rw [hcell, pending_some_iff hlast]
          rcases hn with hn | hn
          · rw [hn]
          · rw [hn]
            simp only [values, List.mem_append, List.mem_singleton, Set.mem_ofPred_eq,
              Note.value.injEq]
            exact ⟨fun hall u hu => hall u (.inl hu), fun hall u hu => hu.elim (hall u) id⟩
    · obtain ⟨hcell, hnotes⟩ := handle_frame hq hk
      unfold Calm
      rw [hcell, hnotes]

theorem coherent_iterate (h : q.Coherent) (n : Nat) : (handle^[n] q).Coherent := by
  induction n with
  | zero => exact h
  | succ n ih =>
    rw [Function.iterate_succ_apply']
    exact coherent_handle ih

theorem calm_iterate (h : q.Coherent) (n : Nat) (k : K) :
    (handle^[n] q).Calm k ↔ q.Calm k := by
  induction n with
  | zero => rfl
  | succ n ih => rw [Function.iterate_succ_apply', calm_handle (coherent_iterate h n), ih]

end Calm

/-! ## The end of the queue -/

section Measure

variable {q : EchoQueue K V} {k : K} {rest : List (K × Note V)}

/-- A report of a value that the handler has not written. -/
def fresh (source : K → Option (Sourced V)) (e : K × Note V) : Bool :=
  match e.2 with
  | .value v => source e.1 ≠ some (v, true)
  | _ => false

/-- Each report takes a turn, and one that is fresh may come back once. -/
def turns (q : EchoQueue K V) : Nat := q.queue.length + q.queue.countP (fresh q.source)

omit [DecidableEq K] in
theorem turns_le (q : EchoQueue K V) : q.turns ≤ 2 * q.queue.length := by
  have := List.countP_le_length (p := fresh q.source) (l := q.queue)
  unfold turns
  omega

/-- The reports of the key in the queue are of the value that is written. -/
theorem Calm.eq_of_mem {u v : V} (h : q.Calm k) (hq : q.queue = (k, .value v) :: rest)
    (hc : q.cell k ≠ some v) (hu : (k, Note.value u) ∈ rest) : u = v := by
  unfold Calm at h
  rw [hq, notes_cons_self, pending_cons_of_not_idle (by simp [Idle, hc]),
    subsingleton_cons_iff] at h
  refine h u ?_
  exact List.mem_filterMap.mpr ⟨_, hu, by simp⟩

theorem turns_handle (h : ∀ k, q.Calm k) (hne : q.queue ≠ []) : q.handle.turns < q.turns := by
  obtain ⟨⟨k, n⟩, rest, hq⟩ := List.exists_cons_of_ne_nil hne
  have hcons : rest.countP (fresh q.source) ≤ q.queue.countP (fresh q.source) := by
    rw [hq, List.countP_cons]
    omega
  have hlen : q.queue.length = rest.length + 1 := by rw [hq, List.length_cons]
  -- The report is dropped: the queue gets shorter.
  have hdrop : ∀ c : K → Option V, turns { q with queue := rest, cell := c } < q.turns := by
    intro c
    unfold turns
    simp only
    omega
  cases n with
  | keep => simpa only [handle, hq] using hdrop q.cell
  | gone => simpa only [handle, hq] using hdrop _
  | value v =>
    simp only [handle, hq]
    split_ifs with hc
    · exact hdrop q.cell
    · by_cases hx : q.source k = some (v, true)
      · have hs : Function.update q.source k (some (v, true)) = q.source := by
          rw [← hx, Function.update_eq_self]
        have hw : write { q with queue := rest } k v =
            { q with queue := rest, cell := Function.update q.cell k (some v) } := by
          simp only [write, change, hs, if_pos hx]
        rw [hw]
        exact hdrop _
      · -- It comes back, but no report of the key is fresh any more.
        have hw : write { q with queue := rest } k v =
            { source := Function.update q.source k (some (v, true))
              queue := rest ++ [(k, .value v)]
              cell := Function.update q.cell k (some v) } := by
          simp only [write, change, if_neg hx, report]
        have hfresh : (rest ++ [(k, Note.value v)]).countP
            (fresh (Function.update q.source k (some (v, true)))) ≤
              rest.countP (fresh q.source) := by
          rw [List.countP_append]
          have hlast : [(k, Note.value v)].countP
              (fresh (Function.update q.source k (some (v, true)))) = 0 := by
            simp [fresh]
          rw [hlast, Nat.add_zero]
          refine List.countP_mono_left fun e he hf => ?_
          obtain ⟨k', n⟩ := e
          cases n with
          | keep => exact hf
          | gone => exact hf
          | value u =>
            by_cases hk : k' = k
            · subst hk
              obtain rfl := (h k').eq_of_mem hq hc he
              simp [fresh] at hf
            · simpa [fresh, Function.update_of_ne hk] using hf
        have hhead : q.queue.countP (fresh q.source) = rest.countP (fresh q.source) + 1 := by
          rw [hq, List.countP_cons]
          simp [fresh, hx]
        rw [hw]
        unfold turns
        simp only [List.length_append, List.length_singleton]
        omega

/-- A calm queue is empty after as many turns as its measure. -/
theorem handle_length (hco : q.Coherent) (h : ∀ k, q.Calm k) {n : Nat} (hn : q.turns ≤ n) :
    (handle^[n] q).queue = [] := by
  induction n generalizing q with
  | zero =>
    have hlen : q.queue.length = 0 := by
      unfold turns at hn
      omega
    exact List.eq_nil_of_length_eq_zero hlen
  | succ n ih =>
    rw [Function.iterate_succ_apply]
    by_cases hne : q.queue = []
    · have hs : q.handle = q := by simp [handle, hne]
      rw [hs]
      exact ih hco h (by simp [turns, hne])
    · have hlt := turns_handle h hne
      exact ih (coherent_handle hco) (fun k => (calm_handle hco k).mpr (h k)) (by omega)

/-- **The queue is emptied exactly if all keys are calm.** -/
theorem settles_iff_calm (hco : q.Coherent) : q.Settles ↔ ∀ k, q.Calm k := by
  constructor
  · rintro ⟨n, hn⟩ k
    rw [← calm_iterate hco n k]
    unfold Calm
    rw [hn]
    simp [pending, values]
  · intro h
    exact ⟨q.turns, handle_length hco h le_rfl⟩

omit [DecidableEq V] in
/-- In an empty queue the copy has what the source has. -/
theorem cell_of_empty (hco : q.Coherent) (hq : q.queue = []) {k : K} {v : V} {b : Bool}
    (hs : q.source k = some (v, b)) : q.cell k = some v := by
  have := hco k v b hs
  rw [hq] at this
  simpa using this

end Measure

/-! ## What the copy has, the source has too -/

section Owned

/-- What the copy of a key is after its reports, if none of them makes the handler write. -/
def drain (c : Option V) : List (Note V) → Option (Option V)
  | [] => some c
  | .keep :: ns => drain c ns
  | .gone :: ns => drain none ns
  | .value v :: ns => if c = some v then drain c ns else none

/-- The source has what the copy will have, as the handler wrote it. -/
def Owned (q : EchoQueue K V) : Prop :=
  ∀ k c, drain (q.cell k) (notes k q.queue) = some c → q.source k = c.map (·, true)

/-- The source does not take a value that the handler wrote for one of its own. -/
def Keeps (q : EchoQueue K V) (k : K) (x : Option (Sourced V)) : Prop :=
  ∀ v, q.source k = some (v, true) → x ≠ some (v, false)

variable {q : EchoQueue K V} {k : K} {c c' : Option V} {ns : List (Note V)} {v : V}

theorem drain_append (c : Option V) (ns ms : List (Note V)) :
    drain c (ns ++ ms) = (drain c ns).bind fun c => drain c ms := by
  induction ns generalizing c with
  | nil => rfl
  | cons n ns ih =>
    cases n with
    | keep => exact ih c
    | gone => exact ih none
    | value v =>
      simp only [List.cons_append, drain]
      split_ifs
      · exact ih c
      · rfl

theorem drain_value (h : drain c [.value v] = some c') : c = some v ∧ c' = some v := by
  simp only [drain] at h
  split_ifs at h with hc
  exact ⟨hc, (Option.some.inj h).symm.trans hc⟩

/-- After reports whose last one is of `v`, a copy that has been left alone has `v`. -/
theorem drain_last (hlast : ns = [] ∨ ns.getLast? = some (.value v))
    (h : drain (some v) ns = some c) : c = some v := by
  rcases hlast with rfl | hlast
  · exact (Option.some.inj h).symm
  · obtain ⟨ms, rfl⟩ := List.getLast?_eq_some_iff.mp hlast
    rw [drain_append] at h
    obtain ⟨d, -, hd⟩ := Option.bind_eq_some_iff.mp h
    exact (drain_value hd).2

theorem owned_change (h : q.Owned) {x : Option (Sourced V)} (hx : q.Keeps k x) :
    (q.change k x).Owned := by
  intro k' c hc
  by_cases hk : k = k'
  · subst hk
    have hsource : (q.change k x).source k = x := by simp [change]
    by_cases hsame : q.source k = x
    · rw [notes_change_of_eq hsame] at hc
      rw [hsource, ← hsame]
      exact h k c hc
    · rw [notes_change_self hsame, drain_append] at hc
      obtain ⟨d, hd, hlast⟩ := Option.bind_eq_some_iff.mp hc
      have hold : q.source k = d.map (·, true) := h k d hd
      rw [hsource]
      cases x with
      | some e =>
        obtain ⟨v, b⟩ := e
        obtain ⟨rfl, rfl⟩ := drain_value (hlast : drain d [.value v] = some c)
        cases b with
        | true => rfl
        | false => exact absurd rfl (hx v hold)
      | none =>
        cases d with
        | none => exact absurd hold hsame
        | some v =>
          rw [hold] at hlast
          cases hlast
          rfl
  · have hsource : (q.change k x).source k' = q.source k' := by
      simp [change, Function.update_of_ne (Ne.symm hk)]
    rw [notes_change_of_ne hk] at hc
    rw [hsource]
    exact h k' c hc

theorem owned_handle (hco : q.Coherent) (h : q.Owned) : q.handle.Owned := by
  cases hq : q.queue with
  | nil => simpa [handle, hq] using h
  | cons e rest =>
    obtain ⟨k, n⟩ := e
    intro k' c hc
    by_cases hk : k = k'
    · subst hk
      have hold := h k
      rw [hq, notes_cons_self] at hold
      cases n with
      | keep =>
        simp only [handle, hq] at hc ⊢
        exact hold c hc
      | gone =>
        simp only [handle, hq, Function.update_self] at hc ⊢
        exact hold c hc
      | value v =>
        simp only [handle, hq] at hc ⊢
        split_ifs at hc ⊢ with hv
        · exact hold c (by rw [drain, if_pos hv]; exact hc)
        · -- The handler writes the value, and its report is the last one.
          have hcell : (write { q with queue := rest } k v).cell k = some v := by
            simp [write, change]
          rw [hcell] at hc
          rw [drain_last (notes_write hco hq).2 hc]
          simp [write, change]
    · obtain ⟨hcell, hnotes⟩ := handle_frame hq hk
      have hsource : q.handle.source k' = q.source k' := by
        cases n with
        | keep => simp [handle, hq]
        | gone => simp [handle, hq]
        | value v =>
          simp only [handle, hq]
          split_ifs
          · rfl
          · simp [write, change, Function.update_of_ne (Ne.symm hk)]
      rw [hcell, hnotes] at hc
      rw [hsource]
      exact h k' c hc

theorem owned_iterate (hco : q.Coherent) (h : q.Owned) (n : Nat) : (handle^[n] q).Owned := by
  induction n with
  | zero => exact h
  | succ n ih =>
    rw [Function.iterate_succ_apply']
    exact owned_handle (coherent_iterate hco n) ih

/-- In an empty queue the source has what the copy has, and nothing else. -/
theorem source_of_empty (h : q.Owned) (hq : q.queue = []) (k : K) :
    q.source k = (q.cell k).map (·, true) :=
  h k (q.cell k) (by rw [hq]; rfl)

end Owned

end EchoQueue

end Basebox
