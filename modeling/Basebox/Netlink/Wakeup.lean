import Basebox.Lib.Loop
import Mathlib.Algebra.Ring.Nat
import Mathlib.Data.List.Range

/-!
# The wakeups of the netlink thread (`src/netlink/cnetlink.cc`)

`handle_wakeup` takes a few items from each of three queues (objects of libnl, packets, FDB
timeouts) and asks for another wakeup while one of the queues is not empty.

* `handleWakeup`: one call, with the result whether it asks for another one.
* `settles_iff`: the calls come to an end, and each that asks for another one leaves fewer items,
  exactly if the FDB timeouts can be handled. They are taken from their queue only while there is a
  bridge; without one the call puts them back and asks for the next wakeup, for ever.

Nothing arrives between the calls. What a handler does elsewhere is left out, except that the
objects of libnl create and delete the bridge (`apply`).
-/

namespace Basebox

/-- `cnetlink::nl_state`. -/
inductive NlState where
  | running
  | init
  | shutdown
  | stopped
  deriving DecidableEq

/-- The queues of `cnetlink`. -/
structure Cnetlink (Obj Pkt Fdb : Type) where
  /-- There is a switch. -/
  swi : Bool := true
  state : NlState := .running
  nlObjs : List Obj := []
  packetIn : List Pkt := []
  fdbEvts : List Fdb := []
  /-- There is a bridge. -/
  bridge : Bool := false

namespace Cnetlink

variable {Obj Pkt Fdb : Type}

/-- `nl_proc_max`. -/
def nlProcMax : Nat := 10

section Handlers

variable (apply : Obj → Bool → Bool)

/-- The loop over `nl_objs`, with `n` turns left. -/
def applyObjs : Nat → Cnetlink Obj Pkt Fdb → Cnetlink Obj Pkt Fdb
  | 0, s => s
  | n + 1, s =>
    match s.nlObjs with
    | [] => s
    | obj :: objs =>
      if s.state = .running then applyObjs n { s with nlObjs := objs, bridge := apply obj s.bridge }
      else s

/-- A loop that handles the items of a queue while `c` holds, with `n` turns left: the items that
are not handled. -/
def unprocessed {α : Type} (c : Bool) : Nat → List α → List α
  | 0, l => l
  | _ + 1, [] => []
  | n + 1, x :: l => if c then unprocessed c n l else x :: l

/-- `handle_source_mac_learn`: what is not handled goes back to the front of the queue. The `int size`
that it returns is the number itself here: the queues hold fewer than 2 ^ 31 items in this part of the
model (`Queues.sizeNonzero` has the conversion, and what a longer queue does). -/
def handleSourceMacLearn (s : Cnetlink Obj Pkt Fdb) : Nat × Cnetlink Obj Pkt Fdb :=
  let rest := unprocessed (decide (s.state = .running)) nlProcMax s.packetIn
  (rest.length, { s with packetIn := rest })

/-- `handle_fdb_timeout`, with its `int size` as in `handleSourceMacLearn`. -/
def handleFdbTimeout (s : Cnetlink Obj Pkt Fdb) : Nat × Cnetlink Obj Pkt Fdb :=
  let rest := unprocessed (s.bridge && decide (s.state = .running)) nlProcMax s.fdbEvts
  (rest.length, { s with fdbEvts := rest })

/-- The part of `handle_wakeup` after the switch over the state. -/
def process (s : Cnetlink Obj Pkt Fdb) : Cnetlink Obj Pkt Fdb × Bool :=
  let s := applyObjs apply nlProcMax s
  let (packets, s) := s.handleSourceMacLearn
  let (evts, s) := s.handleFdbTimeout
  let doWakeup := packets != 0 || evts != 0
  (s, doWakeup || s.nlObjs.length != 0)

/-- `handle_wakeup`, and whether it calls `wakeup`. -/
def handleWakeup (s : Cnetlink Obj Pkt Fdb) : Cnetlink Obj Pkt Fdb × Bool :=
  if !s.swi then (s, false)
  else
    match s.state with
    | .init => process apply { s with state := .running }
    | .running => process apply s
    | .shutdown => ({ s with state := .stopped }, false)
    | .stopped => (s, false)

/-- The state after a call. -/
def wake (s : Cnetlink Obj Pkt Fdb) : Cnetlink Obj Pkt Fdb := (handleWakeup apply s).1

/-- The call asks for another one. -/
def rearms (s : Cnetlink Obj Pkt Fdb) : Bool := (handleWakeup apply s).2

/-- The number of items in the queues. -/
def queued (s : Cnetlink Obj Pkt Fdb) : Nat :=
  s.nlObjs.length + s.packetIn.length + s.fdbEvts.length

/-- The chain of calls is finite, and each call in it that asks for another one leaves fewer
items. -/
def Settles (s : Cnetlink Obj Pkt Fdb) : Prop :=
  (∃ n, whileLoop (rearms apply) (wake apply) n s ≠ none) ∧
    ∀ n, (∀ m ≤ n, rearms apply ((wake apply)^[m] s) = true) →
      ((wake apply)^[n + 1] s).queued < ((wake apply)^[n] s).queued

/-- There is a bridge after these objects. -/
def bridgeAfter (objs : List Obj) (bridge : Bool) : Bool :=
  objs.foldl (fun bridge obj => apply obj bridge) bridge

/-- The number of calls that find a bridge, of those that it takes to handle the objects. -/
def bridgeCalls (objs : List Obj) (bridge : Bool) : Nat :=
  (List.range (max 1 ((objs.length + (nlProcMax - 1)) / nlProcMax))).countP fun j =>
    bridgeAfter apply (objs.take (nlProcMax * (j + 1))) bridge

/-- There is a bridge in the end, or the FDB timeouts are handled before it goes. -/
def CanHandle (s : Cnetlink Obj Pkt Fdb) : Prop :=
  bridgeAfter apply s.nlObjs s.bridge = true ∨
    s.fdbEvts.length ≤ nlProcMax * bridgeCalls apply s.nlObjs s.bridge

/-- The call comes to the queues. -/
def Active (s : Cnetlink Obj Pkt Fdb) : Prop :=
  s.swi = true ∧ (s.state = .running ∨ s.state = .init)

end Handlers

/-! ## One call -/

section Call

variable {apply : Obj → Bool → Bool} {s : Cnetlink Obj Pkt Fdb}

theorem unprocessed_eq {α : Type} (c : Bool) (n : Nat) (l : List α) :
    unprocessed c n l = if c then l.drop n else l := by
  induction n generalizing l with
  | zero => cases c <;> rfl
  | succ n ih =>
    cases l with
    | nil => cases c <;> rfl
    | cons x l => cases c <;> simp [unprocessed, ih]

theorem applyObjs_eq (n : Nat) (h : s.state = .running) :
    applyObjs apply n s =
      { s with
        nlObjs := s.nlObjs.drop n
        bridge := bridgeAfter apply (s.nlObjs.take n) s.bridge } := by
  induction n generalizing s with
  | zero => rfl
  | succ n ih =>
    obtain ⟨swi, state, objs, pkts, evts, bridge⟩ := s
    simp only at h
    cases objs with
    | nil => simp [applyObjs, bridgeAfter]
    | cons obj objs =>
      rw [applyObjs]
      simp only [h, if_true]
      rw [ih rfl]
      rfl

/-- What a call does to the queues. -/
theorem process_eq (h : s.state = .running) :
    (process apply s).1 =
      { s with
        nlObjs := s.nlObjs.drop nlProcMax
        packetIn := s.packetIn.drop nlProcMax
        bridge := bridgeAfter apply (s.nlObjs.take nlProcMax) s.bridge
        fdbEvts := if bridgeAfter apply (s.nlObjs.take nlProcMax) s.bridge then
          s.fdbEvts.drop nlProcMax else s.fdbEvts } ∧
    ((process apply s).2 = true ↔ (process apply s).1.queued ≠ 0) := by
  constructor
  · simp [process, applyObjs_eq nlProcMax h, handleSourceMacLearn, handleFdbTimeout,
      unprocessed_eq, h]
  · simp only [process, handleSourceMacLearn, handleFdbTimeout, queued]
    simp only [Bool.or_eq_true, bne_iff_ne]
    omega

theorem handleWakeup_active (h : s.Active) :
    handleWakeup apply s = process apply { s with state := .running } := by
  obtain ⟨swi, state, objs, pkts, evts, bridge⟩ := s
  obtain ⟨hswi, hst⟩ := h
  simp only at hswi hst
  subst hswi
  rcases hst with rfl | rfl <;> rfl

theorem wake_active (h : s.Active) :
    wake apply s =
      { s with
        state := .running
        nlObjs := s.nlObjs.drop nlProcMax
        packetIn := s.packetIn.drop nlProcMax
        bridge := bridgeAfter apply (s.nlObjs.take nlProcMax) s.bridge
        fdbEvts := if bridgeAfter apply (s.nlObjs.take nlProcMax) s.bridge then
          s.fdbEvts.drop nlProcMax else s.fdbEvts } := by
  rw [wake, handleWakeup_active h, (process_eq rfl).1]

theorem rearms_active (h : s.Active) :
    rearms apply s = true ↔ (wake apply s).queued ≠ 0 := by
  rw [rearms, wake, handleWakeup_active h, (process_eq rfl).2]

theorem rearms_of_not_active (h : ¬ s.Active) : rearms apply s = false := by
  unfold rearms handleWakeup
  cases hswi : s.swi with
  | false => rfl
  | true =>
    cases hst : s.state with
    | running => exact absurd ⟨hswi, .inl hst⟩ h
    | init => exact absurd ⟨hswi, .inr hst⟩ h
    | shutdown | stopped => rfl

theorem active_wake (h : s.Active) : (wake apply s).Active := by
  rw [wake_active h]
  exact ⟨h.1, .inl rfl⟩

/-! ## The chain of calls -/

/-- The last call. -/
theorem settles_of_not_rearms (h : rearms apply s = false) : Settles apply s := by
  refine ⟨⟨1, ?_⟩, fun n hn => ?_⟩
  · simp [whileLoop, h]
  · have h0 := hn 0 (Nat.zero_le n)
    rw [Function.iterate_zero, id, h] at h0
    cases h0

/-- A call that asks for another one. -/
theorem settles_iff_of_rearms (h : rearms apply s = true) :
    Settles apply s ↔ (wake apply s).queued < s.queued ∧ Settles apply (wake apply s) := by
  have hloop : ∀ n, whileLoop (rearms apply) (wake apply) (n + 1) s =
      whileLoop (rearms apply) (wake apply) n (wake apply s) := by
    intro n
    rw [whileLoop, if_pos h]
  constructor
  · rintro ⟨⟨n, hn⟩, hdec⟩
    refine ⟨hdec 0 fun m hm => ?_, ⟨n, ?_⟩, fun k hk => ?_⟩
    · obtain rfl : m = 0 := by omega
      exact h
    · cases n with
      | zero => exact absurd rfl hn
      | succ n =>
        rw [hloop] at hn
        intro hnone
        have := whileLoop_eq_none.mp hnone
        exact hn (whileLoop_eq_none.mpr fun i hi => this i (by omega))
    · refine hdec (k + 1) fun m hm => ?_
      cases m with
      | zero => exact h
      | succ m => exact hk m (by omega)
  · rintro ⟨hlt, ⟨n, hn⟩, hdec⟩
    refine ⟨⟨n + 1, by rw [hloop]; exact hn⟩, fun k hk => ?_⟩
    cases k with
    | zero => exact hlt
    | succ k => exact hdec k fun m hm => hk (m + 1) (by omega)

theorem bridgeAfter_append (l m : List Obj) (b : Bool) :
    bridgeAfter apply (l ++ m) b = bridgeAfter apply m (bridgeAfter apply l b) :=
  List.foldl_append

theorem bridgeAfter_drop (n : Nat) (l : List Obj) (b : Bool) :
    bridgeAfter apply (l.drop n) (bridgeAfter apply (l.take n) b) = bridgeAfter apply l b := by
  rw [← bridgeAfter_append, List.take_append_drop]

/-- The calls that the objects take: the first one, and those for the rest. -/
theorem bridgeCalls_of_lt {objs : List Obj} (h : nlProcMax < objs.length) (b : Bool) :
    bridgeCalls apply objs b =
      (if bridgeAfter apply (objs.take nlProcMax) b then 1 else 0) +
        bridgeCalls apply (objs.drop nlProcMax) (bridgeAfter apply (objs.take nlProcMax) b) := by
  have hcalls : max 1 ((objs.length + (nlProcMax - 1)) / nlProcMax) =
      max 1 (((objs.drop nlProcMax).length + (nlProcMax - 1)) / nlProcMax) + 1 := by
    rw [List.length_drop]
    simp only [nlProcMax] at h ⊢
    omega
  have htake : ∀ j, objs.take (nlProcMax * (j + 1 + 1)) =
      objs.take nlProcMax ++ (objs.drop nlProcMax).take (nlProcMax * (j + 1)) := by
    intro j
    rw [Nat.mul_succ, Nat.add_comm, List.take_add]
  unfold bridgeCalls
  rw [hcalls, List.range_succ_eq_map, List.countP_cons, List.countP_map, Nat.add_comm]
  congr 1
  refine List.countP_congr fun j _ => ?_
  simp only [Function.comp_apply, Nat.succ_eq_add_one, htake, bridgeAfter_append]

theorem bridgeCalls_of_le {objs : List Obj} (h : objs.length ≤ nlProcMax) (b : Bool) :
    bridgeCalls apply objs b = if bridgeAfter apply objs b then 1 else 0 := by
  have hcalls : max 1 ((objs.length + (nlProcMax - 1)) / nlProcMax) = 1 := by
    simp only [nlProcMax] at h ⊢
    omega
  have htake : objs.take nlProcMax = objs := List.take_of_length_le h
  simp [bridgeCalls, hcalls, List.countP_cons, htake]

theorem canHandle_wake (h : s.Active) : CanHandle apply (wake apply s) ↔ CanHandle apply s := by
  rw [wake_active h]
  unfold CanHandle
  simp only [bridgeAfter_drop]
  refine or_congr_right' fun hend => ?_
  by_cases hlt : nlProcMax < s.nlObjs.length
  · rw [bridgeCalls_of_lt hlt]
    cases bridgeAfter apply (s.nlObjs.take nlProcMax) s.bridge with
    | false => simp
    | true =>
      simp only [if_true, List.length_drop]
      rw [Nat.mul_add]
      omega
  · -- the objects are all handled, and leave no bridge
    rw [Nat.not_lt] at hlt
    have htake : s.nlObjs.take nlProcMax = s.nlObjs := List.take_of_length_le hlt
    have hdrop : s.nlObjs.drop nlProcMax = [] := List.drop_eq_nil_of_le hlt
    rw [Bool.not_eq_true] at hend
    rw [htake, hdrop, hend, bridgeCalls_of_le hlt, hend, bridgeCalls_of_le (Nat.zero_le _)]
    simp [bridgeAfter]

/-- A call that asks for no other one has handled all FDB timeouts. -/
theorem canHandle_of_not_rearms (ha : s.Active) (h : rearms apply s = false) :
    CanHandle apply s := by
  rw [← canHandle_wake ha]
  have hq : (wake apply s).queued = 0 := by
    by_contra hne
    rw [(rearms_active ha).mpr hne] at h
    cases h
  right
  simp only [queued] at hq
  omega

/-- A call that leaves as many items as there were handles none: there are FDB timeouts only, and
no bridge. -/
theorem not_canHandle_of_stuck (ha : s.Active) (h : rearms apply s = true)
    (hle : s.queued ≤ (wake apply s).queued) : ¬ CanHandle apply s := by
  have hq := (rearms_active ha).mp h
  rw [wake_active ha] at hle hq
  simp only [queued, List.length_drop] at hle hq
  have hobjs : s.nlObjs = [] := by
    rw [← List.length_eq_zero_iff]
    cases hb : bridgeAfter apply (s.nlObjs.take nlProcMax) s.bridge with
    | false | true =>
      simp only [hb, if_true, Bool.false_eq_true, if_false, List.length_drop] at hle
      simp only [nlProcMax] at hle
      omega
  have hbridge : s.bridge = false := by
    by_contra hb
    rw [Bool.not_eq_false] at hb
    simp only [hobjs, List.take_nil, bridgeAfter, List.foldl_nil, hb, if_true, List.length_drop,
      List.length_nil] at hle hq
    simp only [nlProcMax] at hle hq
    omega
  have hevts : s.fdbEvts.length ≠ 0 := by
    intro hz
    simp only [hobjs, List.take_nil, bridgeAfter, List.foldl_nil, hbridge, Bool.false_eq_true,
      if_false, List.length_nil] at hle hq
    simp only [nlProcMax] at hle hq
    omega
  rintro (hb | hb)
  · rw [hobjs, hbridge] at hb
    cases hb
  · rw [hobjs, hbridge, bridgeCalls_of_le (Nat.zero_le _)] at hb
    simp only [bridgeAfter, List.foldl_nil, Bool.false_eq_true, if_false, Nat.mul_zero] at hb
    omega

end Call

theorem settles_iff_active (apply : Obj → Bool → Bool) (n : Nat) {s : Cnetlink Obj Pkt Fdb}
    (hn : s.queued ≤ n) (ha : s.Active) : Settles apply s ↔ CanHandle apply s := by
  induction n generalizing s with
  | zero =>
    cases h : rearms apply s with
    | false => exact iff_of_true (settles_of_not_rearms h) (canHandle_of_not_rearms ha h)
    | true =>
      refine iff_of_false (fun hs => ?_) (not_canHandle_of_stuck ha h (by omega))
      have := ((settles_iff_of_rearms h).mp hs).1
      omega
  | succ n ih =>
    cases h : rearms apply s with
    | false => exact iff_of_true (settles_of_not_rearms h) (canHandle_of_not_rearms ha h)
    | true =>
      by_cases hlt : (wake apply s).queued < s.queued
      · rw [settles_iff_of_rearms h, ih (by omega) (active_wake ha), canHandle_wake ha]
        exact and_iff_right hlt
      · refine iff_of_false (fun hs => ?_) (not_canHandle_of_stuck ha h (by omega))
        exact hlt ((settles_iff_of_rearms h).mp hs).1

/-- **The wakeups come to an end**, from any state and with any objects in the queue, exactly if
the FDB timeouts can be handled (or the call does not come to the queues at all). -/
theorem settles_iff (apply : Obj → Bool → Bool) (s : Cnetlink Obj Pkt Fdb) :
    Settles apply s ↔ (s.Active → CanHandle apply s) := by
  by_cases ha : s.Active
  · rw [settles_iff_active apply s.queued (Nat.le_refl _) ha]
    exact ⟨fun h _ => h, fun h => h ha⟩
  · exact iff_of_true (settles_of_not_rearms (rearms_of_not_active ha)) fun h => absurd h ha

/-- One FDB timeout, no bridge and nothing else to do. -/
def lateTimeout : Cnetlink Unit Unit Unit := { fdbEvts := [()] }

/-- The call leaves everything as it is and asks for the next one. -/
theorem lateTimeout_not_settles :
    ¬ Settles (fun _ bridge => bridge) lateTimeout ∧
    handleWakeup (fun _ bridge => bridge) lateTimeout = (lateTimeout, true) := by
  have hstep : handleWakeup (fun _ bridge => bridge) lateTimeout = (lateTimeout, true) := rfl
  refine ⟨fun h => ?_, hstep⟩
  have hrearms : rearms (fun _ bridge => bridge) lateTimeout = true := by rw [rearms, hstep]
  have hlt := ((settles_iff_of_rearms hrearms).mp h).1
  rw [wake, hstep] at hlt
  exact Nat.lt_irrefl _ hlt

end Cnetlink

end Basebox
