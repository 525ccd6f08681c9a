import Basebox.Lib.Run
import Basebox.Lib.SwapQueue
import Basebox.Netlink.Wakeup
import Basebox.Sai

/-!
# The queues of packets and FDB timeouts (`src/netlink/cnetlink.cc`)

`learn_l2` and `fdb_timeout` are called from other threads and append to `packet_in` and
`fdb_evts`; the netlink thread runs `handle_source_mac_learn` and `handle_fdb_timeout`, one after
the other. Each queue has a mutex of its own. A step is what one thread does without another one
seeing it half done: an append, a swap and a put-back under the mutex, and one turn of a loop over
a queue that only the netlink thread knows.

* `consume`: the next step of the netlink thread, by where it stands (`Pc`).
* `inOrder_iff_along`: over every interleaving, both queues are handed on in order and without
  loss, exactly if no put-back finds a multiple of 2^32 items: the rest is put back if
  `int size` is not zero.
-/

namespace Basebox

/-- Where the netlink thread stands in the two handlers. -/
inductive Pc where
  | idle
  /-- In the loop of `handle_source_mac_learn`, after `cnt` turns. -/
  | learn (cnt : Nat)
  | learnRest
  | fdbSwap
  /-- In the loop of `handle_fdb_timeout`, after `cnt` turns. -/
  | fdb (cnt : Nat)
  | fdbRest
  deriving DecidableEq

/-- `packet_in` and `fdb_evts`, each with the local queue of its handler. -/
structure Queues (Pkt Fdb : Type) where
  packetIn : SwapQueue Pkt := {}
  fdbEvts : SwapQueue Fdb := {}
  pc : Pc := .idle

namespace Queues

variable {Pkt Fdb : Type}

/-- `int size = queue.size(); if (size)`. -/
def sizeNonzero {α : Type} (l : List α) : Bool := u32 l.length != 0

/-- The next step of the netlink thread. `running` is the test of `state`, `bridge` that of the
pointer, both as they are at this moment. An item is handed on when it is taken: a packet to
`port_man->enqueue`, an event to the loop body. -/
def consume (s : Queues Pkt Fdb) (running bridge : Bool) : Queues Pkt Fdb :=
  match s.pc with
  | .idle => { s with packetIn := s.packetIn.swapOut, pc := .learn 0 }
  | .learn cnt =>
    if cnt < Cnetlink.nlProcMax ∧ s.packetIn.own ≠ [] ∧ running then
      { s with packetIn := s.packetIn.takeFront, pc := .learn (cnt + 1) }
    else { s with pc := .learnRest }
  | .learnRest =>
    { s with packetIn := s.packetIn.putBack (sizeNonzero s.packetIn.own), pc := .fdbSwap }
  | .fdbSwap => { s with fdbEvts := s.fdbEvts.swapOut, pc := .fdb 0 }
  | .fdb cnt =>
    if cnt < Cnetlink.nlProcMax ∧ s.fdbEvts.own ≠ [] ∧ bridge ∧ running then
      { s with fdbEvts := s.fdbEvts.takeFront, pc := .fdb (cnt + 1) }
    else { s with pc := .fdbRest }
  | .fdbRest =>
    { s with fdbEvts := s.fdbEvts.putBack (sizeNonzero s.fdbEvts.own), pc := .idle }

/-- The steps of the producers and of the netlink thread. -/
inductive Ev (Pkt Fdb : Type) where
  | learnL2 (pkt : Pkt)
  | fdbTimeout (fdbev : Fdb)
  | consumer (running bridge : Bool)

/-- The queues after one small step. -/
def step (s : Queues Pkt Fdb) : Ev Pkt Fdb → Queues Pkt Fdb
  | .learnL2 pkt => { s with packetIn := s.packetIn.arrive pkt }
  | .fdbTimeout fdbev => { s with fdbEvts := s.fdbEvts.arrive fdbev }
  | .consumer running bridge => s.consume running bridge

/-- Both queues are handed on in the order of arrival, each item at most once, and none is lost. -/
def InOrder (s : Queues Pkt Fdb) : Prop := s.packetIn.InOrder ∧ s.fdbEvts.InOrder

/-- The number of items is not mistaken for zero. -/
def Counted {α : Type} (l : List α) : Prop := 2 ^ 32 ∣ l.length → l = []

/-- The condition on a step: what is put back is counted. -/
def Keeps (s : Queues Pkt Fdb) : Ev Pkt Fdb → Prop
  | .consumer _ _ =>
    (s.pc = .learnRest → Counted s.packetIn.own) ∧ (s.pc = .fdbRest → Counted s.fdbEvts.own)
  | _ => True

/-- The local queue of a handler exists only while the handler runs. -/
structure Inv (s : Queues Pkt Fdb) : Prop where
  packets : (∀ cnt, s.pc ≠ .learn cnt) → s.pc ≠ .learnRest → s.packetIn.own = []
  events : (∀ cnt, s.pc ≠ .fdb cnt) → s.pc ≠ .fdbRest → s.fdbEvts.own = []

theorem inv_init : Inv ({} : Queues Pkt Fdb) := ⟨fun _ _ => rfl, fun _ _ => rfl⟩

section Step

variable {s : Queues Pkt Fdb}

theorem sizeNonzero_or_iff {α : Type} (l : List α) :
    sizeNonzero l = true ∨ l = [] ↔ Counted l := by
  simp only [sizeNonzero, u32, bne_iff_ne, Counted, Nat.dvd_iff_mod_eq_zero]
  tauto

theorem Inv.step (h : s.Inv) (e : Ev Pkt Fdb) : (s.step e).Inv := by
  cases e with
  | learnL2 pkt => exact ⟨h.packets, h.events⟩
  | fdbTimeout fdbev => exact ⟨h.packets, h.events⟩
  | consumer running bridge =>
    obtain ⟨hp, he⟩ := h
    change (s.consume running bridge).Inv
    unfold consume
    cases hpc : s.pc with
    | idle => exact ⟨by simp, fun _ _ => he (by simp [hpc]) (by simp [hpc])⟩
    | learn cnt =>
      have hev := he (by simp [hpc]) (by simp [hpc])
      dsimp only
      split
      · exact ⟨by simp, fun _ _ => hev⟩
      · exact ⟨by simp, fun _ _ => hev⟩
    | learnRest => exact ⟨fun _ _ => rfl, fun _ _ => he (by simp [hpc]) (by simp [hpc])⟩
    | fdbSwap => exact ⟨fun _ _ => hp (by simp [hpc]) (by simp [hpc]), by simp⟩
    | fdb cnt =>
      have hpk := hp (by simp [hpc]) (by simp [hpc])
      dsimp only
      split
      · exact ⟨fun _ _ => hpk, by simp⟩
      · exact ⟨fun _ _ => hpk, by simp⟩
    | fdbRest => exact ⟨fun _ _ => hp (by simp [hpc]) (by simp [hpc]), fun _ _ => rfl⟩

/-- A step keeps the order exactly if what it puts back is counted. -/
theorem inOrder_step_iff (hi : s.Inv) (h : s.InOrder) (e : Ev Pkt Fdb) :
    (s.step e).InOrder ↔ Keeps s e := by
  obtain ⟨hp, hf⟩ := h
  cases e with
  | learnL2 pkt => exact iff_of_true ⟨hp.arrive pkt, hf⟩ trivial
  | fdbTimeout fdbev => exact iff_of_true ⟨hp, hf.arrive fdbev⟩ trivial
  | consumer running bridge =>
    change (s.consume running bridge).InOrder ↔ _
    unfold consume Keeps
    cases hpc : s.pc with
    | idle =>
      have hown := hi.packets (by simp [hpc]) (by simp [hpc])
      exact iff_of_true ⟨hp.swapOut hown, hf⟩ (by simp)
    | learn cnt =>
      refine iff_of_true ?_ (by simp)
      dsimp only
      split
      · exact ⟨hp.takeFront, hf⟩
      · exact ⟨hp, hf⟩
    | learnRest =>
      simp only [InOrder, hf, and_true, SwapQueue.inOrder_putBack hp, sizeNonzero_or_iff]
      simp
    | fdbSwap =>
      have hown := hi.events (by simp [hpc]) (by simp [hpc])
      exact iff_of_true ⟨hp, hf.swapOut hown⟩ (by simp)
    | fdb cnt =>
      refine iff_of_true ?_ (by simp)
      dsimp only
      split
      · exact ⟨hp, hf.takeFront⟩
      · exact ⟨hp, hf⟩
    | fdbRest =>
      simp only [InOrder, hp, true_and, SwapQueue.inOrder_putBack hf, sizeNonzero_or_iff]
      simp

end Step

/-- For every interleaving of the producers with the steps of the netlink thread: in all states both
queues are handed on in order, without loss and without repetition, exactly if no put-back finds a
positive multiple of 2^32 items. -/
theorem inOrder_iff_along (es : List (Ev Pkt Fdb)) :
    (∀ n, (run step ({} : Queues Pkt Fdb) (es.take n)).InOrder) ↔ Along step Keeps {} es :=
  along_iff_of_inv inv_init ⟨rfl, rfl⟩ (fun _ e hi _ => hi.step e)
    (fun _ e hi h => inOrder_step_iff hi h e) es

/-- Arrivals while the netlink thread stands still. -/
theorem run_learnL2 (s : Queues Pkt Fdb) (pkt : Pkt) (n : Nat) :
    run step s (List.replicate n (.learnL2 pkt)) =
      { s with packetIn := { s.packetIn with
          shared := s.packetIn.shared ++ List.replicate n pkt
          arrived := s.packetIn.arrived ++ List.replicate n pkt } } := by
  induction n generalizing s with
  | zero => simp
  | succ n ih =>
    rw [List.replicate_succ, run_cons, ih, List.replicate_succ]
    simp [step, SwapQueue.arrive]

/-- While the netlink thread stands still, `n` packets more arrive than it hands on in one call. -/
def burst (n : Nat) : List (Ev Unit Unit) :=
  List.replicate (n + 10) (.learnL2 ()) ++ List.replicate 13 (.consumer true true)

/-- Ten packets are handed on, the others are dropped if their number is mistaken for zero. -/
theorem not_inOrder_of_mistaken {n : Nat} (hn : n ≠ 0) (h : u32 n = 0) :
    ¬ (run step ({} : Queues Unit Unit) (burst n)).InOrder := by
  have hsize : sizeNonzero (List.replicate n ()) = false := by simp [sizeNonzero, h]
  rw [burst, run_append, run_learnL2]
  rintro ⟨hp, -⟩
  have hlen := congrArg List.length hp
  simp [List.replicate_succ, step, consume, SwapQueue.swapOut, SwapQueue.takeFront,
    SwapQueue.putBack, Cnetlink.nlProcMax, hsize] at hlen
  omega

/-- 2^32 packets are left after ten turns of the loop: `size` is zero. -/
theorem packets2p32_not_inOrder :
    ¬ (run step ({} : Queues Unit Unit) (burst (2 ^ 32))).InOrder :=
  not_inOrder_of_mistaken (by decide) (by decide)

end Queues

end Basebox
