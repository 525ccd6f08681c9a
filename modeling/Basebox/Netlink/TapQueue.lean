import Basebox.Lib.Lists
import Basebox.Lib.Run
import Basebox.Lib.SwapQueue

/-!
# The outgoing queue of the tap devices (`src/netlink/tap_io.cc`)

`enqueue` is called from the netlink thread and appends to `pout_queue`; the thread of `tap_io`
runs `tx`, which swaps the queue out and writes the packets to their descriptors, one after the
other. A step is what one thread does without another one seeing it half done: an append, a swap
and a put-back under the mutex, and one turn of the loop over the queue of `tx`.

* `turn`: one turn of the loop of `tx`, by what `write` returns.
* `Good`: a packet is freed once, after it was written, dropped or refused, and not while it is
  queued; the packets of a descriptor are written in the order of `pout_queue`; and only a failed
  write to its own descriptor has a packet dropped.
* `good_iff_along`: over every interleaving, all states are good exactly if `write` fails only when
  all packets in the queue of `tx` are for the descriptor that it fails on. `release_packets` drops
  the whole queue.
-/

namespace Basebox

/-- `enum tap_io_event`. -/
inductive TapIoEvent where
  | tapIoAdd
  | tapIoRem
  deriving DecidableEq

/-- What `write` returns: no error, or `errno`. -/
inductive WriteResult where
  | ok
  | eagain
  | eio
  /-- Any other error. -/
  | unknown
  deriving DecidableEq

/-- Errors other than `EAGAIN`. -/
def WriteResult.Hard (rc : WriteResult) : Prop := rc = .eio ∨ rc = .unknown

/-- Where the thread of `tap_io` stands. -/
inductive TapPc where
  | idle
  /-- At the start of `tx`. -/
  | swap
  /-- In the loop of `tx`. -/
  | tx
  deriving DecidableEq

/-- `tap_io`, with what became of the packets that it was given. -/
structure TapIo (Pkt : Type) where
  /-- The member `fd` of the entries of `sw_cbs`. -/
  swCbs : Nat → Int := fun _ => -1
  events : List (TapIoEvent × Nat) := []
  /-- `pout_queue` and the `out_queue` of `tx`. -/
  queue : SwapQueue (Int × Pkt) := {}
  pc : TapPc := .idle
  /-- The arguments of `enqueue`. -/
  given : List (Int × Pkt) := []
  /-- What `enqueue` did not store. -/
  refused : List (Int × Pkt) := []
  written : List (Int × Pkt) := []
  /-- What `release_packets` was called for, each with the descriptor of the write that failed. -/
  dropped : List (Int × (Int × Pkt)) := []
  freed : List Pkt := []

namespace TapIo

variable {Pkt : Type} (s : TapIo Pkt)

/-- `register_tap`. -/
def registerTap (fd : Nat) : TapIo Pkt := { s with events := s.events ++ [(.tapIoAdd, fd)] }

/-- `unregister_tap`. -/
def unregisterTap (fd : Nat) : TapIo Pkt := { s with events := s.events ++ [(.tapIoRem, fd)] }

/-- One turn of the loop of `handle_events`. -/
def handleEvent (swCbs : Nat → Int) (ev : TapIoEvent × Nat) : Nat → Int :=
  match ev.1 with
  | .tapIoAdd => Function.update swCbs ev.2 ev.2
  | .tapIoRem => Function.update swCbs ev.2 (-1)

/-- `handle_events`. -/
def handleEvents : TapIo Pkt :=
  { s with swCbs := s.events.foldl handleEvent s.swCbs, events := [] }

/-- `std::free(pkt)` in `enqueue`. -/
def refuse (pkt : Int × Pkt) : TapIo Pkt :=
  { s with refused := s.refused ++ [pkt], freed := s.freed ++ [pkt.2] }

/-- `enqueue`. `capacity` is that of `sw_cbs`, the limit of open descriptors. -/
def enqueue (capacity : Nat) (fd : Int) (pkt : Pkt) : TapIo Pkt :=
  let s := { s with given := s.given ++ [(fd, pkt)] }
  if fd < 0 then s.refuse (fd, pkt)
  else if fd.toNat < capacity ∧ s.swCbs fd.toNat = fd then
    { s with queue := s.queue.arrive (fd, pkt) }
  else s.refuse (fd, pkt)

/-- `release_packets(out_queue)` after a write to `fd` failed. -/
def releasePackets (fd : Int) : TapIo Pkt :=
  { s with
    queue := s.queue.takeAll
    dropped := s.dropped ++ s.queue.own.map (Prod.mk fd)
    freed := s.freed ++ s.queue.own.map Prod.snd }

/-- One turn of the loop of `tx`, where `write` returns `rc`. -/
def turn (rc : WriteResult) : TapIo Pkt :=
  match s.queue.own with
  | [] => { s with pc := .idle }
  | pkt :: _ =>
    match rc with
    | .ok =>
      { s with
        queue := s.queue.takeFront
        written := s.written ++ [pkt]
        freed := s.freed ++ [pkt.2] }
    | .eagain => { s with queue := s.queue.putBack true, pc := .idle }
    | .eio => { s.releasePackets pkt.1 with pc := .idle }
    | .unknown => { s.releasePackets pkt.1 with pc := .idle }

/-- The steps of the other threads and of that of `tap_io`. -/
inductive Ev (Pkt : Type) where
  | registerTap (fd : Nat)
  | unregisterTap (fd : Nat)
  | enqueue (fd : Int) (pkt : Pkt)
  /-- `handle_wakeup`, until `tx` is called. -/
  | handleWakeup
  /-- `handle_write_event`, until `tx` is called. -/
  | handleWriteEvent
  /-- The next step of `tx`, if it runs. -/
  | tx (rc : WriteResult)

/-- The next step of `tx`. -/
def txStep (rc : WriteResult) : TapIo Pkt :=
  match s.pc with
  | .idle => s
  | .swap => { s with queue := s.queue.swapOut, pc := .tx }
  | .tx => s.turn rc

/-- The state after an event. -/
def step (capacity : Nat) (s : TapIo Pkt) : Ev Pkt → TapIo Pkt
  | .registerTap fd => s.registerTap fd
  | .unregisterTap fd => s.unregisterTap fd
  | .enqueue fd pkt => s.enqueue capacity fd pkt
  | .handleWakeup => if s.pc = .idle then { s.handleEvents with pc := .swap } else s
  | .handleWriteEvent => if s.pc = .idle then { s with pc := .swap } else s
  | .tx rc => s.txStep rc

/-- What has not left the queues. -/
def queued : List (Int × Pkt) := s.queue.own ++ s.queue.shared

/-- What is to hold of the packets in every state. -/
structure Good : Prop where
  /-- Only a failed write to its own descriptor has a packet dropped. -/
  isolated : ∀ d ∈ s.dropped, d.2.1 = d.1
  /-- Each packet was freed once or is queued once, not both. -/
  once : (s.freed ++ s.queued.map Prod.snd).Perm (s.given.map Prod.snd)
  /-- What was freed was written, dropped or refused before. -/
  after : s.freed.Perm ((s.written ++ s.dropped.map Prod.snd ++ s.refused).map Prod.snd)
  /-- The packets of a descriptor are written in the order in which they were stored. -/
  ordered : ∀ fd, (s.written.filter (·.1 = fd)).Sublist (s.queue.arrived.filter (·.1 = fd))

/-- The condition on a step: a hard error finds only packets for the descriptor of the first. -/
def OneFd (s : TapIo Pkt) : Ev Pkt → Prop
  | .tx rc => s.pc = .tx → rc.Hard → ∀ pkt ∈ s.queue.own.head?, ∀ x ∈ s.queue.own, x.1 = pkt.1
  | _ => True

/-- Where the packets are. `out_queue` exists only while `tx` runs. -/
structure Inv : Prop where
  outQueue : s.pc ≠ .tx → s.queue.own = []
  inOrder : s.queue.InOrder
  given : s.given.Perm (s.queue.arrived ++ s.refused)
  taken : s.queue.taken.Perm (s.written ++ s.dropped.map Prod.snd)
  written : s.written.Sublist s.queue.taken
  freed : s.freed.Perm ((s.queue.taken ++ s.refused).map Prod.snd)

theorem inv_init : Inv ({} : TapIo Pkt) := by
  constructor <;> simp [SwapQueue.InOrder]

section Step

variable {s}

/-- `enqueue` stores the packet or frees it. -/
theorem enqueue_cases (capacity : Nat) (fd : Int) (pkt : Pkt) :
    s.enqueue capacity fd pkt =
        { s with given := s.given ++ [(fd, pkt)], queue := s.queue.arrive (fd, pkt) } ∨
      s.enqueue capacity fd pkt =
        { s with
          given := s.given ++ [(fd, pkt)]
          refused := s.refused ++ [(fd, pkt)]
          freed := s.freed ++ [pkt] } := by
  unfold enqueue
  dsimp only
  split
  · exact .inr rfl
  · split
    · exact .inl rfl
    · exact .inr rfl

theorem Inv.enqueue (h : s.Inv) (capacity : Nat) (fd : Int) (pkt : Pkt) :
    (s.enqueue capacity fd pkt).Inv := by
  have hgiven := perm_append_mid h.given [(fd, pkt)]
  rcases s.enqueue_cases capacity fd pkt with he | he
  · rw [he]
    exact ⟨h.outQueue, h.inOrder.arrive _, hgiven, h.taken, h.written, h.freed⟩
  · rw [he]
    refine ⟨h.outQueue, h.inOrder, ?_, h.taken, h.written, ?_⟩
    · rw [← List.append_assoc]
      exact h.given.append_right _
    · rw [← List.append_assoc, List.map_append]
      exact h.freed.append_right _

/-- A packet that is written is taken from the queue and freed. -/
theorem Inv.write (h : s.Inv) {pkt : Int × Pkt} {l : List (Int × Pkt)} (hpc : s.pc = .tx)
    (hown : s.queue.own = pkt :: l) : (s.turn .ok).Inv := by
  have htaken : s.queue.takeFront.taken = s.queue.taken ++ [pkt] := by
    simp [SwapQueue.takeFront, hown]
  have harrived : s.queue.takeFront.arrived = s.queue.arrived := by
    simp [SwapQueue.takeFront, hown]
  unfold turn
  rw [hown]
  refine ⟨fun hne => absurd hpc hne, h.inOrder.takeFront, ?_, ?_, ?_, ?_⟩
  · rw [harrived]
    exact h.given
  · rw [htaken]
    exact perm_append_mid h.taken [pkt]
  · rw [htaken]
    exact h.written.append_right [pkt]
  · rw [htaken, List.map_append, List.map_append]
    exact perm_append_mid (by simpa using h.freed) [pkt.2]

/-- All packets that are released are taken from the queue and freed. -/
theorem Inv.release (h : s.Inv) (fd : Int) : Inv { s.releasePackets fd with pc := .idle } := by
  refine ⟨fun _ => rfl, h.inOrder.takeAll, h.given, ?_, ?_, ?_⟩
  · have hsnd : (s.queue.own.map (Prod.mk fd)).map Prod.snd = s.queue.own := by
      rw [List.map_map]
      exact List.map_id _
    simp only [releasePackets, SwapQueue.takeAll, List.map_append, hsnd, ← List.append_assoc]
    exact h.taken.append_right _
  · exact h.written.trans (List.sublist_append_left _ _)
  · simp only [releasePackets, SwapQueue.takeAll, List.map_append]
    exact perm_append_mid (by simpa using h.freed) _

theorem Inv.turn (h : s.Inv) (hpc : s.pc = .tx) (rc : WriteResult) : (s.turn rc).Inv := by
  cases hown : s.queue.own with
  | nil =>
    unfold TapIo.turn
    rw [hown]
    exact ⟨fun _ => hown, h.inOrder, h.given, h.taken, h.written, h.freed⟩
  | cons pkt l =>
    cases rc with
    | ok => exact h.write hpc hown
    | eagain =>
      unfold TapIo.turn
      rw [hown]
      have hback := (SwapQueue.inOrder_putBack h.inOrder).mpr (.inl rfl)
      exact ⟨fun _ => rfl, hback, h.given, h.taken, h.written, h.freed⟩
    | eio | unknown =>
      unfold TapIo.turn
      rw [hown]
      exact h.release pkt.1

theorem Inv.txStep (h : s.Inv) (rc : WriteResult) : (s.txStep rc).Inv := by
  unfold TapIo.txStep
  cases hpc : s.pc with
  | idle => exact h
  | swap =>
    have hown := h.outQueue (by simp [hpc])
    exact ⟨by simp, h.inOrder.swapOut hown, h.given, h.taken, h.written, h.freed⟩
  | tx => exact h.turn hpc rc

theorem Inv.step (h : s.Inv) (capacity : Nat) (e : Ev Pkt) : (s.step capacity e).Inv := by
  obtain ⟨ho, hin, hg, ht, hw, hf⟩ := h
  cases e with
  | registerTap fd => exact ⟨ho, hin, hg, ht, hw, hf⟩
  | unregisterTap fd => exact ⟨ho, hin, hg, ht, hw, hf⟩
  | enqueue fd pkt => exact Inv.enqueue ⟨ho, hin, hg, ht, hw, hf⟩ capacity fd pkt
  | handleWakeup | handleWriteEvent =>
    dsimp only [TapIo.step]
    split
    · rename_i hpc
      exact ⟨fun _ => ho (by simp [hpc]), hin, hg, ht, hw, hf⟩
    · exact ⟨ho, hin, hg, ht, hw, hf⟩
  | tx rc => exact Inv.txStep ⟨ho, hin, hg, ht, hw, hf⟩ rc

/-- Where the packets are says all but which write has a packet dropped. -/
theorem Inv.good_iff (h : s.Inv) : s.Good ↔ ∀ d ∈ s.dropped, d.2.1 = d.1 := by
  refine ⟨Good.isolated, fun hd => ⟨hd, ?_, ?_, fun fd => ?_⟩⟩
  · have harrived : s.queue.taken ++ s.queued = s.queue.arrived := h.inOrder
    have hmid : (s.queue.taken ++ s.refused ++ s.queued).Perm (s.queue.arrived ++ s.refused) := by
      rw [← harrived]
      exact perm_append_mid (.refl _) s.queued
    have hfreed := h.freed.append_right (s.queued.map Prod.snd)
    rw [← List.map_append] at hfreed
    exact hfreed.trans ((hmid.trans h.given.symm).map _)
  · exact h.freed.trans ((h.taken.append_right _).map _)
  · have htaken : s.queue.taken.Sublist s.queue.arrived := by
      rw [← h.inOrder]
      exact List.sublist_append_left _ _
    exact (h.written.trans htaken).filter _

/-- A release drops no packet of another descriptor exactly if the queue has none. -/
theorem isolated_releasePackets (hd : ∀ d ∈ s.dropped, d.2.1 = d.1) (fd : Int) :
    (∀ d ∈ (s.releasePackets fd).dropped, d.2.1 = d.1) ↔ ∀ x ∈ s.queue.own, x.1 = fd := by
  have hmap : (∀ d ∈ s.queue.own.map (Prod.mk fd), d.2.1 = d.1) ↔ ∀ x ∈ s.queue.own, x.1 = fd :=
    List.forall_mem_map
  rw [← hmap]
  constructor
  · intro h d hmem
    exact h d (List.mem_append_right _ hmem)
  · intro h d hmem
    rcases List.mem_append.mp hmem with hold | hnew
    · exact hd d hold
    · exact h d hnew

theorem isolated_turn_iff (hd : ∀ d ∈ s.dropped, d.2.1 = d.1) (hpc : s.pc = .tx)
    (rc : WriteResult) : (∀ d ∈ (s.turn rc).dropped, d.2.1 = d.1) ↔ OneFd s (.tx rc) := by
  unfold turn OneFd
  cases hown : s.queue.own with
  | nil => exact iff_of_true hd (by simp)
  | cons pkt l =>
    cases rc with
    | ok | eagain => exact iff_of_true hd (by simp [WriteResult.Hard])
    | eio | unknown =>
      have hiff := isolated_releasePackets hd pkt.1
      rw [hown] at hiff
      simpa [hpc, WriteResult.Hard] using hiff

/-- A step keeps the packets of the other descriptors exactly if it meets the condition. -/
theorem good_step_iff (hi : s.Inv) (h : s.Good) (capacity : Nat) (e : Ev Pkt) :
    (s.step capacity e).Good ↔ OneFd s e := by
  rw [(hi.step capacity e).good_iff]
  have hd := h.isolated
  cases e with
  | registerTap fd | unregisterTap fd => exact iff_of_true hd trivial
  | enqueue fd pkt =>
    refine iff_of_true ?_ trivial
    change ∀ d ∈ (s.enqueue capacity fd pkt).dropped, _
    rcases s.enqueue_cases capacity fd pkt with he | he
    · rwa [he]
    · rwa [he]
  | handleWakeup | handleWriteEvent =>
    refine iff_of_true ?_ trivial
    dsimp only [step]
    split
    · exact hd
    · exact hd
  | tx rc =>
    change (∀ d ∈ (s.txStep rc).dropped, _) ↔ _
    unfold txStep
    cases hpc : s.pc with
    | idle | swap => exact iff_of_true hd (by simp [OneFd, hpc])
    | tx => exact isolated_turn_iff hd hpc rc

end Step

/-- For every interleaving of the other threads with the steps of `tx`, and for all that `write`
may return: all states are good exactly if a write that fails with an error other than `EAGAIN`
finds only packets for its own descriptor in the queue of `tx`. -/
theorem good_iff_along (capacity : Nat) (es : List (Ev Pkt)) :
    (∀ n, (run (step capacity) ({} : TapIo Pkt) (es.take n)).Good) ↔
      Along (step capacity) OneFd {} es :=
  along_iff_of_inv inv_init (inv_init.good_iff.mpr (by simp)) (fun _ e hi _ => hi.step capacity e)
    (fun _ e hi h => good_step_iff hi h capacity e) es

/-- Descriptor 1 is not enabled, and a packet for descriptor 2 is behind one for descriptor 1. -/
def eioRun : List (Ev Nat) :=
  [.registerTap 1, .registerTap 2, .handleWakeup, .tx .ok, .tx .ok, .enqueue 1 10, .enqueue 2 20,
    .handleWakeup, .tx .ok, .tx .eio]

theorem eio_not_good : ¬ (run (step 1024) ({} : TapIo Nat) eioRun).Good := fun h =>
  absurd (h.isolated (1, 2, 20) (by decide)) (by decide)

end TapIo

end Basebox
