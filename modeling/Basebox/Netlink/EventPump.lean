import Basebox.Lib.Run
import Basebox.Netlink.Wakeup
import Mathlib.Data.List.Count

/-!
# The objects of libnl on their way to the handlers (`nl_obj.cc`, `cnetlink.cc`)

`nl_cb_v2` puts what libnl reports into `nl_objs`, `handle_wakeup` takes it out, ten objects at a
time. In between, the objects are counted references: `nl_obj` takes one on each object that its
action has, in its constructor and when it is copied, and gives it back in its destructor.

* `Pump`: the state of the thread, its pending wakeup and timers, `nl_objs`, and the reference
  counts. What libnl holds itself is `libnl`; `handled`, `received` and `dead` are a record of the
  run that is not part of the program.
* `turn`: one turn of the loop of `handle_wakeup`; `step`: what the threads do, in any order.
* `counted_run`: in every run, what is reported while the thread is not stopped is handled in order
  and once. The count of an object is what libnl holds and one for each entry of the queue that has
  it. No handler gets an object that is gone, and none is kept.
* `awake_run_iff`: a thread that has a switch, is not stopped and has something to do has a wakeup
  coming, in all states exactly if there was one when the switch was registered: the wakeups before
  it come to nothing, and `register_switch` calls none. Then a wakeup for each ten objects handles
  all that was reported.
-/

namespace Basebox

/-- `NL_ACT_NEW`, `NL_ACT_CHANGE`, `NL_ACT_DEL`. -/
inductive NlAct where
  | new
  | change
  | del
  deriving DecidableEq

/-- `nl_obj`. The `struct nl_object`s are numbered. -/
structure NlObj where
  action : NlAct
  oldObj : Option Nat
  newObj : Option Nat
  deriving DecidableEq

/-- The objects that `increment_refcount` takes a reference on, and the destructor puts. -/
def NlObj.objs (obj : NlObj) : List Nat :=
  match obj.action with
  | .new => obj.newObj.toList
  | .del => obj.oldObj.toList
  | .change => obj.oldObj.toList ++ obj.newObj.toList

/-- The state of the netlink thread. -/
structure Pump where
  /-- There is a switch. -/
  swi : Bool := false
  state : NlState := .stopped
  /-- `thread.wakeup` was called, and `handle_wakeup` not since. -/
  wakeup : Bool := false
  /-- The timers `NL_TIMER_RESEND_STATE` that are running. -/
  timers : Nat := 0
  nlObjs : List NlObj := []
  /-- The reference count of an object. -/
  refs : Nat → Int := fun _ => 0
  /-- The references of libnl. -/
  libnl : Nat → Nat := fun _ => 0
  /-- Where libnl makes the next object. -/
  nextId : Nat := 0
  handled : List NlObj := []
  received : List NlObj := []
  /-- A handler got an object without references. -/
  dead : Bool := false

namespace Pump

/-! ## `nl_obj` -/

/-- `nl_object_get` on each. -/
def get (s : Pump) (ids : List Nat) : Pump := { s with refs := fun o => s.refs o + ids.count o }

/-- `nl_object_put` on each. -/
def put (s : Pump) (ids : List Nat) : Pump := { s with refs := fun o => s.refs o - ids.count o }

/-! ## `cnetlink` -/

/-- `nl_object_clone`: a new object with one reference. A null pointer is cloned to one. -/
def clone (s : Pump) : Option Nat → Option Nat × Pump
  | none => (none, s)
  | some _ => (some s.nextId, { s.get [s.nextId] with nextId := s.nextId + 1 })

/-- `nl_cb_v2`. -/
def nlCbV2 (s : Pump) (action : NlAct) (oldObj newObj : Option Nat) : Pump :=
  if s.state = .stopped then s
  else
    let (localNew, s) := s.clone newObj
    let obj : NlObj := { action := action, oldObj := oldObj, newObj := localNew }
    let s := s.get obj.objs
    let s := { s with nlObjs := s.nlObjs ++ [obj] }
    s.put localNew.toList

/-- What libnl does with its objects: it makes one, takes a reference, gives one back. -/
inductive LibOp where
  | alloc
  | take (o : Nat)
  | release (o : Nat)

/-- What libnl does with an object of its own. -/
def libOp (s : Pump) : LibOp → Pump
  | .alloc =>
    { s.get [s.nextId] with
      libnl := fun o => s.libnl o + [s.nextId].count o
      nextId := s.nextId + 1 }
  | .take o =>
    if 0 < s.libnl o then { s.get [o] with libnl := fun p => s.libnl p + [o].count p } else s
  | .release o =>
    if 0 < s.libnl o then { s.put [o] with libnl := fun p => s.libnl p - [o].count p } else s

/-- What libnl does while it reads the socket. -/
inductive LibEv where
  | op (e : LibOp)
  | report (action : NlAct) (oldObj newObj : Option Nat)

/-- libnl calls `nl_cb_v2`. What a thread that is not stopped has to handle then is noted: the old
object, and a copy of the new one. -/
def report (s : Pump) (action : NlAct) (oldObj newObj : Option Nat) : Pump :=
  { s.nlCbV2 action oldObj newObj with
    received :=
      if s.state = .stopped then s.received
      else
        s.received ++
          [{ action := action, oldObj := oldObj, newObj := newObj.map fun _ => s.nextId }] }

/-- What libnl does while a socket is read. -/
def libStep (s : Pump) : LibEv → Pump
  | .op e => s.libOp e
  | .report action oldObj newObj => s.report action oldObj newObj

/-- `handle_read_event`: libnl reads the socket, then the thread is woken. -/
def handleReadEvent (s : Pump) (l : List LibEv) : Pump :=
  let s := run libStep s l
  if s.state = .stopped then s else { s with wakeup := true }

/-- A turn of the loop of `handle_wakeup`: a copy is made of the first object, which then goes from
the queue, and the handler gets the copy. -/
def turn (s : Pump) : Pump :=
  match s.nlObjs with
  | [] => s
  | front :: rest =>
    let s := s.get front.objs
    let s := { s with nlObjs := rest }.put front.objs
    let s := { s with
      handled := s.handled ++ [front]
      dead := s.dead || front.objs.any fun o => s.refs o ≤ 0 }
    s.put front.objs

/-- The loop, with `n` turns left. -/
def turns : Nat → Pump → Pump
  | 0, s => s
  | n + 1, s => if s.nlObjs ≠ [] ∧ s.state = .running then turns n s.turn else s

/-- What `handle_wakeup` does after the switch over the state. `doWakeup` is whether another of the
queues is not empty. -/
def process (s : Pump) (doWakeup : Bool) : Pump :=
  let s := turns Cnetlink.nlProcMax s
  if doWakeup || s.nlObjs.length != 0 then { s with wakeup := true } else s

/-- `handle_wakeup`. -/
def handleWakeup (s : Pump) (doWakeup : Bool) : Pump :=
  let s := { s with wakeup := false }
  if !s.swi then s
  else
    match s.state with
    | .init => process { s with state := .running } doWakeup
    | .running => process s doWakeup
    | .shutdown => { s with state := .stopped }
    | .stopped => s

/-- `register_switch`. -/
def registerSwitch (s : Pump) : Pump := { s with swi := true }

/-- `start`. -/
def start (s : Pump) : Pump :=
  if s.state = .running then s else { s with state := .init, wakeup := true }

/-- `stop`. -/
def stop (s : Pump) : Pump :=
  if s.state = .stopped then s else { s with state := .shutdown, wakeup := true }

/-- `resend_state`. -/
def resendState (s : Pump) : Pump := { s.stop with timers := s.timers + 1 }

/-- What the threads and libnl do. -/
inductive Ev where
  | op (e : LibOp)
  /-- The socket is read. -/
  | read (l : List LibEv)
  /-- The pending wakeup. -/
  | wakeup (doWakeup : Bool)
  /-- A timer runs out. -/
  | timer
  | registerSwitch
  | start
  | stop
  | resendState
  /-- `learn_l2` or `fdb_timeout`. -/
  | poke

/-- The thread after an event. -/
def step (s : Pump) : Ev → Pump
  | .op e => s.libOp e
  | .read l => s.handleReadEvent l
  | .wakeup doWakeup => if s.wakeup then s.handleWakeup doWakeup else s
  | .timer => if 0 < s.timers then { s.start with timers := s.timers - 1 } else s
  | .registerSwitch => s.registerSwitch
  | .start => s.start
  | .stop => s.stop
  | .resendState => s.resendState
  | .poke => { s with wakeup := true }

/-- The old object of a report is one that libnl holds. -/
def LibHeld (s : Pump) : LibEv → Prop
  | .op _ => True
  | .report _ oldObj _ => ∀ o ∈ oldObj, 0 < s.libnl o

/-- The condition on a step: all reports are of objects that libnl holds. -/
def Held (s : Pump) : Ev → Prop
  | .read l => Along libStep LibHeld s l
  | _ => True

/-! ## What holds of every run -/

/-- The references of the queue on an object. -/
def queued (nlObjs : List NlObj) (o : Nat) : Nat := (nlObjs.flatMap NlObj.objs).count o

/-- What one turn and one report keep. -/
structure Counted (s : Pump) : Prop where
  /-- Handled in order, each once, and nothing is lost. -/
  fifo : s.handled ++ s.nlObjs = s.received
  refs : ∀ o, s.refs o = s.libnl o + queued s.nlObjs o
  /-- What is not made yet is nowhere. -/
  fresh : ∀ o, s.nextId ≤ o → s.libnl o = 0 ∧ queued s.nlObjs o = 0
  alive : s.dead = false

@[simp] theorem queued_append (l m : List NlObj) (o : Nat) :
    queued (l ++ m) o = queued l o + queued m o := by
  simp [queued]

@[simp] theorem queued_cons (obj : NlObj) (l : List NlObj) (o : Nat) :
    queued (obj :: l) o = obj.objs.count o + queued l o := by
  simp [queued]

@[simp] theorem queued_nil (o : Nat) : queued [] o = 0 := rfl

variable {s : Pump}

/-- A report: the clone stays with the reference of the queue only. -/
theorem Counted.report (h : s.Counted) (action : NlAct) {oldObj : Option Nat}
    (newObj : Option Nat) (hold : ∀ o ∈ oldObj, 0 < s.libnl o) :
    (s.report action oldObj newObj).Counted := by
  have hlt : ∀ o ∈ oldObj, o < s.nextId := by
    intro o ho
    by_contra hge
    have := (h.fresh o (by omega)).1
    have := hold o ho
    omega
  unfold Pump.report Pump.nlCbV2
  split_ifs with hst
  · exact h
  · cases newObj with
    | none =>
      refine ⟨?_, fun o => ?_, fun o ho => ?_, h.alive⟩
      · change s.handled ++ (s.nlObjs ++ _) = s.received ++ _
        rw [← List.append_assoc, h.fifo]
        rfl
      · simp only [clone, get, put, Option.toList_none, List.count_nil, queued_append, queued_cons,
          queued_nil, h.refs o]
        push_cast
        omega
      · obtain ⟨h1, h2⟩ := h.fresh o ho
        refine ⟨h1, ?_⟩
        simp only [clone, put, get, queued_append, queued_cons, queued_nil, h2, Nat.zero_add,
          Nat.add_zero, List.count_eq_zero]
        intro hmem
        have hin : o ∈ oldObj := by
          cases action <;> simp [NlObj.objs] at hmem <;> assumption
        have hlt := hlt o hin
        change s.nextId ≤ o at ho
        omega
    | some n =>
      refine ⟨?_, fun o => ?_, fun o ho => ?_, h.alive⟩
      · change s.handled ++ (s.nlObjs ++ _) = s.received ++ _
        rw [← List.append_assoc, h.fifo]
        rfl
      · simp only [clone, get, put, Option.toList_some, queued_append, queued_cons, queued_nil,
          h.refs o]
        push_cast
        omega
      · change s.nextId + 1 ≤ o at ho
        obtain ⟨h1, h2⟩ := h.fresh o (by omega)
        refine ⟨h1, ?_⟩
        simp only [clone, put, get, queued_append, queued_cons, queued_nil, h2, Nat.zero_add,
          Nat.add_zero, List.count_eq_zero]
        intro hmem
        have hin : o ∈ oldObj ∨ o = s.nextId := by
          cases action <;> simp [NlObj.objs] at hmem <;> tauto
        rcases hin with hin | rfl
        · have hlt := hlt o hin
          omega
        · omega

/-- A turn: the objects are there when the handler gets them, and their references go. -/
theorem Counted.turn (h : s.Counted) : s.turn.Counted := by
  unfold Pump.turn
  cases hq : s.nlObjs with
  | nil => exact h
  | cons front rest =>
    have hrefs : ∀ o, s.refs o = s.libnl o + (front.objs.count o + queued rest o) := by
      intro o
      have := h.refs o
      rw [hq, queued_cons] at this
      exact_mod_cast this
    refine ⟨?_, fun o => ?_, fun o ho => ?_, ?_⟩
    · change (s.handled ++ [front]) ++ rest = s.received
      rw [List.append_assoc, ← h.fifo, hq]
      rfl
    · simp only [get, put, hrefs o]
      omega
    · obtain ⟨h1, h2⟩ := h.fresh o ho
      rw [hq, queued_cons] at h2
      exact ⟨h1, by change queued rest o = 0; omega⟩
    · simp only [get, put, h.alive, Bool.false_or, List.any_eq_false, decide_eq_true_eq, hrefs]
      intro o ho
      have hpos : 0 < front.objs.count o := List.count_pos_iff.mpr ho
      omega

theorem Counted.turns (h : s.Counted) (n : Nat) : (turns n s).Counted := by
  induction n generalizing s with
  | zero => exact h
  | succ n ih =>
    rw [Pump.turns]
    split_ifs
    · exact ih h.turn
    · exact h

/-- What the loop takes out of the queue. -/
theorem turns_running (n : Nat) (hst : s.state = .running) :
    (turns n s).nlObjs = s.nlObjs.drop n ∧ (turns n s).state = .running := by
  induction n generalizing s with
  | zero => exact ⟨rfl, hst⟩
  | succ n ih =>
    rw [turns]
    cases hq : s.nlObjs with
    | nil => simp [hq, hst]
    | cons front rest =>
      rw [if_pos ⟨by simp, hst⟩]
      have hturn : s.turn.nlObjs = rest ∧ s.turn.state = .running := by
        unfold turn
        rw [hq]
        exact ⟨rfl, hst⟩
      rw [(ih hturn.2).1, (ih hturn.2).2, hturn.1]
      exact ⟨rfl, rfl⟩

theorem frame_turns (n : Nat) (s : Pump) :
    (turns n s).swi = s.swi ∧ (turns n s).received = s.received := by
  induction n generalizing s with
  | zero => exact ⟨rfl, rfl⟩
  | succ n ih =>
    rw [turns]
    split_ifs
    · have hturn : s.turn.swi = s.swi ∧ s.turn.received = s.received := by
        unfold turn
        cases s.nlObjs <;> exact ⟨rfl, rfl⟩
      rw [(ih s.turn).1, (ih s.turn).2]
      exact hturn
    · exact ⟨rfl, rfl⟩

/-- Fields that counting does not read. -/
theorem Counted.congr (h : s.Counted) (swi : Bool) (state : NlState) (wakeup : Bool)
    (timers : Nat) :
    Counted { s with swi := swi, state := state, wakeup := wakeup, timers := timers } :=
  ⟨h.fifo, h.refs, h.fresh, h.alive⟩

/-- libnl takes references and gives them back. -/
theorem Counted.libnl (h : s.Counted) {refs : Nat → Int} {libnl : Nat → Nat} {nextId : Nat}
    (hrefs : ∀ o, refs o - libnl o = s.refs o - s.libnl o) (hnext : s.nextId ≤ nextId)
    (hfresh : ∀ o, nextId ≤ o → libnl o = 0) :
    Counted { s with refs := refs, libnl := libnl, nextId := nextId } := by
  refine ⟨h.fifo, fun o => ?_, fun o ho => ⟨hfresh o ho, ?_⟩, h.alive⟩
  · have h1 := hrefs o
    have h2 := h.refs o
    change refs o = libnl o + queued s.nlObjs o
    omega
  · exact (h.fresh o (Nat.le_trans hnext ho)).2

theorem Counted.libOp (h : s.Counted) (e : LibOp) : (s.libOp e).Counted := by
  cases e with
  | alloc =>
    refine h.libnl (fun o => ?_) (Nat.le_succ _) (fun o ho => ?_)
    · simp only [get]
      push_cast
      omega
    · obtain ⟨h1, -⟩ := h.fresh o (by omega)
      have hne : o ≠ s.nextId := by omega
      simp [h1, hne.symm]
  | take o =>
    simp only [Pump.libOp]
    split_ifs with hpos
    · refine h.libnl (fun p => ?_) le_rfl (fun p hp => ?_)
      · simp only [get]
        push_cast
        omega
      · obtain ⟨h1, -⟩ := h.fresh p hp
        have hne : o ≠ p := by
          rintro rfl
          omega
        simp [h1, hne]
    · exact h
  | release o =>
    simp only [Pump.libOp]
    split_ifs with hpos
    · refine h.libnl (fun p => ?_) le_rfl (fun p hp => ?_)
      · have hle : [o].count p ≤ s.libnl p := by
          by_cases hp : o = p
          · subst hp
            simpa using Nat.succ_le_of_lt hpos
          · simp [hp]
        simp only [put]
        omega
      · obtain ⟨h1, -⟩ := h.fresh p hp
        simp [h1]
    · exact h

theorem Counted.libSteps (h : s.Counted) {l : List LibEv} (hl : Along libStep LibHeld s l) :
    (run libStep s l).Counted := by
  refine run_inv h (fun s e h he => ?_) hl
  cases e with
  | op e => exact h.libOp e
  | report action oldObj newObj => exact h.report action newObj he

theorem Counted.process (h : s.Counted) (doWakeup : Bool) : (s.process doWakeup).Counted := by
  simp only [Pump.process]
  split_ifs
  · exact (h.turns _).congr _ _ _ _
  · exact h.turns _

theorem Counted.handleWakeup (h : s.Counted) (doWakeup : Bool) :
    (s.handleWakeup doWakeup).Counted := by
  simp only [Pump.handleWakeup]
  split_ifs
  · exact h.congr s.swi s.state false s.timers
  · split
    · exact Counted.process (h.congr s.swi .running false s.timers) doWakeup
    · exact Counted.process (h.congr s.swi s.state false s.timers) doWakeup
    · exact h.congr _ _ _ _
    · exact h.congr s.swi s.state false s.timers

theorem Counted.start (h : s.Counted) : s.start.Counted := by
  unfold Pump.start
  split_ifs
  · exact h
  · exact h.congr _ _ _ _

theorem Counted.stop (h : s.Counted) : s.stop.Counted := by
  unfold Pump.stop
  split_ifs
  · exact h
  · exact h.congr _ _ _ _

theorem counted_step (h : s.Counted) {e : Ev} (he : Held s e) : (step s e).Counted := by
  cases e with
  | op e => exact h.libOp e
  | read l =>
    have hl := h.libSteps he
    simp only [step, handleReadEvent]
    split_ifs
    · exact hl
    · exact hl.congr _ _ _ _
  | wakeup doWakeup =>
    simp only [step]
    split_ifs
    · exact h.handleWakeup doWakeup
    · exact h
  | timer =>
    simp only [step]
    split_ifs
    · exact h.start.congr _ _ _ _
    · exact h
  | registerSwitch => exact h.congr _ _ _ _
  | start => exact h.start
  | stop => exact h.stop
  | resendState => exact h.stop.congr _ _ _ _
  | poke => exact h.congr _ _ _ _

theorem counted_of_along {es : List Ev} (hes : Along step Held {} es) :
    (run step {} es).Counted := by
  refine run_inv ⟨rfl, fun o => by rfl, fun o _ => ⟨rfl, rfl⟩, rfl⟩ (fun s e h he => ?_) hes
  exact counted_step h he

/-- The objects of libnl in every run. -/
theorem counted_run (es : List Ev) (hes : Along step Held {} es) :
    (run step {} es).handled ++ (run step {} es).nlObjs = (run step {} es).received ∧
      (∀ o, (run step {} es).refs o =
        (run step {} es).libnl o + queued (run step {} es).nlObjs o) ∧
      (run step {} es).dead = false :=
  let h := counted_of_along hes
  ⟨h.fifo, h.refs, h.alive⟩

/-- An object that libnl gives back before it is handled. -/
def givenBack : List Ev :=
  [.registerSwitch, .start, .op .alloc, .read [.report .del (some 0) none, .op (.release 0)]]

theorem givenBack_counted : (run step {} givenBack).refs 0 = 1 ∧
    (run step {} (givenBack ++ [.wakeup false])).refs 0 = 0 ∧
      (run step {} (givenBack ++ [.wakeup false])).dead = false := by
  have hheld : Along step Held {} (givenBack ++ [.wakeup false]) :=
    ⟨trivial, trivial, trivial, ⟨by simp [LibHeld, step, libOp, start, registerSwitch, get],
      trivial, trivial⟩, trivial, trivial⟩
  obtain ⟨-, hrefs, hdead⟩ := counted_run (givenBack ++ [.wakeup false]) hheld
  exact ⟨by decide, (hrefs 0).trans (by decide), hdead⟩

/-! ## The wakeups -/

/-- There is a switch and the thread is not stopped, or about to be. -/
def Active (s : Pump) : Prop := s.swi = true ∧ (s.state = .running ∨ s.state = .init)

/-- With something to do, a wakeup is coming. -/
def Awake (s : Pump) : Prop :=
  s.swi = true → s.state ≠ .stopped → s.nlObjs ≠ [] → s.wakeup = true

/-- The condition on a step: the wakeup before `register_switch` is not handled yet, or there is
nothing to do. -/
def Rings (s : Pump) : Ev → Prop
  | .registerSwitch => s.state ≠ .stopped → s.nlObjs ≠ [] → s.wakeup = true
  | _ => True

theorem process_awake (s : Pump) (doWakeup : Bool) : (s.process doWakeup).Awake := by
  intro _ _ hne
  simp only [process] at hne ⊢
  split_ifs with h
  · rfl
  · rw [if_neg h] at hne
    simp [hne] at h

theorem handleWakeup_awake (s : Pump) (doWakeup : Bool) : (s.handleWakeup doWakeup).Awake := by
  simp only [handleWakeup]
  split_ifs with hswi
  · intro h
    change s.swi = true at h
    simp [h] at hswi
  · split
    · exact process_awake _ doWakeup
    · exact process_awake _ doWakeup
    · exact fun _ hne => absurd rfl hne
    · rename_i hst
      exact fun _ hne => absurd hst hne

theorem awake_step_iff (h : s.Awake) (e : Ev) : (step s e).Awake ↔ Rings s e := by
  cases e with
  | registerSwitch => exact ⟨fun hs => hs rfl, fun hr _ => hr⟩
  | op e =>
    refine iff_of_true ?_ trivial
    cases e with
    | alloc => exact h
    | take o =>
      simp only [step, libOp]
      split_ifs <;> exact h
    | release o =>
      simp only [step, libOp]
      split_ifs <;> exact h
  | read l =>
    refine iff_of_true ?_ trivial
    simp only [step, handleReadEvent]
    split_ifs with hst
    · exact fun _ hne => absurd hst hne
    · exact fun _ _ _ => rfl
  | wakeup doWakeup =>
    refine iff_of_true ?_ trivial
    simp only [step]
    split_ifs
    · exact handleWakeup_awake s doWakeup
    · exact h
  | timer =>
    refine iff_of_true ?_ trivial
    simp only [step, start]
    split_ifs
    · exact h
    · exact fun _ _ _ => rfl
    · exact h
  | start =>
    refine iff_of_true ?_ trivial
    simp only [step, start]
    split_ifs
    · exact h
    · exact fun _ _ _ => rfl
  | stop =>
    refine iff_of_true ?_ trivial
    simp only [step, stop]
    split_ifs
    · exact h
    · exact fun _ _ _ => rfl
  | resendState =>
    refine iff_of_true ?_ trivial
    simp only [step, resendState, stop]
    split_ifs
    · exact h
    · exact fun _ _ _ => rfl
  | poke => exact iff_of_true (fun _ _ _ => rfl) trivial

theorem process_spec (h : s.swi = true) (hst : s.state = .running) (doWakeup : Bool) :
    (s.process doWakeup).nlObjs = s.nlObjs.drop Cnetlink.nlProcMax ∧
      (s.process doWakeup).received = s.received ∧ (s.process doWakeup).Active := by
  obtain ⟨hobjs, hrun⟩ := turns_running Cnetlink.nlProcMax hst
  obtain ⟨hswi, hrec⟩ := frame_turns Cnetlink.nlProcMax s
  rw [h] at hswi
  simp only [process]
  split_ifs
  · exact ⟨hobjs, hrec, hswi, .inl hrun⟩
  · exact ⟨hobjs, hrec, hswi, .inl hrun⟩

theorem handleWakeup_eq (hact : s.Active) (doWakeup : Bool) :
    s.handleWakeup doWakeup = { s with state := .running, wakeup := false }.process doWakeup := by
  obtain ⟨hswi, hst⟩ := hact
  rcases hst with hst | hst <;> simp [handleWakeup, hswi, hst]

/-- A wakeup of an active thread, which is there if it is needed. -/
theorem wakeup_spec (h : s.Awake) (hact : s.Active) (doWakeup : Bool) :
    (step s (.wakeup doWakeup)).nlObjs = s.nlObjs.drop Cnetlink.nlProcMax ∧
      (step s (.wakeup doWakeup)).received = s.received ∧
        (step s (.wakeup doWakeup)).Active := by
  simp only [step]
  split_ifs with hw
  · rw [handleWakeup_eq hact]
    exact process_spec (s := { s with state := .running, wakeup := false }) hact.1 rfl doWakeup
  · have hnil : s.nlObjs = [] := by
      by_contra hne
      exact hw (h hact.1 (by rcases hact.2 with hst | hst <;> simp [hst]) hne)
    exact ⟨by simp [hnil], rfl, hact⟩

theorem wakeups_spec (h : s.Awake) (hact : s.Active) (ws : List Bool) :
    (run step s (ws.map .wakeup)).nlObjs = s.nlObjs.drop (Cnetlink.nlProcMax * ws.length) ∧
      (run step s (ws.map .wakeup)).received = s.received := by
  induction ws generalizing s with
  | nil => exact ⟨rfl, rfl⟩
  | cons w ws ih =>
    obtain ⟨hobjs, hrec, hact'⟩ := wakeup_spec h hact w
    have h' : (step s (.wakeup w)).Awake := (awake_step_iff h _).mpr trivial
    obtain ⟨ih1, ih2⟩ := ih h' hact'
    rw [List.map_cons, run_cons, ih1, ih2, hobjs, hrec, List.drop_drop, List.length_cons,
      Nat.mul_succ, Nat.add_comm]
    exact ⟨rfl, rfl⟩

/-- With the condition, everything that was reported is handled after a wakeup for each ten objects
that wait. -/
theorem awake_run_iff (es : List Ev) (hes : Along step Held {} es) :
    ((∀ n, (run step {} (es.take n)).Awake) ↔ Along step Rings {} es) ∧
      (Along step Rings {} es → (run step {} es).Active → ∀ ws : List Bool,
        (run step {} es).nlObjs.length ≤ Cnetlink.nlProcMax * ws.length →
          (run step {} (es ++ ws.map .wakeup)).handled = (run step {} es).received) := by
  have hnone : ({} : Pump).Awake := fun h => absurd h (by decide)
  refine ⟨along_iff_of_step_iff hnone (fun s e h => awake_step_iff h e) es, ?_⟩
  intro hr hact ws hle
  have hawake : (run step {} es).Awake :=
    run_inv hnone (fun s e h hC => (awake_step_iff h e).mpr hC) hr
  have hws : Along step Held (run step {} es) (ws.map .wakeup) := by
    refine along_iff_split.mpr fun es₁ e es₂ h => ?_
    obtain ⟨w, -, rfl⟩ := List.mem_map.mp (h ▸ List.mem_append_right es₁ List.mem_cons_self)
    trivial
  obtain ⟨hobjs, hrec⟩ := wakeups_spec hawake hact ws
  have hfifo := (counted_of_along (Along.append.mpr ⟨hes, hws⟩)).fifo
  rw [run_append, hobjs, List.drop_of_length_le hle, List.append_nil, hrec] at hfifo
  rw [run_append, hfifo]

/-- The switch comes after the wakeups. -/
def switchLate : List Ev :=
  [.start, .op .alloc, .read [.report .new none (some 0)], .wakeup false, .registerSwitch]

/-- Then the object waits. It is handled after the next report. -/
theorem switchLate_waits :
    (¬ ∀ n, (run step {} (switchLate.take n)).Awake) ∧
      (run step {} (switchLate ++ [.read [.report .new none (some 0)], .wakeup false])).handled =
        [⟨.new, none, some 1⟩, ⟨.new, none, some 2⟩] := by
  have hheld : Along step Held {} switchLate := by
    simp [switchLate, Along, Held, LibHeld]
  refine ⟨fun h => ?_, by decide⟩
  have hrings := (awake_run_iff switchLate hheld).1.mp h
  exact absurd (hrings.2.2.2.2.1 (by decide) (by decide)) (by decide)

end Pump

end Basebox
