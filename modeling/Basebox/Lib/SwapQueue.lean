import Mathlib.Data.List.Induction

/-!
# A queue that is swapped out, worked on without its lock, and put back

Producers append to a shared queue under a lock. The consumer takes the lock to swap the queue
with an empty one of its own, works on its own queue without the lock, and takes the lock again to
put what is left before what has arrived in between.

* `InOrder`: what was taken, followed by what is on either queue, is what has arrived.
* One lemma for each operation: an arrival, a swap and what the consumer takes keep `InOrder`, and
  so does a put-back, unless it throws away a queue that is not empty (`inOrder_putBack`).
-/

namespace Basebox

/-- The two queues, with all that has arrived and all that was taken so far. -/
structure SwapQueue (α : Type) where
  shared : List α := []
  own : List α := []
  arrived : List α := []
  taken : List α := []

namespace SwapQueue

variable {α : Type} (q : SwapQueue α)

/-- A producer appends an item. -/
def arrive (x : α) : SwapQueue α :=
  { q with shared := q.shared ++ [x], arrived := q.arrived ++ [x] }

/-- The consumer swaps the shared queue with a new one of its own. -/
def swapOut : SwapQueue α := { q with shared := [], own := q.shared }

/-- The consumer takes the first item of its own queue. -/
def takeFront : SwapQueue α :=
  match q.own with
  | [] => q
  | x :: l => { q with own := l, taken := q.taken ++ [x] }

/-- The consumer takes all of its own queue. -/
def takeAll : SwapQueue α := { q with own := [], taken := q.taken ++ q.own }

/-- `std::copy` from the reverse iterators of a queue to the front inserter of another. -/
def copyFront (l queue : List α) : List α := l.reverse.foldl (fun queue x => x :: queue) queue

/-- The consumer puts its own queue back, if `nonempty` says that there is something, and is done
with it. -/
def putBack (nonempty : Bool) : SwapQueue α :=
  { q with shared := if nonempty then copyFront q.own q.shared else q.shared, own := [] }

/-- Each item was taken at most once and none is lost, and they were taken in the order in which
they arrived. -/
def InOrder : Prop := q.taken ++ (q.own ++ q.shared) = q.arrived

theorem copyFront_eq (l queue : List α) : copyFront l queue = l ++ queue := by
  unfold copyFront
  rw [List.foldl_reverse]
  induction l with
  | nil => rfl
  | cons x l ih => rw [List.foldr_cons, ih, List.cons_append]

variable {q}

theorem InOrder.arrive (h : q.InOrder) (x : α) : (q.arrive x).InOrder := by
  unfold InOrder SwapQueue.arrive at *
  rw [← h]
  simp

theorem InOrder.swapOut (h : q.InOrder) (hown : q.own = []) : q.swapOut.InOrder := by
  unfold InOrder SwapQueue.swapOut at *
  rw [← h, hown]
  simp

theorem InOrder.takeFront (h : q.InOrder) : q.takeFront.InOrder := by
  unfold SwapQueue.takeFront
  cases hown : q.own with
  | nil => exact h
  | cons x l =>
    unfold InOrder at *
    rw [← h, hown]
    simp

theorem InOrder.takeAll (h : q.InOrder) : q.takeAll.InOrder := by
  unfold InOrder SwapQueue.takeAll at *
  rw [← h]
  simp

/-- A put-back loses nothing exactly if it is made or there is nothing to put back. -/
theorem inOrder_putBack (h : q.InOrder) {nonempty : Bool} :
    (q.putBack nonempty).InOrder ↔ nonempty = true ∨ q.own = [] := by
  unfold InOrder putBack at *
  cases nonempty with
  | true => simpa [copyFront_eq] using h
  | false =>
    rw [← h]
    simp

end SwapQueue

end Basebox
