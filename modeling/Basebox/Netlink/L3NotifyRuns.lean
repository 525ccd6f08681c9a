import Basebox.Netlink.L3HostSets
import Basebox.Netlink.L3Notify

/-!
# The notifications in every order of events (`src/netlink/nl_l3.cc`)

The callbacks of routes are called while a neighbour event is handled, on whatever the events before
it left. What they point routes to depends on the groups only, so the other operations on the groups
and everything else that happens are steps of their own, in any order.

* `Notifier.step`: an operation on the groups, one of the two notifications, or anything else.
* `run_notifyReachable`, `run_notifyUnreachable`: the loops over the callbacks are runs of these steps.
* `notifications_run`: in a run whose operations the switch carries out, all notifications are fine
  exactly if all of them meet their conditions.
-/

namespace Basebox

namespace L3

/-- The state of `nl_l3`, and the groups on the switch. -/
structure Notifier where
  l3 : L3 := {}
  sw : GroupSwitch := {}

namespace Notifier

/-- `rest` is for everything that keeps the groups: the callbacks, the routes of the kernel and the
other tables may be anything afterwards. -/
inductive Ev where
  | groups (e : L3Groups.Ev NhStub)
  | rest (l3 : L3)
  | nhReachable (o : Seen) (n : Int × Addr) (obj : NeighObj) (p : L3Params)
  | nhUnreachable (o : Seen) (n : Int × Addr) (obj : NeighObj) (p : L3Params)

/-- The operations of a step on the groups. -/
def groupEvs (x : Notifier) : Ev → List (L3Groups.Ev NhStub)
  | .groups e => [e]
  | .rest _ => []
  | .nhReachable o n obj p =>
    match getRouteByNhParams x.l3.installed p with
    | none => []
    | some route =>
      match getNeighboursOfRoute o.env route with
      | none => []
      | some (_, nhs) => if p.nh ∈ nhs then o.egressEvs x.l3 n obj else []
  | .nhUnreachable o n obj _ => o.releaseEvs x.l3 n obj

/-- `nl_l3` after a step. -/
def next (x : Notifier) : Ev → Option L3
  | .groups e => some { x.l3 with groups := x.l3.groups.step e }
  | .rest l3 => some { l3 with groups := x.l3.groups }
  | .nhReachable o n obj p => o.nhReachableNotification x.l3 n obj p
  | .nhUnreachable o n obj p => o.nhUnreachableNotification x.l3 n obj p

/-- The switch after a step. -/
def after (x : Notifier) (e : Ev) : GroupSwitch := x.sw.handleAll x.l3.groups (x.groupEvs e)

/-- `none` is for a process that has crashed. -/
def step : Option Notifier → Ev → Option Notifier
  | none, _ => none
  | some x, e => (x.next e).map fun s => { l3 := s, sw := x.after e }

/-- What a notification uses is written and is on the switch. `nh_unreachable_notification` programs
the route before it gives its reference back. -/
def Fine (x : Notifier) : Ev → Prop
  | .nhReachable o n obj p => (o.nhReachable x.l3 n obj p).Fine (x.after (.nhReachable o n obj p))
  | .nhUnreachable o _ _ p => (o.nhUnreachable x.l3 p).Fine x.sw
  | _ => True

/-- The condition of a notification. -/
def Ok (x : Notifier) : Ev → Prop
  | .nhReachable o n obj p => o.ReachableOk x.l3 n obj p
  | .nhUnreachable o _ _ p => o.UnreachableOk x.l3 p
  | _ => True

/-- The switch returns 0 or an error, it can create the ECMP groups, and the counters are not used
up. -/
def Serves (x : Notifier) : Ev → Prop
  | .groups e => L3Groups.Sends x.l3.groups e
  | .rest _ => True
  | .nhReachable o _ _ _ => L3Groups.Spare x.l3.groups ∧ ∀ k, o.sw.egressCreate k ≤ 0
  | .nhUnreachable _ _ _ _ => L3Groups.Spare x.l3.groups

section Steps

variable {o : Seen} {x x' : Notifier} {n : Int × Addr} {obj : NeighObj} {p : L3Params}

/-- The operation of a notification is on an egress group. -/
theorem egressEvs_eq (o : Seen) (s : L3) (n : Int × Addr) (obj : NeighObj) :
    o.egressEvs s n obj = [] ∨
      ∃ k, o.egressEvs s n obj = [.addL3Egress k (o.sw.egressCreate k)] := by
  unfold Seen.egressEvs
  split
  · split
    · dsimp only
      split_ifs
      · exact .inl rfl
      · exact .inr ⟨_, rfl⟩
    · exact .inl rfl
  · exact .inl rfl

theorem releaseEvs_eq (o : Seen) (s : L3) (n : Int × Addr) (obj : NeighObj) :
    o.releaseEvs s n obj = [] ∨ ∃ k, o.releaseEvs s n obj = [.delL3Egress k 0] := by
  unfold Seen.releaseEvs
  split
  · split
    · exact .inr ⟨_, rfl⟩
    · exact .inl rfl
  · exact .inl rfl

variable (o n obj p) in
theorem groupEvs_nhReachable (x : Notifier) :
    x.groupEvs (.nhReachable o n obj p) = [] ∨
      ∃ k, x.groupEvs (.nhReachable o n obj p) = [.addL3Egress k (o.sw.egressCreate k)] := by
  unfold groupEvs
  dsimp only
  split
  · exact .inl rfl
  · split
    · exact .inl rfl
    · split_ifs
      · exact egressEvs_eq o x.l3 n obj
      · exact .inl rfl

/-- The groups after a step are those after its operations. -/
theorem groups_next {e : Ev} {s : L3} (h : x.next e = some s) :
    s.groups = run L3Groups.step x.l3.groups (x.groupEvs e) := by
  cases e with
  | groups e =>
    cases h
    rfl
  | rest l3 =>
    cases h
    rfl
  | nhReachable o n obj p =>
    simp only [groupEvs]
    rcases Hosts.seen_nhReachableNotification_cases h with
      ⟨hroute, rfl⟩ | ⟨route, rv, nhs, hroute, hnhs, ⟨hmem, rv', t, hadd, rfl⟩ | ⟨hmem, rfl⟩⟩
    · rw [hroute]
      rfl
    · have hg := groups_addL3NeighEgress hadd
      simp only [hroute, hnhs, if_pos hmem]
      exact hg
    · simp only [hroute, hnhs, if_neg hmem]
      rfl
  | nhUnreachable o n obj p =>
    simp only [groupEvs]
    obtain ⟨t, hdel, rfl | rfl⟩ := Hosts.seen_nhUnreachableNotification_cases h
    · have hg := groups_delL3NeighEgress hdel
      exact hg
    · have hg := groups_delL3NeighEgress hdel
      exact hg

/-- The operations of a step can be carried out. -/
theorem sends_groupEvs {e : Ev} (hs : x.Serves e) :
    Along L3Groups.step L3Groups.Sends x.l3.groups (x.groupEvs e) := by
  cases e with
  | groups e => exact ⟨hs, trivial⟩
  | rest l3 => exact trivial
  | nhReachable o n obj p =>
    rcases groupEvs_nhReachable o n obj p x with h | ⟨k, h⟩
    · rw [h]
      trivial
    · rw [h]
      exact ⟨⟨hs.1, fun _ _ he => by cases he⟩, trivial⟩
  | nhUnreachable o n obj p =>
    simp only [groupEvs]
    rcases releaseEvs_eq o x.l3 n obj with h | ⟨k, h⟩
    · rw [h]
      trivial
    · rw [h]
      exact ⟨⟨hs, fun _ _ he => by cases he⟩, trivial⟩

/-- A step keeps the groups on the switch. -/
theorem mirror_next {e : Ev} {s : L3} (h : L3Groups.Mirror x.l3.groups x.sw) (hs : x.Serves e)
    (hx : x.next e = some s) : L3Groups.Mirror s.groups (x.after e) := by
  rw [groups_next hx]
  exact h.run (sends_groupEvs hs)

/-- A group that is on the switch stays there during `nh_reachable_notification`. -/
theorem mem_after_nhReachable {i : Nat} (hi : i ∈ x.sw.unicast) :
    i ∈ (x.after (.nhReachable o n obj p)).unicast := by
  unfold after
  rcases groupEvs_nhReachable o n obj p x with h | ⟨k, h⟩
  · rw [h]
    exact hi
  · rw [h]
    simp only [GroupSwitch.handleAll, GroupSwitch.handle, L3Groups.addOp]
    split_ifs
    · exact hi
    · cases x.l3.groups.l3InterfaceMapping.lookup k with
      | none => exact (L3Groups.mem_apply_create _ _ _).mpr (.inl hi)
      | some y => exact hi

theorem nhReachable_fine_iff (h : L3Groups.Mirror x.l3.groups x.sw)
    (hs : x.Serves (.nhReachable o n obj p)) :
    x.Fine (.nhReachable o n obj p) ↔ x.Ok (.nhReachable o n obj p) := by
  refine L3.nhReachable_fine_iff hs.2 h (fun i hi => mem_after_nhReachable hi) ?_
  intro nhs s' ids hcol route rv nhs' hroute hnhs heq
  subst heq
  have hgroups : s'.groups = run L3Groups.step x.l3.groups
      (x.groupEvs (.nhReachable o n obj p)) := by
    simp only [groupEvs, hroute, hnhs]
    split_ifs with hmem
    · obtain ⟨rv', hadd⟩ := hcol.added hmem
      exact groups_addL3NeighEgress hadd
    · rw [hcol.same hmem]
      rfl
  rw [hgroups]
  exact h.run (sends_groupEvs hs)

theorem fine_iff {e : Ev} (h : L3Groups.Mirror x.l3.groups x.sw) (hs : x.Serves e) :
    x.Fine e ↔ x.Ok e := by
  cases e with
  | groups e => exact Iff.rfl
  | rest l3 => exact Iff.rfl
  | nhReachable o n obj p => exact nhReachable_fine_iff h hs
  | nhUnreachable o n obj p => exact L3.nhUnreachable_fine_iff h

end Steps

/-! ## The loops over the callbacks -/

section Loops

variable {o : Seen} {s s' : L3} {n : Int × Addr} {obj : NeighObj}

theorem run_groups (s : L3) (sw : GroupSwitch) (es : List (L3Groups.Ev NhStub)) :
    run step (some ⟨s, sw⟩) (es.map .groups) =
      some ⟨{ s with groups := run L3Groups.step s.groups es }, sw.handleAll s.groups es⟩ := by
  induction es generalizing s sw with
  | nil => rfl
  | cons e es ih =>
    rw [List.map_cons, run_cons]
    exact ih _ _

theorem run_rest {sw : GroupSwitch} (h : s'.groups = s.groups) :
    step (some ⟨s, sw⟩) (.rest s') = some ⟨s', sw⟩ := by
  simp only [step, next, Option.map_some, ← h]
  rfl

/-- A loop over callbacks is a run of notifications. -/
theorem run_foldlM {f : L3 → L3Params → Option L3} (ev : L3Params → Ev)
    (hev : ∀ x p, next x (ev p) = f x.l3 p) {l : List L3Params} (h : l.foldlM f s = some s')
    (sw : GroupSwitch) : ∃ sw', run step (some ⟨s, sw⟩) (l.map ev) = some ⟨s', sw'⟩ := by
  induction l generalizing s sw with
  | nil =>
    cases h
    exact ⟨sw, rfl⟩
  | cons p l ih =>
    rw [List.foldlM_cons] at h
    obtain ⟨s₁, hs₁, h⟩ := Option.bind_eq_some_iff.mp h
    rw [List.map_cons, run_cons, step, hev, hs₁]
    exact ih h _

/-- The loop over `nh_callbacks`. -/
theorem run_notifyReachable (h : o.notifyReachable s n obj = some s') (sw : GroupSwitch) :
    ∃ sw', run step (some ⟨s, sw⟩)
      ((s.nhCallbacks.filter fun p => p.nh.neigh == n).map (.nhReachable o n obj) ++ [.rest s']) =
        some ⟨s', sw'⟩ := by
  obtain ⟨s₁, hs₁, h⟩ := Option.bind_eq_some_iff.mp h
  cases h
  obtain ⟨sw', hrun⟩ := run_foldlM (.nhReachable o n obj) (fun _ _ => rfl) hs₁ sw
  exact ⟨sw', by rw [run_append, hrun]; rfl⟩

/-- The loop over `nh_unreach_callbacks`. -/
theorem run_notifyUnreachable (h : o.notifyUnreachable s n obj = some s') (sw : GroupSwitch) :
    ∃ sw', run step (some ⟨s, sw⟩)
      ((s.nhUnreachCallbacks.filter fun p => p.nh.neigh == n).map (.nhUnreachable o n obj) ++
        [.rest s']) = some ⟨s', sw'⟩ := by
  obtain ⟨s₁, hs₁, h⟩ := Option.bind_eq_some_iff.mp h
  cases h
  obtain ⟨sw', hrun⟩ := run_foldlM (.nhUnreachable o n obj) (fun _ _ => rfl) hs₁ sw
  exact ⟨sw', by rw [run_append, hrun]; rfl⟩

/-- A neighbour or a route takes a reference of an egress group. -/
theorem run_addL3NeighEgress {rv : Int} (h : o.addL3NeighEgress s n obj = some (rv, s'))
    (sw : GroupSwitch) : ∃ sw', run step (some ⟨s, sw⟩)
      ((o.egressEvs s n obj).map .groups ++ [.rest s']) = some ⟨s', sw'⟩ := by
  rw [run_append, run_groups]
  exact ⟨_, run_rest (groups_addL3NeighEgress h)⟩

/-- A neighbour or a route gives its reference back. -/
theorem run_delL3NeighEgress (h : o.delL3NeighEgress s n obj = some s') (sw : GroupSwitch) :
    ∃ sw', run step (some ⟨s, sw⟩) ((o.releaseEvs s n obj).map .groups ++ [.rest s']) =
      some ⟨s', sw'⟩ := by
  rw [run_append, run_groups]
  exact ⟨_, run_rest (groups_delL3NeighEgress h)⟩

end Loops

/-! ## Runs -/

/-- In a run whose operations the switch carries out, all notifications are fine exactly if all of
them meet their conditions. -/
theorem notifications_run {es : List Ev} (hs : Along step (Running Serves) (some {}) es) :
    Along step (Running Fine) (some {}) es ↔ Along step (Running Ok) (some {}) es := by
  refine along_running_congr (I := fun x => L3Groups.Mirror x.l3.groups x.sw) L3Groups.mirror_init
    (fun _ => rfl) (fun x e y h hs hy => ?_) (fun x e h hs => fine_iff h hs) hs
  obtain ⟨s, hnext, rfl⟩ := Option.map_eq_some_iff.mp hy
  exact mirror_next h hs hnext

/-! ## Two runs -/

/-- The route of the daemon is installed too. -/
def seesDaemonRoute (obj : NeighObj) (h : obj.Formed) : Seen :=
  { Hosts.seesRoute obj h with installed := [kernelRoute 1, daemonRoute] }

/-- The next hop of the route, as it waits for its neighbour. -/
def daemonParams : L3Params where
  dst := daemonRoute.dst
  nh := { nh := .inet 0x0a000102, ifindex := 3 }

/-- The route of the daemon waits for its next hop. -/
def daemonWaits : L3 where
  installed := [kernelRoute 1, daemonRoute]
  nhCallbacks := [daemonParams]
  active := [daemonRoute]

/-- The next hop comes, and goes. -/
def daemonRun (obj : NeighObj) (h : obj.Formed) : List Ev :=
  [.rest daemonWaits, .nhReachable (seesDaemonRoute obj h) Hosts.portNeigh obj daemonParams,
    .nhUnreachable (seesDaemonRoute obj h) Hosts.portNeigh obj daemonParams]

theorem spare_init : L3Groups.Spare ({} : L3Groups NhStub) := by
  unfold L3Groups.Spare
  decide

theorem serves_daemonRun (obj : NeighObj) (h : obj.Formed) :
    Along step (Running Serves) (some {}) ((daemonRun obj h).take 2) := by
  refine ⟨fun x hx => trivial, fun x hx => ?_, trivial⟩
  cases hx
  exact ⟨spare_init, fun k => le_refl 0⟩

theorem getNeighboursOfRoute_daemonRoute :
    getNeighboursOfRoute portEnv daemonRoute = some (1, [daemonParams.nh]) := by decide

theorem forNextHops_daemonRoute {obj : NeighObj} (h : obj.Formed) {s : L3}
    (hs : s.installed = [kernelRoute 1, daemonRoute]) (P : NhStub.Set → Prop) :
    (seesDaemonRoute obj h).ForNextHops s daemonParams P ↔ P [daemonParams.nh] := by
  refine forNextHops_iff ?_ getNeighboursOfRoute_daemonRoute
  rw [hs]
  decide

theorem notifications_run_daemonRoute :
    Along step (Running Serves) (some {})
      (daemonRun Hosts.reachableNeigh Hosts.formed_reachableNeigh) ∧
    Along step (Running Fine) (some {})
      (daemonRun Hosts.reachableNeigh Hosts.formed_reachableNeigh) := by
  have hs : Along step (Running Serves) (some {})
      (daemonRun Hosts.reachableNeigh Hosts.formed_reachableNeigh) := by
    refine ⟨fun x hx => trivial, fun x hx => ?_, fun x hx => ?_, trivial⟩
    · cases hx
      exact ⟨spare_init, fun k => le_refl 0⟩
    · cases hx
      unfold Serves L3Groups.Spare
      decide
  refine ⟨hs, (notifications_run hs).mpr ⟨fun x hx => trivial, fun x hx => ?_, fun x hx => ?_, trivial⟩⟩
  · cases hx
    refine (forNextHops_daemonRoute _ rfl _).mpr fun _ _ => ⟨fun _ => ?_, .inl ⟨?_, ?_⟩, ?_⟩
    · rintro (he | ⟨-, -, link, hlink, hb, -⟩)
      · cases he
      · cases hlink
        cases hb
    · exact List.mem_singleton_self _
    · refine ⟨2, { ownPortId := 1, portId := 1, vid := 1, addr := 1 }, 3, rfl, rfl, rfl, ?_⟩
      refine ⟨⟨rfl, _, rfl, by decide, .inr (.inr (le_refl 0))⟩, by decide, .inr rfl⟩
    · simp
  · cases hx
    refine (forNextHops_daemonRoute _ rfl _).mpr fun _ ⟨rnh, hmem, hne, _⟩ => ?_
    exact absurd (List.mem_singleton.mp hmem) hne

/-- A route waits for its next hop, which then comes as an incomplete neighbour: the route is pointed
to an id that nothing was written to. -/
theorem incompleteNeigh_not_fine :
    let o := seesDaemonRoute Hosts.incompleteNeigh Hosts.formed_incompleteNeigh
    run Hosts.step (some {}) [(o, .addL3UnicastRoute daemonRoute)] = some { l3 := daemonWaits } ∧
      o.nhReachable daemonWaits Hosts.portNeigh Hosts.incompleteNeigh daemonParams =
        .programs [none] false none ∧
      Along step (Running Serves) (some {})
        ((daemonRun Hosts.incompleteNeigh Hosts.formed_incompleteNeigh).take 2) ∧
      ¬ Along step (Running Fine) (some {})
        ((daemonRun Hosts.incompleteNeigh Hosts.formed_incompleteNeigh).take 2) := by
  intro o
  have hroute : o.nhReachable daemonWaits Hosts.portNeigh Hosts.incompleteNeigh daemonParams =
      .programs [none] false none := by decide
  refine ⟨rfl, hroute, serves_daemonRun _ _, fun h => ?_⟩
  have hfine := h.2.1 _ rfl
  simp only [Fine] at hfine
  have hnone : Notified.Fine _ (.programs [none] false none) := hroute ▸ hfine
  obtain ⟨i, hi, -⟩ := hnone.1 none List.mem_cons_self
  cases hi

end Notifier

end L3

end Basebox
