import Basebox.Netlink.LateL3

/-!
# Next hops of the routes of a new bridge (`src/netlink/cnetlink.cc`, `nl_l3.cc`)

A route is added when its note is handled, and again by the scan for a new bridge. Its next hops
change with the interfaces that belong to the switch, and nothing records which of them were taken.

* `Balanced`: for each next hop of a route, as the handled notes have it, one turn is held.
* `InStep`: what the steps have to meet. `CaughtUp`: what a scan takes for a route is what its next
  hops need in addition.
* `routesBalanced_iff_along`: all states of a run are balanced exactly if its steps meet that.
* `caughtUp_handled_iff`: when all notes are handled, a scan is right for a route that is found by
  one interface and has no next hop on a port.
-/

namespace Basebox

namespace LateL3

variable (env : LateEnv) (s : LateL3) (fib : Prefix → Bool)

/-- A route as the handled notes have it. -/
def seenRoute (id : RouteId) : Option CachedRoute :=
  (s.cache.seen.lookup (.route id)).bind L3Obj.asRoute

/-- A route as the cache has it. -/
def cachedRoute (id : RouteId) : Option CachedRoute :=
  (s.cache.cache.lookup (.route id)).bind L3Obj.asRoute

/-- The next hops that a route has. -/
def needs (id : RouteId) : Finset NlStub := (s.seenRoute id).elim ∅ (nextHops env s)

/-- For each next hop of a route one turn is held. -/
def Balanced : Prop := ∀ id nh, s.held id nh = if nh ∈ s.needs env id then 1 else 0

/-- How many interfaces of the bridge a route is found by. -/
def scans (b : Int) (r : CachedRoute) : Nat := (b :: s.getVlanLinks env b).countP fun i => via i r

/-- What a scan takes for a route is what its next hops need in addition: it takes nothing and they
need nothing, or it finds the route once, and the next hops are just those that held nothing. -/
def CaughtUp (b : Int) (id : RouteId) : Prop :=
  ((s.follow b).needs env id = s.needs env id ∧
    ∀ r, s.cachedRoute id = some r → s.scans env b r = 0 ∨ taken env (s.follow b) fib r = ∅) ∨
  ∃ r, s.cachedRoute id = some r ∧ s.scans env b r = 1 ∧
    taken env (s.follow b) fib r = (s.follow b).needs env id \ s.needs env id

/-- No route gets next hops or loses some. -/
def Unmoved (t : LateL3) : Prop := ∀ id, t.needs env id = s.needs env id

/-- What the next hops of a changed route need: the new ones are taken and the old ones given back,
or nothing is done and they are the same. -/
def Exchanged (old new : CachedRoute) : Prop :=
  if old.isUnicast && new.isUnicast then
    (taken env s fib new = nextHops env s new ∧ taken env s fib old = nextHops env s old) ∨
      (taken env s fib new = ∅ ∧ taken env s fib old = ∅ ∧ nextHops env s old = nextHops env s new)
  else nextHops env s old = nextHops env s new

/-- The condition on a note, in the state in which it is handled. -/
def NoteInStep (t : LateL3) : CacheNote L3Key L3Obj → Prop
  | .new _ (.route r) => taken env t fib r = nextHops env t r
  | .change _ (.route old) (.route new) => t.Exchanged env fib old new
  | .del _ (.route r) => given env t fib r = nextHops env t r
  | .del k (.link i) => ∀ t', handleNote env fib t (.del k (.link i)) = some t' → s.Unmoved env t'
  | _ => True

/-- The condition on an event. -/
def EvInStep : Ev → Prop
  | .report (.link i) => s.Unmoved env { s with cache := s.cache.put (.link i) (.link i) }
  | .handle fib =>
    match s.cache.pending with
    | [] => True
    | n :: _ => s.NoteInStep env fib s.popped n
  | .newBridge b fib => s.bridge = none ∧ s.hasLink b = true → ∀ id, s.CaughtUp env fib b id
  | _ => True

/-- The condition on a step, unless the process crashes in it. -/
def InStep : Option LateL3 → Ev → Prop
  | none, _ => True
  | some s, e => (exec env s e).isSome = true → s.EvInStep env e

section Scan

variable {env : LateEnv} {s t : LateL3} {fib : Prefix → Bool}

/-- What was taken for a next hop of the route, if it was found `n` times. -/
def takenFor (env : LateEnv) (s : LateL3) (fib : Prefix → Bool) (n : CachedRoute → Nat)
    (id : RouteId) (nh : NlStub) : Nat :=
  (s.cachedRoute id).elim 0 fun r => if nh ∈ taken env s fib r then n r else 0

/-- The routes found by one interface. -/
theorem countP_getL3Routes (h : s.cache.Keyed L3Obj.key) (i : Int) (id : RouteId) (nh : NlStub) :
    (s.getL3Routes i).countP (fun r => decide (id = r.id ∧ nh ∈ taken env s fib r)) =
      s.takenFor env fib (fun r => if via i r then 1 else 0) id nh := by
  unfold getL3Routes takenFor cachedRoute
  rw [List.countP_filterMap, Table.countP_entries (k := .route id)]
  · cases hk : s.cache.cache.lookup (.route id) with
    | none => rfl
    | some o =>
      have hkey := h.cache _ _ hk
      cases o with
      | link | addr => cases hkey
      | route r =>
        obtain rfl : r.id = id := by simpa [L3Obj.key] using hkey
        simp only [Option.any_some, Option.bind_some, L3Obj.asRoute, Option.elim_some]
        split_ifs <;> simp_all
  · rintro ⟨k, o⟩ hx hp
    have hkey := h.cache k o (AList.mem_lookup_iff.mpr hx)
    cases o with
    | link | addr => cases hp
    | route r =>
      simp only at hp
      split_ifs at hp with hv
      · simp only [Option.map_some, Option.getD_some, decide_eq_true_eq] at hp
        rw [← hkey, L3Obj.key, hp.1]
      · cases hp

/-- What is taken is the same where the next hops are. -/
theorem taken_congr (h : nextHops env t = nextHops env s) :
    taken env t fib = taken env s fib := by
  funext r
  rw [taken, taken, h]

/-- What a scan changes, but for the addresses. -/
structure Scanned (env : LateEnv) (fib : Prefix → Bool) (links : List Int) (s t : LateL3) :
    Prop where
  cache : t.cache = s.cache
  bridge : t.bridge = s.bridge
  held : ∀ id nh, t.held id nh =
    s.held id nh + s.takenFor env fib (fun r => links.countP fun i => via i r) id nh

theorem Scanned.nextHops {links : List Int} (h : Scanned env fib links s t) :
    nextHops env t = nextHops env s :=
  nextHops_congr (isSwitchInterface_congr (fun i => by rw [h.cache]) h.bridge)

/-- The routes of a list are added. -/
theorem held_foldlM {rs : List CachedRoute}
    (h : rs.foldlM (fun s r => addL3Route env s fib r) s = some t) (id : RouteId) (nh : NlStub) :
    t.held id nh = s.held id nh +
      rs.countP fun r => decide (id = r.id ∧ nh ∈ taken env s fib r) := by
  induction rs generalizing s with
  | nil =>
    cases h
    simp
  | cons r rs ih =>
    rw [List.foldlM_cons] at h
    obtain ⟨u, hu, h⟩ := Option.bind_eq_some_iff.mp h
    obtain rfl := addL3Route_eq hu
    have hhops : nextHops env (s.hold r.id (taken env s fib r) 1) = nextHops env s :=
      (sameButHeld_hold s _ _ _).nextHops
    rw [ih h, List.countP_cons, taken_congr hhops]
    have hheld : (s.hold r.id (taken env s fib r) 1).held id nh =
      s.held id nh + if id = r.id ∧ nh ∈ taken env s fib r then 1 else 0 := rfl
    rw [hheld]
    simp only [decide_eq_true_eq]
    split_ifs <;> push_cast <;> omega

/-- One interface. -/
theorem scanned_link (h : s.cache.Keyed L3Obj.key) (i : Int)
    (hscan : addL3Routes env (s.addL3Addresses env i) fib i = some t) :
    Scanned env fib [i] s t := by
  have haddrs : SameButAddrs s (s.addL3Addresses env i) := sameButAddrs_foldl env s _
  have hroutes : (s.addL3Addresses env i).getL3Routes i = s.getL3Routes i := by
    unfold getL3Routes
    rw [haddrs.cache]
  unfold addL3Routes at hscan
  rw [hroutes] at hscan
  have hsame := sameButHeld_foldlM hscan
  refine ⟨hsame.cache.trans haddrs.cache, hsame.bridge.trans haddrs.bridge, fun id nh => ?_⟩
  rw [held_foldlM hscan, haddrs.held, taken_congr haddrs.nextHops, countP_getL3Routes h]
  simp [List.countP_cons]

theorem Scanned.trans {l₁ l₂ : List Int} {s₁ s₂ s₃ : LateL3} (h₁ : Scanned env fib l₁ s₁ s₂)
    (h₂ : Scanned env fib l₂ s₂ s₃) : Scanned env fib (l₁ ++ l₂) s₁ s₃ where
  cache := h₂.cache.trans h₁.cache
  bridge := h₂.bridge.trans h₁.bridge
  held id nh := by
    rw [h₂.held, h₁.held]
    unfold takenFor cachedRoute
    rw [h₁.cache, taken_congr h₁.nextHops]
    cases (s₁.cache.cache.lookup (.route id)).bind L3Obj.asRoute with
    | none => simp
    | some r =>
      simp only [List.countP_append, Option.elim_some]
      split_ifs <;> push_cast <;> omega

theorem scanned_links (h : s.cache.Keyed L3Obj.key) {links : List Int}
    (hscan : links.foldlM (fun s link => addL3Routes env (s.addL3Addresses env link) fib link) s =
      some t) : Scanned env fib links s t := by
  induction links generalizing s with
  | nil =>
    cases hscan
    refine ⟨rfl, rfl, fun id nh => ?_⟩
    unfold takenFor
    cases t.cachedRoute id <;> simp
  | cons i links ih =>
    rw [List.foldlM_cons] at hscan
    obtain ⟨u, hu, hscan⟩ := Option.bind_eq_some_iff.mp hscan
    have h1 := scanned_link h i hu
    exact h1.trans (ih (by rw [h1.cache]; exact h) hscan)

end Scan

section Routes

variable {env : LateEnv} {s t : LateL3} {fib : Prefix → Bool}

/-- More interfaces of the switch, more next hops. -/
theorem getNeighboursOfRoute_mono {S S' : Int → Bool} (hS : ∀ i, S i = true → S' i = true)
    (nhById : Nat → Option RtnlNh) (r : RtnlRoute) :
    (r.getNeighboursOfRoute S nhById).2 ⊆ (r.getNeighboursOfRoute S' nhById).2 := by
  have hinline : ∀ l : List RtnlNexthop,
      ((l.filter fun nh => S nh.ifindex).filterMap (inlineStub r.nhid)).toFinset ⊆
        ((l.filter fun nh => S' nh.ifindex).filterMap (inlineStub r.nhid)).toFinset := by
    intro l x hx
    simp only [List.mem_toFinset, List.mem_filterMap, List.mem_filter] at hx ⊢
    obtain ⟨nh, ⟨hnh, hs⟩, hx⟩ := hx
    exact ⟨nh, ⟨hnh, hS _ hs⟩, hx⟩
  have hobject : ∀ l : List RtnlNh,
      ((l.filter fun nh => S nh.oif).filterMap (objectStub r.nhid)).toFinset ⊆
        ((l.filter fun nh => S' nh.oif).filterMap (objectStub r.nhid)).toFinset := by
    intro l x hx
    simp only [List.mem_toFinset, List.mem_filterMap, List.mem_filter] at hx ⊢
    obtain ⟨nh, ⟨hnh, hs⟩, hx⟩ := hx
    exact ⟨nh, ⟨hnh, hS _ hs⟩, hx⟩
  unfold RtnlRoute.getNeighboursOfRoute
  split
  · dsimp only
    split
    · exact Finset.empty_subset _
    · next hne =>
      split
      · next he =>
        have := hinline r.nexthops
        rw [List.length_eq_zero_iff.mp he] at this
        exact this
      · exact hinline r.nexthops
  · split
    · split
      · exact Finset.empty_subset _
      · exact hobject _
    · exact Finset.empty_subset _

theorem nextHops_follow (hb : s.bridge = none) (b : Int) (r : CachedRoute) :
    nextHops env s r ⊆ nextHops env (s.follow b) r := by
  unfold nextHops
  split
  · refine getNeighboursOfRoute_mono (fun i hi => ?_) _ _
    unfold isSwitchInterface ours at hi ⊢
    rw [hb] at hi
    simp only [reduceCtorEq, decide_false, Bool.or_false, Bool.and_eq_true] at hi
    obtain ⟨⟨hlink, hbase⟩, hport⟩ := hi
    rw [hport]
    simp only [Bool.true_or, Bool.and_true, Bool.and_eq_true]
    exact ⟨hlink, hbase⟩
  · exact Finset.empty_subset _

theorem needs_follow (env : LateEnv) (hb : s.bridge = none) (b : Int) (id : RouteId) :
    s.needs env id ⊆ (s.follow b).needs env id := by
  unfold needs
  change (s.seenRoute id).elim ∅ (nextHops env s) ⊆ (s.seenRoute id).elim ∅ (nextHops env (s.follow b))
  cases s.seenRoute id with
  | none => exact Finset.empty_subset _
  | some r => exact nextHops_follow hb b r

/-- Where the handled notes and the next hops are the same. -/
theorem unmoved_of_eq (hseen : t.cache.seen = s.cache.seen)
    (hhops : nextHops env t = nextHops env s) : s.Unmoved env t := by
  intro id
  rw [needs, needs, hhops, seenRoute, hseen]
  rfl

/-- What is held after a scan is right exactly if the scan catches up. -/
theorem balanced_newBridge_iff (hk : s.cache.Keyed L3Obj.key) (h : s.Balanced env)
    (hb : s.bridge = none) {b : Int}
    (hscan : addL3Configuration env (s.follow b) fib b = some t) :
    t.Balanced env ↔ ∀ id, s.CaughtUp env fib b id := by
  have hscan : Scanned env fib (b :: s.getVlanLinks env b) (s.follow b) t :=
    scanned_links (s := s.follow b) hk hscan
  have hneeds : (s.follow b).Unmoved env t := unmoved_of_eq (by rw [hscan.cache]) hscan.nextHops
  -- What is held for one next hop afterwards.
  have hheld : ∀ id nh, t.held id nh = (if nh ∈ s.needs env id then (1 : Int) else 0) +
      (takenFor env (s.follow b) fib (s.scans env b) id nh : Nat) := by
    intro id nh
    rw [hscan.held, ← h id nh]
    rfl
  unfold Balanced
  refine forall_congr' fun id => ?_
  have hmono := needs_follow env hb b id
  simp only [hneeds id, hheld]
  unfold CaughtUp takenFor
  rw [show (s.follow b).cachedRoute id = s.cachedRoute id from rfl]
  cases s.cachedRoute id with
  | none =>
    constructor
    · intro hall
      refine .inl ⟨Finset.ext fun nh => ?_, fun r hr => by cases hr⟩
      have := hall nh
      split_ifs at this <;> simp_all
    · rintro (⟨heq, -⟩ | ⟨r, hr, -⟩) nh
      · rw [heq, Option.elim_none]
        omega
      · cases hr
  | some r =>
    simp only [Option.some.injEq, forall_eq', Option.elim_some]
    constructor
    · intro hall
      by_cases h0 : s.scans env b r = 0 ∨ taken env (s.follow b) fib r = ∅
      · refine .inl ⟨Finset.ext fun nh => ?_, h0⟩
        have := hall nh
        rcases h0 with h0 | h0 <;> rw [h0] at this <;> split_ifs at this <;> simp_all
      · rw [not_or] at h0
        obtain ⟨nh₀, hnh₀⟩ := Finset.nonempty_iff_ne_empty.mpr h0.2
        have h₀ := hall nh₀
        rw [if_pos hnh₀] at h₀
        have hone : s.scans env b r = 1 := by
          split_ifs at h₀ <;> omega
        refine .inr ⟨r, rfl, hone, Finset.ext fun nh => ?_⟩
        have := hall nh
        rw [hone] at this
        rw [Finset.mem_sdiff]
        split_ifs at this <;> simp_all
    · rintro (⟨heq, h0⟩ | ⟨r', rfl, hone, heq⟩) nh
      · rw [heq]
        rcases h0 with h0 | h0 <;> rw [h0] <;> split_ifs <;> simp_all
      · rw [hone, heq]
        simp only [Finset.mem_sdiff]
        have := @hmono nh
        split_ifs <;> simp_all

/-- Where nothing is taken or given back. -/
theorem balanced_iff_of_held (h : s.Balanced env) (hheld : t.held = s.held) :
    t.Balanced env ↔ s.Unmoved env t := by
  unfold Balanced
  rw [hheld]
  constructor
  · intro h' id
    refine Finset.ext fun nh => ?_
    have h₁ := h id nh
    have h₂ := h' id nh
    rw [h₁] at h₂
    split_ifs at h₂ <;> simp_all
  · intro heq id nh
    rw [heq]
    exact h id nh

variable {n : CacheNote L3Key L3Obj} {l : List (CacheNote L3Key L3Obj)}

theorem seenRoute_popped (hl : s.cache.pending = n :: l) (id : RouteId) :
    s.popped.seenRoute id =
      if L3Key.route id = n.key then n.after.bind L3Obj.asRoute else s.seenRoute id := by
  unfold seenRoute
  show (s.cache.handle.seen.lookup _).bind _ = _
  rw [AheadCache.seen_handle hl, CacheNote.lookup_apply]
  split_ifs <;> rfl

/-- A link is found until its deletion is handled. -/
theorem nextHops_popped (hl : s.cache.pending = n :: l) (hn : ∀ i o, n ≠ .del (.link i) o) :
    nextHops env s.popped = nextHops env s :=
  nextHops_congr (isSwitchInterface_congr (fun i => AheadCache.find_handle_iff hl (hn i)) rfl)

/-- A note that is of no route and of no link that is gone. -/
theorem unmoved_popped (hl : s.cache.pending = n :: l) (hn : ∀ id, n.key ≠ .route id)
    (hlink : ∀ i o, n ≠ .del (.link i) o) (ht : SameButAddrs s.popped t) : s.Unmoved env t := by
  intro id
  have hseen : t.seenRoute id = s.seenRoute id := by
    rw [seenRoute, ht.cache]
    exact (seenRoute_popped hl id).trans (if_neg (hn id).symm)
  rw [needs, needs, hseen, ht.nextHops, nextHops_popped hl hlink]

/-- A note of a route, by what the handler takes for it and gives back. -/
theorem balanced_route_iff (hf : s.cache.Inv) (h : s.Balanced env) (hl : s.cache.pending = n :: l)
    {i : RouteId} (hkey : n.key = .route i) {nhs back : Finset NlStub}
    (ht : t = (s.popped.hold i nhs 1).hold i back (-1)) :
    t.Balanced env ↔ ∀ nh,
      ((if nh ∈ objHops env s.popped n.old then 1 else 0) + (if nh ∈ nhs then 1 else 0) -
        (if nh ∈ back then 1 else 0) : Int) =
          if nh ∈ objHops env s.popped n.after then 1 else 0 := by
  have hlink : ∀ j o, n ≠ .del (.link j) o := by
    rintro j o rfl
    cases hkey
  have hsame : SameButHeld s.popped t := by
    rw [ht]
    exact (sameButHeld_hold _ _ _ _).trans (sameButHeld_hold _ _ _ _)
  have hhops : nextHops env t = nextHops env s.popped := hsame.nextHops
  have hneeds : ∀ id, t.needs env id =
      if id = i then objHops env s.popped n.after else s.needs env id := by
    intro id
    have hseen : t.seenRoute id = s.popped.seenRoute id := by rw [seenRoute, seenRoute, hsame.cache]
    rw [needs, hseen, hhops, seenRoute_popped hl, hkey]
    by_cases hid : id = i
    · rw [if_pos (congrArg _ hid), if_pos hid, objHops]
    · rw [if_neg (by simpa using hid), if_neg hid, nextHops_popped hl hlink, needs]
  have hold : s.needs env i = objHops env s.popped n.old := by
    rw [objHops, nextHops_popped hl hlink, needs, seenRoute, ← hkey, hf.lookup_seen hl]
  have hheld : ∀ id nh, t.held id nh = (if nh ∈ s.needs env id then (1 : Int) else 0) +
      (if id = i ∧ nh ∈ nhs then 1 else 0) + if id = i ∧ nh ∈ back then -1 else 0 := by
    intro id nh
    rw [ht, ← h id nh]
    rfl
  unfold Balanced
  constructor
  · intro hall nh
    have := hall i nh
    rw [hheld, hneeds, if_pos rfl, hold] at this
    simp only [true_and] at this
    rw [← this]
    split_ifs <;> omega
  · intro hall id nh
    rw [hheld, hneeds]
    by_cases hid : id = i
    · have := hall nh
      rw [if_pos hid, hid, hold, ← this]
      simp only [true_and]
      split_ifs <;> omega
    · simp [hid]

/-- Counts of one each are those of a set. -/
theorem forall_count_iff {A B : Finset NlStub} :
    (∀ nh, (if nh ∈ A then (1 : Int) else 0) = if nh ∈ B then 1 else 0) ↔ A = B := by
  constructor
  · intro h
    refine Finset.ext fun nh => ?_
    have := h nh
    split_ifs at this <;> simp_all
  · rintro rfl nh
    rfl

/-- One set is taken in place of another, or it is not, or neither is touched. -/
theorem forall_exchange_iff {A B nhs back : Finset NlStub} (hnhs : nhs = ∅ ∨ nhs = B)
    (hback : back = ∅ ∨ back = A) :
    (∀ nh, ((if nh ∈ A then 1 else 0) + (if nh ∈ nhs then 1 else 0) -
        (if nh ∈ back then 1 else 0) : Int) = if nh ∈ B then 1 else 0) ↔
      (nhs = B ∧ back = A) ∨ (nhs = ∅ ∧ back = ∅ ∧ A = B) := by
  rcases hnhs with rfl | rfl <;> rcases hback with rfl | rfl
  · -- Neither is touched.
    simp only [Finset.notMem_empty, if_false, Int.add_zero, Int.sub_zero, true_and,
      forall_count_iff]
    exact ⟨.inr, fun h => h.elim (fun h => h.2.symm.trans h.1) id⟩
  · -- The old ones only are given back.
    have hempty := @forall_count_iff ∅ B
    simp only [Finset.notMem_empty, if_false] at hempty
    simp only [Finset.notMem_empty, if_false, Int.add_zero, Int.sub_self, and_true, true_and,
      hempty]
    exact ⟨.inl, fun h => h.elim id fun h => h.1.symm.trans h.2⟩
  · -- The new ones only are taken.
    have hleft : ∀ a b : Int, a + b = b ↔ a = 0 := fun a b => by omega
    have hempty := @forall_count_iff A ∅
    simp only [Finset.notMem_empty, if_false] at hempty
    simp only [Finset.notMem_empty, if_false, Int.sub_zero, hleft, true_and, hempty]
    exact ⟨fun h => .inl h.symm, fun h => h.elim Eq.symm fun h => h.2.trans h.1⟩
  · refine iff_of_true (fun nh => ?_) (.inl ⟨rfl, rfl⟩)
    omega

/-- The note of a new route. -/
theorem balanced_new_iff (hf : s.cache.Inv) (h : s.Balanced env) {r : CachedRoute}
    (hl : s.cache.pending = .new (.route r.id) (.route r) :: l)
    (ht : addL3Route env s.popped fib r = some t) :
    t.Balanced env ↔ taken env s.popped fib r = nextHops env s.popped r := by
  have heq : t = (s.popped.hold r.id (taken env s.popped fib r) 1).hold r.id ∅ (-1) := by
    rw [hold_empty]
    exact addL3Route_eq ht
  rw [balanced_route_iff hf h hl rfl heq]
  change (∀ nh, ((if nh ∈ (∅ : Finset NlStub) then 1 else 0) + _ - _ : Int) =
    if nh ∈ nextHops env s.popped r then 1 else 0) ↔ _
  simp only [Finset.notMem_empty, if_false, Int.zero_add, Int.sub_zero]
  exact forall_count_iff

/-- The note of a route that is gone. -/
theorem balanced_del_iff (hf : s.cache.Inv) (h : s.Balanced env) {r : CachedRoute}
    (hl : s.cache.pending = .del (.route r.id) (.route r) :: l)
    (ht : delL3Route env s.popped fib r = some t) :
    t.Balanced env ↔ given env s.popped fib r = nextHops env s.popped r := by
  have heq : t = (s.popped.hold r.id ∅ 1).hold r.id (given env s.popped fib r) (-1) := by
    rw [hold_empty]
    exact delL3Route_eq ht
  rw [balanced_route_iff hf h hl rfl heq]
  change (∀ nh, ((if nh ∈ nextHops env s.popped r then 1 else 0) + _ - _ : Int) =
    if nh ∈ (∅ : Finset NlStub) then 1 else 0) ↔ _
  simp only [Finset.notMem_empty, if_false, Int.add_zero, Int.sub_eq_zero]
  exact forall_count_iff.trans eq_comm

/-- What is taken of next hops is none or all. -/
theorem taken_cases (env : LateEnv) (s : LateL3) (fib : Prefix → Bool) (r : CachedRoute) :
    taken env s fib r = ∅ ∨ taken env s fib r = nextHops env s r := by
  unfold taken
  split_ifs
  · exact .inl rfl
  · exact .inr rfl

/-- The note of a changed route. -/
theorem balanced_change_iff (hf : s.cache.Inv) (h : s.Balanced env) {old new : CachedRoute}
    (hid : new.id = old.id)
    (hl : s.cache.pending = .change (.route old.id) (.route old) (.route new) :: l)
    (ht : updateL3Route env s.popped fib old new = some t) :
    t.Balanced env ↔ s.popped.Exchanged env fib old new := by
  unfold Exchanged
  by_cases htype : old.isUnicast = true ∧ new.isUnicast = true
  · have heq := updateL3Route_eq ht htype
    rw [hid] at heq
    rw [balanced_route_iff hf h hl rfl heq, if_pos (by simp [htype])]
    change (∀ nh, ((if nh ∈ nextHops env s.popped old then 1 else 0) + _ - _ : Int) =
      if nh ∈ nextHops env s.popped new then 1 else 0) ↔ _
    have hnew := taken_cases env s.popped fib new
    have hold := taken_cases env s.popped fib old
    exact forall_exchange_iff hnew hold
  · have heq : t = (s.popped.hold old.id ∅ 1).hold old.id ∅ (-1) := by
      unfold updateL3Route at ht
      rw [if_neg (by simpa using htype), Option.some.injEq] at ht
      rw [hold_empty, hold_empty, ht]
    rw [balanced_route_iff hf h hl rfl heq, if_neg (by simpa using htype)]
    change (∀ nh, ((if nh ∈ nextHops env s.popped old then 1 else 0) + _ - _ : Int) =
      if nh ∈ nextHops env s.popped new then 1 else 0) ↔ _
    simp only [Finset.notMem_empty, if_false, Int.add_zero, Int.sub_zero]
    exact forall_count_iff

/-- The condition on a note is just what keeps the balance. -/
theorem balanced_handle_iff (hk : s.cache.Keyed L3Obj.key) (hf : s.cache.Inv) (h : s.Balanced env)
    (hl : s.cache.pending = n :: l) (ht : handleNote env fib s.popped n = some t) :
    t.Balanced env ↔ s.NoteInStep env fib s.popped n := by
  have hobj : ∀ o, n.old = some o ∨ n.after = some o → o.key = n.key :=
    hk.pending n (hl ▸ List.mem_cons_self)
  -- The notes of other objects, but for links that are gone.
  have hother : SameButAddrs s.popped t → (∀ id, n.key ≠ .route id) →
      (∀ i o, n ≠ .del (.link i) o) → t.Balanced env := fun hsame hn hlink =>
    (balanced_iff_of_held h hsame.held).mpr (unmoved_popped hl hn hlink hsame)
  cases n with
  | new k o =>
    obtain rfl : o.key = k := hobj o (.inr rfl)
    cases o with
    | link i =>
      cases ht
      exact iff_of_true (hother (.refl _) (fun _ hid => by cases hid) fun _ _ hd => by cases hd)
        trivial
    | addr a =>
      cases ht
      exact iff_of_true (hother (sameButAddrs_addL3Addr env _ a) (fun _ hid => by cases hid)
        fun _ _ hd => by cases hd) trivial
    | route r => exact balanced_new_iff hf h hl ht
  | change k old new =>
    obtain rfl : old.key = k := hobj old (.inl rfl)
    have hnew : new.key = old.key := hobj new (.inr rfl)
    cases old with
    | link | addr =>
      cases ht
      exact iff_of_true (hother (.refl _) (fun _ hid => by cases hid) fun _ _ hd => by cases hd)
        trivial
    | route r =>
      cases new with
      | link | addr => cases hnew
      | route r' => exact balanced_change_iff hf h (by simpa [L3Obj.key] using hnew) hl ht
  | del k old =>
    obtain rfl : old.key = k := hobj old (.inl rfl)
    cases old with
    | route r => exact balanced_del_iff hf h hl ht
    | addr a =>
      cases ht
      exact iff_of_true (hother (sameButAddrs_delL3Addr env _ a) (fun _ hid => by cases hid)
        fun _ _ hd => by cases hd) trivial
    | link i =>
      have hheld : t.held = s.held := by
        rw [← Option.some.inj ht]
        split_ifs <;> rfl
      rw [balanced_iff_of_held h hheld]
      constructor
      · rintro hu t' ht'
        rw [ht] at ht'
        exact Option.some.inj ht' ▸ hu
      · exact fun hu => hu t ht

/-- One step. -/
theorem balanced_exec_iff (hk : s.cache.Keyed L3Obj.key) (hf : s.cache.Inv) (h : s.Balanced env)
    {e : Ev} (ht : exec env s e = some t) : t.Balanced env ↔ s.EvInStep env e := by
  cases e with
  | report o =>
    cases ht
    rw [balanced_iff_of_held (t := { s with cache := s.cache.put o.key o }) h rfl]
    cases o with
    | link i => exact Iff.rfl
    | addr | route =>
      refine iff_of_true (unmoved_of_eq (AheadCache.seen_put s.cache _ _) ?_) trivial
      exact nextHops_congr (isSwitchInterface_congr
        (fun i => AheadCache.find_put_iff (by simp [L3Obj.key])) rfl)
  | gone k =>
    cases ht
    refine iff_of_true ((balanced_iff_of_held (t := { s with cache := s.cache.remove k }) h rfl).mpr
      (unmoved_of_eq (AheadCache.seen_remove s.cache k) ?_)) trivial
    exact nextHops_congr (isSwitchInterface_congr (fun i => AheadCache.find_remove_iff k) rfl)
  | newBridge b fib =>
    simp only [exec] at ht
    simp only [EvInStep]
    split_ifs at ht with hb
    · rw [balanced_newBridge_iff hk h hb.1 ht]
      exact ⟨fun hall _ => hall, fun hall => hall hb⟩
    · cases ht
      exact iff_of_true h fun hb' => absurd hb' hb
  | handle fib =>
    simp only [exec] at ht
    simp only [EvInStep]
    cases hl : s.cache.pending with
    | nil =>
      simp only [hl] at ht
      cases ht
      exact iff_of_true h trivial
    | cons n l =>
      simp only [hl] at ht
      exact balanced_handle_iff hk hf h hl ht

theorem cache_exec (hk : s.cache.Keyed L3Obj.key) (hf : s.cache.Inv) {e : Ev}
    (ht : exec env s e = some t) : t.cache.Keyed L3Obj.key ∧ t.cache.Inv := by
  cases e with
  | report o =>
    cases ht
    exact ⟨hk.put o, hf.put o.key o⟩
  | gone k =>
    cases ht
    exact ⟨hk.remove k, hf.remove k⟩
  | newBridge b fib =>
    simp only [exec] at ht
    split_ifs at ht
    · have hscan : t.cache = s.cache := (scanned_links (s := s.follow b) hk ht).cache
      rw [hscan]
      exact ⟨hk, hf⟩
    · cases ht
      exact ⟨hk, hf⟩
  | handle fib =>
    simp only [exec] at ht
    cases hl : s.cache.pending with
    | nil =>
      simp only [hl] at ht
      cases ht
      exact ⟨hk, hf⟩
    | cons n l =>
      simp only [hl] at ht
      rw [cache_handleNote ht]
      exact ⟨hk.handle, hf.handle⟩

variable (env) in
theorem sameButAddrs_init (w : Table L3Key L3Obj) :
    SameButAddrs { cache := { seen := w, cache := w } } (init env w) :=
  sameButAddrs_foldl env _ _

theorem balanced_init (w : Table L3Key L3Obj)
    (hports : ∀ id r, w.lookup (.route id) = some (.route r) → nextHops env (init env w) r = ∅) :
    (init env w).Balanced env := by
  intro id nh
  have hinit := sameButAddrs_init env w
  have hneeds : (init env w).needs env id = ∅ := by
    unfold needs seenRoute
    rw [hinit.cache]
    show ((w.lookup (.route id)).bind L3Obj.asRoute).elim ∅ _ = ∅
    cases ho : w.lookup (.route id) with
    | none => rfl
    | some o =>
      cases o with
      | link | addr => rfl
      | route r => exact hports id r ho
  rw [hneeds, hinit.held]
  rfl

variable (env) in
/-- In all states of a run, until it crashes, one turn is held for each next hop of each route,
exactly if all steps meet the condition. No route of the start is over a port, there is none yet. -/
theorem routesBalanced_iff_along (w : Table L3Key L3Obj)
    (hkeyed : ∀ k o, w.lookup k = some o → o.key = k)
    (hports : ∀ id r, w.lookup (.route id) = some (.route r) → nextHops env (init env w) r = ∅)
    (es : List Ev) :
    (∀ n s, run (step env) (some (init env w)) (es.take n) = some s → s.Balanced env) ↔
      Along (step env) (InStep env) (some (init env w)) es := by
  refine along_iff_of_inv
    (I := fun o : Option LateL3 => ∀ s, o = some s → s.cache.Keyed L3Obj.key ∧ s.cache.Inv)
    (P := fun o : Option LateL3 => ∀ s, o = some s → s.Balanced env) ?_ ?_ ?_ ?_ es
  · rintro s ⟨⟩
    rw [(sameButAddrs_init env w).cache]
    exact ⟨⟨hkeyed, fun n hn => (List.not_mem_nil hn).elim, hkeyed⟩, rfl⟩
  · rintro s ⟨⟩
    exact balanced_init w hports
  · rintro (_ | s) e hi - t ht
    · cases ht
    · exact cache_exec (hi s rfl).1 (hi s rfl).2 ht
  · rintro (_ | s) e hi hP
    · exact iff_of_true (fun t ht => by cases ht) trivial
    · obtain ⟨hk, hf⟩ := hi s rfl
      simp only [step, InStep]
      cases ht : exec env s e with
      | none => simp
      | some t =>
        simp only [Option.some.injEq, forall_eq', Option.isSome_some, true_imp_iff]
        exact balanced_exec_iff hk hf (hP s rfl) ht

/-- When all notes are handled, a scan is right for a route exactly if it takes nothing and the next
hops are those without the bridge, or it finds the route by one interface and nothing is held. -/
theorem caughtUp_handled_iff (hf : s.cache.Inv) (hl : s.cache.pending = []) (hb : s.bridge = none)
    (b : Int) (id : RouteId) :
    s.CaughtUp env fib b id ↔ ∀ r, s.cachedRoute id = some r →
      (nextHops env (s.follow b) r = nextHops env s r ∧
        (s.scans env b r = 0 ∨ taken env (s.follow b) fib r = ∅)) ∨
      (s.scans env b r = 1 ∧ taken env (s.follow b) fib r = nextHops env (s.follow b) r ∧
        nextHops env s r = ∅) := by
  have hseen : s.seenRoute id = s.cachedRoute id := by
    unfold seenRoute cachedRoute
    rw [hf.seen_eq_cache hl]
  unfold CaughtUp needs
  rw [show (s.follow b).seenRoute id = s.seenRoute id from rfl, hseen]
  cases s.cachedRoute id with
  | none => simp
  | some r =>
    simp only [Option.some.injEq, forall_eq', Option.elim_some, exists_eq_left']
    have hmono : nextHops env s r ⊆ nextHops env (s.follow b) r := nextHops_follow hb b r
    constructor
    · rintro (h | ⟨hone, hdiff⟩)
      · exact .inl h
      · rcases taken_cases env (s.follow b) fib r with hnone | hall
        · rw [hnone, eq_comm, Finset.sdiff_eq_empty_iff_subset] at hdiff
          exact .inl ⟨hdiff.antisymm hmono, .inr hnone⟩
        · rw [hall, eq_comm, Finset.sdiff_eq_self_iff_disjoint] at hdiff
          exact .inr ⟨hone, hall, Finset.disjoint_self_iff_empty _ |>.mp
            (Finset.disjoint_of_subset_left hmono hdiff)⟩
    · rintro (h | ⟨hone, hall, hempty⟩)
      · exact .inl h
      · exact .inr ⟨hone, by rw [hall, hempty, Finset.sdiff_empty]⟩

/-- A route over the VLAN interface. -/
def vlanRoute : CachedRoute where
  id := { dst := { addr := .inet 0x0a000000, len := 8 } }
  rtnl := { nexthops := [⟨11, some (.ip (.inet 2)), none⟩], nhid := 0 }

/-- The links and a route. -/
def linksAnd (r : CachedRoute) : Table L3Key L3Obj :=
  (((∅ : Table L3Key L3Obj).insert (.link 10) (.link 10)).insert (.link 11) (.link 11)).insert
    (.route r.id) (.route r)

/-- The bridge gets its first port, then the route goes. -/
def scannedRoute : List Ev := [.newBridge 10 noFib, .gone (.route vlanRoute.id), .handle noFib]

theorem lookup_linksAnd {r : CachedRoute} {id : RouteId} {o : L3Obj}
    (h : (linksAnd r).lookup (.route id) = some o) : o = .route r := by
  rw [linksAnd, Table.lookup_insert_ite] at h
  split_ifs at h
  · exact (Option.some.inj h).symm
  · rw [Table.lookup_insert_ite, if_neg (by simp), Table.lookup_insert_ite, if_neg (by simp)] at h
    cases h

/-- There are no ports, so only the bridge makes interfaces those of the switch. -/
theorem nextHops_offSwitch (hb : s.bridge = none) (r : CachedRoute) :
    nextHops bridgeWithVlan s r = ∅ := by
  have hoff : isSwitchInterface bridgeWithVlan s = fun _ => false := by
    funext i
    simp [isSwitchInterface, ours, hb, bridgeWithVlan]
  unfold nextHops RtnlRoute.getNeighboursOfRoute
  simp only [hoff, List.filter_false, List.length_nil, if_true, List.filterMap_nil,
    List.toFinset_nil]
  split_ifs <;> rfl

/-- The scan takes the next hop of the route, and in the end nothing is held. -/
theorem scannedRoute_balanced :
    ∃ s t, run (step bridgeWithVlan) (some (init bridgeWithVlan (linksAnd vlanRoute)))
        (scannedRoute.take 1) = some s ∧
      s.held vlanRoute.id { nh := some (.inet 2), ifindex := 11, nhid := 0 } = 1 ∧
      run (step bridgeWithVlan) (some (init bridgeWithVlan (linksAnd vlanRoute)))
        (scannedRoute.take 3) = some t ∧ t.Balanced bridgeWithVlan := by
  have hkeyed : ∀ x ∈ (linksAnd vlanRoute).entries, x.2.key = x.1 := by decide
  have hbridge : (init bridgeWithVlan (linksAnd vlanRoute)).bridge = none := rfl
  have hall := (routesBalanced_iff_along bridgeWithVlan (linksAnd vlanRoute)
    (fun k o h => hkeyed ⟨k, o⟩ (AList.mem_lookup_iff.mp h))
    (fun _ r _ => nextHops_offSwitch hbridge r) scannedRoute).mpr ?_
  · refine ⟨_, _, rfl, ?_, rfl, hall 3 _ rfl⟩
    rw [hall 1 _ rfl]
    decide
  refine ⟨fun _ _ id => ?_, fun _ => trivial, fun _ => ?_, trivial⟩
  · -- The scan finds the route by one interface, and nothing is held for it.
    have hinv : (init bridgeWithVlan (linksAnd vlanRoute)).cache.Inv := rfl
    refine (caughtUp_handled_iff hinv rfl hbridge 10 id).mpr fun r hr => ?_
    obtain ⟨o, ho, hr⟩ := Option.bind_eq_some_iff.mp hr
    rw [lookup_linksAnd ho] at hr
    obtain rfl : vlanRoute = r := Option.some.inj hr
    exact .inr ⟨by decide, rfl, nextHops_offSwitch hbridge _⟩
  · -- No route of the kernel is in the way of the deletion.
    change given bridgeWithVlan _ noFib vlanRoute = nextHops bridgeWithVlan _ vlanRoute
    rfl

/-- A route over the bridge and over the VLAN interface is found twice by the scan. -/
def multipath : CachedRoute :=
  { vlanRoute with
    rtnl := {
      nexthops := [⟨10, some (.ip (.inet 1)), none⟩, ⟨11, some (.ip (.inet 2)), none⟩]
      nhid := 0 } }

example : ∃ s, step bridgeWithVlan (some (init bridgeWithVlan (linksAnd multipath)))
    (.newBridge 10 noFib) = some s ∧
      s.held multipath.id { nh := some (.inet 2), ifindex := 11, nhid := 0 } = 2 :=
  ⟨_, rfl, by decide⟩

end Routes

end LateL3

end Basebox
