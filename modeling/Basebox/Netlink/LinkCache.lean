import Basebox.Lib.AheadCache

/-!
# Lookups while the queue is handled (`src/netlink/cnetlink.cc`)

libnl changes its caches when it reads the socket; what it reports waits in `nl_objs`. The handlers
look links and neighbours up in the caches, and then, `check the garbage`, among the deleted
objects that wait.

* `getLink`, `getLinkByIfindex`, `getNeighbour`, `getBridgePorts`: the lookups, by the caches in the
  order in which their objects came and by `nl_objs`.
* `Kernel`: what the kernel does. A bridge port comes after its link and its bridge and goes before
  them, and so do a VLAN interface, a slave and a neighbour. `parents_found`: so no handler misses a
  link that its object hangs on.
* `lookups_run`: in every run, a lookup finds something exactly if there was such an object at some
  moment after those that were handled.
* `getBridgePorts_run`: while a bridge is followed, a link is listed exactly if it was a port of the
  bridge that is asked for at such a moment, provided that ports keep their bridge.
-/

namespace Basebox

/-- The families that `cnetlink` tells apart. -/
inductive LinkFamily where
  | afUnspec
  | afBridge
  | afInet6
  deriving DecidableEq

/-- `rtnl_link`: what the lookups read. -/
structure LinkObj where
  ifindex : Int
  family : LinkFamily
  /-- `0` for none, as for `link`. -/
  master : Int := 0
  /-- The link below a VLAN interface. -/
  link : Int := 0
  deriving DecidableEq

/-- What libnl tells objects apart by. -/
inductive CacheKey (Addr : Type) where
  | link (ifindex : Int) (family : LinkFamily)
  | neigh (ifindex : Int) (dst : Addr)
  deriving DecidableEq

/-- An object of the caches. -/
inductive CacheObj (Addr : Type) where
  | link (l : LinkObj)
  | neigh (ifindex : Int) (dst : Addr)
  deriving DecidableEq

namespace CacheObj

variable {Addr : Type}

/-- The key of an object. -/
def key : CacheObj Addr → CacheKey Addr
  | .link l => .link l.ifindex l.family
  | .neigh ifindex dst => .neigh ifindex dst

/-- The object, if it is a link. -/
def asLink : CacheObj Addr → Option LinkObj
  | .link l => some l
  | .neigh _ _ => none

/-- The links that an object hangs on. -/
def parents : CacheObj Addr → List (CacheKey Addr)
  | .link l =>
    match l.family with
    | .afUnspec =>
      (if l.master = 0 then [] else [.link l.master .afUnspec]) ++
        if l.link = 0 then [] else [.link l.link .afUnspec]
    | .afBridge => [.link l.ifindex .afUnspec, .link l.master .afUnspec]
    | .afInet6 => [.link l.ifindex .afUnspec]
  | .neigh ifindex _ => [.link ifindex .afUnspec]

end CacheObj

/-- The caches of libnl, and `nl_objs`. -/
abbrev LinkCache (Addr : Type) := AheadCache (CacheKey Addr) (CacheObj Addr)

namespace LinkCache

variable {Addr : Type} [DecidableEq Addr] (s : LinkCache Addr)

/-- The objects of the caches, the oldest first. -/
def cached : List (CacheObj Addr) := (s.cache.entries.map (·.2)).reverse

/-- The old objects of the entries of `nl_objs` that are `NL_ACT_DEL`. -/
def deleted : List (CacheObj Addr) :=
  s.pending.filterMap fun
    | .del _ old => some old
    | _ => none

/-- `get_link`. -/
def getLink (ifindex : Int) (family : LinkFamily) : Option LinkObj :=
  let matches_ (l : LinkObj) : Bool := l.ifindex = ifindex ∧ l.family = family
  match ((cached s).filterMap CacheObj.asLink).filter matches_ |>.getLast? with
  | some l => some l
  | none => ((deleted s).filterMap CacheObj.asLink).find? matches_

/-- `get_link_by_ifindex`. -/
def getLinkByIfindex (ifindex : Int) : Option LinkObj :=
  let found := ((cached s).filterMap CacheObj.asLink).filter fun l => l.ifindex = ifindex
  match (found.filter fun l => l.family ≠ .afInet6).getLast? with
  | some l => some l
  | none => ((deleted s).filterMap CacheObj.asLink).find? fun l => l.ifindex = ifindex

/-- There is a neighbour. -/
def getNeighbour (ifindex : Int) (dst : Addr) : Bool :=
  let matches_ : CacheObj Addr → Bool
    | .link _ => false
    | .neigh i d => i = ifindex ∧ d = dst
  (cached s).any matches_ || (deleted s).any matches_

/-- `get_bridge_ports`. `bridge` is the bridge that `cnetlink` follows, if there is one: without one it
lists nothing. -/
def getBridgePorts (bridge : Option Int) (brIfindex : Int) : List LinkObj :=
  if bridge.isNone then []
  else
    let matches_ (l : LinkObj) : Bool := l.family = .afBridge ∧ l.master = brIfindex
    ((cached s).filterMap CacheObj.asLink).filter matches_ ++
      ((deleted s).filterMap CacheObj.asLink).filter matches_

/-! ## The kernel and the handlers -/

/-- What happens: libnl reports an object, or the next note is handled. -/
inductive Ev (Addr : Type) where
  /-- An object is new or changed. -/
  | report (o : CacheObj Addr)
  | gone (k : CacheKey Addr)
  | handle

/-- The event of the cache below. -/
def Ev.toCache : Ev Addr → AheadCache.Ev (CacheKey Addr) (CacheObj Addr)
  | .report o => .put o.key o
  | .gone k => .remove k
  | .handle => .handle

/-- The caches after an event. -/
def step (s : LinkCache Addr) (e : Ev Addr) : LinkCache Addr := AheadCache.step s e.toCache

/-- The condition on what the kernel does. -/
def Kernel (s : LinkCache Addr) (e : Ev Addr) : Prop :=
  AheadCache.Allowed CacheObj.parents s e.toCache

/-- A bridge port keeps its bridge for as long as it is one. -/
def KeepsBridge (s : LinkCache Addr) (e : Ev Addr) : Prop :=
  ∀ l old, e = .report (.link l) → s.cache.lookup (CacheObj.link l).key = some (.link old) →
    l.family = .afBridge → l.master = old.master

/-- Objects are under their own keys. -/
structure Keyed : Prop where
  cache : ∀ k o, s.cache.lookup k = some o → o.key = k
  pending : ∀ n ∈ s.pending, ∀ o, n.old = some o ∨ n.after = some o → o.key = n.key

variable {s}

theorem keyed_note (h : Keyed s) {n : CacheNote (CacheKey Addr) (CacheObj Addr)}
    (hkey : ∀ o, n.old = some o ∨ n.after = some o → o.key = n.key) : Keyed (s.note n) := by
  refine ⟨fun k o hk => ?_, fun m hm => ?_⟩
  · change (n.apply s.cache).lookup k = some o at hk
    rw [CacheNote.lookup_apply] at hk
    split_ifs at hk with he
    · rw [he]
      exact hkey o (.inr hk)
    · exact h.cache k o hk
  · rcases List.mem_append.mp hm with hm | hm
    · exact h.pending m hm
    · rw [List.mem_singleton.mp hm]
      exact hkey

theorem keyed_step (h : Keyed s) (e : Ev Addr) : Keyed (step s e) := by
  cases e with
  | report o =>
    change Keyed (s.put o.key o)
    unfold AheadCache.put
    cases hk : s.cache.lookup o.key with
    | none =>
      refine keyed_note h fun b hb => ?_
      rcases hb with hb | hb
      · cases hb
      · cases hb
        rfl
    | some old =>
      refine keyed_note h fun b hb => ?_
      rcases hb with hb | hb
      · cases hb
        exact h.cache _ _ hk
      · cases hb
        rfl
  | gone k =>
    change Keyed (s.remove k)
    unfold AheadCache.remove
    cases hk : s.cache.lookup k with
    | none => exact h
    | some old =>
      refine keyed_note h fun b hb => ?_
      rcases hb with hb | hb
      · cases hb
        exact h.cache _ _ hk
      · cases hb
  | handle =>
    change Keyed s.handle
    unfold AheadCache.handle
    cases hl : s.pending with
    | nil => exact h
    | cons n l =>
      have hmem : ∀ m ∈ l, m ∈ s.pending := fun m hm => hl ▸ List.mem_cons_of_mem n hm
      exact ⟨h.cache, fun m hm => h.pending m (hmem m hm)⟩

/-- The notes that wait leave bridge ports at their bridge. -/
def KeptBridges (s : LinkCache Addr) : Prop :=
  ∀ n ∈ s.pending, ∀ a b, n.old = some (.link a) → n.after = some (.link b) →
    a.family = .afBridge → b.master = a.master

theorem keptBridges_step (h : Keyed s) (hb : KeptBridges s) {e : Ev Addr} (he : KeepsBridge s e) :
    KeptBridges (step s e) := by
  cases e with
  | report o =>
    change KeptBridges (s.put o.key o)
    unfold AheadCache.put
    cases hk : s.cache.lookup o.key with
    | none =>
      intro m hm a b ha
      rcases List.mem_append.mp hm with hm | hm
      · exact hb m hm a b ha
      · rw [List.mem_singleton.mp hm] at ha
        cases ha
    | some old =>
      intro m hm a b ha hab hf
      rcases List.mem_append.mp hm with hm | hm
      · exact hb m hm a b ha hab hf
      · rw [List.mem_singleton.mp hm] at ha hab
        cases ha
        cases hab
        have hkey := h.cache _ _ hk
        simp only [CacheObj.key, CacheKey.link.injEq] at hkey
        exact he b a rfl hk (hkey.2 ▸ hf)
  | gone k =>
    change KeptBridges (s.remove k)
    unfold AheadCache.remove
    cases hk : s.cache.lookup k with
    | none => exact hb
    | some old =>
      intro m hm a b ha hab
      rcases List.mem_append.mp hm with hm | hm
      · exact hb m hm a b ha hab
      · rw [List.mem_singleton.mp hm] at hab
        cases hab
  | handle =>
    change KeptBridges s.handle
    unfold AheadCache.handle
    cases hl : s.pending with
    | nil => exact hb
    | cons n l => exact fun m hm => hb m (hl ▸ List.mem_cons_of_mem n hm)

/-- What every run keeps. -/
structure Inv (s : LinkCache Addr) : Prop where
  fits : AheadCache.Inv s
  nested : AheadCache.Nested CacheObj.parents s.seen s.pending
  keyed : Keyed s

theorem inv_init : Inv ({} : LinkCache Addr) where
  fits := rfl
  nested k a hk := by cases hk
  keyed := ⟨fun k o hk => (by cases hk), fun _ hn => (by cases hn)⟩

theorem inv_run {es : List (Ev Addr)} (hes : Along step Kernel {} es) :
    Inv (run step ({} : LinkCache Addr) es) := by
  refine run_inv inv_init (fun s e h he => ?_) hes
  obtain ⟨h1, h2⟩ := AheadCache.nested_step h.nested h.fits he
  exact ⟨h1, h2, keyed_step h.keyed e⟩

theorem keptBridges_run {es : List (Ev Addr)} (hes : Along step KeepsBridge {} es) :
    KeptBridges (run step ({} : LinkCache Addr) es) := by
  refine (run_inv (I := fun s : LinkCache Addr => Keyed s ∧ KeptBridges s) ?_
    (fun s e h he => ⟨keyed_step h.1 e, keptBridges_step h.1 h.2 he⟩) hes).2
  exact ⟨inv_init.keyed, fun _ hn => (by cases hn)⟩

/-! ## What the lookups find -/

theorem mem_cached (h : Keyed s) {o : CacheObj Addr} :
    o ∈ cached s ↔ s.cache.lookup o.key = some o := by
  simp only [cached, List.mem_reverse, List.mem_map]
  constructor
  · rintro ⟨⟨k, b⟩, hmem, rfl⟩
    have hk : s.cache.lookup k = some b := AList.mem_lookup_iff.mpr hmem
    rwa [h.cache k b hk]
  · exact fun hk => ⟨⟨o.key, o⟩, AList.mem_lookup_iff.mp hk, rfl⟩

theorem mem_deleted (h : Keyed s) {o : CacheObj Addr} :
    o ∈ deleted s ↔ CacheNote.del o.key o ∈ s.pending := by
  simp only [deleted, List.mem_filterMap]
  constructor
  · rintro ⟨n, hn, ho⟩
    cases n with
    | new | change => cases ho
    | del k b =>
      cases ho
      have hkey := h.pending _ hn o (.inl rfl)
      rw [hkey]
      exact hn
  · exact fun hn => ⟨_, hn, rfl⟩

omit [DecidableEq Addr] in
theorem mem_links {l : List (CacheObj Addr)} {a : LinkObj} :
    a ∈ l.filterMap CacheObj.asLink ↔ CacheObj.link a ∈ l := by
  rw [List.mem_filterMap]
  constructor
  · rintro ⟨o, ho, ha⟩
    cases o with
    | link b =>
      cases ha
      exact ho
    | neigh => cases ha
  · exact fun h => ⟨_, h, rfl⟩

theorem find_key (h : Keyed s) {k : CacheKey Addr} {o : CacheObj Addr} (hf : s.find k = some o) :
    o.key = k :=
  AheadCache.key_of_find h.cache h.pending hf

/-- The first deleted link that matches. -/
theorem find?_deleted (h : Keyed s) (i : Int) (family : LinkFamily) :
    ((deleted s).filterMap CacheObj.asLink).find?
        (fun a => decide (a.ifindex = i ∧ a.family = family)) =
      (s.garbage (.link i family)).bind CacheObj.asLink := by
  unfold deleted AheadCache.garbage
  have hkeys := h.pending
  generalize s.pending = l at hkeys
  induction l with
  | nil => rfl
  | cons n l ih =>
    have hrest := ih fun m hm => hkeys m (List.mem_cons_of_mem n hm)
    have hn := hkeys n List.mem_cons_self
    cases n with
    | new k a | change k a b => exact hrest
    | del k old =>
      have hk : old.key = k := hn old (.inl rfl)
      subst hk
      rw [List.findSome?_cons]
      cases old with
      | neigh j d =>
        have hg : CacheNote.gone (.link i family : CacheKey Addr)
            (.del (CacheObj.neigh j d).key (CacheObj.neigh j d)) = none := by
          simp [CacheNote.gone, CacheObj.key]
        rw [hg]
        exact hrest
      | link a =>
        change List.find? _ (a :: _) = Option.bind _ CacheObj.asLink
        rw [List.find?_cons]
        by_cases ha : a.ifindex = i ∧ a.family = family
        · obtain ⟨rfl, rfl⟩ := ha
          simp [CacheNote.gone, CacheObj.asLink, CacheObj.key]
        · have hg : CacheNote.gone (.link i family : CacheKey Addr)
              (.del (CacheObj.link a).key (.link a : CacheObj Addr)) = none := by
            simpa [CacheNote.gone, CacheObj.key] using ha
          rw [hg, decide_eq_false ha]
          exact hrest

/-- The last of some links that are all the same one. -/
theorem getLast?_filter {l : List LinkObj} {p : LinkObj → Bool} {a : LinkObj} (ha : a ∈ l)
    (hp : p a = true) (huniq : ∀ b ∈ l, p b = true → b = a) : (l.filter p).getLast? = some a := by
  cases hlast : (l.filter p).getLast? with
  | none =>
    rw [List.getLast?_eq_none_iff, List.filter_eq_nil_iff] at hlast
    exact absurd hp (hlast a ha)
  | some b =>
    have hb := List.mem_of_getLast? hlast
    rw [List.mem_filter] at hb
    rw [huniq b hb.1 hb.2]

theorem mem_cached_links (h : Keyed s) {a : LinkObj} :
    a ∈ (cached s).filterMap CacheObj.asLink ↔
      s.cache.lookup (.link a.ifindex a.family) = some (.link a) := by
  rw [mem_links, mem_cached h]
  rfl

theorem getLink_eq (h : Keyed s) (i : Int) (family : LinkFamily) :
    getLink s i family = (s.find (.link i family)).bind CacheObj.asLink := by
  unfold getLink AheadCache.find
  dsimp only
  cases hc : s.cache.lookup (.link i family) with
  | some o =>
    obtain ⟨a, rfl⟩ : ∃ a, o = .link a := by
      cases o with
      | link a => exact ⟨a, rfl⟩
      | neigh => cases h.cache _ _ hc
    have hkey := h.cache _ _ hc
    simp only [CacheObj.key, CacheKey.link.injEq] at hkey
    obtain ⟨rfl, rfl⟩ := hkey
    have hlast := getLast?_filter
      (p := fun b => decide (b.ifindex = a.ifindex ∧ b.family = a.family))
      ((mem_cached_links h).mpr hc) (by simp) fun b hb hp => by
        obtain ⟨h1, h2⟩ := of_decide_eq_true hp
        have hb := (mem_cached_links h).mp hb
        rw [h1, h2, hc] at hb
        cases hb
        rfl
    rw [hlast]
    rfl
  | none =>
    have hnil : ((cached s).filterMap CacheObj.asLink).filter
        (fun b => decide (b.ifindex = i ∧ b.family = family)) = [] := by
      refine List.filter_eq_nil_iff.mpr fun b hb hp => ?_
      obtain ⟨rfl, rfl⟩ := of_decide_eq_true hp
      have hb := (mem_cached_links h).mp hb
      rw [hc] at hb
      cases hb
    rw [hnil]
    exact find?_deleted h i family

theorem isSome_getLink (h : Keyed s) (i : Int) (family : LinkFamily) :
    getLink s i family ≠ none ↔ s.find (.link i family) ≠ none := by
  rw [getLink_eq h]
  cases hf : s.find (.link i family) with
  | none => simp
  | some o =>
    have hkey := find_key h hf
    cases o with
    | link a => simp [CacheObj.asLink]
    | neigh => cases hkey

theorem getNeighbour_eq (h : Keyed s) (i : Int) (d : Addr) :
    getNeighbour s i d = true ↔ s.find (.neigh i d) ≠ none := by
  have hobj : ∀ l : List (CacheObj Addr), (l.any fun
      | .link _ => false
      | .neigh j e => decide (j = i ∧ e = d)) = true ↔ CacheObj.neigh i d ∈ l := by
    intro l
    rw [List.any_eq_true]
    constructor
    · rintro ⟨o, ho, hm⟩
      cases o with
      | link a => cases hm
      | neigh j e =>
        obtain ⟨rfl, rfl⟩ := of_decide_eq_true hm
        exact ho
    · exact fun ho => ⟨_, ho, decide_eq_true ⟨rfl, rfl⟩⟩
  have hkey : ∀ o : CacheObj Addr, o.key = .neigh i d → o = .neigh i d := by
    intro o ho
    cases o with
    | link a => cases ho
    | neigh j e =>
      cases ho
      rfl
  unfold getNeighbour
  rw [Bool.or_eq_true, AheadCache.find_ne_none_iff_or, Table.mem_iff_lookup]
  refine (or_congr (hobj _) (hobj _)).trans (or_congr ?_ ?_)
  · rw [mem_cached h]
    refine ⟨fun ho => ⟨_, ho⟩, fun ⟨o, ho⟩ => ?_⟩
    have hko := hkey o (h.cache _ o ho)
    rw [hko] at ho
    exact ho
  · rw [mem_deleted h]
    refine ⟨fun ho => ⟨_, ho⟩, fun ⟨o, ho⟩ => ?_⟩
    rw [hkey o (h.pending _ ho o (.inl rfl))] at ho
    exact ho

/-- A link without a family is found by its ifindex alone, too. -/
theorem getLinkByIfindex_ne_none (h : Keyed s) {i : Int}
    (hf : s.find (.link i .afUnspec) ≠ none) : getLinkByIfindex s i ≠ none := by
  have hkey : ∀ o : CacheObj Addr, o.key = .link i .afUnspec →
      ∃ a, o = .link a ∧ a.ifindex = i ∧ a.family = .afUnspec := by
    intro o ho
    cases o with
    | link a =>
      simp only [CacheObj.key, CacheKey.link.injEq] at ho
      exact ⟨a, rfl, ho⟩
    | neigh => cases ho
  unfold getLinkByIfindex
  dsimp only
  split
  · simp
  · rename_i hlast
    rcases AheadCache.find_ne_none_iff_or.mp hf with hc | ⟨o, ho⟩
    · obtain ⟨o, ho⟩ := Table.mem_iff_lookup.mp hc
      obtain ⟨a, rfl, ha, hfam⟩ := hkey o (h.cache _ o ho)
      rw [List.getLast?_eq_none_iff, List.filter_filter, List.filter_eq_nil_iff] at hlast
      refine absurd ?_ (hlast a ((mem_cached_links h).mpr (by rw [ha, hfam]; exact ho)))
      simp [ha, hfam]
    · obtain ⟨a, rfl, ha, hfam⟩ := hkey o (h.pending _ ho o (.inl rfl))
      have hmem : a ∈ (deleted s).filterMap CacheObj.asLink := by
        rw [mem_links, mem_deleted h, CacheObj.key, ha, hfam]
        exact ho
      rw [Ne, List.find?_eq_none]
      exact fun hnone => hnone a hmem (by simp [ha])

/-- **No handler misses a link** that the object it handles, or the one before, hangs on. -/
theorem parents_found (es : List (Ev Addr)) (hes : Along step Kernel {} es)
    {n : CacheNote (CacheKey Addr) (CacheObj Addr)}
    {l : List (CacheNote (CacheKey Addr) (CacheObj Addr))}
    (hl : (run step {} es).pending = n :: l) {o : CacheObj Addr}
    (ho : n.old = some o ∨ n.after = some o) {i : Int}
    (hi : CacheKey.link i .afUnspec ∈ o.parents) :
    getLink (step (run step {} es) .handle) i .afUnspec ≠ none ∧
      getLinkByIfindex (step (run step {} es) .handle) i ≠ none := by
  obtain ⟨hfits, hnested, hkeyed⟩ := inv_run hes
  have hkeyed' : Keyed (step (run step {} es) .handle) :=
    keyed_step hkeyed .handle
  have hf := AheadCache.find_parents hnested hfits hl ho hi
  exact ⟨(isSome_getLink hkeyed' i .afUnspec).mpr hf, getLinkByIfindex_ne_none hkeyed' hf⟩

/-- A port comes and goes with its bridge before anything is handled. -/
def portGone : List (Ev Nat) :=
  [.report (.link ⟨1, .afUnspec, 0, 0⟩), .report (.link ⟨2, .afUnspec, 0, 0⟩),
    .report (.link ⟨1, .afBridge, 2, 0⟩), .gone (.link 1 .afBridge), .gone (.link 2 .afUnspec),
    .handle, .handle]

theorem portGone_kernel : Along step Kernel {} portGone := by
  have hput : ∀ (s : LinkCache Nat) (l : LinkObj), (∀ p ∈ (CacheObj.link l).parents,
      p ∈ s.cache ∧ p ≠ (CacheObj.link l).key) → Kernel s (.report (.link l)) := fun _ _ hp => hp
  refine ⟨hput _ _ (by decide), hput _ _ (by decide), hput _ _ (by decide), ?_, ?_, trivial, trivial,
    trivial⟩
  · have hall : ∀ x ∈ (run step ({} : LinkCache Nat) (portGone.take 3)).cache.entries,
        CacheKey.link 1 .afBridge ∉ x.2.parents := by decide
    exact fun k' a h => hall ⟨k', a⟩ (AList.mem_lookup_iff.mp h)
  · have hall : ∀ x ∈ (run step ({} : LinkCache Nat) (portGone.take 4)).cache.entries,
        CacheKey.link 2 .afUnspec ∉ x.2.parents := by decide
    exact fun k' a h => hall ⟨k', a⟩ (AList.mem_lookup_iff.mp h)

/-- The port is handled when its bridge is gone from the cache. -/
theorem portGone_found :
    getLink (run step ({} : LinkCache Nat) portGone) 2 .afUnspec = some ⟨2, .afUnspec, 0, 0⟩ ∧
      CacheKey.link 2 .afUnspec ∉ (run step ({} : LinkCache Nat) portGone).cache ∧
      getLinkByIfindex (step (run step {} portGone) .handle) 2 ≠ none := by
  have hl : (run step ({} : LinkCache Nat) portGone).pending =
      .new (.link 1 .afBridge) (.link ⟨1, .afBridge, 2, 0⟩) ::
        (run step ({} : LinkCache Nat) portGone).pending.tail := rfl
  exact ⟨by decide, by decide,
    (parents_found portGone portGone_kernel hl (.inr rfl) (by decide)).2⟩

/-- **A lookup finds what there was** at some moment since, and nothing else. -/
theorem lookups_run (es : List (Ev Addr)) (hes : Along step Kernel {} es) :
    (∀ i family, getLink (run step {} es) i family ≠ none ↔
      ∃ n, CacheKey.link i family ∈ (run step {} es).world n) ∧
    (∀ i family l, getLink (run step {} es) i family = some l →
      ∃ n, ((run step {} es).world n).lookup (.link i family) = some (.link l)) ∧
    ∀ i d, getNeighbour (run step {} es) i d = true ↔
      ∃ n, CacheKey.neigh i d ∈ (run step {} es).world n := by
  obtain ⟨hfits, -, hkeyed⟩ := inv_run hes
  refine ⟨fun i family => ?_, fun i family l hl => ?_, fun i d => ?_⟩
  · exact (isSome_getLink hkeyed i family).trans (AheadCache.find_ne_none_iff hfits)
  · rw [getLink_eq hkeyed] at hl
    obtain ⟨o, ho, hol⟩ := Option.bind_eq_some_iff.mp hl
    obtain ⟨n, hn⟩ := AheadCache.find_eq_some hfits ho
    cases o with
    | link a =>
      cases hol
      exact ⟨n, hn⟩
    | neigh => cases hol
  · exact (getNeighbour_eq hkeyed i d).trans (AheadCache.find_ne_none_iff hfits)

/-- The handler of a deletion finds the link only if there was one again. -/
theorem getLink_deleted (es : List (Ev Addr)) (hes : Along step Kernel {} es) {i : Int}
    {family : LinkFamily} {old : CacheObj Addr}
    {l : List (CacheNote (CacheKey Addr) (CacheObj Addr))}
    (hl : (run step {} es).pending = .del (.link i family) old :: l) :
    getLink (step (run step {} es) .handle) i family ≠ none ↔
      ∃ n, CacheKey.link i family ∈ (step (run step {} es) .handle).world (n + 1) := by
  obtain ⟨hfits, -, hkeyed⟩ := inv_run hes
  have hkeyed' : Keyed (step (run step {} es) .handle) :=
    keyed_step hkeyed .handle
  exact (isSome_getLink hkeyed' i family).trans (AheadCache.find_deleted hfits hl)

theorem portGone_lookups :
    ∃ n, CacheKey.link 2 .afUnspec ∈ (run step ({} : LinkCache Nat) portGone).world n :=
  ((lookups_run portGone portGone_kernel).1 2 .afUnspec).mp (by decide)

/-- While a bridge is followed. -/
theorem mem_getBridgePorts (hfits : AheadCache.Inv s) (hkeyed : Keyed s) (hkept : KeptBridges s)
    (b br i : Int) :
    (∃ l ∈ getBridgePorts s (some b) br, l.ifindex = i) ↔
      ∃ n l, (s.world n).lookup (.link i .afBridge) = some (.link l) ∧ l.master = br := by
  have hever := AheadCache.ever_iff (k := CacheKey.link i .afBridge) hfits
    (P := fun o => ∃ l, o = CacheObj.link l ∧ l.master = br) (by
      rintro n hn a b hk ha hb ⟨l, rfl, hl⟩
      have hkey := hkeyed.pending n hn b (.inr hb)
      rw [hk] at hkey
      cases b with
      | neigh => cases hkey
      | link m =>
        have hfam := hkeyed.pending n hn _ (.inl ha)
        rw [hk] at hfam
        simp only [CacheObj.key, CacheKey.link.injEq] at hfam
        exact ⟨m, rfl, (hkept n hn l m ha hb hfam.2).trans hl⟩)
  have hworld : (∃ n l, (s.world n).lookup (.link i .afBridge) = some (.link l) ∧ l.master = br) ↔
      ∃ n a, (s.world n).lookup (.link i .afBridge) = some a ∧
        ∃ l, a = CacheObj.link l ∧ l.master = br := by
    constructor
    · rintro ⟨n, l, hl, hm⟩
      exact ⟨n, _, hl, l, rfl, hm⟩
    · rintro ⟨n, _, hl, l, rfl, hm⟩
      exact ⟨n, l, hl, hm⟩
  rw [hworld, hever]
  have hlisted : ∀ l : LinkObj, l ∈ getBridgePorts s (some b) br ↔ (l.family = .afBridge ∧ l.master = br) ∧
      (s.cache.lookup (.link l.ifindex l.family) = some (.link l) ∨
        CacheNote.del (.link l.ifindex l.family) (.link l) ∈ s.pending) := by
    intro l
    simp only [getBridgePorts, Option.isNone_some, Bool.false_eq_true, if_false, List.mem_append,
      List.mem_filter, decide_eq_true_eq, mem_cached_links hkeyed, mem_links (l := deleted s), mem_deleted hkeyed]
    exact ⟨fun h => h.elim (fun h => ⟨h.2, .inl h.1⟩) fun h => ⟨h.2, .inr h.1⟩,
      fun h => h.2.imp (fun hc => ⟨hc, h.1⟩) fun hd => ⟨hd, h.1⟩⟩
  constructor
  · rintro ⟨l, hl, rfl⟩
    obtain ⟨⟨hfam, hm⟩, hor⟩ := (hlisted l).mp hl
    rw [hfam] at hor
    exact hor.imp (fun hc => ⟨_, hc, l, rfl, hm⟩) fun hd => ⟨_, hd, l, rfl, hm⟩
  · have hkey : ∀ l : LinkObj, (CacheObj.link l : CacheObj Addr).key = .link i .afBridge →
        l.ifindex = i ∧ l.family = .afBridge := by
      intro l hl
      simpa [CacheObj.key] using hl
    rintro (⟨_, hc, l, rfl, hm⟩ | ⟨_, hd, l, rfl, hm⟩)
    · obtain ⟨hi, hfam⟩ := hkey l (hkeyed.cache _ _ hc)
      exact ⟨l, (hlisted l).mpr ⟨⟨hfam, hm⟩, .inl (by rw [hi, hfam]; exact hc)⟩, hi⟩
    · obtain ⟨hi, hfam⟩ := hkey l (hkeyed.pending _ hd _ (.inl rfl))
      exact ⟨l, (hlisted l).mpr ⟨⟨hfam, hm⟩, .inr (by rw [hi, hfam]; exact hd)⟩, hi⟩

/-- A link is listed among the ports of a bridge exactly if a bridge is followed, that one or another,
and the link was a port of the one that is asked for at some moment since. -/
theorem getBridgePorts_run (es : List (Ev Addr)) (hes : Along step Kernel {} es)
    (hkeeps : Along step KeepsBridge {} es) (bridge : Option Int) (br i : Int) :
    (∃ l ∈ getBridgePorts (run step {} es) bridge br, l.ifindex = i) ↔
      bridge.isSome = true ∧
        ∃ n l, ((run step {} es).world n).lookup (.link i .afBridge) = some (.link l) ∧
          l.master = br := by
  obtain ⟨hfits, -, hkeyed⟩ := inv_run hes
  cases bridge with
  | none => simp [getBridgePorts]
  | some b =>
    rw [mem_getBridgePorts hfits hkeyed (keptBridges_run hkeeps)]
    simp

/-- The port is still listed, if there is another bridge that is followed. -/
theorem portGone_listed :
    ∃ l ∈ getBridgePorts (run step ({} : LinkCache Nat) (portGone ++ [.handle])) (some 3) 2,
      l.ifindex = 1 := by
  have hes : Along step Kernel ({} : LinkCache Nat) (portGone ++ [.handle]) :=
    Along.append.mpr ⟨portGone_kernel, trivial, trivial⟩
  have hnew : ∀ (s : LinkCache Nat) (l : LinkObj), s.cache.lookup (CacheObj.link l).key = none →
      KeepsBridge s (.report (.link l)) := by
    intro s l hnone l' old he hold _
    cases he
    rw [hnone] at hold
    cases hold
  have hother : ∀ (s : LinkCache Nat) (e : Ev Nat), (∀ l, e ≠ .report (.link l)) →
      KeepsBridge s e := fun s e h l old he => absurd he (h l)
  have hkeeps : Along step KeepsBridge ({} : LinkCache Nat) (portGone ++ [.handle]) := by
    refine ⟨hnew _ _ (by decide), hnew _ _ (by decide), hnew _ _ (by decide), hother _ _ ?_,
      hother _ _ ?_, hother _ _ ?_, hother _ _ ?_, hother _ _ ?_, trivial⟩ <;> simp
  exact (getBridgePorts_run (portGone ++ [.handle]) hes hkeeps (some 3) 2 1).mpr
    ⟨rfl, 0, ⟨1, .afBridge, 2, 0⟩, by decide, rfl⟩

end LinkCache

end Basebox
