import WireproxyAwg.Relay.PoolInv
import WireproxyAwg.Relay.Marks

/-!
# The map never outgrows `maxSize`

`Set` checks `currentSize`, not the map: at `currentSize ≥ maxSize` it evicts up to five
entries first. In the relay the two drift apart, because two creation goroutines for one client
can both `Set` its key (`overwrite_leaks_association`): the second insertion replaces the entry
and still counts one more. The counter then runs ahead of the map, and never behind it.

That is enough for the bound. Whenever `Set` finds `currentSize` below `maxSize`, the map is
smaller still; and when it finds the pool at capacity, it evicts five entries, or all of them
when there are fewer, since `maxSize > 5` makes the eviction run. So in every reachable state
of the relay the map holds at most `maxSize = 1000` entries, however the goroutines interleave.

The relay touches the pool only through its methods (`World.step_pool`), so the argument is made
once per method (`Capacity.call`) and then lifted to every step.
-/

namespace WireproxyAwg.Relay

open WireproxyAwg.Go

/-! ## The bound, method by method -/

/-- The pool's count and map, as every relay step leaves them. -/
structure Capacity (p : UDPConnectionPool) : Prop where
  /-- `currentSize` runs ahead of the map, never behind it. -/
  counted : (p.connections.keys.length : Int) ≤ p.currentSize
  /-- The map holds at most `maxSize` entries. -/
  bounded : (p.connections.keys.length : Int) ≤ p.maxSize

theorem keys_length_insert_le (m : AList fun _ : String => Nat) (k : String) (a : Nat) :
    (m.insert k a).keys.length ≤ m.keys.length + 1 := by
  rw [AList.keys_insert, List.length_cons]
  exact Nat.succ_le_succ (List.length_erase_le _ _)

namespace Capacity

variable {p : UDPConnectionPool}

theorem init (maxSize : Int) (h : 0 ≤ maxSize) : Capacity (NewUDPConnectionPool maxSize) :=
  ⟨le_refl 0, h⟩

/-- A call that leaves the map and both counters alone keeps the bound. -/
theorem of_eq (h : Capacity p) {q : UDPConnectionPool} (hc : q.connections = p.connections)
    (hs : q.currentSize = p.currentSize) (hm : q.maxSize = p.maxSize) : Capacity q :=
  ⟨by rw [hc, hs]; exact h.counted, by rw [hc, hm]; exact h.bounded⟩

theorem evictKey (h : Capacity p) (key : String) : Capacity (p.evictKey key) := by
  have := h.counted
  have := h.bounded
  by_cases hk : key ∈ p.connections
  · obtain ⟨h1, h2⟩ := p.evictKey_size_of_mem hk
    exact ⟨by omega, by rw [p.evictKey_maxSize]; omega⟩
  · exact h.of_eq (p.evictKey_connections_of_not_mem hk)
      (by simp [UDPConnectionPool.evictKey, AList.lookup_eq_none.mpr hk]) (p.evictKey_maxSize key)

theorem foldl_evictKey (h : Capacity p) (ks : List String) :
    Capacity (ks.foldl UDPConnectionPool.evictKey p) := by
  induction ks generalizing p with
  | nil => exact h
  | cons k ks ih => exact ih (h.evictKey k)

theorem cleanupOldestLocked (h : Capacity p) (count : Nat) (order : List String) :
    Capacity (p.cleanupOldestLocked count order) := by
  unfold UDPConnectionPool.cleanupOldestLocked
  split
  · exact h
  · exact h.foldl_evictKey _

/-- At capacity, the eviction `Set` runs leaves the map below `maxSize`: it removes five
entries, or all of them when there are fewer. -/
theorem cleanupOldestLocked_room (h : Capacity p) (hmax : 5 < p.maxSize)
    (hfull : p.currentSize ≥ p.maxSize) {order : List String} (horder : order.Perm p.connections.keys) :
    ((p.cleanupOldestLocked 5 order).connections.keys.length : Int) < p.maxSize := by
  obtain ⟨hnd, hmem, hlen⟩ := @UDPConnectionPool.scanOldest_spec p 5 order horder
  obtain ⟨hkeys, -, -⟩ := p.foldl_evictKey _ hnd hmem
  rw [hlen] at hkeys
  have := h.bounded
  unfold UDPConnectionPool.cleanupOldestLocked
  rw [if_neg (by push_cast; omega)]
  omega

theorem set (h : Capacity p) (hmax : 5 < p.maxSize) (key : String) (conn : UDPConnection)
    (now : Int) {order : List String} (horder : order.Perm p.connections.keys) :
    Capacity (p.Set key conn now order) := by
  unfold UDPConnectionPool.Set
  by_cases hfull : p.currentSize ≥ p.maxSize
  · have hq := h.cleanupOldestLocked 5 order
    have := hq.counted
    have := h.cleanupOldestLocked_room hmax hfull horder
    have := keys_length_insert_le (p.cleanupOldestLocked 5 order).connections key
      (p.cleanupOldestLocked 5 order).conns.length
    have := p.cleanupOldestLocked_maxSize 5 order
    simp only [if_pos hfull]
    exact ⟨by dsimp only; omega, by dsimp only; omega⟩
  · have := h.counted
    have := keys_length_insert_le p.connections key p.conns.length
    simp only [if_neg hfull]
    exact ⟨by dsimp only; omega, by dsimp only; omega⟩

/-- **Every pool method keeps the bound**, for a pool whose `maxSize` exceeds the five entries
`Set` evicts at capacity. -/
theorem call (h : Capacity p) (hmax : 5 < p.maxSize) {p' : UDPConnectionPool} (hc : PoolCall p p') :
    Capacity p' ∧ p'.maxSize = p.maxSize := by
  cases hc with
  | get key now =>
    unfold UDPConnectionPool.Get
    split <;> exact ⟨h.of_eq rfl rfl rfl, rfl⟩
  | loadOrStore key =>
    unfold UDPConnectionPool.LoadOrStore
    split <;> exact ⟨h.of_eq rfl rfl rfl, rfl⟩
  | deleteMarker key => exact ⟨h.of_eq rfl rfl rfl, rfl⟩
  | resolveTarget host port now lookup =>
    unfold UDPConnectionPool.resolveTarget
    split
    · exact ⟨h.of_eq rfl rfl rfl, rfl⟩
    · split; exact ⟨h.of_eq rfl rfl rfl, rfl⟩
  | update a f _ => exact ⟨h.of_eq rfl rfl rfl, rfl⟩
  | set key conn now order horder =>
    refine ⟨h.set hmax key conn now horder, ?_⟩
    unfold UDPConnectionPool.Set
    split
    · exact p.cleanupOldestLocked_maxSize 5 order
    · rfl
  | delete key => exact ⟨h.evictKey key, p.evictKey_maxSize key⟩
  | cleanup maxAge now order => exact ⟨h.foldl_evictKey _, (p.foldl_evictKey_bounds _).2⟩

end Capacity

/-! ## The relay -/

/-- The relay's pool: created with `maxSize = 1000`, and within its bound. -/
structure PoolBound (s : World) : Prop where
  /-- `NewUDPConnectionPool(1000, mtu)`; no method changes it. -/
  maxSize : s.pool.maxSize = 1000
  capacity : Capacity s.pool

theorem poolBound_init : PoolBound World.init := ⟨rfl, Capacity.init 1000 (by decide)⟩

/-- **Preserved by every step.** -/
theorem poolBound_step {s s' : World} {a : Action} (h : PoolBound s) (hs : s.step a = some s') :
    PoolBound s' := by
  rcases World.step_pool hs with hp | hp
  · exact ⟨hp ▸ h.maxSize, hp ▸ h.capacity⟩
  · obtain ⟨hc, hm⟩ := h.capacity.call (by rw [h.maxSize]; decide) hp
    exact ⟨hm.trans h.maxSize, hc⟩

theorem poolBound_reachable {s : World} (h : Reachable s) : PoolBound s := by
  induction h with
  | init => exact poolBound_init
  | step _ hs ih => exact poolBound_step ih hs

/-- **The map never holds more than 1000 associations.** In every reachable state of the relay,
whatever the interleaving of the receive loop, the creation goroutines, the readers and the
janitor, the pool's map holds at most `maxSize = 1000` entries, and `currentSize` is at least
the number of entries it holds. -/
theorem pool_map_within_maxSize (s : World) (hs : Reachable s) :
    s.pool.connections.keys.length ≤ 1000 ∧
      (s.pool.connections.keys.length : Int) ≤ s.pool.currentSize := by
  obtain ⟨hm, hc⟩ := poolBound_reachable hs
  have := hc.bounded
  exact ⟨by omega, hc.counted⟩

set_option maxRecDepth 4000 in
/-- After the overwrite race the count is two while the map holds one entry; the bound holds. -/
theorem pool_map_within_maxSize_overwrite :
    ∃ s, Reachable s ∧ s.pool.currentSize = 2 ∧ s.pool.connections.keys.length = 1 ∧
      s.pool.connections.keys.length ≤ 1000 ∧
      (s.pool.connections.keys.length : Int) ≤ s.pool.currentSize := by
  obtain ⟨s, hs, hp⟩ := reach_of_run traceOverwrite
    (fun s => decide (s.pool.currentSize = 2) && decide (s.pool.connections.keys.length = 1)) (by decide)
  simp only [Bool.and_eq_true, decide_eq_true_eq] at hp
  exact ⟨s, hs, hp.1, hp.2, pool_map_within_maxSize s hs⟩

end WireproxyAwg.Relay
