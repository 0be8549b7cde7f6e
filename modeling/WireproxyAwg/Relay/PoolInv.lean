import WireproxyAwg.Relay.Eviction

/-!
# The pool's bookkeeping holds over every sequence of calls

Start from `NewUDPConnectionPool(maxSize)` and apply any sequence of `Get`, `Set`
(with a key that is not registered, and the fresh association the creation task
builds), `Delete` and `Cleanup`, with any clock readings and any map iteration
orders. Then `currentSize` is the number of registered keys and stays within
`maxSize`; every registered association is open and unsignalled; and every
association that has been removed, by whichever of the three paths, is closed and
was signalled exactly once.

The bound needs `maxSize > 5`: at capacity `Set` evicts only when the pool holds
more than five entries, and it always evicts five, so the insertion that follows
stays within the limit.

The invariant also carries what makes the heap reasoning work: registered
pointers are in range, and no association is registered under two keys, so
shutting one down never touches another.
-/

namespace WireproxyAwg.Relay

open WireproxyAwg.Go

/-- One pool call, with any key, clock reading and iteration order. `Set` gets the association
`createUDPConnectionAsync` builds, under a key not registered at the time. -/
inductive PoolStep : UDPConnectionPool → UDPConnectionPool → Prop
  | get {p : UDPConnectionPool} (key : String) (now : Int) : PoolStep p (p.Get key now).1
  | set {p : UDPConnectionPool} (key : String) (created now : Int) (client target : UDPAddr)
      (ip : IP) (order : List String) (hkey : key ∉ p.connections)
      (horder : order.Perm p.connections.keys) :
      PoolStep p (p.Set key (newUDPConnection created client target ip) now order)
  | delete {p : UDPConnectionPool} (key : String) : PoolStep p (p.Delete key)
  | cleanup {p : UDPConnectionPool} (maxAge now : Int) (order : List String)
      (horder : order.Perm p.connections.keys) : PoolStep p (p.Cleanup maxAge now order)

/-- The pools some sequence of calls produces from `NewUDPConnectionPool(maxSize)`. -/
inductive PoolReachable (maxSize : Int) : UDPConnectionPool → Prop
  | init : PoolReachable maxSize (NewUDPConnectionPool maxSize)
  | step {p p' : UDPConnectionPool} : PoolReachable maxSize p → PoolStep p p' →
      PoolReachable maxSize p'

/-- The pool's bookkeeping. -/
structure PoolInv (p : UDPConnectionPool) : Prop where
  /-- `currentSize` counts the registered keys. -/
  size : p.currentSize = p.connections.keys.length
  /-- Registered pointers point into the heap. -/
  addr : ∀ k a, p.connections.lookup k = some a → a < p.conns.length
  /-- No association is registered under two keys. -/
  inj : ∀ k₁ k₂ a, p.connections.lookup k₁ = some a → p.connections.lookup k₂ = some a → k₁ = k₂
  /-- A registered association is open and has not been signalled. -/
  live : ∀ k a c, p.connections.lookup k = some a → p.conn a = some c →
    c.closed = false ∧ c.signals = 0
  /-- An association no longer registered is closed and was signalled exactly once. -/
  dead : ∀ a c, p.conn a = some c → (∀ k, p.connections.lookup k ≠ some a) →
    c.closed = true ∧ c.signals = 1

namespace UDPConnectionPool

variable (p : UDPConnectionPool)

theorem conn_update (a b : Nat) (f : UDPConnection → UDPConnection) :
    (p.update a f).conn b = (p.conn b).map fun c => if a = b then f c else c := by
  simp [conn, update, List.getElem?_modify]

@[simp] theorem length_update (a : Nat) (f : UDPConnection → UDPConnection) :
    (p.update a f).conns.length = p.conns.length := List.length_modify _ _ _

theorem evictKey_of_not_mem {key : String} (h : p.connections.lookup key = none) :
    (p.evictKey key) = { p with creationLock := p.creationLock.filter (· ≠ key) } := by
  simp [evictKey, h]

theorem evictKey_of_mem {key : String} {a : Nat} (h : p.connections.lookup key = some a) :
    (p.evictKey key).conns = (p.update a UDPConnection.shutdown).conns := by
  simp [evictKey, h, update]

end UDPConnectionPool

namespace PoolInv

variable {p : UDPConnectionPool}

theorem init (maxSize : Int) : PoolInv (NewUDPConnectionPool maxSize) where
  size := rfl
  addr := by simp [NewUDPConnectionPool]
  inj := by simp [NewUDPConnectionPool]
  live := by simp [NewUDPConnectionPool]
  dead := by simp [NewUDPConnectionPool, UDPConnectionPool.conn]

/-- Writing a field other than `closed` and `signals` through a registered pointer. -/
theorem update (h : PoolInv p) (a : Nat) (f : UDPConnection → UDPConnection)
    (hf : ∀ c, (f c).closed = c.closed ∧ (f c).signals = c.signals) :
    PoolInv (p.update a f) where
  size := h.size
  addr k b hk := by simpa using h.addr k b hk
  inj := h.inj
  live k b c hk hc := by
    rw [UDPConnectionPool.conn_update] at hc
    obtain ⟨c0, h0, rfl⟩ := Option.map_eq_some'.mp hc
    split
    · rw [(hf c0).1, (hf c0).2]; exact h.live k b c0 hk h0
    · exact h.live k b c0 hk h0
  dead b c hc hk := by
    rw [UDPConnectionPool.conn_update] at hc
    obtain ⟨c0, h0, rfl⟩ := Option.map_eq_some'.mp hc
    split
    · rw [(hf c0).1, (hf c0).2]; exact h.dead b c0 h0 hk
    · exact h.dead b c0 h0 hk

theorem evictKey (h : PoolInv p) (key : String) : PoolInv (p.evictKey key) := by
  cases hkey : p.connections.lookup key with
  | none => rw [p.evictKey_of_not_mem hkey]; exact ⟨h.size, h.addr, h.inj, h.live, h.dead⟩
  | some a =>
    have hmem : key ∈ p.connections := AList.lookup_isSome.mp (by simp [hkey])
    have hconn : ∀ b, (p.evictKey key).conn b = (p.update a UDPConnection.shutdown).conn b :=
      fun b => by simp only [UDPConnectionPool.conn, p.evictKey_of_mem hkey]
    have hlook := p.lookup_evictKey key
    refine ⟨?_, fun k b hk => ?_, fun k₁ k₂ b h₁ h₂ => ?_, fun k b c hk hc => ?_, fun b c hc hk => ?_⟩
    · obtain ⟨h1, h2⟩ := p.evictKey_size_of_mem hmem
      rw [h2, h.size]; omega
    · rw [hlook] at hk; split at hk
      · simp at hk
      · have := h.addr k b hk
        simpa [UDPConnectionPool.conn, p.evictKey_of_mem hkey] using this
    · rw [hlook] at h₁ h₂; split at h₁
      · simp at h₁
      · split at h₂
        · simp at h₂
        · exact h.inj k₁ k₂ b h₁ h₂
    · rw [hlook] at hk; split at hk
      · simp at hk
      · rename_i hne
        have hab : a ≠ b := fun e => hne (h.inj k key b hk (e ▸ hkey))
        rw [hconn, UDPConnectionPool.conn_update] at hc
        simp only [if_neg hab, Option.map_id'] at hc
        exact h.live k b c hk hc
    · rw [hconn, UDPConnectionPool.conn_update] at hc
      obtain ⟨c0, h0, rfl⟩ := Option.map_eq_some'.mp hc
      by_cases hab : a = b
      · subst hab
        obtain ⟨hcl, hsig⟩ := h.live key a c0 hkey h0
        simp [hcl, hsig, UDPConnection.shutdown]
      · rw [if_neg hab]
        refine h.dead b c0 h0 fun k hk' => ?_
        have hne : k ≠ key := fun e => hab (Option.some.inj ((e ▸ hkey).symm.trans hk'))
        exact hk k (by rw [hlook, if_neg hne]; exact hk')

theorem foldl_evictKey (h : PoolInv p) (ks : List String) : PoolInv (ks.foldl UDPConnectionPool.evictKey p) := by
  induction ks generalizing p with
  | nil => exact h
  | cons k ks ih => exact ih (h.evictKey k)

theorem cleanupOldestLocked (h : PoolInv p) (count : Nat) (order : List String) :
    PoolInv (p.cleanupOldestLocked count order) := by
  unfold UDPConnectionPool.cleanupOldestLocked
  split
  · exact h
  · exact h.foldl_evictKey _

/-- Registering a fresh association under an unregistered key. -/
theorem insert (h : PoolInv p) {key : String} (hkey : key ∉ p.connections) (conn : UDPConnection)
    (hfresh : conn.closed = false ∧ conn.signals = 0) :
    PoolInv { p with conns := p.conns ++ [conn], connections := p.connections.insert key p.conns.length,
                     currentSize := p.currentSize + 1 } := by
  have hlook : ∀ k, (p.connections.insert key p.conns.length).lookup k =
      if k = key then some p.conns.length else p.connections.lookup k := fun k => by
    split
    · subst k; exact AList.lookup_insert _
    · exact AList.lookup_insert_ne ‹_›
  have hconn : ∀ b, b < p.conns.length → (p.conns ++ [conn])[b]? = p.conn b := fun b hb =>
    List.getElem?_append_left hb
  refine ⟨?_, fun k a hk => ?_, fun k₁ k₂ a h₁ h₂ => ?_, fun k a c hk hc => ?_, fun a c hc hk => ?_⟩ <;>
    dsimp only at *
  · simp only [AList.keys_insert, List.erase_of_not_mem (mt AList.mem_keys.mpr hkey),
      List.length_cons, h.size]; omega
  · rw [hlook] at hk; split at hk
    · cases hk; simp
    · have := h.addr k a hk; simp; omega
  · rw [hlook] at h₁ h₂
    split at h₁ <;> split at h₂
    · subst_vars; rfl
    · cases h₁; have := h.addr k₂ _ h₂; omega
    · cases h₂; have := h.addr k₁ _ h₁; omega
    · exact h.inj k₁ k₂ a h₁ h₂
  · rw [hlook] at hk
    change (p.conns ++ [conn])[a]? = some c at hc
    split at hk
    · cases hk; simp at hc; subst hc; exact hfresh
    · rw [hconn a (h.addr k a hk)] at hc; exact h.live k a c hk hc
  · change (p.conns ++ [conn])[a]? = some c at hc
    have ha : a < p.conns.length := by
      by_contra ha
      have : a < p.conns.length + 1 := by simpa using (List.getElem?_eq_some_iff.mp hc).1
      exact hk key (by rw [hlook, if_pos rfl]; congr; omega)
    rw [hconn a ha] at hc
    refine h.dead a c hc fun k hk' => hk k ?_
    have hne : k ≠ key := by
      rintro rfl
      exact hkey (AList.lookup_isSome.mp (by simp [hk']))
    rw [hlook, if_neg hne]
    exact hk'

theorem set (h : PoolInv p) {key : String} (hkey : key ∉ p.connections) (conn : UDPConnection)
    (hfresh : conn.closed = false ∧ conn.signals = 0) (now : Int) (order : List String) :
    PoolInv (p.Set key conn now order) := by
  unfold UDPConnectionPool.Set
  have hq : PoolInv (if p.currentSize ≥ p.maxSize then p.cleanupOldestLocked 5 order else p) := by
    split
    · exact h.cleanupOldestLocked 5 order
    · exact h
  have hkey' : key ∉ (if p.currentSize ≥ p.maxSize then p.cleanupOldestLocked 5 order else p).connections := by
    split
    · exact fun hm => hkey (p.mem_of_mem_cleanupOldestLocked hm)
    · exact hkey
  exact hq.insert hkey' _ (by simpa using hfresh)

/-- Every call keeps the bookkeeping. -/
theorem step (h : PoolInv p) {p' : UDPConnectionPool} (hs : PoolStep p p') : PoolInv p' := by
  cases hs with
  | get key now =>
    unfold UDPConnectionPool.Get; split
    · exact h.update _ _ fun c => ⟨rfl, rfl⟩
    · exact h
  | set key created now client target ip order hkey => exact h.set hkey _ ⟨rfl, rfl⟩ now order
  | delete key => exact h.evictKey key
  | cleanup maxAge now order => exact h.foldl_evictKey _

end PoolInv

/-! ## The size bound -/

namespace UDPConnectionPool

variable (p : UDPConnectionPool)

theorem evictKey_currentSize_le (key : String) : (p.evictKey key).currentSize ≤ p.currentSize := by
  unfold evictKey; split <;> dsimp only <;> omega

theorem foldl_evictKey_bounds (ks : List String) :
    (ks.foldl evictKey p).currentSize ≤ p.currentSize ∧ (ks.foldl evictKey p).maxSize = p.maxSize := by
  induction ks generalizing p with
  | nil => exact ⟨le_refl _, rfl⟩
  | cons k ks ih =>
    obtain ⟨h1, h2⟩ := ih (p.evictKey k)
    exact ⟨le_trans h1 (p.evictKey_currentSize_le k), h2.trans (p.evictKey_maxSize k)⟩

theorem cleanupOldestLocked_maxSize (count : Nat) (order : List String) :
    (p.cleanupOldestLocked count order).maxSize = p.maxSize := by
  unfold cleanupOldestLocked; split
  · rfl
  · exact (p.foldl_evictKey_bounds _).2

end UDPConnectionPool

namespace PoolStep

variable {p p' : UDPConnectionPool}

theorem maxSize_eq (hs : PoolStep p p') : p'.maxSize = p.maxSize := by
  cases hs with
  | get key now => unfold UDPConnectionPool.Get; split <;> rfl
  | set key created now client target ip order =>
    unfold UDPConnectionPool.Set; dsimp only; split
    · exact p.cleanupOldestLocked_maxSize 5 order
    · rfl
  | delete key => exact p.evictKey_maxSize key
  | cleanup maxAge now order => exact (p.foldl_evictKey_bounds _).2

/-- At capacity, the five evictions make room for the insertion. -/
theorem size_le (h : PoolInv p) (hmax : 5 < p.maxSize) (hle : p.currentSize ≤ p.maxSize)
    (hs : PoolStep p p') : p'.currentSize ≤ p'.maxSize := by
  rw [hs.maxSize_eq]
  cases hs with
  | get key now => unfold UDPConnectionPool.Get; split <;> exact hle
  | set key created now client target ip order hkey horder =>
    unfold UDPConnectionPool.Set; dsimp only; split
    · obtain ⟨-, h2, -⟩ := p.cleanupOldestLocked_removes 5 h.size (by push_cast; omega) horder
      rw [h2]; push_cast; omega
    · omega
  | delete key => exact le_trans (p.evictKey_currentSize_le key) hle
  | cleanup maxAge now order => exact le_trans (p.foldl_evictKey_bounds _).1 hle

end PoolStep

/-- **The pool's bookkeeping holds after every sequence of calls.** For every `maxSize > 5` and
every sequence of `Get`, `Set` (of a fresh association under an unregistered key), `Delete` and
`Cleanup`, with any timestamps and any map iteration orders, starting from
`NewUDPConnectionPool(maxSize)`: `currentSize` is the number of registered keys and at most
`maxSize`, every registered association is open, and every association removed from the map is
closed and has been sent exactly one shutdown signal. -/
theorem pool_bookkeeping {maxSize : Int} (hmax : 5 < maxSize) {p : UDPConnectionPool}
    (hr : PoolReachable maxSize p) :
    p.currentSize = p.connections.keys.length ∧ p.currentSize ≤ maxSize ∧
      (∀ k a c, p.connections.lookup k = some a → p.conn a = some c → c.closed = false) ∧
      (∀ a c, p.conn a = some c → (∀ k, p.connections.lookup k ≠ some a) →
        c.closed = true ∧ c.signals ≤ 1) := by
  have key : PoolInv p ∧ p.currentSize ≤ p.maxSize ∧ p.maxSize = maxSize := by
    induction hr with
    | init => exact ⟨PoolInv.init maxSize, by simp [NewUDPConnectionPool]; omega, rfl⟩
    | step _ hs ih =>
      obtain ⟨hinv, hle, hm⟩ := ih
      exact ⟨hinv.step hs, hs.size_le hinv (hm ▸ hmax) hle, hs.maxSize_eq.trans hm⟩
  obtain ⟨hinv, hle, hm⟩ := key
  refine ⟨hinv.size, hm ▸ hle, fun k a c hk hc => (hinv.live k a c hk hc).1, fun a c hc hk => ?_⟩
  obtain ⟨h1, h2⟩ := hinv.dead a c hc hk
  exact ⟨h1, h2.le⟩

/-- The relay's pool, `NewUDPConnectionPool(1000)`, after it has registered one association. -/
theorem pool_bookkeeping_one_set :
    (5 : Int) < 1000 ∧
      let p := (NewUDPConnectionPool 1000).Set "127.0.0.1:40000"
        (newUDPConnection 0 ⟨[127, 0, 0, 1], 40000, ""⟩ ⟨[10, 0, 0, 1], 53, ""⟩ [10, 0, 0, 1]) 0 []
      p.currentSize = p.connections.keys.length ∧ p.currentSize ≤ 1000 ∧
        (∀ k a c, p.connections.lookup k = some a → p.conn a = some c → c.closed = false) ∧
        (∀ a c, p.conn a = some c → (∀ k, p.connections.lookup k ≠ some a) →
          c.closed = true ∧ c.signals ≤ 1) :=
  ⟨by decide, pool_bookkeeping (by decide) (.step .init (.set _ 0 0 _ _ _ [] (by decide) (by decide)))⟩

end WireproxyAwg.Relay
