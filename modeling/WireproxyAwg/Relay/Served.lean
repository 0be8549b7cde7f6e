import WireproxyAwg.Relay.PoolInv
import WireproxyAwg.Relay.Marks

/-!
# Every registered association is open and read by one running reader

`pool.Set(connKey, conn)` puts an association into the map, and the `go startUDPReader(…)`
right after it starts the goroutine that carries its replies back. The map is what the receive
loop consults on every datagram, so whatever it hands out should still work: the tunnel
connection open, no shutdown signal waiting on `readerDone`, and a reader still running for it.
And no two readers may read one tunnel connection, or one reply would be taken by the wrong one.

All of this holds in every reachable state of the relay, whatever the interleaving, and despite
the creation race of `Relay/Marks.lean` and the removal race at the end of this file:

* `Set` registers at the next free address (`len(conns)`), beyond every address a reader holds,
  so the new reader is the only one for it;
* a removal (`Delete`, either cleanup) shuts down only the association of the key it removes,
  because no association is registered under two keys;
* a reader returns only when its association is no longer registered: after a shutdown signal,
  which only a removal sends, or after a failed `Read`, whose `pool.Delete(connKey)` removes its
  own key, and with it its own association if that key still maps to it.

The overwrite race leaves an association out of the map with its reader still running; the
invariant says nothing about associations out of the map, and the stale reader's `Delete` then
removes its successor, which is out of the map afterwards too (`stale_reader_removes_successor`).
What the invariant leaves out is settled at the end of this file: the pool closes only
associations in its map, so one that left the map without a removal stays open for good.
-/

namespace WireproxyAwg.Relay

open WireproxyAwg.Go

theorem map_set_of_getElem? {α β : Type} {l : List α} {f : α → β} {j : Nat} {x y : α}
    (hj : l[j]? = some x) (hf : f y = f x) : (l.set j y).map f = l.map f := by
  apply List.ext_getElem?
  intro i
  rw [List.getElem?_map, List.getElem?_map, List.getElem?_set']
  split
  · subst_vars; simp [hj, hf]
  · rfl

theorem dialedConnection_fresh (now : Int) (client : UDPAddr) (targetAddr : String) (ip : IP) :
    (dialedConnection now client targetAddr ip).closed = false ∧
      (dialedConnection now client targetAddr ip).readerDone = 0 := by
  unfold dialedConnection
  split
  exact ⟨rfl, rfl⟩

/-- The pool's side of the invariant, for the reader goroutines `rs`. -/
structure PoolServed (rs : List ReaderTask) (p : UDPConnectionPool) : Prop where
  /-- Registered pointers point into the heap. -/
  addr : ∀ k a, p.connections.lookup k = some a → a < p.conns.length
  /-- Every reader reads an association in the heap. -/
  readers : ∀ r ∈ rs, r.assoc < p.conns.length
  /-- No two readers read one association. -/
  nodup : (rs.map (·.assoc)).Nodup
  /-- A registered association is open, with no shutdown signal buffered. -/
  live : ∀ k a, p.connections.lookup k = some a →
    ∃ c, p.conn a = some c ∧ c.closed = false ∧ c.readerDone = 0
  /-- A registered association is read by a running reader started under its key. -/
  reader : ∀ k a, p.connections.lookup k = some a → ∃ r ∈ rs, r.assoc = a ∧ r.key = k ∧ r.pc ≠ .exited

namespace PoolServed

variable {rs : List ReaderTask} {p : UDPConnectionPool}

/-- Any reader of a registered association is the one started under its key. -/
theorem keyed (h : PoolServed rs p) {k : String} {a : Nat} (hk : p.connections.lookup k = some a)
    {r : ReaderTask} (hr : r ∈ rs) (ha : r.assoc = a) : r.key = k := by
  obtain ⟨r0, hr0, ha0, hk0, -⟩ := h.reader k a hk
  rw [List.inj_on_of_nodup_map h.nodup hr hr0 (ha.trans ha0.symm), hk0]

/-- No association is registered under two keys. -/
theorem inj (h : PoolServed rs p) {k₁ k₂ : String} {a : Nat} (h₁ : p.connections.lookup k₁ = some a)
    (h₂ : p.connections.lookup k₂ = some a) : k₁ = k₂ := by
  obtain ⟨r, hr, ha, hk, -⟩ := h.reader k₁ a h₁
  exact hk.symm.trans (h.keyed h₂ hr ha)

/-- An association with a shutdown signal buffered is not registered. -/
theorem unmapped_of_signalled (h : PoolServed rs p) {a : Nat} {c : UDPConnection} (hc : p.conn a = some c)
    (hd : 0 < c.readerDone) (k : String) : p.connections.lookup k ≠ some a := fun hk => by
  obtain ⟨c', hc', -, hrd⟩ := h.live k a hk
  rw [hc, Option.some.injEq] at hc'
  subst hc'
  omega

/-- After `Delete(r.key)` no key maps to the association of reader `r`. -/
theorem unmapped_evictKey (h : PoolServed rs p) {r : ReaderTask} (hr : r ∈ rs) (k : String) :
    (p.evictKey r.key).connections.lookup k ≠ some r.assoc := by
  rw [p.lookup_evictKey]
  split
  · simp
  · next hne => exact fun hk => hne (h.keyed hk hr rfl).symm

/-! ### Pool calls -/

/-- A call that leaves the map and the heap alone. -/
theorem of_eq (h : PoolServed rs p) {q : UDPConnectionPool} (hc : q.connections = p.connections)
    (hconns : q.conns = p.conns) : PoolServed rs q where
  addr k a hk := by rw [hconns]; exact h.addr k a (by rw [← hc]; exact hk)
  readers r hr := by rw [hconns]; exact h.readers r hr
  nodup := h.nodup
  live k a hk := by
    rw [UDPConnectionPool.conn, hconns]
    exact h.live k a (by rw [← hc]; exact hk)
  reader k a hk := h.reader k a (by rw [← hc]; exact hk)

/-- Writing through a pointer, keeping `closed` and `readerDone` if the association is
registered. -/
theorem update (h : PoolServed rs p) (a : Nat) (f : UDPConnection → UDPConnection)
    (hf : ∀ k c, p.connections.lookup k = some a → (f c).closed = c.closed ∧ (f c).readerDone = c.readerDone) :
    PoolServed rs (p.update a f) where
  addr k b hk := by rw [UDPConnectionPool.length_update]; exact h.addr k b hk
  readers r hr := by rw [UDPConnectionPool.length_update]; exact h.readers r hr
  nodup := h.nodup
  live k b hk := by
    obtain ⟨c, hc, hcl, hrd⟩ := h.live k b hk
    rw [UDPConnectionPool.conn_update, hc, Option.map_some']
    by_cases hab : a = b
    · subst hab
      exact ⟨f c, by rw [if_pos rfl], (hf k c hk).1.trans hcl, (hf k c hk).2.trans hrd⟩
    · exact ⟨c, by rw [if_neg hab], hcl, hrd⟩
  reader := h.reader

theorem get (h : PoolServed rs p) (key : String) (now : Int) : PoolServed rs (p.Get key now).1 := by
  unfold UDPConnectionPool.Get
  split
  · exact h.update _ _ fun _ _ _ => ⟨rfl, rfl⟩
  · exact h

theorem loadOrStore (h : PoolServed rs p) (key : String) : PoolServed rs (p.LoadOrStore key).1 := by
  unfold UDPConnectionPool.LoadOrStore
  split <;> exact h.of_eq rfl rfl

theorem resolveTarget (h : PoolServed rs p) (host : String) (port : UInt16) (now : Int)
    (lookup : Except String (List IP)) : PoolServed rs (p.resolveTarget host port now lookup).1 := by
  unfold UDPConnectionPool.resolveTarget
  split
  · exact h
  · split
    exact h.of_eq rfl rfl

/-- A removal shuts down only the association of the key it removes. -/
theorem evictKey (h : PoolServed rs p) (key : String) : PoolServed rs (p.evictKey key) := by
  cases hkey : p.connections.lookup key with
  | none => rw [p.evictKey_of_not_mem hkey]; exact h.of_eq rfl rfl
  | some a0 =>
    have hconn : ∀ b, (p.evictKey key).conn b = (p.update a0 UDPConnection.shutdown).conn b :=
      fun b => by simp only [UDPConnectionPool.conn, p.evictKey_of_mem hkey]
    have hlen : (p.evictKey key).conns.length = p.conns.length := by
      rw [p.evictKey_of_mem hkey, UDPConnectionPool.length_update]
    have hrest : ∀ k a, (p.evictKey key).connections.lookup k = some a →
        p.connections.lookup k = some a ∧ a0 ≠ a := fun k a hk => by
      rw [p.lookup_evictKey] at hk
      split at hk
      · cases hk
      · next hne => exact ⟨hk, fun e => hne (h.inj hk (e ▸ hkey))⟩
    refine ⟨fun k a hk => ?_, fun r hr => ?_, h.nodup, fun k a hk => ?_, fun k a hk => ?_⟩
    · rw [hlen]; exact h.addr k a (hrest k a hk).1
    · rw [hlen]; exact h.readers r hr
    · obtain ⟨hk', hne⟩ := hrest k a hk
      obtain ⟨c, hc, hcl⟩ := h.live k a hk'
      refine ⟨c, ?_, hcl⟩
      rw [hconn, UDPConnectionPool.conn_update, hc, Option.map_some', if_neg hne]
    · exact h.reader k a (hrest k a hk).1

theorem foldl_evictKey (h : PoolServed rs p) (ks : List String) :
    PoolServed rs (ks.foldl UDPConnectionPool.evictKey p) := by
  induction ks generalizing p with
  | nil => exact h
  | cons k ks ih => exact ih (h.evictKey k)

theorem cleanupOldestLocked (h : PoolServed rs p) (count : Nat) (order : List String) :
    PoolServed rs (p.cleanupOldestLocked count order) := by
  unfold UDPConnectionPool.cleanupOldestLocked
  split
  · exact h
  · exact h.foldl_evictKey _

/-- Registering an open association at the next free address, with a new reader for it. -/
theorem insert (h : PoolServed rs p) (key : String) (conn : UDPConnection)
    (hconn : conn.closed = false ∧ conn.readerDone = 0) {a : Nat} (ha : p.conns.length = a) :
    PoolServed (rs ++ [⟨key, a, .polling⟩])
      { p with conns := p.conns ++ [conn], connections := p.connections.insert key p.conns.length,
               currentSize := p.currentSize + 1 } := by
  subst ha
  have hlook : ∀ k, (p.connections.insert key p.conns.length).lookup k =
      if k = key then some p.conns.length else p.connections.lookup k := fun k => by
    split
    · subst k; exact AList.lookup_insert _
    · exact AList.lookup_insert_ne ‹_›
  refine ⟨fun k a hk => ?_, fun r hr => ?_, ?_, fun k a hk => ?_, fun k a hk => ?_⟩
  · rw [hlook] at hk
    split at hk
    · cases hk; simp
    · have := h.addr k a hk; simp; omega
  · rcases List.mem_append.1 hr with hr | hr
    · have := h.readers r hr; simp; omega
    · rw [List.mem_singleton.1 hr]; simp
  · rw [List.map_append, List.nodup_append]
    refine ⟨h.nodup, List.nodup_singleton _, fun x hx hx' => ?_⟩
    obtain ⟨r, hr, rfl⟩ := List.mem_map.1 hx
    have := h.readers r hr
    simp only [List.map_cons, List.map_nil, List.mem_singleton] at hx'
    omega
  · rw [hlook] at hk
    show ∃ c, (p.conns ++ [conn])[a]? = some c ∧ _
    split at hk
    · cases hk; exact ⟨conn, List.getElem?_concat_length _ _, hconn⟩
    · rw [List.getElem?_append_left (h.addr k a hk)]
      exact h.live k a hk
  · rw [hlook] at hk
    split at hk
    · cases hk; subst_vars
      exact ⟨_, List.mem_append_right _ (List.mem_singleton_self _), rfl, rfl, fun e => by cases e⟩
    · obtain ⟨r, hr, h1⟩ := h.reader k a hk
      exact ⟨r, List.mem_append_left _ hr, h1⟩

/-- `Set` of an open association, whatever it evicts first, with the reader started after it. -/
theorem set (h : PoolServed rs p) (key : String) (conn : UDPConnection) (now : Int) (order : List String)
    (hconn : conn.closed = false ∧ conn.readerDone = 0) :
    PoolServed (rs ++ [⟨key, p.conns.length, .polling⟩]) (p.Set key conn now order) := by
  unfold UDPConnectionPool.Set
  have hq : PoolServed rs (if p.currentSize ≥ p.maxSize then p.cleanupOldestLocked 5 order else p) := by
    split
    · exact h.cleanupOldestLocked 5 order
    · exact h
  have hlen : (if p.currentSize ≥ p.maxSize then p.cleanupOldestLocked 5 order else p).conns.length =
      p.conns.length := by
    split
    · simpa [UDPConnectionPool.routes] using congrArg List.length (p.frame_cleanupOldestLocked 5 order).routes
    · rfl
  exact hq.insert key { conn with lastUsed := now } hconn hlen

/-! ### Readers -/

/-- A reader moves on; it may return only once its association is no longer registered. -/
theorem setReader (h : PoolServed rs p) {j : Nat} {r : ReaderTask} (hj : rs[j]? = some r) (pc : ReaderPc)
    (hpc : pc = .exited → ∀ k, p.connections.lookup k ≠ some r.assoc) :
    PoolServed (rs.set j { r with pc }) p where
  addr := h.addr
  readers u hu := (List.mem_or_eq_of_mem_set hu).elim (h.readers u) fun e => by
    rw [e]; exact h.readers r (List.getElem?_mem hj)
  nodup := by rw [map_set_of_getElem? (y := { r with pc }) hj rfl]; exact h.nodup
  live := h.live
  reader k a hk := by
    obtain ⟨u, hu, ha, hk', hpc'⟩ := h.reader k a hk
    rcases mem_set_or (i := j) (x := { r with pc }) hu with hu | hu
    · exact ⟨u, hu, ha, hk', hpc'⟩
    · rw [hj, Option.some.injEq] at hu
      subst hu
      exact ⟨_, List.mem_set _ _ (List.getElem?_eq_some_iff.1 hj).1 _, ha, hk',
        fun e => hpc e k (ha ▸ hk)⟩

end PoolServed

/-! ## The relay -/

/-- A creation goroutine about to register an association holds an open one, with nothing
buffered. -/
def CreateTask.Fresh (t : CreateTask) : Prop :=
  ∀ c, t.pc = .registering c → c.closed = false ∧ c.readerDone = 0

/-- The pool as `PoolServed` says for the relay's readers, and what the creation goroutines are
about to register. -/
structure Served (s : World) : Prop where
  pool : PoolServed s.readers s.pool
  fresh : ∀ t ∈ s.creators, t.Fresh

theorem served_init : Served World.init where
  pool := ⟨by simp [World.init, NewUDPConnectionPool], by simp [World.init], by simp [World.init],
    by simp [World.init, NewUDPConnectionPool], by simp [World.init, NewUDPConnectionPool]⟩
  fresh := by simp [World.init]

section Steps

variable {s s' : World}

/-- A creation goroutine moves on; the pool changes only as `PoolServed` allows. -/
theorem Served.setCreator (h : Served s) {i : Nat} {t' : CreateTask} (hp : PoolServed s'.readers s'.pool)
    (hc : s'.creators = (s.setCreator i t').creators) (ht' : t'.Fresh) : Served s' :=
  ⟨hp, fun t ht => (List.mem_or_eq_of_mem_set (hc ▸ ht)).elim (h.fresh t) fun e => e ▸ ht'⟩

/-- A reader moves on, after the pool has changed as `PoolServed` allows. -/
theorem Served.setReader (h : Served s) {j : Nat} {r : ReaderTask} (hj : s.readers[j]? = some r)
    (pc : ReaderPc) (hp : PoolServed s.readers s'.pool)
    (hpc : pc = .exited → ∀ k, s'.pool.connections.lookup k ≠ some r.assoc)
    (hr : s'.readers = (s.setReader j { r with pc }).readers) (hc : s'.creators = s.creators) : Served s' :=
  ⟨hr ▸ hp.setReader hj pc hpc, hc ▸ h.fresh⟩

theorem recvHandle_served (h : Served s) (hs : s.recvHandle = some s') : Served s' := by
  unfold World.recvHandle at hs
  split at hs
  · next buf client n _ =>
    split at hs
    · cases hs; exact ⟨h.pool, h.fresh⟩
    · cases hs; exact ⟨h.pool, h.fresh⟩
    · dsimp only at hs
      split at hs <;> rename_i heq <;> cases hs <;>
        exact ⟨by simpa only [heq] using h.pool.get client.String s.clock, h.fresh⟩
  · cases hs

theorem recvMark_served (h : Served s) (hs : s.recvMark = some s') : Served s' := by
  unfold World.recvMark at hs
  split at hs
  · next buf key client host port payload _ =>
    split at hs <;> rename_i heq <;> cases hs
    · exact ⟨by simpa only [heq] using h.pool.loadOrStore key, h.fresh⟩
    · refine ⟨by simpa only [heq] using h.pool.loadOrStore key, fun t ht => ?_⟩
      rcases List.mem_append.1 ht with ht | ht
      · exact h.fresh t ht
      · rw [List.mem_singleton.1 ht]; exact fun _ e => by cases e
  · cases hs

theorem resolve_served {i : Nat} {lookup : Except String (List IP)} (h : Served s)
    (hs : s.resolve i lookup = some s') : Served s' := by
  unfold World.resolve at hs
  split at hs
  · next t _ =>
    split_ifs at hs
    split at hs
    next pool _ heq =>
      have hp : PoolServed s.readers pool := by
        simpa only [heq] using h.pool.resolveTarget t.host t.port s.clock lookup
      split at hs <;> cases hs <;> exact h.setCreator hp rfl (fun _ e => by cases e)
  · cases hs

theorem dial_served {i : Nat} {ok : Bool} (h : Served s) (hs : s.dial i ok = some s') : Served s' := by
  unfold World.dial at hs
  split at hs
  · split at hs
    · split_ifs at hs <;> cases hs
      · exact h.setCreator h.pool rfl (fun _ e => by cases e; exact dialedConnection_fresh _ _ _ _)
      · exact h.setCreator h.pool rfl (fun _ e => by cases e)
    · cases hs
  · cases hs

/-- **`Set` and `go startUDPReader`**: the association registered is the open one the goroutine
dialed, at a fresh address, and its reader is the only one for it. -/
theorem register_served {i : Nat} {order : List String} (h : Served s) (hs : s.register i order = some s') :
    Served s' := by
  unfold World.register at hs
  split at hs
  · next t hi =>
    split at hs
    · next conn hpc =>
      split_ifs at hs
      cases hs
      have hfresh := h.fresh t (List.getElem?_mem hi) conn hpc
      refine ⟨h.pool.set t.key conn s.clock order hfresh, fun u hu => ?_⟩
      rcases List.mem_or_eq_of_mem_set hu with hu | rfl
      · exact h.fresh u hu
      · exact fun _ e => by cases e
    · cases hs
  · cases hs

theorem firstWrite_served {i : Nat} (h : Served s) (hs : s.firstWrite i = some s') : Served s' := by
  unfold World.firstWrite at hs
  split at hs
  · split at hs
    · cases hs; exact h.setCreator h.pool rfl (fun _ e => by cases e)
    · cases hs
  · cases hs

theorem release_served {i : Nat} (h : Served s) (hs : s.release i = some s') : Served s' := by
  unfold World.release at hs
  split at hs
  · split_ifs at hs
    cases hs
    exact h.setCreator (h.pool.of_eq rfl rfl) rfl fun _ e => by cases e
  · cases hs

/-- **A reader returns on a shutdown signal** only: the signal means its association is no
longer registered. -/
theorem poll_served {j : Nat} (h : Served s) (hs : s.poll j = some s') : Served s' := by
  unfold World.poll at hs
  split at hs
  · next r c hj hc =>
    rw [hj] at hc
    simp only [Option.map_some', Option.getD_some] at hc
    split_ifs at hs with _ hd <;> cases hs
    · have hfree := h.pool.unmapped_of_signalled hc hd
      exact h.setReader hj .exited (h.pool.update _ _ fun k _ hk => absurd hk (hfree k))
        (fun _ => hfree) rfl rfl
    · exact h.setReader hj .reading h.pool (fun e => by cases e) rfl rfl
  · cases hs

/-- **A reader returns after a failed `Read`** only after `pool.Delete(connKey)`, which removes
its own key: its association is no longer registered either way. -/
theorem readerRead_served {j : Nat} {res : ReadResult} {pick : Option Nat} (h : Served s)
    (hs : s.readerRead j res pick = some s') : Served s' := by
  unfold World.readerRead at hs
  split at hs
  · next r c hj hc =>
    have hr := List.getElem?_mem hj
    cases res with
    | timeout =>
      dsimp only at hs
      split_ifs at hs
      cases hs
      exact h.setReader hj .polling h.pool (fun e => by cases e) rfl rfl
    | error =>
      dsimp only at hs
      split_ifs at hs
      cases hs
      exact h.setReader hj .exited (h.pool.evictKey r.key) (fun _ => h.pool.unmapped_evictKey hr) rfl rfl
    | data bytes =>
      dsimp only at hs
      split_ifs at hs
      split at hs
      · cases hs
      · have hp := h.pool.update r.assoc (fun c => { c with lastUsed := s.clock }) fun _ _ _ => ⟨rfl, rfl⟩
        split at hs <;> cases hs
        · exact ⟨hp, h.fresh⟩
        · exact h.setReader hj .polling hp (fun e => by cases e) rfl rfl
  · cases hs

theorem janitor_served {order : List String} (h : Served s) (hs : s.janitor order = some s') : Served s' := by
  unfold World.janitor at hs
  split_ifs at hs
  cases hs
  exact ⟨h.pool.foldl_evictKey _, h.fresh⟩

theorem recvGet_served {pick : Option Nat} (h : Served s) (hs : s.recvGet pick = some s') : Served s' := by
  unfold World.recvGet at hs; split at hs <;> cases hs; exact ⟨h.pool, h.fresh⟩

theorem recvRead_served {client : UDPAddr} {bytes : List UInt8} (h : Served s)
    (hs : s.recvRead client bytes = some s') : Served s' := by
  unfold World.recvRead at hs; split at hs <;> cases hs; exact ⟨h.pool, h.fresh⟩

theorem recvError_served (h : Served s) (hs : s.recvError = some s') : Served s' := by
  unfold World.recvError at hs; split at hs <;> cases hs; exact ⟨h.pool, h.fresh⟩

theorem recvWrite_served (h : Served s) (hs : s.recvWrite = some s') : Served s' := by
  unfold World.recvWrite at hs; split at hs <;> cases hs; exact ⟨h.pool, h.fresh⟩

theorem recvPut_served (h : Served s) (hs : s.recvPut = some s') : Served s' := by
  unfold World.recvPut at hs; split at hs <;> cases hs; exact ⟨h.pool, h.fresh⟩

end Steps

/-- **Preserved by every step.** -/
theorem served_step {s s' : World} {a : Action} (h : Served s) (hs : s.step a = some s') : Served s' := by
  cases a with
  | recvGet => exact recvGet_served h hs
  | recvRead => exact recvRead_served h hs
  | recvError => exact recvError_served h hs
  | recvHandle => exact recvHandle_served h hs
  | recvWrite => exact recvWrite_served h hs
  | recvMark => exact recvMark_served h hs
  | recvPut => exact recvPut_served h hs
  | resolve => exact resolve_served h hs
  | dial => exact dial_served h hs
  | register => exact register_served h hs
  | firstWrite => exact firstWrite_served h hs
  | release => exact release_served h hs
  | poll => exact poll_served h hs
  | readerRead => exact readerRead_served h hs
  | janitor => exact janitor_served h hs
  | tick => cases hs; exact ⟨h.pool, h.fresh⟩

theorem served_reachable {s : World} (h : Reachable s) : Served s := by
  induction h with
  | init => exact served_init
  | step _ hs ih => exact served_step ih hs

/-- **Every association the map hands out is open and read by exactly one running reader.** In
every reachable state of the relay, whatever the interleaving of the receive loop, the creation
goroutines, the readers and the janitor: if the pool maps client key `k` to association `a`,
then `a` is open with no shutdown signal buffered on `readerDone`, and exactly one reader
goroutine reads it, one started under `k` that has not returned. -/
theorem registered_association_served (s : World) (hs : Reachable s) (k : String) (a : Nat)
    (hk : s.pool.connections.lookup k = some a) :
    (∃ c, s.pool.conn a = some c ∧ c.closed = false ∧ c.readerDone = 0) ∧
      ∃ r ∈ s.readers, r.assoc = a ∧ r.key = k ∧ r.pc ≠ .exited ∧
        ∀ r' ∈ s.readers, r'.assoc = a → r' = r := by
  have h := (served_reachable hs).pool
  obtain ⟨r, hr, ha, hkey, hpc⟩ := h.reader k a hk
  exact ⟨h.live k a hk, r, hr, ha, hkey, hpc, fun r' hr' ha' =>
    List.inj_on_of_nodup_map h.nodup hr' hr (ha'.trans ha.symm)⟩

/-- After the eviction of `traceEvicted`, the second creation goroutine registers association 1
under the same key. -/
def traceSuccessor : List Action := traceEvicted ++ createUpToRegister 1 []

set_option maxRecDepth 4000 in
/-- After an eviction and a new registration for the same client, the new association is the
one served; the evicted one keeps its own reader. -/
theorem registered_association_served_successor :
    ∃ s, Reachable s ∧ s.pool.connections.lookup clientX.String = some 1 ∧
      (∃ c, s.pool.conn 1 = some c ∧ c.closed = false ∧ c.readerDone = 0) ∧
      ∃ r ∈ s.readers, r.assoc = 1 ∧ r.key = clientX.String ∧ r.pc ≠ .exited ∧
        ∀ r' ∈ s.readers, r'.assoc = 1 → r' = r := by
  obtain ⟨s, hs, hp⟩ := reach_of_run traceSuccessor
    (fun s => decide (s.pool.connections.lookup clientX.String = some 1)) (by decide)
  have hk := of_decide_eq_true hp
  exact ⟨s, hs, hk, registered_association_served s hs _ _ hk⟩

/-! ## A stale reader removes its successor

The reader's `pool.Delete(connKey)` acts on the key, not on its own association: once a newer
association is registered under the key, the reader of the evicted one removes it. -/

/-- `a` is a value of the `connections` map. -/
def Registered (p : UDPConnectionPool) (a : Nat) : Prop := ∃ k, p.connections.lookup k = some a

/-- The ways the relay's design lets association `a` leave `connections` in action `act`: its
own reader failing, the janitor finding it idle, or a `Set` at capacity. -/
def AllowedRemoval (s : World) (act : Action) (a : Nat) : Prop :=
  (∃ j pick r, act = .readerRead j .error pick ∧ s.readers[j]? = some r ∧ r.assoc = a) ∨
  (∃ order, act = .janitor order ∧ ∃ c, s.pool.conn a = some c ∧ s.clock - c.lastUsed > 60 * second) ∨
  (∃ i order, act = .register i order ∧ s.pool.maxSize ≤ s.pool.currentSize)

/-- Every association that leaves `connections` leaves in one of those ways. -/
def RemovalsAllowed (s : World) : Prop :=
  ∀ act s', s.step act = some s' → ∀ a, Registered s.pool a → ¬ Registered s'.pool a →
    AllowedRemoval s act a

set_option maxRecDepth 4000 in
/-- **The reader of an evicted association deletes the association registered after it.** -/
theorem stale_reader_removes_successor : ¬ ∀ s, Reachable s → RemovalsAllowed s := by
  intro h
  obtain ⟨s, hs, hp⟩ := reach_of_run traceSuccessor
    (fun s => decide (s.readers[0]?.map ReaderTask.assoc = some 0) &&
      decide (s.pool.connections.lookup clientX.String = some 1) &&
      ((s.step (.readerRead 0 .error none)).map fun s' => decide (s'.pool.connections.keys = [])) == some true)
    (by decide)
  simp only [Bool.and_eq_true, decide_eq_true_eq, beq_iff_eq, Option.map_eq_some'] at hp
  obtain ⟨⟨h0, h1⟩, s', hstep, hempty⟩ := hp
  have hgone : ¬ Registered s'.pool 1 := fun ⟨k, hk⟩ => by
    have := mem_keys_of_lookup hk
    rw [hempty] at this
    cases this
  rcases h s hs _ s' hstep 1 ⟨_, h1⟩ hgone with ⟨j, pick, r, hact, hr, ha⟩ | ⟨_, hact, _⟩ | ⟨_, _, hact, _⟩
  · cases hact
    obtain ⟨r', hr', h0⟩ := h0
    rw [hr, Option.some.injEq] at hr'
    subst hr'
    omega
  · cases hact
  · cases hact

/-! ## What leaves the map without a removal stays open

A removal closes the association of the key it removes, and the other pool calls write no
`closed`, so the pool closes only associations in its map; and `Set` registers only the fresh
address at the end of the heap. An association that left the map without a removal, overwritten
by a second `Set` for its key (`overwrite_leaks_association` in `Relay/Marks.lean`), is never
closed: its tunnel connection stays open, out of the map, for the rest of the run. -/

namespace UDPConnectionPool

variable {p p' p'' : UDPConnectionPool}

/-- Association `a` is in the heap, and no key maps to it. -/
def Unmapped (p : UDPConnectionPool) (a : Nat) : Prop :=
  a < p.conns.length ∧ ∀ k, p.connections.lookup k ≠ some a

/-- From `p` to `p'`, every association out of the map stays out of it, closed or open as it was. -/
def KeepsUnmapped (p p' : UDPConnectionPool) : Prop :=
  ∀ a, p.Unmapped a → p'.Unmapped a ∧ (p'.conn a).map (·.closed) = (p.conn a).map (·.closed)

theorem KeepsUnmapped.refl (p : UDPConnectionPool) : KeepsUnmapped p p := fun _ h => ⟨h, rfl⟩

theorem KeepsUnmapped.trans (h : KeepsUnmapped p p') (h' : KeepsUnmapped p' p'') : KeepsUnmapped p p'' :=
  fun a ha => (h' a (h a ha).1).imp_right fun e => e.trans (h a ha).2

/-- A call that keeps the map and the heap. -/
theorem KeepsUnmapped.of_eq (hc : p'.connections = p.connections) (hconns : p'.conns = p.conns) :
    KeepsUnmapped p p' := fun _ ⟨hlt, hu⟩ =>
  ⟨⟨hconns ▸ hlt, hc ▸ hu⟩, by simp only [conn, hconns]⟩

/-- A write through a pointer that leaves `closed` alone. -/
theorem keepsUnmapped_update (a : Nat) {f : UDPConnection → UDPConnection}
    (hf : ∀ c, (f c).closed = c.closed) : KeepsUnmapped p (p.update a f) := fun b ⟨hlt, hu⟩ => by
  refine ⟨⟨by rw [length_update]; exact hlt, hu⟩, ?_⟩
  rw [conn_update, Option.map_map]
  congr 1
  funext c
  simp only [Function.comp]
  split <;> simp [hf]

/-- **A removal closes only the association of the key it removes**, which is in the map. -/
theorem keepsUnmapped_evictKey (key : String) : KeepsUnmapped p (p.evictKey key) := fun a ⟨hlt, hu⟩ => by
  have hmap : ∀ k, (p.evictKey key).connections.lookup k ≠ some a := fun k hk => by
    rw [lookup_evictKey] at hk
    split at hk
    · cases hk
    · exact hu k hk
  cases h : p.connections.lookup key with
  | none => rw [p.evictKey_of_not_mem h]; exact ⟨⟨hlt, hu⟩, rfl⟩
  | some a0 =>
    have hne : a0 ≠ a := fun e => hu key (e ▸ h)
    have hconn : (p.evictKey key).conn a = (p.update a0 UDPConnection.shutdown).conn a := by
      simp only [conn, p.evictKey_of_mem h]
    have hlen : (p.evictKey key).conns.length = p.conns.length := by
      rw [p.evictKey_of_mem h, length_update]
    refine ⟨⟨hlen ▸ hlt, hmap⟩, ?_⟩
    rw [hconn, conn_update]
    simp [hne]

theorem keepsUnmapped_foldl_evictKey (ks : List String) : KeepsUnmapped p (ks.foldl evictKey p) := by
  induction ks generalizing p with
  | nil => exact .refl p
  | cons k ks ih => exact (keepsUnmapped_evictKey k).trans ih

theorem keepsUnmapped_cleanupOldestLocked (count : Nat) (order : List String) :
    KeepsUnmapped p (p.cleanupOldestLocked count order) := by
  unfold cleanupOldestLocked
  split
  · exact .refl p
  · exact keepsUnmapped_foldl_evictKey _

/-- `Set` registers the fresh address at the end of the heap, whatever it evicts first. -/
theorem keepsUnmapped_Set (key : String) (conn : UDPConnection) (now : Int) (order : List String) :
    KeepsUnmapped p (p.Set key conn now order) := fun a ha => by
  have hq : KeepsUnmapped p (if p.currentSize ≥ p.maxSize then p.cleanupOldestLocked 5 order else p) := by
    split
    exacts [keepsUnmapped_cleanupOldestLocked 5 order, .refl p]
  obtain ⟨⟨hlt, hu⟩, hc⟩ := hq a ha
  unfold Set
  generalize (if p.currentSize ≥ p.maxSize then p.cleanupOldestLocked 5 order else p) = q at hlt hu hc ⊢
  refine ⟨⟨by simp only [List.length_append, List.length_singleton]; omega, fun k hk => ?_⟩, ?_⟩
  · by_cases hk' : k = key
    · subst hk'
      rw [AList.lookup_insert, Option.some.injEq] at hk
      omega
    · rw [AList.lookup_insert_ne hk'] at hk
      exact hu k hk
  · show ((q.conns ++ _)[a]?).map _ = _
    rw [List.getElem?_append_left hlt]
    exact hc

end UDPConnectionPool

/-- **Every call the relay makes on its pool** keeps what is out of the map out of it, and closes
none of it. -/
theorem PoolCall.keepsUnmapped {p p' : UDPConnectionPool} (hc : PoolCall p p') :
    UDPConnectionPool.KeepsUnmapped p p' := by
  cases hc with
  | get key now =>
    unfold UDPConnectionPool.Get
    split
    · exact UDPConnectionPool.keepsUnmapped_update _ fun _ => rfl
    · exact .refl p
  | loadOrStore key =>
    unfold UDPConnectionPool.LoadOrStore
    split <;> exact .of_eq rfl rfl
  | deleteMarker key => exact .of_eq rfl rfl
  | resolveTarget host port now lookup =>
    exact .of_eq (p.connections_resolveTarget ..) (p.conns_resolveTarget ..)
  | update a f hf => exact UDPConnectionPool.keepsUnmapped_update a hf
  | set key conn now order horder => exact UDPConnectionPool.keepsUnmapped_Set key conn now order
  | delete key => exact UDPConnectionPool.keepsUnmapped_evictKey key
  | cleanup maxAge now order => exact UDPConnectionPool.keepsUnmapped_foldl_evictKey _

theorem World.step_keepsUnmapped {s s' : World} {act : Action} (h : s.step act = some s') :
    s.pool.KeepsUnmapped s'.pool :=
  (World.step_pool h).elim (fun e => e ▸ .refl _) (·.keepsUnmapped)

theorem World.run_keepsUnmapped : ∀ (l : List Action) {s s' : World}, s.run l = some s' →
    s.pool.KeepsUnmapped s'.pool
  | [], _, _, h => by cases h; exact .refl _
  | act :: l, s, s', h => by
    simp only [World.run] at h
    cases ha : s.step act with
    | none => simp [ha] at h
    | some s1 =>
      simp only [ha, Option.bind_some] at h
      exact (World.step_keepsUnmapped ha).trans (World.run_keepsUnmapped l h)

/-- **What leaves the map without a removal leaks for good.** From every state of the relay and
over every run from it, whatever its goroutines do: an association in the pool's heap that no
key maps to stays out of the map, and stays open if it was open. No step closes it, and no `Set`
registers it again. -/
theorem unmapped_association_stays_open (s : World) (a : Nat) (ha : s.pool.Unmapped a) (l : List Action)
    (s' : World) (hr : s.run l = some s') :
    s'.pool.Unmapped a ∧ (s'.pool.conn a).map (·.closed) = (s.pool.conn a).map (·.closed) :=
  World.run_keepsUnmapped l hr a ha

set_option maxRecDepth 4000 in
/-- After the overwrite, association 1 is out of the map and open. 61 s later the janitor removes
the association that replaced it, and association 1 is still open. -/
theorem unmapped_association_stays_open_overwrite :
    ∃ s s', Reachable s ∧ s.pool.Unmapped 1 ∧ (s.pool.conn 1).map (·.closed) = some false ∧
      s.run [.tick 61000000000, .janitor [clientX.String]] = some s' ∧
      s'.pool.Unmapped 1 ∧ (s'.pool.conn 1).map (·.closed) = (s.pool.conn 1).map (·.closed) := by
  obtain ⟨s, hs, hp⟩ := reach_of_run traceOverwrite
    (fun s => decide (s.pool.connections.keys = [clientX.String]) &&
      decide (s.pool.connections.lookup clientX.String = some 2) && decide (1 < s.pool.conns.length) &&
      decide ((s.pool.conn 1).map (·.closed) = some false) &&
      (s.run [.tick 61000000000, .janitor [clientX.String]]).isSome) (by decide)
  simp only [Bool.and_eq_true, decide_eq_true_eq, Option.isSome_iff_exists] at hp
  obtain ⟨⟨⟨⟨hkeys, h2⟩, hlt⟩, hc⟩, s', hr⟩ := hp
  have hu : s.pool.Unmapped 1 := ⟨hlt, fun k hk => by
    have hk' := mem_keys_of_lookup hk
    rw [hkeys, List.mem_singleton] at hk'
    subst hk'
    rw [h2] at hk
    cases hk⟩
  exact ⟨s, s', hs, hu, hc, hr, unmapped_association_stays_open s 1 hu _ s' hr⟩

end WireproxyAwg.Relay
