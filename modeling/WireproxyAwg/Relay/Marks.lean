import WireproxyAwg.Relay.Routing

/-!
# A creation mark never outlives its goroutines

`handleSocks5UDPPacketSync` drops a datagram that misses the pool while `creationLock` holds its
client's key, since another goroutine is creating the association. A mark left behind with no
goroutine to delete it would drop that client's datagrams for good. That never happens: in every
reachable state, whatever the interleaving, every mark belongs to a creation goroutine for its
key that has not yet run its deferred `creationLock.Delete`.

This is the middle part of the creation discipline `CreationExclusive`, whose other two parts
fail (`creation_mark_not_exclusive` and `overwrite_leaks_association`, at the end of this file):
a stale reader's `pool.Delete(connKey)` removes a newer goroutine's mark early, so a second
goroutine for the same client starts, and both register. The middle part holds because a mark is
stored only together with the goroutine that owns it. Every other step leaves the marks alone or
removes some (`Delete`, both cleanups and the deferred `Delete` filter them), and moves
goroutines on without finishing them, except the deferred `Delete` itself, which removes its
own goroutine's key as that goroutine finishes.
-/

namespace WireproxyAwg.Relay

open WireproxyAwg.Go

/-! ## What each pool method does to the marks -/

namespace UDPConnectionPool

variable (p : UDPConnectionPool)

theorem creationLock_Get (key : String) (now : Int) : (p.Get key now).1.creationLock = p.creationLock := by
  unfold Get
  split <;> rfl

theorem creationLock_resolveTarget (host : String) (port : UInt16) (now : Int)
    (lookup : Except String (List IP)) :
    (p.resolveTarget host port now lookup).1.creationLock = p.creationLock := by
  unfold resolveTarget
  split
  · rfl
  · split; rfl

theorem creationLock_evictKey (key : String) :
    (p.evictKey key).creationLock = p.creationLock.filter (· ≠ key) := by
  unfold evictKey
  split <;> rfl

theorem mem_creationLock_foldl_evictKey {k : String} (ks : List String)
    (h : k ∈ (ks.foldl evictKey p).creationLock) : k ∈ p.creationLock := by
  induction ks generalizing p with
  | nil => exact h
  | cons key ks ih =>
    have := ih (p.evictKey key) h
    rw [creationLock_evictKey, List.mem_filter] at this
    exact this.1

theorem mem_creationLock_Set {k key : String} {conn : UDPConnection} {now : Int} {order : List String}
    (h : k ∈ (p.Set key conn now order).creationLock) : k ∈ p.creationLock := by
  unfold Set at h
  split at h
  · unfold cleanupOldestLocked at h
    split at h
    · exact h
    · exact p.mem_creationLock_foldl_evictKey _ h
  · exact h

theorem LoadOrStore_loaded {key : String} {q : UDPConnectionPool} (h : p.LoadOrStore key = (q, true)) :
    q = p := by
  unfold LoadOrStore at h
  split at h <;> cases h
  rfl

theorem LoadOrStore_stored {key : String} {q : UDPConnectionPool} (h : p.LoadOrStore key = (q, false)) :
    q.creationLock = key :: p.creationLock := by
  unfold LoadOrStore at h
  split at h <;> cases h
  rfl

end UDPConnectionPool

/-! ## The invariant -/

/-- Every creation mark belongs to a creation goroutine for its key that is still in progress. -/
def MarksOwned (s : World) : Prop := ∀ k ∈ s.pool.creationLock, ∃ t ∈ s.creators, t.key = k ∧ t.active

theorem marksOwned_init : MarksOwned World.init := by
  simp [MarksOwned, World.init, NewUDPConnectionPool]

/-- Moving creation goroutine `i` on under its key, without finishing it, keeps every goroutine
in progress. -/
theorem active_set {l : List CreateTask} {i : Nat} {t : CreateTask} (hi : l[i]? = some t) (t' : CreateTask)
    (hkey : t'.key = t.key) (hact : t'.active) :
    ∀ u ∈ l, u.active → ∃ u' ∈ l.set i t', u'.key = u.key ∧ u'.active := fun u hu ha => by
  rcases mem_set_or (i := i) (x := t') hu with hu | hu
  · exact ⟨u, hu, rfl, ha⟩
  · rw [hi, Option.some.injEq] at hu
    subst hu
    exact ⟨t', List.mem_set l i (List.getElem?_eq_some_iff.1 hi).1 t', hkey, hact⟩

section Steps

variable {s s' : World}

/-- A step that adds no mark and keeps every goroutine in progress, under its key. -/
theorem MarksOwned.of_sub (h : MarksOwned s) (hlock : ∀ k ∈ s'.pool.creationLock, k ∈ s.pool.creationLock)
    (hc : ∀ t ∈ s.creators, t.active → ∃ t' ∈ s'.creators, t'.key = t.key ∧ t'.active) :
    MarksOwned s' := fun k hk => by
  obtain ⟨t, ht, rfl, ha⟩ := h k (hlock k hk)
  exact hc t ht ha

/-- A step that keeps the creation goroutines and adds no mark. -/
theorem MarksOwned.of_creators (h : MarksOwned s) (hc : s'.creators = s.creators)
    (hlock : ∀ k ∈ s'.pool.creationLock, k ∈ s.pool.creationLock) : MarksOwned s' :=
  h.of_sub hlock fun t ht ha => ⟨t, hc ▸ ht, rfl, ha⟩

theorem recvHandle_marks (h : MarksOwned s) (hs : s.recvHandle = some s') : MarksOwned s' := by
  unfold World.recvHandle at hs
  split at hs
  · next buf client n _ =>
    split at hs
    · cases hs; exact h.of_creators rfl fun _ => id
    · cases hs; exact h.of_creators rfl fun _ => id
    · dsimp only at hs
      have hG := s.pool.creationLock_Get client.String s.clock
      split at hs <;> rename_i heq <;> rw [heq] at hG <;> cases hs <;>
        exact h.of_creators rfl fun _ hk => hG ▸ hk
  · cases hs

/-- **The one step that stores a mark** starts the goroutine that owns it. -/
theorem recvMark_marks (h : MarksOwned s) (hs : s.recvMark = some s') : MarksOwned s' := by
  unfold World.recvMark at hs
  split at hs
  · next buf key client host port payload _ =>
    split at hs <;> rename_i heq <;> cases hs
    · rw [s.pool.LoadOrStore_loaded heq]
      exact h.of_creators rfl fun _ => id
    · intro k hk
      rw [s.pool.LoadOrStore_stored heq, List.mem_cons] at hk
      rcases hk with rfl | hk
      · exact ⟨_, List.mem_append_right _ (List.mem_singleton_self _), rfl, rfl⟩
      · obtain ⟨t, ht, hkey, ha⟩ := h k hk
        exact ⟨t, List.mem_append_left _ ht, hkey, ha⟩
  · cases hs

theorem resolve_marks {i : Nat} {lookup : Except String (List IP)} (h : MarksOwned s)
    (hs : s.resolve i lookup = some s') : MarksOwned s' := by
  unfold World.resolve at hs
  split at hs
  · next t hi =>
    split_ifs at hs
    split at hs
    next pool _ heq =>
      have hR := s.pool.creationLock_resolveTarget t.host t.port s.clock lookup
      rw [heq] at hR
      split at hs <;> cases hs <;>
        exact h.of_sub (fun _ hk => hR ▸ hk) (active_set hi _ rfl rfl)
  · cases hs

theorem dial_marks {i : Nat} {ok : Bool} (h : MarksOwned s) (hs : s.dial i ok = some s') : MarksOwned s' := by
  unfold World.dial at hs
  split at hs
  · next t hi =>
    split at hs
    · split_ifs at hs <;> cases hs <;> exact h.of_sub (fun _ => id) (active_set hi _ rfl rfl)
    · cases hs
  · cases hs

theorem register_marks {i : Nat} {order : List String} (h : MarksOwned s) (hs : s.register i order = some s') :
    MarksOwned s' := by
  unfold World.register at hs
  split at hs
  · next t hi =>
    split at hs
    · split_ifs at hs
      cases hs
      exact h.of_sub (fun _ => s.pool.mem_creationLock_Set) (active_set hi _ rfl rfl)
    · cases hs
  · cases hs

theorem firstWrite_marks {i : Nat} (h : MarksOwned s) (hs : s.firstWrite i = some s') : MarksOwned s' := by
  unfold World.firstWrite at hs
  split at hs
  · next t hi =>
    split at hs
    · cases hs; exact h.of_sub (fun _ => id) (active_set hi _ rfl rfl)
    · cases hs
  · cases hs

/-- **The deferred `Delete`** removes the mark of the goroutine that finishes; every other mark
keeps its owner. -/
theorem release_marks {i : Nat} (h : MarksOwned s) (hs : s.release i = some s') : MarksOwned s' := by
  unfold World.release at hs
  split at hs
  · next t hi =>
    split_ifs at hs
    cases hs
    intro k hk
    have hk : k ∈ s.pool.creationLock ∧ k ≠ t.key := by simpa [UDPConnectionPool.deleteMarker] using hk
    obtain ⟨u, hu, rfl, ha⟩ := h k hk.1
    rcases mem_set_or (i := i) (x := { t with pc := .finished }) hu with hu | hu
    · exact ⟨u, hu, rfl, ha⟩
    · rw [hi, Option.some.injEq] at hu
      exact absurd (congrArg CreateTask.key hu).symm hk.2
  · cases hs

theorem poll_marks {j : Nat} (h : MarksOwned s) (hs : s.poll j = some s') : MarksOwned s' := by
  unfold World.poll at hs
  split at hs
  · split_ifs at hs <;> cases hs <;> exact h.of_creators rfl fun _ => id
  · cases hs

theorem readerRead_marks {j : Nat} {res : ReadResult} {pick : Option Nat} (h : MarksOwned s)
    (hs : s.readerRead j res pick = some s') : MarksOwned s' := by
  unfold World.readerRead at hs
  split at hs
  · next r c _ _ =>
    cases res with
    | timeout =>
      dsimp only at hs
      split_ifs at hs
      cases hs
      exact h.of_creators rfl fun _ => id
    | error =>
      dsimp only at hs
      split_ifs at hs
      cases hs
      exact h.of_creators rfl fun _ hk => by
        rw [UDPConnectionPool.Delete, UDPConnectionPool.creationLock_evictKey, List.mem_filter] at hk
        exact hk.1
    | data bytes =>
      dsimp only at hs
      split_ifs at hs
      split at hs
      · cases hs
      · split at hs <;> cases hs <;> exact h.of_creators rfl fun _ => id
  · cases hs

theorem janitor_marks {order : List String} (h : MarksOwned s) (hs : s.janitor order = some s') :
    MarksOwned s' := by
  unfold World.janitor at hs
  split_ifs at hs
  cases hs
  exact h.of_creators rfl fun _ => s.pool.mem_creationLock_foldl_evictKey _

theorem recvGet_marks {pick : Option Nat} (h : MarksOwned s) (hs : s.recvGet pick = some s') :
    MarksOwned s' := by
  unfold World.recvGet at hs; split at hs <;> cases hs; exact h.of_creators rfl fun _ => id

theorem recvRead_marks {client : UDPAddr} {bytes : List UInt8} (h : MarksOwned s)
    (hs : s.recvRead client bytes = some s') : MarksOwned s' := by
  unfold World.recvRead at hs; split at hs <;> cases hs; exact h.of_creators rfl fun _ => id

theorem recvError_marks (h : MarksOwned s) (hs : s.recvError = some s') : MarksOwned s' := by
  unfold World.recvError at hs; split at hs <;> cases hs; exact h.of_creators rfl fun _ => id

theorem recvWrite_marks (h : MarksOwned s) (hs : s.recvWrite = some s') : MarksOwned s' := by
  unfold World.recvWrite at hs; split at hs <;> cases hs; exact h.of_creators rfl fun _ => id

theorem recvPut_marks (h : MarksOwned s) (hs : s.recvPut = some s') : MarksOwned s' := by
  unfold World.recvPut at hs; split at hs <;> cases hs; exact h.of_creators rfl fun _ => id

end Steps

/-- **Preserved by every step.** -/
theorem marks_step {s s' : World} {a : Action} (h : MarksOwned s) (hs : s.step a = some s') : MarksOwned s' := by
  cases a with
  | recvGet => exact recvGet_marks h hs
  | recvRead => exact recvRead_marks h hs
  | recvError => exact recvError_marks h hs
  | recvHandle => exact recvHandle_marks h hs
  | recvWrite => exact recvWrite_marks h hs
  | recvMark => exact recvMark_marks h hs
  | recvPut => exact recvPut_marks h hs
  | resolve => exact resolve_marks h hs
  | dial => exact dial_marks h hs
  | register => exact register_marks h hs
  | firstWrite => exact firstWrite_marks h hs
  | release => exact release_marks h hs
  | poll => exact poll_marks h hs
  | readerRead => exact readerRead_marks h hs
  | janitor => exact janitor_marks h hs
  | tick => cases hs; exact h.of_creators rfl fun _ => id

theorem marks_reachable {s : World} (h : Reachable s) : MarksOwned s := by
  induction h with
  | init => exact marksOwned_init
  | step _ hs ih => exact marks_step ih hs

/-- **A creation mark never outlives its goroutines.** In every reachable state of the relay,
whatever the interleaving, a client key is in `creationLock` only while some creation goroutine
for that key has not yet run its deferred `creationLock.Delete`. So once every creation
goroutine for a client has finished, the client's next miss stores a mark and starts one. -/
theorem creation_mark_has_owner (s : World) (hs : Reachable s) (k : String) (hk : k ∈ s.pool.creationLock) :
    ∃ t ∈ s.creators, t.key = k ∧ t.active :=
  marks_reachable hs k hk

set_option maxRecDepth 4000 in
/-- While the first datagram's goroutine resolves, its client's key is marked. -/
theorem creation_mark_has_owner_firstMiss :
    ∃ s, Reachable s ∧ clientX.String ∈ s.pool.creationLock ∧
      ∃ t ∈ s.creators, t.key = clientX.String ∧ t.active := by
  obtain ⟨s, hs, hp⟩ := reach_of_run (receiveFromX none (request [10, 0, 0, 1] 53 [1]) false)
    (fun s => decide (clientX.String ∈ s.pool.creationLock)) (by decide)
  have hk := of_decide_eq_true hp
  exact ⟨s, hs, hk, creation_mark_has_owner s hs _ hk⟩

/-! ## Where the discipline fails

A mark can go too early, while its goroutine still runs: the reader of an association that the
janitor has just evicted fails its pending `Read` on the closed connection and calls
`pool.Delete(connKey)`, which also deletes the mark a newer creation goroutine for the same
client holds. The next datagram then starts a second goroutine, and both register. -/

/-- The creation discipline `creationLock` is there for: at most one creation goroutine per key
in progress, a mark held only by one in progress, and `pool.Set(k, ·)` never run while `k` is
registered. -/
def CreationExclusive (s : World) : Prop :=
  (∀ k, s.creators.countP (fun t => t.key == k && t.active) ≤ 1) ∧
  (∀ k ∈ s.pool.creationLock, ∃ t ∈ s.creators, t.key = k ∧ t.active) ∧
  (∀ i t order s', s.creators[i]? = some t → s.step (.register i order) = some s' →
    t.key ∉ s.pool.connections)

/-- The association of `clientX` is registered and idle for 61 s; its reader is in `Read`; the
janitor evicts it; a second datagram starts a creation goroutine. -/
def traceEvicted : List Action :=
  receiveFromX none (request [10, 0, 0, 1] 53 [1]) false ++
  createUpToRegister 0 [] ++ [.firstWrite 0, .release 0, .poll 0, .tick 61000000000,
    .janitor [clientX.String]] ++
  receiveFromX (some 0) (request [10, 0, 0, 1] 53 [2]) false

/-- The evicted reader's failed `Read` deletes the new goroutine's mark; a third datagram
then starts another creation goroutine for the same client. -/
def traceTwoCreators : List Action :=
  traceEvicted ++ [.readerRead 0 .error none] ++
  receiveFromX (some 0) (request [10, 0, 0, 1] 53 [3]) false

set_option maxRecDepth 4000 in
/-- **Two creation goroutines for one client run at once.** -/
theorem creation_mark_not_exclusive : ¬ ∀ s, Reachable s → CreationExclusive s := by
  intro h
  obtain ⟨s, hs, hp⟩ := reach_of_run traceTwoCreators
    (fun s => decide (2 ≤ s.creators.countP fun t => t.key == clientX.String && t.active)) (by decide)
  have := (h s hs).1 clientX.String
  simp only [decide_eq_true_eq] at hp
  omega

/-- Both goroutines go on to register: the second `pool.Set` overwrites the first association
while its reader runs. -/
def traceOverwrite : List Action :=
  traceTwoCreators ++ createUpToRegister 1 [] ++ createUpToRegister 2 [clientX.String]

set_option maxRecDepth 4000 in
/-- The overwritten association is never closed and stays out of the map, and the pool's count
no longer matches its map. -/
theorem overwrite_leaks_association :
    ∃ s, Reachable s ∧ s.pool.currentSize ≠ s.pool.connections.keys.length ∧
      ∃ c, s.pool.conn 1 = some c ∧ c.closed = false ∧ ∀ k, s.pool.connections.lookup k ≠ some 1 := by
  obtain ⟨s, hs, hp⟩ := reach_of_run traceOverwrite
    (fun s => decide (s.pool.currentSize = 2) && decide (s.pool.connections.keys = [clientX.String]) &&
      decide ((s.pool.conn 1).map UDPConnection.closed = some false) &&
      decide (s.pool.connections.lookup clientX.String = some 2))
    (by decide)
  simp only [Bool.and_eq_true, decide_eq_true_eq, Option.map_eq_some'] at hp
  obtain ⟨⟨⟨h1, h2⟩, c, hc, hclosed⟩, h3⟩ := hp
  refine ⟨s, hs, by rw [h1, h2]; decide, c, hc, hclosed, fun k hk => ?_⟩
  have hk' : k ∈ s.pool.connections.keys := mem_keys_of_lookup hk
  rw [h2, List.mem_singleton] at hk'
  subst hk'
  rw [h3] at hk
  cases hk

end WireproxyAwg.Relay
