import WireproxyAwg.Relay.System

/-!
# Each datagram is written at most once

A datagram the receive loop parses reaches the tunnel along at most one path: the receive loop
writes it after a `pool.Get` hit, or the creation goroutine its miss started writes it after
the dial. Neither path writes a datagram twice, and no other party writes to the tunnel. So
over every interleaving, every write that reached the tunnel was issued for one datagram parsed
from the same client, and no parsed datagram has two writes issued for it.

The ghost `origin` of a write and of a creation goroutine names that datagram by its index in
`received`. The count carries what is still in flight: the datagram the receive loop holds
between `pool.Get` and its write or its creation mark, which is the one it parsed last, and the
one each creation goroutine holds until it writes it or gives up. One step moves a datagram
from parsed to in flight, or from in flight to written or dropped, and nothing else
(`accounts_step`).

At most once is about writes, not bytes: a write reads its payload when it runs, and the payload
is a view into a receive buffer that a later datagram can overwrite first
(`payload_overwritten_before_write`, at the end of this file).
-/

namespace WireproxyAwg.Relay

open WireproxyAwg.Go

/-- A creation goroutine still holds the datagram that started it. -/
def CreatePc.holding : CreatePc → Bool
  | .resolving | .dialing _ _ | .registering _ | .writing _ => true
  | .releasing | .finished => false

/-- The client key of the datagram the receive loop holds, parsed and not yet written or marked. -/
def RecvPc.heldKey : RecvPc → Option String
  | .writing _ key _ _ _ _ | .marking _ key _ _ _ _ => some key
  | _ => none

namespace World

/-- Parties that hold datagram `o` of `received`, from client key `k`, and have neither written
nor dropped it: the receive loop, which holds the datagram it parsed last, and the creation
goroutines. -/
def inFlight (s : World) (o : Nat) (k : String) : Nat :=
  (if s.recv.heldKey = some k ∧ s.received.length - 1 = o then 1 else 0) +
    s.creators.countP fun t => t.key = k && t.origin = o && t.pc.holding

/-- Writes issued for datagram `o`, from client key `k`. -/
def forwarded (s : World) (o : Nat) (k : String) : Nat :=
  s.writes.countP fun w => w.key = k && w.origin = o

/-- Datagram `o` has been parsed, from client key `k`. -/
def parsed (s : World) (o : Nat) (k : String) : Nat :=
  if (s.received[o]?).map Prod.fst = some k then 1 else 0

end World

/-- A step forwards, for each datagram, no more than it was holding or has just parsed. -/
def Accounts (s s' : World) : Prop :=
  ∀ o k, s'.forwarded o k + s'.inFlight o k + s.parsed o k ≤ s.forwarded o k + s.inFlight o k + s'.parsed o k

/-- Each parsed datagram is written or held by at most one party, one of its own client's. -/
def Delivered (s : World) : Prop := ∀ o k, s.forwarded o k + s.inFlight o k ≤ s.parsed o k

theorem Delivered.of_accounts {s s' : World} (h : Delivered s) (ha : Accounts s s') : Delivered s' :=
  fun o k => by have := h o k; have := ha o k; omega

theorem delivered_init : Delivered World.init := fun _ _ => by
  simp [World.forwarded, World.inFlight, World.parsed, World.init, RecvPc.heldKey]

/-! ## What one action can do to the count -/

section Steps

variable {s s' : World}

theorem countP_tunnelWrite (p : UDPConnectionPool) (w : TunnelWrite) (log : List TunnelWrite)
    (q : TunnelWrite → Bool) :
    (tunnelWrite p w log).countP q ≤ log.countP q + if q w then 1 else 0 := by
  unfold tunnelWrite
  split
  · split <;> simp [List.countP_singleton]
  · simp

/-- Replacing creation goroutine `i` trades its datagram for the one its new state holds. -/
theorem countP_setCreator {i : Nat} {t : CreateTask} (hi : s.creators[i]? = some t) (t' : CreateTask)
    (q : CreateTask → Bool) :
    (s.setCreator i t').creators.countP q + (if q t then 1 else 0) =
      s.creators.countP q + if q t' then 1 else 0 := by
  obtain ⟨hlt, rfl⟩ := List.getElem?_eq_some_iff.1 hi
  have := List.boole_getElem_le_countP q s.creators i hlt
  rw [World.setCreator, List.countP_set q _ _ _ hlt]
  omega

theorem countP_setCreator_le {i : Nat} {t : CreateTask} (hi : s.creators[i]? = some t)
    (t' : CreateTask) (q : CreateTask → Bool) (hq : q t' → q t) :
    (s.setCreator i t').creators.countP q ≤ s.creators.countP q := by
  have h := countP_setCreator hi t' q
  have : (if q t' then 1 else 0) ≤ if q t then 1 else 0 := by split <;> simp_all
  omega

/-- The datagram at `o` after one more is parsed: the same as before, or the new one. -/
theorem parsed_append (l : List (String × List UInt8)) (d : String × List UInt8) (o : Nat) (k : String) :
    (if ((l ++ [d])[o]?).map Prod.fst = some k then 1 else 0) =
      (if (l[o]?).map Prod.fst = some k then 1 else 0) + if d.1 = k ∧ l.length = o then 1 else 0 := by
  rcases lt_trichotomy o l.length with h | rfl | h
  · rw [List.getElem?_append_left h]
    simp [Nat.ne_of_gt h]
  · simp [List.getElem?_concat_length]
  · rw [List.getElem?_eq_none (by simp; omega), List.getElem?_eq_none (by omega)]
    simp [Nat.ne_of_lt h]

/-- A step that touches neither the logs nor the creation goroutines, and leaves what the
receive loop holds alone. -/
theorem Accounts.of_frame (hw : s'.writes = s.writes) (hr : s'.received = s.received)
    (hc : s'.creators = s.creators) (hrecv : s'.recv.heldKey = s.recv.heldKey) : Accounts s s' :=
  fun o k => by simp only [World.forwarded, World.inFlight, World.parsed, hw, hr, hc, hrecv, le_refl]

/-- A creation goroutine moves on, holding its datagram only if it held it before. -/
theorem Accounts.of_setCreator {i : Nat} {t : CreateTask} (hi : s.creators[i]? = some t) (t' : CreateTask)
    (hc : s'.creators = (s.setCreator i t').creators) (hw : s'.writes = s.writes)
    (hr : s'.received = s.received) (hrecv : s'.recv = s.recv) (hkey : t'.key = t.key)
    (horigin : t'.origin = t.origin) (hpc : t'.pc.holding → t.pc.holding) : Accounts s s' := fun o k => by
  have h := countP_setCreator_le hi t' (fun u => u.key = k && u.origin = o && u.pc.holding) fun hq => by
    simp only [Bool.and_eq_true, decide_eq_true_eq, hkey, horigin] at hq ⊢
    exact ⟨hq.1, hpc hq.2⟩
  simp only [World.forwarded, World.inFlight, World.parsed, hw, hr, hrecv, hc]
  omega

/-- Moving the receive loop between states that hold no datagram. -/
theorem Accounts.of_idle (hw : s'.writes = s.writes) (hr : s'.received = s.received)
    (hc : s'.creators = s.creators) (h : s.recv.heldKey = none) (h' : s'.recv.heldKey = none) :
    Accounts s s' :=
  Accounts.of_frame hw hr hc (h'.trans h.symm)

theorem recvGet_accounts {pick : Option Nat} (hs : s.recvGet pick = some s') : Accounts s s' := by
  unfold World.recvGet at hs
  split at hs <;> cases hs
  exact Accounts.of_idle rfl rfl rfl (by simp [*, RecvPc.heldKey]) rfl

theorem recvRead_accounts {client : UDPAddr} {bytes : List UInt8} (hs : s.recvRead client bytes = some s') :
    Accounts s s' := by
  unfold World.recvRead at hs
  split at hs <;> cases hs
  exact Accounts.of_idle rfl rfl rfl (by simp [*, RecvPc.heldKey]) rfl

theorem recvError_accounts (hs : s.recvError = some s') : Accounts s s' := by
  unfold World.recvError at hs
  split at hs <;> cases hs
  exact Accounts.of_idle rfl rfl rfl (by simp [*, RecvPc.heldKey]) rfl

/-- A parsed datagram is counted as received and, from then on, held by the receive loop. -/
theorem recvHandle_accounts (hs : s.recvHandle = some s') : Accounts s s' := by
  unfold World.recvHandle at hs
  split at hs
  · next buf client n hrecv =>
    have hidle : s.recv.heldKey = none := by rw [hrecv]; rfl
    split at hs
    · cases hs
      exact Accounts.of_frame rfl rfl rfl rfl
    · cases hs
      exact Accounts.of_idle rfl rfl rfl hidle rfl
    · next host port payload _ =>
      dsimp only at hs
      split at hs <;> cases hs
      -- on a hit and on a miss alike, the loop now holds the datagram just appended
      all_goals
        intro o k
        have hp := parsed_append s.received (client.String, payload.bytes s.heap) o k
        simp only [World.forwarded, World.inFlight, World.parsed, hrecv, RecvPc.heldKey, List.length_append,
          List.length_singleton, Nat.add_sub_cancel, Option.some.injEq, reduceCtorEq, false_and,
          if_false, zero_add] at hp ⊢
        split_ifs at hp ⊢ <;> omega
  · cases hs

/-- A write on a hit is issued for the datagram the receive loop held. -/
theorem recvWrite_accounts (hs : s.recvWrite = some s') : Accounts s s' := by
  unfold World.recvWrite at hs
  split at hs
  · next buf key host port a payload hrecv =>
    cases hs
    intro o k
    have := countP_tunnelWrite s.pool ⟨key, host, port, a, payload.bytes s.heap, s.received.length - 1⟩
      s.writes fun w => w.key = k && w.origin = o
    simp only [World.forwarded, World.inFlight, World.parsed, hrecv, RecvPc.heldKey, Option.some.injEq,
      reduceCtorEq, false_and, if_false, zero_add, Bool.and_eq_true, decide_eq_true_eq] at this ⊢
    split_ifs at this ⊢ <;> omega
  · cases hs

/-- On a miss, the datagram passes to the creation goroutine the mark starts, or is dropped
when another goroutine holds the mark. -/
theorem recvMark_accounts (hs : s.recvMark = some s') : Accounts s s' := by
  unfold World.recvMark at hs
  split at hs
  · next buf key client host port payload hrecv =>
    split at hs <;> cases hs <;> intro o k <;>
      (simp only [World.forwarded, World.inFlight, World.parsed, hrecv, RecvPc.heldKey, CreatePc.holding,
        List.countP_append, List.countP_singleton, Option.some.injEq, reduceCtorEq, false_and, if_false,
        zero_add, Bool.and_true, Bool.and_eq_true, decide_eq_true_eq]
       split_ifs <;> omega)
  · cases hs

theorem recvPut_accounts (hs : s.recvPut = some s') : Accounts s s' := by
  unfold World.recvPut at hs
  split at hs <;> cases hs
  exact Accounts.of_idle rfl rfl rfl (by simp [*, RecvPc.heldKey]) rfl

theorem resolve_accounts {i : Nat} {lookup : Except String (List IP)} (hs : s.resolve i lookup = some s') :
    Accounts s s' := by
  unfold World.resolve at hs
  split at hs
  · next t hi =>
    split_ifs at hs with hpc
    split at hs
    split at hs <;> cases hs
    · exact Accounts.of_setCreator hi _ rfl rfl rfl rfl rfl rfl (by simp [CreatePc.holding])
    · exact Accounts.of_setCreator hi _ rfl rfl rfl rfl rfl rfl (by simp [hpc, CreatePc.holding])
  · cases hs

theorem dial_accounts {i : Nat} {ok : Bool} (hs : s.dial i ok = some s') : Accounts s s' := by
  unfold World.dial at hs
  split at hs
  · next t hi =>
    split at hs
    · next hpc =>
      split_ifs at hs <;> cases hs
      · exact Accounts.of_setCreator hi _ rfl rfl rfl rfl rfl rfl (by simp [hpc, CreatePc.holding])
      · exact Accounts.of_setCreator hi _ rfl rfl rfl rfl rfl rfl (by simp [CreatePc.holding])
    · cases hs
  · cases hs

theorem register_accounts {i : Nat} {order : List String} (hs : s.register i order = some s') :
    Accounts s s' := by
  unfold World.register at hs
  split at hs
  · next t hi =>
    split at hs
    · next hpc =>
      split_ifs at hs
      cases hs
      exact Accounts.of_setCreator hi _ rfl rfl rfl rfl rfl rfl (by simp [hpc, CreatePc.holding])
    · cases hs
  · cases hs

/-- The creation goroutine's write is issued for the datagram it held, and it holds none after. -/
theorem firstWrite_accounts {i : Nat} (hs : s.firstWrite i = some s') : Accounts s s' := by
  unfold World.firstWrite at hs
  split at hs
  · next t hi =>
    split at hs
    · next a hpc =>
      cases hs
      intro o k
      have hc := countP_setCreator hi { t with pc := .releasing }
        fun u => u.key = k && u.origin = o && u.pc.holding
      have hw := countP_tunnelWrite s.pool ⟨t.key, t.host, t.port, a, t.payload.bytes s.heap, t.origin⟩
        s.writes fun w => w.key = k && w.origin = o
      simp only [World.forwarded, World.inFlight, World.parsed, World.setCreator, CreatePc.holding, hpc,
        Bool.and_true, Bool.and_false, Bool.false_eq_true, if_false, add_zero] at hc hw ⊢
      omega
    · cases hs
  · cases hs

theorem release_accounts {i : Nat} (hs : s.release i = some s') : Accounts s s' := by
  unfold World.release at hs
  split at hs
  · next t hi =>
    split_ifs at hs
    cases hs
    exact Accounts.of_setCreator hi _ rfl rfl rfl rfl rfl rfl (by simp [CreatePc.holding])
  · cases hs

theorem poll_accounts {j : Nat} (hs : s.poll j = some s') : Accounts s s' := by
  unfold World.poll at hs
  split at hs
  · split_ifs at hs <;> cases hs <;> exact Accounts.of_frame rfl rfl rfl rfl
  · cases hs

theorem readerRead_accounts {j : Nat} {res : ReadResult} {pick : Option Nat}
    (hs : s.readerRead j res pick = some s') : Accounts s s' := by
  unfold World.readerRead at hs
  split at hs
  · cases res with
    | timeout | error =>
      dsimp only at hs
      split_ifs at hs
      cases hs
      exact Accounts.of_frame rfl rfl rfl rfl
    | data bytes =>
      dsimp only at hs
      split_ifs at hs
      split at hs
      · cases hs
      · split at hs <;> cases hs <;> exact Accounts.of_frame rfl rfl rfl rfl
  · cases hs

theorem janitor_accounts {order : List String} (hs : s.janitor order = some s') : Accounts s s' := by
  unfold World.janitor at hs
  split_ifs at hs
  cases hs
  exact Accounts.of_frame rfl rfl rfl rfl

end Steps

/-- **Preserved by every step.** -/
theorem accounts_step {s s' : World} {a : Action} (h : s.step a = some s') : Accounts s s' := by
  cases a with
  | recvGet => exact recvGet_accounts h
  | recvRead => exact recvRead_accounts h
  | recvError => exact recvError_accounts h
  | recvHandle => exact recvHandle_accounts h
  | recvWrite => exact recvWrite_accounts h
  | recvMark => exact recvMark_accounts h
  | recvPut => exact recvPut_accounts h
  | resolve => exact resolve_accounts h
  | dial => exact dial_accounts h
  | register => exact register_accounts h
  | firstWrite => exact firstWrite_accounts h
  | release => exact release_accounts h
  | poll => exact poll_accounts h
  | readerRead => exact readerRead_accounts h
  | janitor => exact janitor_accounts h
  | tick => cases h; exact Accounts.of_frame rfl rfl rfl rfl

theorem delivered_reachable {s : World} (h : Reachable s) : Delivered s := by
  induction h with
  | init => exact delivered_init
  | step _ hs ih => exact ih.of_accounts (accounts_step hs)

/-- A write was issued for a parsed datagram of its own client. -/
theorem Delivered.attributed {s : World} (h : Delivered s) {w : TunnelWrite} (hw : w ∈ s.writes) :
    ∃ d, s.received[w.origin]? = some d ∧ d.1 = w.key := by
  have hpos : 0 < s.forwarded w.origin w.key :=
    List.countP_pos_iff.2 ⟨w, hw, by simp⟩
  have := h w.origin w.key
  unfold World.parsed at this
  split_ifs at this with hp
  · obtain ⟨d, hd, hk⟩ := Option.map_eq_some'.1 hp
    exact ⟨d, hd, hk⟩
  · omega

/-- No two writes were issued for one datagram. -/
theorem Delivered.countP_origin_le_one {s : World} (h : Delivered s) (o : Nat) :
    s.writes.countP (fun w => w.origin == o) ≤ 1 := by
  cases hd : s.received[o]? with
  | none =>
    -- no datagram at `o`, so no write was issued for it
    have : s.writes.countP (fun w => w.origin == o) = 0 := List.countP_eq_zero.2 fun w hw ho => by
      obtain ⟨d, hd', -⟩ := h.attributed hw
      rw [beq_iff_eq.1 ho, hd] at hd'
      cases hd'
    omega
  | some d =>
    -- every write issued for `o` is one of `d`'s client, so `forwarded o d.1` counts them all
    have hsame : s.writes.countP (fun w => w.origin == o) = s.forwarded o d.1 :=
      List.countP_congr fun w hw => by
        simp only [beq_iff_eq, Bool.and_eq_true, decide_eq_true_eq]
        refine ⟨fun ho => ⟨?_, ho⟩, And.right⟩
        obtain ⟨d', hd', hk⟩ := h.attributed hw
        rw [ho, hd, Option.some.injEq] at hd'
        rw [← hk, hd']
    have := h o d.1
    simp only [World.parsed, hd, Option.map_some', if_true] at this
    omega

/-- **Each parsed datagram is written at most once.** In every reachable state of the relay,
whatever the interleaving of the receive loop, the creation goroutines, the readers and the
janitor, every write that reached the tunnel was issued for a datagram parsed from the same
client (the one at index `origin` of `received`), and no two writes were issued for the same
datagram: by the receive loop after a pool hit, or by the one creation goroutine its miss
started. -/
theorem datagram_written_at_most_once (s : World) (hs : Reachable s) :
    (s.writes.map (·.origin)).Nodup ∧ ∀ w ∈ s.writes, ∃ d, s.received[w.origin]? = some d ∧ d.1 = w.key := by
  have h := delivered_reachable hs
  refine ⟨List.nodup_iff_count_le_one.2 fun o => ?_, fun w hw => h.attributed hw⟩
  rw [List.count_eq_countP, List.countP_map]
  exact h.countP_origin_le_one o

/-- `clientX` sends one datagram; it misses, and its creation goroutine dials and writes it. -/
def traceFirstWrite : List Action :=
  receiveFromX none (request [10, 0, 0, 1] 53 [1]) false ++ createUpToRegister 0 [] ++ [.firstWrite 0]

set_option maxRecDepth 4000 in
/-- In that run the datagram has reached the tunnel once, issued for datagram 0. -/
theorem datagram_written_at_most_once_firstWrite :
    ∃ s, Reachable s ∧ s.writes.map (·.origin) = [0] ∧
      (s.writes.map (·.origin)).Nodup ∧ ∀ w ∈ s.writes, ∃ d, s.received[w.origin]? = some d ∧ d.1 = w.key := by
  obtain ⟨s, hs, hp⟩ := reach_of_run traceFirstWrite
    (fun s => decide (s.writes.map (·.origin) = [0])) (by decide)
  exact ⟨s, hs, of_decide_eq_true hp, datagram_written_at_most_once s hs⟩

/-! ## Payloads are views

`payload := data[headerLen:]` points into the receive buffer, which goes back to `bufferPool`
as soon as the creation goroutine is started; the next datagram lands in it before that
goroutine writes the payload. The write is still issued once, for its own datagram, but carries
the next one's bytes. -/

/-- For each client key, what was written to the tunnel for it is a subsequence of the payloads
received from it, as they were when they were received. -/
def WritesFollowPayloads (s : World) (k : String) : Prop :=
  ((s.writes.filter (·.key == k)).map (·.bytes)).Sublist ((s.received.filter (·.1 == k)).map (·.2))

instance (s : World) (k : String) : Decidable (WritesFollowPayloads s k) :=
  inferInstanceAs (Decidable (List.Sublist _ _))

/-- The receive loop puts the buffer back after starting the creation goroutine and reads the
next datagram into it; the goroutine then writes its payload. -/
def traceReusedBuffer : List Action :=
  receiveFromX none (request [10, 0, 0, 1] 53 [0xAA]) false ++
  [.recvGet (some 0), .recvRead clientX (request [10, 0, 0, 1] 53 [0xBB])] ++
  createUpToRegister 0 [] ++ [.firstWrite 0]

set_option maxRecDepth 4000 in
/-- **A creation goroutine can write bytes its datagram never carried.** -/
theorem payload_overwritten_before_write :
    ¬ ∀ s, Reachable s → ∀ k, WritesFollowPayloads s k := by
  intro h
  obtain ⟨s, hs, hp⟩ := reach_of_run traceReusedBuffer
    (fun s => !decide (WritesFollowPayloads s clientX.String)) (by decide)
  simp only [Bool.not_eq_eq_eq_not, Bool.not_true, decide_eq_false_iff_not] at hp
  exact hp (h s hs _)

end WireproxyAwg.Relay
