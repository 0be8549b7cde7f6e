import WireproxyAwg.Relay.Pool

/-!
# The DNS cache over a run

`DNSCache.Resolve` answers from an entry younger than the TTL, and otherwise asks
`net.LookupIP`, keeps its first IPv4 answer (else its first answer) with the time of the call,
and returns it. Staleness is checked only on read: an old entry stays in the map until a later
lookup for its host overwrites it.

The cache is a state machine of its own, driven by a sequence of `Resolve` calls, each with
the time it runs at and what the lookup would answer. Over every such sequence, every address
the cache returns was chosen from a lookup for the same host, either the call's own or an
earlier one made less than one TTL before the call. An entry remembers the call that wrote
it (`Backed`); one call keeps that, and the run follows by induction.
-/

namespace WireproxyAwg.Relay

open WireproxyAwg.Go

/-- One `Resolve(host)` call: the host, `time.Now()`, and what `net.LookupIP(host)` answers. -/
structure Query where
  host : String
  now : Int
  lookup : Except String (List IP)

/-- A sequence of `Resolve` calls on one cache: the cache after them, and each call's answer. -/
def DNSCache.serve (d : DNSCache) : List Query → DNSCache × List (Except String IP)
  | [] => (d, [])
  | q :: qs =>
    let (d', r) := d.Resolve q.host q.now q.lookup
    let (d'', rs) := d'.serve qs
    (d'', r :: rs)

/-- Every entry was written by one of the calls `past`, from its lookup, at its time. -/
def DNSCache.Backed (d : DNSCache) (past : List Query) : Prop :=
  ∀ host e, d.cache.lookup host = some e → ∃ q ∈ past, q.host = host ∧ q.now = e.timestamp ∧
    ∃ ips, q.lookup = .ok ips ∧ pickIP ips = some e.ip

namespace DNSCache

theorem answers_serve_cons (d : DNSCache) (q : Query) (qs : List Query) :
    (d.serve (q :: qs)).2 =
      (d.Resolve q.host q.now q.lookup).2 :: ((d.Resolve q.host q.now q.lookup).1.serve qs).2 := rfl

variable {d : DNSCache} {host : String} {now : Int} {lookup : Except String (List IP)}

/-- A lookup that answers adds its pick under the host, at the time of the call; one that
fails changes nothing. -/
theorem miss_cases :
    Resolve.miss d host now lookup = (d, (Resolve.miss d host now lookup).2) ∧
        (∀ ip, (Resolve.miss d host now lookup).2 ≠ .ok ip) ∨
      ∃ ips ip, lookup = .ok ips ∧ pickIP ips = some ip ∧
        Resolve.miss d host now lookup = ({ d with cache := d.cache.insert host ⟨ip, now⟩ }, .ok ip) := by
  unfold Resolve.miss
  split
  · exact .inl ⟨rfl, fun _ h => by cases h⟩
  · next ips =>
    split
    · exact .inl ⟨rfl, fun _ h => by cases h⟩
    · next ip hip => exact .inr ⟨ips, ip, rfl, hip, rfl⟩

/-- A call answers from a fresh entry, or does what a miss does. -/
theorem Resolve_cases :
    (∃ e, d.cache.lookup host = some e ∧ now - e.timestamp < d.ttl ∧
      d.Resolve host now lookup = (d, .ok e.ip)) ∨
    d.Resolve host now lookup = Resolve.miss d host now lookup := by
  unfold Resolve
  split
  · next e he =>
    split_ifs with hfresh
    · exact .inl ⟨e, he, hfresh, rfl⟩
    · exact .inr rfl
  · exact .inr rfl

theorem ttl_Resolve : (d.Resolve host now lookup).1.ttl = d.ttl := by
  rcases @Resolve_cases d host now lookup with ⟨e, -, -, h⟩ | h
  · rw [h]
  · rw [h]
    rcases @miss_cases d host now lookup with ⟨h', -⟩ | ⟨_, _, -, -, h'⟩ <;>
      rw [h']

theorem Backed.mono {past past' : List Query} (h : d.Backed past) (hsub : ∀ q ∈ past, q ∈ past') :
    d.Backed past' := fun host e he =>
  (h host e he).imp fun q ⟨hq, hr⟩ => ⟨hsub q hq, hr⟩

/-- **One call.** It keeps every entry backed, now also by itself, and what it answers is its
own lookup's pick or an entry written less than one TTL before it. -/
theorem Backed.Resolve {past : List Query} (h : d.Backed past) (q : Query) :
    (d.Resolve q.host q.now q.lookup).1.Backed (past ++ [q]) ∧
      ∀ ip, (d.Resolve q.host q.now q.lookup).2 = .ok ip →
        (∃ ips, q.lookup = .ok ips ∧ pickIP ips = some ip) ∨
        ∃ q' ∈ past, q'.host = q.host ∧ q.now - q'.now < d.ttl ∧
          ∃ ips, q'.lookup = .ok ips ∧ pickIP ips = some ip := by
  have hpast := h.mono fun q' hq' => List.mem_append_left [q] hq'
  rcases @Resolve_cases d q.host q.now q.lookup with ⟨e, he, hfresh, hr⟩ | hr
  · rw [hr]
    refine ⟨hpast, fun ip hip => .inr ?_⟩
    cases hip
    obtain ⟨q', hq', hhost, hnow, hlook⟩ := h q.host e he
    exact ⟨q', hq', hhost, hnow ▸ hfresh, hlook⟩
  · rw [hr]
    rcases @miss_cases d q.host q.now q.lookup with ⟨hm, hne⟩ | ⟨ips, ip, hl, hpick, hm⟩
    · rw [hm]
      exact ⟨hpast, fun ip hip => absurd hip (hne ip)⟩
    · rw [hm]
      refine ⟨fun host' e he => ?_, fun ip' hip => .inl ⟨ips, hl, by cases hip; exact hpick⟩⟩
      by_cases hh : host' = q.host
      · subst hh
        rw [AList.lookup_insert, Option.some.injEq] at he
        subst he
        exact ⟨q, List.mem_append_right _ (List.mem_singleton_self q), rfl, rfl, ips, hl, hpick⟩
      · rw [AList.lookup_insert_ne hh] at he
        exact hpast host' e he

/-- **Over a run**, each answer is its call's own pick or one written by an earlier call of the
run (or of `past`) less than one TTL before it. -/
theorem Backed.serve {past : List Query} (h : d.Backed past) (qs : List Query) {i : Nat} {q : Query} {ip : IP}
    (hq : qs[i]? = some q) (hr : (d.serve qs).2[i]? = some (.ok ip)) :
    (∃ ips, q.lookup = .ok ips ∧ pickIP ips = some ip) ∨
    ∃ q' ∈ past ++ qs.take i, q'.host = q.host ∧ q.now - q'.now < d.ttl ∧
      ∃ ips, q'.lookup = .ok ips ∧ pickIP ips = some ip := by
  induction qs generalizing d past i with
  | nil => cases hq
  | cons q0 qs ih =>
    obtain ⟨hb, hans⟩ := h.Resolve q0
    rw [answers_serve_cons] at hr
    cases i with
    | zero =>
      rw [List.getElem?_cons_zero, Option.some.injEq] at hq hr
      subst hq
      rcases hans ip hr with hown | ⟨q', hq', hrest⟩
      · exact .inl hown
      · exact .inr ⟨q', by simpa using hq', hrest⟩
    | succ i =>
      rw [List.getElem?_cons_succ] at hq hr
      rcases ih hb hq hr with hown | ⟨q', hq', hhost, hfresh, hlook⟩
      · exact .inl hown
      · refine .inr ⟨q', by simpa using hq', hhost, ?_, hlook⟩
        rwa [ttl_Resolve] at hfresh

end DNSCache

/-- **No answer is older than the TTL.** Over every sequence of `Resolve` calls on a new cache,
at any times and with any lookup answers, every address a call returns is the first IPv4
answer (else the first answer) of a lookup for the same host: the call's own, or one made by an
earlier call less than `ttl` before it. -/
theorem cache_answers_fresh (ttl : Int) (qs : List Query) (i : Nat) (q : Query) (ip : IP)
    (hq : qs[i]? = some q) (hr : ((NewDNSCache ttl).serve qs).2[i]? = some (.ok ip)) :
    (∃ ips, q.lookup = .ok ips ∧ pickIP ips = some ip) ∨
    ∃ q' ∈ qs.take i, q'.host = q.host ∧ q.now - q'.now < ttl ∧
      ∃ ips, q'.lookup = .ok ips ∧ pickIP ips = some ip := by
  have hnew : (NewDNSCache ttl).Backed [] := fun _ _ he => by cases he
  simpa using hnew.serve qs hq hr

/-- `example.com` is looked up at time 0; three seconds later the lookup fails, and the cache
answers with the address it kept. -/
def cachedQueries : List Query :=
  [⟨"example.com", 0, .ok [[1, 2, 3, 4]]⟩, ⟨"example.com", 3 * second, .error "timeout"⟩]

theorem cache_answers_fresh_cachedQueries :
    cachedQueries[1]? = some ⟨"example.com", 3 * second, .error "timeout"⟩ ∧
    ((NewDNSCache (5 * second)).serve cachedQueries).2[1]? = some (.ok [1, 2, 3, 4]) ∧
    ((∃ ips, (Except.error "timeout" : Except String (List IP)) = .ok ips ∧ pickIP ips = some [1, 2, 3, 4]) ∨
      ∃ q' ∈ cachedQueries.take 1, q'.host = "example.com" ∧ 3 * second - q'.now < 5 * second ∧
        ∃ ips, q'.lookup = .ok ips ∧ pickIP ips = some [1, 2, 3, 4]) :=
  ⟨rfl, rfl, cache_answers_fresh (5 * second) cachedQueries 1 _ [1, 2, 3, 4] rfl rfl⟩

end WireproxyAwg.Relay
