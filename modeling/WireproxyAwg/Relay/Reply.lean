import WireproxyAwg.Relay.Codec
import WireproxyAwg.Relay.Pool
import WireproxyAwg.Go.AddrText

/-!
# The reply path

A reader task answers the client with
`sendUDPResponseFast(serverConn, udpConn.client, udpConn.resolvedIP, udpConn.targetAddr.Port, r)`.
Both arguments were made by `createUDPConnectionAsync`: `resolvedIP` is what
`resolveTarget` returned, and the port was read back out of the address string
`resolveTarget` built, through `net.SplitHostPort` and `strconv.Atoi`. So whether a
reply carries the right header depends on that string round trip
(`Go/AddrText.lean`), on the encoder (`Relay/Codec.lean`), and on every address
the relay can hold having 4 or 16 bytes.
-/

namespace WireproxyAwg.Relay

open WireproxyAwg.Go

theorem toUInt16_toNat (v : UInt16) : toUInt16 (v.toNat : Int) = v := by
  have hv := v.toNat_lt_size
  have : UInt16.size = 65536 := rfl
  have h1 : ((v.toNat : Int) % 65536).toNat = v.toNat := by omega
  rw [toUInt16, h1]
  exact UInt16.toNat.inj (UInt16.toNat_ofNat_of_lt hv)

/-- The port the association answers from is the request's port, read back out of the dialed
address. -/
theorem dialedConnection_port {p : UDPConnectionPool} {host : String} {port : UInt16} {now : Int}
    {lookup : Except String (List IP)} {addr : String} {ip : IP}
    (hres : (p.resolveTarget host port now lookup).2 = .ok (addr, ip)) (now' : Int) (client : UDPAddr) :
    (dialedConnection now' client addr ip).targetAddr.Port = port.toNat := by
  have hport : port.toNat < 2 ^ 63 := by have := port.toNat_lt_size; have : UInt16.size = 65536 := rfl; omega
  have hsplit : ∃ x, Bracketless x.toList ∧ addr = JoinHostPort x (itoa port.toNat) := by
    rcases UDPConnectionPool.resolveTarget_ok hres with ⟨hp, rfl⟩ | ⟨-, rfl, -⟩
    · exact ⟨host, bracketless_of_ParseIP hp, rfl⟩
    · exact ⟨ip.String, bracketless_IP_String ip, rfl⟩
  obtain ⟨x, hx, rfl⟩ := hsplit
  simp [dialedConnection, newUDPConnection, SplitHostPort_JoinHostPort_itoa hx, Atoi_itoa hport]


/-- The address `resolveTarget` hands out has a 4-byte form or is 16 bytes long, when every
DNS answer is an address of 4 or 16 bytes. -/
theorem resolveTarget_address {p : UDPConnectionPool} {host : String} {port : UInt16} {now : Int}
    {lookup : Except String (List IP)} {addr : String} {ip : IP}
    (hcache : ∀ k e, p.dnsCache.cache.lookup k = some e → e.ip.length = 4 ∨ e.ip.length = 16)
    (hlookup : ∀ ips, lookup = .ok ips → ∀ x ∈ ips, x.length = 4 ∨ x.length = 16)
    (hres : (p.resolveTarget host port now lookup).2 = .ok (addr, ip)) :
    ip.To4.isSome ∨ ip.length = 16 := by
  have h416 : ip.length = 4 ∨ ip.length = 16 := by
    rcases UDPConnectionPool.resolveTarget_ok hres with ⟨hp, -⟩ | ⟨-, -, ⟨e, he, rfl⟩ | ⟨ips, hl, hm⟩⟩
    · exact .inr (length_ParseIP hp)
    · exact hcache _ _ he
    · exact hlookup ips hl _ hm
  rcases h416 with h4 | h16
  · exact .inl (by simp [IP.To4, h4])
  · exact .inr h16

example : ((NewUDPConnectionPool 1000).resolveTarget "example.com" 53 0 (.ok [[1, 2, 3, 4]])).2 =
    .ok ("1.2.3.4:53", [1, 2, 3, 4]) := by rfl

end WireproxyAwg.Relay
