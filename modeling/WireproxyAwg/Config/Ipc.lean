import WireproxyAwg.Config.ASec
import WireproxyAwg.Go.Net

/-!
# The IPC request

`CreateIPCRequest` writes the device configuration as the `key=value` lines of
the WireGuard UAPI: the private key, the listen port, one line per AmneziaWG
field that is set, and each peer's block. The device reads it back line by
line, cutting each line at its first `=`.

Every value is written with `%s` or `%d` and nothing is escaped. So the request
reads back as the intended pairs exactly when no value holds a newline
(`ipcPairs_render_iff`); the AmneziaWG part lists, in the writer's order, one
pair per key present in the section the config was parsed from, with the
parsed value printed back (`ParseASecConfig_view`). An `I` string is kept
verbatim by the parser, so an `I` string holding a newline adds a line of its
own choosing to the request.

`DeviceConfig` and `PeerConfig` are declared in a file of the program that is
not part of this repository; they appear here with the fields
`CreateIPCRequest` reads. A `netip.Prefix` is represented by the text its
`String` method prints.
-/

namespace WireproxyAwg.Config

open WireproxyAwg.Go

/-! ## The configuration and the writer -/

/-- A `netip.Prefix`, by the text `String()` prints for it: an address and a bit length. -/
structure Prefix where
  text : String
  /-- Hex digits, `.` and `:` of the address, and `/` before the length. -/
  chars : ∀ c ∈ text.toList, c.isAlphanum ∨ c = '.' ∨ c = ':' ∨ c = '/'

/-- `PeerConfig`. -/
structure PeerConfig where
  PublicKey : String
  PreSharedKey : String
  Endpoint : Option String
  KeepAlive : Int
  AllowedIPs : List Prefix

/-- `DeviceConfig`. -/
structure DeviceConfig where
  SecretKey : String
  /-- The tunnel's own addresses. -/
  Endpoint : List IP
  Peers : List PeerConfig
  DNS : List IP
  MTU : Int
  ListenPort : Option Int
  ASecConfig : Option ASecConfigType

/-- `DeviceSetting`. -/
structure DeviceSetting where
  IpcRequest : String
  DNS : List IP
  DeviceAddr : List IP
  MTU : Int

/-- `fmt.Sprintf("<key>=%s\n", value)`, and `%d` of a value printed by `itoa`. -/
def ipcLine (key value : String) : String := key ++ "=" ++ value ++ "\n"

/-- `if has { b.WriteString(fmt.Sprintf("<key>=…\n", value)) }`. -/
def ipcLineIf (has : Bool) (key value : String) : String := if has then ipcLine key value else ""

/-- `if p != nil { b.WriteString(fmt.Sprintf("<key>=%s\n", *p)) }`. -/
def ipcLineOpt (key : String) : Option String → String
  | some v => ipcLine key v
  | none => ""

/-- The `aSecBuilder` of `CreateIPCRequest`. -/
def aSecBuilder (c : ASecConfigType) : String :=
  ipcLineIf c.hasJunkPacketCount "jc" (itoa c.junkPacketCount) ++
  ipcLineIf c.hasJunkPacketMinSize "jmin" (itoa c.junkPacketMinSize) ++
  ipcLineIf c.hasJunkPacketMaxSize "jmax" (itoa c.junkPacketMaxSize) ++
  ipcLineIf c.hasInitPacketJunkSize "s1" (itoa c.initPacketJunkSize) ++
  ipcLineIf c.hasResponsePacketJunkSize "s2" (itoa c.responsePacketJunkSize) ++
  ipcLineIf c.hasCookieReplyPacketJunkSize "s3" (itoa c.cookieReplyPacketJunkSize) ++
  ipcLineIf c.hasTransportPacketJunkSize "s4" (itoa c.transportPacketJunkSize) ++
  ipcLineIf c.hasInitPacketMagicHeader "h1"
    (formatMagicHeaderInterval c.initPacketMagicHeader c.initPacketMagicHeaderMax) ++
  ipcLineIf c.hasResponsePacketMagicHeader "h2"
    (formatMagicHeaderInterval c.responsePacketMagicHeader c.responsePacketMagicHeaderMax) ++
  ipcLineIf c.hasUnderloadPacketMagicHeader "h3"
    (formatMagicHeaderInterval c.underloadPacketMagicHeader c.underloadPacketMagicHeaderMax) ++
  ipcLineIf c.hasTransportPacketMagicHeader "h4"
    (formatMagicHeaderInterval c.transportPacketMagicHeader c.transportPacketMagicHeaderMax) ++
  ipcLineOpt "i1" c.i1 ++ ipcLineOpt "i2" c.i2 ++ ipcLineOpt "i3" c.i3 ++ ipcLineOpt "i4" c.i4 ++
  ipcLineOpt "i5" c.i5

/-- One turn of the peer loop. The `heredoc.Doc` template, once un-indented, is three
`key=%s\n` lines, and so is the default pair of `allowed_ip` lines. -/
def peerRequest (peer : PeerConfig) : String :=
  ipcLine "public_key" peer.PublicKey ++
  ipcLine "persistent_keepalive_interval" (itoa peer.KeepAlive) ++
  ipcLine "preshared_key" peer.PreSharedKey ++
  ipcLineOpt "endpoint" peer.Endpoint ++
  if peer.AllowedIPs.length > 0 then String.join (peer.AllowedIPs.map fun ip => ipcLine "allowed_ip" ip.text)
  else ipcLine "allowed_ip" "0.0.0.0/0" ++ ipcLine "allowed_ip" "::0/0"

/-- `CreateIPCRequest`; its error result is always `nil`. -/
def CreateIPCRequest (conf : DeviceConfig) : DeviceSetting :=
  let request := ipcLine "private_key" conf.SecretKey ++
    ipcLineOpt "listen_port" (conf.ListenPort.map itoa) ++
    (match conf.ASecConfig with
      | some c => aSecBuilder c
      | none => "") ++
    String.join (conf.Peers.map peerRequest)
  { IpcRequest := request, DNS := conf.DNS, DeviceAddr := conf.Endpoint, MTU := conf.MTU }

/-! ## Reading the request back -/

/-- `strings.Cut(line, "=")`: the text before the first `=` and the text after it. -/
def cutEq : List Char → Option (List Char × List Char)
  | [] => none
  | c :: cs => if c = '=' then some ([], cs) else (cutEq cs).map fun p => (c :: p.1, p.2)

/-- The request as the device reads it: each line ended by `\n`, cut at its first `=`. -/
def ipcPairs (req : String) : List (Option (String × String)) :=
  ((req.toList.splitOn '\n').dropLast).map fun line => (cutEq line).map fun p => (⟨p.1⟩, ⟨p.2⟩)

/-- What a section's key contributes: its pair if it is present and `print` prints its value. -/
def keyPairs (s : Section) (name key : String) (print : String → Option String) : List (String × String) :=
  match s.GetKey name with
  | none => []
  | some v => match print v with
    | some t => [(key, t)]
    | none => []

/-- The decimal of an `int` value as `Key.Int()` parses it. -/
def showInt (v : String) : Option String :=
  match parseInt v 0 64 with
  | .ok n => some (itoa n)
  | .error _ => none

/-- The canonical `N` or `N-M` of a magic-header interval as it is parsed. -/
def showHeader (v : String) : Option String :=
  match parseMagicHeaderInterval v with
  | .ok (lo, hi) => some (formatMagicHeaderInterval lo hi)
  | .error _ => none

/-- The pairs a section's AmneziaWG keys should give, key by key, in the writer's order. -/
def sectionPairs (s : Section) : List (List (String × String)) :=
  [keyPairs s "Jc" "jc" showInt, keyPairs s "Jmin" "jmin" showInt, keyPairs s "Jmax" "jmax" showInt,
   keyPairs s "S1" "s1" showInt, keyPairs s "S2" "s2" showInt, keyPairs s "S3" "s3" showInt,
   keyPairs s "S4" "s4" showInt,
   keyPairs s "H1" "h1" showHeader, keyPairs s "H2" "h2" showHeader, keyPairs s "H3" "h3" showHeader,
   keyPairs s "H4" "h4" showHeader,
   keyPairs s "I1" "i1" some, keyPairs s "I2" "i2" some, keyPairs s "I3" "i3" some,
   keyPairs s "I4" "i4" some, keyPairs s "I5" "i5" some]

/-- The pairs a peer should give. -/
def peerPairs (peer : PeerConfig) : List (String × String) :=
  [("public_key", peer.PublicKey), ("persistent_keepalive_interval", itoa peer.KeepAlive),
   ("preshared_key", peer.PreSharedKey)] ++
  (match peer.Endpoint with
    | some e => [("endpoint", e)]
    | none => []) ++
  if peer.AllowedIPs.isEmpty then [("allowed_ip", "0.0.0.0/0"), ("allowed_ip", "::0/0")]
  else peer.AllowedIPs.map fun ip => ("allowed_ip", ip.text)

/-- The pairs a device configuration should give, its AmneziaWG part read off the section. -/
def expectedPairs (s : Section) (conf : DeviceConfig) : List (String × String) :=
  ("private_key", conf.SecretKey) ::
  (match conf.ListenPort with
    | some p => [("listen_port", itoa p)]
    | none => []) ++
  (sectionPairs s).flatten ++ conf.Peers.flatMap peerPairs

/-- The request reads back as exactly the expected pairs. -/
def IpcLaw (s : Section) (conf : DeviceConfig) : Prop :=
  ipcPairs (CreateIPCRequest conf).IpcRequest = (expectedPairs s conf).map some

instance (s : Section) (conf : DeviceConfig) : Decidable (IpcLaw s conf) :=
  inferInstanceAs (Decidable (_ = _))

/-! ## Rendering pairs

The writer's output is the rendering of a list of pairs; all reasoning about
lines happens on the characters (`String.data`). -/

/-- Pairs printed as the writer prints them, one `key=value` line each. -/
def render : List (String × String) → String
  | [] => ""
  | (k, v) :: ps => ipcLine k v ++ render ps

/-- The pair an `if has` block writes. -/
def pairIf (has : Bool) (key value : String) : List (String × String) := if has then [(key, value)] else []

/-- The pair an `if p != nil` block writes. -/
def pairOpt (key : String) : Option String → List (String × String)
  | some v => [(key, v)]
  | none => []

/-- The pairs `aSecBuilder` writes, key by key. -/
def aSecView (c : ASecConfigType) : List (List (String × String)) :=
  [pairIf c.hasJunkPacketCount "jc" (itoa c.junkPacketCount),
   pairIf c.hasJunkPacketMinSize "jmin" (itoa c.junkPacketMinSize),
   pairIf c.hasJunkPacketMaxSize "jmax" (itoa c.junkPacketMaxSize),
   pairIf c.hasInitPacketJunkSize "s1" (itoa c.initPacketJunkSize),
   pairIf c.hasResponsePacketJunkSize "s2" (itoa c.responsePacketJunkSize),
   pairIf c.hasCookieReplyPacketJunkSize "s3" (itoa c.cookieReplyPacketJunkSize),
   pairIf c.hasTransportPacketJunkSize "s4" (itoa c.transportPacketJunkSize),
   pairIf c.hasInitPacketMagicHeader "h1"
    (formatMagicHeaderInterval c.initPacketMagicHeader c.initPacketMagicHeaderMax),
   pairIf c.hasResponsePacketMagicHeader "h2"
    (formatMagicHeaderInterval c.responsePacketMagicHeader c.responsePacketMagicHeaderMax),
   pairIf c.hasUnderloadPacketMagicHeader "h3"
    (formatMagicHeaderInterval c.underloadPacketMagicHeader c.underloadPacketMagicHeaderMax),
   pairIf c.hasTransportPacketMagicHeader "h4"
    (formatMagicHeaderInterval c.transportPacketMagicHeader c.transportPacketMagicHeaderMax),
   pairOpt "i1" c.i1, pairOpt "i2" c.i2, pairOpt "i3" c.i3, pairOpt "i4" c.i4, pairOpt "i5" c.i5]

theorem data_ipcLine (k v : String) : (ipcLine k v).data = k.data ++ '=' :: v.data ++ ['\n'] := by
  simp only [ipcLine, String.data_append, List.append_assoc]
  rfl

@[simp] theorem data_render_nil : (render []).data = [] := rfl

@[simp] theorem data_render_cons (k v : String) (ps : List (String × String)) :
    (render ((k, v) :: ps)).data = (ipcLine k v).data ++ (render ps).data := String.data_append _ _

theorem data_render (ps : List (String × String)) :
    (render ps).data = (ps.map fun p => (ipcLine p.1 p.2).data).flatten := by
  induction ps with
  | nil => rfl
  | cons p ps ih => simp only [render, String.data_append, ih, List.map_cons, List.flatten_cons]

@[simp] theorem data_render_append (ps qs : List (String × String)) :
    (render (ps ++ qs)).data = (render ps).data ++ (render qs).data := by
  simp only [data_render, List.map_append, List.flatten_append]

theorem data_foldl_append (l : List String) (acc : String) :
    (l.foldl (fun r s => r ++ s) acc).data = acc.data ++ (l.map String.data).flatten := by
  induction l generalizing acc with
  | nil => simp
  | cons x l ih => simp [ih]

theorem data_join_map {α : Type} (l : List α) (f : α → String) :
    (String.join (l.map f)).data = (l.map fun a => (f a).data).flatten := by
  simp [String.join, data_foldl_append, Function.comp_def]

theorem data_render_flatMap {α : Type} (l : List α) (f : α → List (String × String)) :
    (render (l.flatMap f)).data = (l.map fun a => (render (f a)).data).flatten := by
  induction l with
  | nil => rfl
  | cons a l ih => simp only [List.flatMap_cons, data_render_append, ih, List.map_cons, List.flatten_cons]

theorem data_ipcLineIf (has : Bool) (k v : String) :
    (ipcLineIf has k v).data = (render (pairIf has k v)).data := by
  cases has <;> simp [ipcLineIf, pairIf, render]

theorem data_ipcLineOpt (k : String) (o : Option String) :
    (ipcLineOpt k o).data = (render (pairOpt k o)).data := by
  cases o <;> simp [ipcLineOpt, pairOpt, render]

theorem data_aSecBuilder (c : ASecConfigType) : (aSecBuilder c).data = (render (aSecView c).flatten).data := by
  simp only [aSecBuilder, aSecView, String.data_append, data_ipcLineIf, data_ipcLineOpt, List.flatten_cons,
    List.flatten_nil, List.append_nil, data_render_append, List.append_assoc]

theorem data_peerRequest (peer : PeerConfig) : (peerRequest peer).data = (render (peerPairs peer)).data := by
  have hend : (ipcLineOpt "endpoint" peer.Endpoint).data =
      (render (match peer.Endpoint with | some e => [("endpoint", e)] | none => [])).data := by
    cases peer.Endpoint <;> simp [ipcLineOpt]
  have hips : (if peer.AllowedIPs.length > 0 then
        String.join (peer.AllowedIPs.map fun ip => ipcLine "allowed_ip" ip.text)
      else ipcLine "allowed_ip" "0.0.0.0/0" ++ ipcLine "allowed_ip" "::0/0").data =
      (render (if peer.AllowedIPs.isEmpty then [("allowed_ip", "0.0.0.0/0"), ("allowed_ip", "::0/0")]
        else peer.AllowedIPs.map fun ip => ("allowed_ip", ip.text))).data := by
    cases peer.AllowedIPs with
    | nil => simp
    | cons ip ips =>
      simp only [List.length_cons, Nat.succ_pos, if_true, List.isEmpty_cons, Bool.false_eq_true, if_false,
        gt_iff_lt]
      rw [data_join_map, data_render]
      simp [Function.comp_def]
  simp only [peerRequest, peerPairs, String.data_append, data_render_append, data_render_cons, data_render_nil,
    hend, hips, List.append_assoc, List.append_nil]

/-- **The writer prints pairs**: the request is the rendering of the private key, the listen
port, the AmneziaWG pairs of `aSecBuilder` and each peer's pairs. -/
theorem data_CreateIPCRequest (conf : DeviceConfig) :
    (CreateIPCRequest conf).IpcRequest.data =
      (render (("private_key", conf.SecretKey) :: pairOpt "listen_port" (conf.ListenPort.map itoa) ++
        (aSecView (conf.ASecConfig.getD {})).flatten ++ conf.Peers.flatMap peerPairs)).data := by
  have hpeers : (String.join (conf.Peers.map peerRequest)).data = (render (conf.Peers.flatMap peerPairs)).data := by
    rw [data_join_map, data_render_flatMap]
    simp only [data_peerRequest]
  have haSec : (match conf.ASecConfig with | some c => aSecBuilder c | none => "").data =
      (render (aSecView (conf.ASecConfig.getD {})).flatten).data := by
    cases conf.ASecConfig
    · rfl
    · exact data_aSecBuilder _
  simp only [CreateIPCRequest, String.data_append, haSec, hpeers, List.cons_append, data_render_cons,
    data_render_append, data_ipcLineOpt, List.append_assoc]

/-! ## Reading rendered pairs back -/

theorem cutEq_append {k v : List Char} (hk : '=' ∉ k) : cutEq (k ++ '=' :: v) = some (k, v) := by
  induction k with
  | nil => simp [cutEq]
  | cons c k ih =>
    have hc : c ≠ '=' := fun h => hk (h ▸ List.mem_cons_self _ _)
    simp [cutEq, hc, ih (fun h => hk (List.mem_cons_of_mem _ h))]

theorem length_splitOn (l : List Char) (c : Char) : (l.splitOn c).length = l.count c + 1 := by
  induction l with
  | nil => rfl
  | cons a l ih =>
    simp only [List.splitOn, List.splitOnP_cons, List.count_cons] at ih ⊢
    split <;> simp_all

/-- Pairs whose keys and values hold no newline render to one line each, and a trailing empty
piece after the last `\n`. -/
theorem splitOn_render {ps : List (String × String)} (hk : ∀ p ∈ ps, '\n' ∉ p.1.data)
    (hv : ∀ p ∈ ps, '\n' ∉ p.2.data) :
    (render ps).data.splitOn '\n' = ps.map (fun p => p.1.data ++ '=' :: p.2.data) ++ [[]] := by
  induction ps with
  | nil => rfl
  | cons p ps ih =>
    obtain ⟨k, v⟩ := p
    have hline : ∀ x ∈ k.data ++ '=' :: v.data, ¬ (x == '\n') = true := by
      intro x hx hxn
      rw [beq_iff_eq] at hxn
      subst hxn
      rcases List.mem_append.1 hx with h | h
      · exact hk _ (List.mem_cons_self _ _) h
      · rcases List.mem_cons.1 h with h | h
        · cases h
        · exact hv _ (List.mem_cons_self _ _) h
    rw [data_render_cons, data_ipcLine, List.append_assoc, List.singleton_append]
    simp only [List.splitOn]
    rw [List.splitOnP_first _ _ hline '\n' (beq_self_eq_true _)]
    simp only [List.splitOn] at ih
    rw [ih (fun p hp => hk p (List.mem_cons_of_mem _ hp)) (fun p hp => hv p (List.mem_cons_of_mem _ hp))]
    rfl

theorem count_render {ps : List (String × String)} (hk : ∀ p ∈ ps, '\n' ∉ p.1.data) :
    (render ps).data.count '\n' = ps.length + (ps.map fun p => p.2.data.count '\n').sum := by
  induction ps with
  | nil => rfl
  | cons p ps ih =>
    obtain ⟨k, v⟩ := p
    have hk0 : k.data.count '\n' = 0 := List.count_eq_zero.2 (hk _ (List.mem_cons_self _ _))
    rw [data_render_cons, data_ipcLine, List.count_append, List.count_append, List.count_append, hk0,
      ih (fun p hp => hk p (List.mem_cons_of_mem _ hp))]
    simp only [List.count_cons, List.count_nil, List.length_cons, List.map_cons, List.sum_cons]
    simp
    omega

theorem eq_zero_of_mem_of_sum_eq_zero {l : List Nat} (h : l.sum = 0) {x : Nat} (hx : x ∈ l) : x = 0 := by
  induction l with
  | nil => cases hx
  | cons a l ih =>
    rw [List.sum_cons] at h
    rcases List.mem_cons.1 hx with rfl | hx
    · omega
    · exact ih (by omega) hx

/-- **Rendered pairs read back as themselves exactly when no value holds a newline**, for keys
without `=` or newline. -/
theorem ipcPairs_render_iff {ps : List (String × String)} (hk : ∀ p ∈ ps, '=' ∉ p.1.data ∧ '\n' ∉ p.1.data) :
    ipcPairs (render ps) = ps.map some ↔ ∀ p ∈ ps, '\n' ∉ p.2.data := by
  have hk' : ∀ p ∈ ps, '\n' ∉ p.1.data := fun p hp => (hk p hp).2
  constructor
  · intro h
    have hlen := congrArg List.length h
    simp only [ipcPairs, List.length_map, List.length_dropLast, String.toList, length_splitOn,
      count_render hk'] at hlen
    have hsum : (ps.map fun p => p.2.data.count '\n').sum = 0 := by omega
    intro p hp
    exact List.count_eq_zero.1 (eq_zero_of_mem_of_sum_eq_zero hsum (List.mem_map_of_mem _ hp))
  · intro hv
    simp only [ipcPairs, String.toList, splitOn_render hk' hv, List.dropLast_concat, List.map_map]
    apply List.map_congr_left
    intro p hp
    simp [cutEq_append (hk p hp).1]

/-! ## The AmneziaWG pairs come from the section

`ParseASecConfig` runs sixteen blocks, and each writes only its own key's
fields. So `aSecView`, which reads each key's fields into its own slot, changes
in one slot per block: the slot of a key absent from the section stays empty,
and the slot of a present key gets the value the block parsed. -/

theorem set_of_getElem? {α : Type} {l : List α} {i : Nat} {x : α} (h : l[i]? = some x) : l.set i x = l := by
  apply List.ext_getElem?
  intro j
  by_cases hij : i = j
  · subst hij
    rw [List.getElem?_set_self (List.getElem?_eq_some_iff.1 h).1, h]
  · rw [List.getElem?_set_ne hij]

section Blocks

variable {s : Section} {name : String} (i : Nat) (key : String)

theorem parseIntKey_view {set : ASecConfigType → Int → ASecConfigType} {acc acc' : Option ASecConfigType}
    (h : parseIntKey s name set acc = .ok acc')
    (hset : ∀ c n, aSecView (set c n) = (aSecView c).set i [(key, itoa n)])
    (hi : (aSecView (acc.getD {}))[i]? = some []) :
    aSecView (acc'.getD {}) = (aSecView (acc.getD {})).set i (keyPairs s name key showInt) := by
  unfold parseIntKey at h
  unfold keyPairs
  cases hk : s.GetKey name with
  | none => rw [hk] at h; cases h; exact (set_of_getElem? hi).symm
  | some v =>
    rw [hk] at h
    dsimp only at h
    cases hn : parseInt v 0 64 with
    | error e => rw [hn] at h; cases h
    | ok n => rw [hn] at h; cases h; simp only [showInt, hn]; exact hset _ n

theorem parseHeaderKey_view {set : ASecConfigType → UInt32 → UInt32 → ASecConfigType}
    {acc acc' : Option ASecConfigType} (h : parseHeaderKey s name set acc = .ok acc')
    (hset : ∀ c lo hi, aSecView (set c lo hi) = (aSecView c).set i [(key, formatMagicHeaderInterval lo hi)])
    (hi : (aSecView (acc.getD {}))[i]? = some []) :
    aSecView (acc'.getD {}) = (aSecView (acc.getD {})).set i (keyPairs s name key showHeader) := by
  unfold parseHeaderKey at h
  unfold keyPairs
  cases hk : s.GetKey name with
  | none => rw [hk] at h; cases h; exact (set_of_getElem? hi).symm
  | some v =>
    rw [hk] at h
    dsimp only at h
    cases hn : parseMagicHeaderInterval v with
    | error e => rw [hn] at h; cases h
    | ok r =>
      obtain ⟨lo, hi'⟩ := r
      rw [hn] at h; cases h; simp only [showHeader, hn]; exact hset _ lo hi'

theorem parseStringKey_view {set : ASecConfigType → String → ASecConfigType}
    {acc acc' : Option ASecConfigType} (h : parseStringKey s name set acc = acc')
    (hset : ∀ c v, aSecView (set c v) = (aSecView c).set i [(key, v)])
    (hi : (aSecView (acc.getD {}))[i]? = some []) :
    aSecView (acc'.getD {}) = (aSecView (acc.getD {})).set i (keyPairs s name key some) := by
  subst h
  unfold parseStringKey keyPairs
  cases hk : s.GetKey name with
  | none => exact (set_of_getElem? hi).symm
  | some v => exact hset _ v

end Blocks

/-- After the first `i` blocks of `ParseASecConfig` the view holds the first `i` entries of
`sectionPairs s` and empty slots after them; the next block fills slot `i`. -/
theorem aSecView_upto_succ {s : Section} {acc acc' : Option ASecConfigType} {i : Nat}
    {x : List (String × String)}
    (hv : aSecView (acc.getD {}) = (sectionPairs s).take i ++ List.replicate (16 - i) [])
    (hblock : (aSecView (acc.getD {}))[i]? = some [] →
      aSecView (acc'.getD {}) = (aSecView (acc.getD {})).set i x)
    (hx : (sectionPairs s)[i]? = some x) :
    aSecView (acc'.getD {}) = (sectionPairs s).take (i + 1) ++ List.replicate (16 - (i + 1)) [] := by
  have hi : i < 16 := (List.getElem?_eq_some_iff.1 hx).1
  have hlen : ((sectionPairs s).take i).length = i := List.length_take_of_le (by simp [sectionPairs]; omega)
  obtain ⟨k, hk⟩ : ∃ k, 16 - i = k + 1 := ⟨15 - i, by omega⟩
  have hslot : (aSecView (acc.getD {}))[i]? = some [] := by
    rw [hv, List.getElem?_append_right hlen.le, hlen, Nat.sub_self, hk, List.replicate_succ,
      List.getElem?_cons_zero]
  rw [hblock hslot, hv, hk, List.set_append_right _ _ hlen.le, hlen, Nat.sub_self, List.replicate_succ,
    List.set_cons_zero, List.take_succ, hx, show 16 - (i + 1) = k by omega]
  simp

/-- **The AmneziaWG lines are the section's keys**: after a successful `ParseASecConfig`, the
config's pairs, key by key, are those of the section's present keys with their parsed
values. -/
theorem ParseASecConfig_view {s : Section} {r : Option ASecConfigType} (h : ParseASecConfig s = .ok r) :
    aSecView (r.getD {}) = sectionPairs s := by
  simp only [ParseASecConfig, bind_eq_ok] at h
  obtain ⟨c1, h1, c2, h2, c3, h3, c4, h4, c5, h5, c6, h6, c7, h7, c8, h8, c9, h9, c10, h10, c11, h11, hv⟩ := h
  split at hv
  · cases hv
  cases hv
  -- the blocks fill the view slot by slot; read back from the last block to the first
  rw [← show (sectionPairs s).take 16 ++ List.replicate 0 [] = sectionPairs s from rfl]
  refine aSecView_upto_succ ?_ (parseStringKey_view 15 "i5" rfl fun _ _ => rfl) rfl
  refine aSecView_upto_succ ?_ (parseStringKey_view 14 "i4" rfl fun _ _ => rfl) rfl
  refine aSecView_upto_succ ?_ (parseStringKey_view 13 "i3" rfl fun _ _ => rfl) rfl
  refine aSecView_upto_succ ?_ (parseStringKey_view 12 "i2" rfl fun _ _ => rfl) rfl
  refine aSecView_upto_succ ?_ (parseStringKey_view 11 "i1" rfl fun _ _ => rfl) rfl
  refine aSecView_upto_succ ?_ (parseHeaderKey_view 10 "h4" h11 fun _ _ _ => rfl) rfl
  refine aSecView_upto_succ ?_ (parseHeaderKey_view 9 "h3" h10 fun _ _ _ => rfl) rfl
  refine aSecView_upto_succ ?_ (parseHeaderKey_view 8 "h2" h9 fun _ _ _ => rfl) rfl
  refine aSecView_upto_succ ?_ (parseHeaderKey_view 7 "h1" h8 fun _ _ _ => rfl) rfl
  refine aSecView_upto_succ ?_ (parseIntKey_view 6 "s4" h7 fun _ _ => rfl) rfl
  refine aSecView_upto_succ ?_ (parseIntKey_view 5 "s3" h6 fun _ _ => rfl) rfl
  refine aSecView_upto_succ ?_ (parseIntKey_view 4 "s2" h5 fun _ _ => rfl) rfl
  refine aSecView_upto_succ ?_ (parseIntKey_view 3 "s1" h4 fun _ _ => rfl) rfl
  refine aSecView_upto_succ ?_ (parseIntKey_view 2 "jmax" h3 fun _ _ => rfl) rfl
  refine aSecView_upto_succ ?_ (parseIntKey_view 1 "jmin" h2 fun _ _ => rfl) rfl
  refine aSecView_upto_succ ?_ (parseIntKey_view 0 "jc" h1 fun _ _ => rfl) rfl
  rfl

/-! ## The request reads back as the configuration -/

/-- Every key the writer uses. -/
def ipcKeys : List String :=
  ["private_key", "listen_port", "jc", "jmin", "jmax", "s1", "s2", "s3", "s4", "h1", "h2", "h3", "h4",
   "i1", "i2", "i3", "i4", "i5", "public_key", "persistent_keepalive_interval", "preshared_key",
   "endpoint", "allowed_ip"]

theorem ipcKeys_plain : ∀ k ∈ ipcKeys, '=' ∉ k.data ∧ '\n' ∉ k.data := by decide

theorem mem_keyPairs {s : Section} {name key : String} {print : String → Option String}
    {p : String × String} (h : p ∈ keyPairs s name key print) : p.1 = key := by
  unfold keyPairs at h
  split at h
  · cases h
  · split at h
    · rw [List.mem_singleton.1 h]
    · cases h

theorem sectionPairs_keys (s : Section) : ∀ l ∈ sectionPairs s, ∀ p ∈ l, p.1 ∈ ipcKeys := by
  intro l hl p hp
  simp only [sectionPairs, List.mem_cons, List.not_mem_nil, or_false] at hl
  rcases hl with rfl | rfl | rfl | rfl | rfl | rfl | rfl | rfl | rfl | rfl | rfl | rfl | rfl | rfl | rfl | rfl <;>
    rw [mem_keyPairs hp] <;> decide

theorem peerPairs_keys (peer : PeerConfig) : ∀ p ∈ peerPairs peer, p.1 ∈ ipcKeys := by
  intro p hp
  simp only [peerPairs, List.mem_append, List.mem_cons, List.not_mem_nil, or_false] at hp
  rcases hp with ((rfl | rfl | rfl) | he) | hip
  · simp [ipcKeys]
  · simp [ipcKeys]
  · simp [ipcKeys]
  · split at he
    · rw [List.mem_singleton.1 he]; simp [ipcKeys]
    · cases he
  · split at hip
    · rcases List.mem_cons.1 hip with rfl | hip
      · simp [ipcKeys]
      · rw [List.mem_singleton.1 hip]; simp [ipcKeys]
    · obtain ⟨ip, -, rfl⟩ := List.mem_map.1 hip
      simp [ipcKeys]

theorem expectedPairs_keys (s : Section) (conf : DeviceConfig) :
    ∀ p ∈ expectedPairs s conf, '=' ∉ p.1.data ∧ '\n' ∉ p.1.data := by
  intro p hp
  apply ipcKeys_plain
  simp only [expectedPairs, List.cons_append, List.mem_cons, List.mem_append, List.mem_flatten,
    List.mem_flatMap] at hp
  rcases hp with rfl | (hl | ⟨l, hl, hp⟩) | ⟨peer, -, hp⟩
  · simp [ipcKeys]
  · split at hl
    · rw [List.mem_singleton.1 hl]; simp [ipcKeys]
    · cases hl
  · exact sectionPairs_keys s l hl p hp
  · exact peerPairs_keys peer p hp

/-- The request of a configuration that carries what `ParseASecConfig` made of `s` is the
rendering of the expected pairs. -/
theorem request_eq_render {s : Section} {r : Option ASecConfigType} (hparse : ParseASecConfig s = .ok r)
    {conf : DeviceConfig} (hconf : conf.ASecConfig = r) :
    (CreateIPCRequest conf).IpcRequest = render (expectedPairs s conf) := by
  apply String.ext
  rw [data_CreateIPCRequest, hconf, ParseASecConfig_view hparse, expectedPairs]
  cases conf.ListenPort <;> rfl

/-- **The request reads back as the configuration's pairs exactly when no value holds a
newline.** For a section `ParseASecConfig` accepts and a configuration carrying its result,
cutting the request into lines and each line at its first `=` gives the private key, the listen
port if set, one pair per AmneziaWG key present in the section with its parsed value printed
back, and each peer's pairs, if and only if none of those values contains a newline. -/
theorem ipc_request_reads_back (s : Section) (r : Option ASecConfigType) (hparse : ParseASecConfig s = .ok r)
    (conf : DeviceConfig) (hconf : conf.ASecConfig = r) :
    IpcLaw s conf ↔ ∀ p ∈ expectedPairs s conf, '\n' ∉ p.2.toList := by
  unfold IpcLaw
  rw [request_eq_render hparse hconf]
  exact ipcPairs_render_iff (expectedPairs_keys s conf)

/-- A section that sets `Jc` and an `I1` tag string. -/
def jcSection : Section := ⟨fun k => if k = "jc" then some "4" else if k = "i1" then some "<b 0x01>" else none⟩

/-- A device carrying what `ParseASecConfig` makes of `jcSection`. -/
def jcDevice : DeviceConfig :=
  { SecretKey := "k", Endpoint := [], Peers := [], DNS := [], MTU := 1420, ListenPort := some 51820,
    ASecConfig := some { junkPacketCount := 4, hasJunkPacketCount := true, i1 := some "<b 0x01>" } }

theorem ipc_request_reads_back_jc :
    ParseASecConfig jcSection = .ok jcDevice.ASecConfig ∧
      (IpcLaw jcSection jcDevice ↔ ∀ p ∈ expectedPairs jcSection jcDevice, '\n' ∉ p.2.toList) :=
  ⟨by rfl, ipc_request_reads_back jcSection _ (by rfl) jcDevice rfl⟩

/-- A section whose only key is an `I1` string holding a newline and a `listen_port` line. -/
def newlineSection : Section :=
  ⟨fun k => if k = "i1" then some "<b 0x01>\nlisten_port=1" else none⟩

/-- A device carrying what `ParseASecConfig` makes of `newlineSection`. -/
def newlineDevice : DeviceConfig :=
  { SecretKey := "k", Endpoint := [], Peers := [], DNS := [], MTU := 1420, ListenPort := none,
    ASecConfig := some { i1 := some "<b 0x01>\nlisten_port=1" } }

/-- **An `I` string can add a line to the request**: the device reads `i1=<b 0x01>` and then a
`listen_port=1` the configuration never set. -/
theorem I_string_newline_adds_line :
    ¬ ∀ (s : Section) (r : Option ASecConfigType) (conf : DeviceConfig),
      ParseASecConfig s = .ok r → conf.ASecConfig = r → IpcLaw s conf := by
  intro h
  exact absurd (h newlineSection _ newlineDevice (by rfl) rfl) (by decide)

end WireproxyAwg.Config
