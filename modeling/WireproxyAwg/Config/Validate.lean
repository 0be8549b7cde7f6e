import WireproxyAwg.Config.ASec

/-!
# What `ValidateASecConfig` accepts

The validator is a cascade of six checks, and the spec describes it as one: the
first failing condition decides the error. This file states the six conditions
in the spec's own terms and proves that the code reports exactly the first one
that fails, for every record, the `nil` one included.

Two of the six are phrased differently from the code, and that is where the
content is.

* The packet-size check in the code is a double loop that stops at the first
  equal pair. The condition is that the sizes of the set fields, taken as a
  list, have no duplicates.
* The overlap check in the code compares interval endpoints. The condition is
  about values: no 32-bit header value lies in two of the four effective
  intervals. The two agree only once every interval is known to be non-empty,
  which is why the range check comes first.
-/

namespace WireproxyAwg.Config

/-- `r` is what checking `checks` in order reports: the first failure's error, or `none`. -/
def FirstFailure : List (Prop × String) → Option String → Prop
  | [], r => r = none
  | (p, e) :: rest, r => (¬p ∧ r = some e) ∨ (p ∧ FirstFailure rest r)

/-- Checking in order reports nothing exactly when every condition holds. -/
theorem FirstFailure.eq_none_iff {checks : List (Prop × String)} {r : Option String}
    (h : FirstFailure checks r) : r = none ↔ ∀ pe ∈ checks, pe.1 := by
  induction checks with
  | nil => simpa [FirstFailure] using h
  | cons pe rest ih =>
    obtain ⟨p, e⟩ := pe
    rcases h with ⟨hp, rfl⟩ | ⟨hp, hr⟩
    · simp [hp]
    · simp [hp, ih hr]

/-! ## The spec's conditions -/

/-- The sizes `148+S1`, `92+S2`, `64+S3`, `32+S4` of the `S` fields that are set. -/
def setPacketSizes (c : ASecConfigType) : List Int :=
  [(c.hasInitPacketJunkSize, goIntAdd 148 c.initPacketJunkSize),
   (c.hasResponsePacketJunkSize, goIntAdd 92 c.responsePacketJunkSize),
   (c.hasCookieReplyPacketJunkSize, goIntAdd 64 c.cookieReplyPacketJunkSize),
   (c.hasTransportPacketJunkSize, goIntAdd 32 c.transportPacketJunkSize)].filterMap
    fun p => if p.1 then some p.2 else none

/-- The four effective header intervals: configured, or the defaults `1`, `2`, `3`, `4`. -/
def effectiveHeaders (c : ASecConfigType) : List (UInt32 × UInt32) :=
  [if c.hasInitPacketMagicHeader then (c.initPacketMagicHeader, c.initPacketMagicHeaderMax) else (1, 1),
   if c.hasResponsePacketMagicHeader then (c.responsePacketMagicHeader, c.responsePacketMagicHeaderMax)
     else (2, 2),
   if c.hasUnderloadPacketMagicHeader then (c.underloadPacketMagicHeader, c.underloadPacketMagicHeaderMax)
     else (3, 3),
   if c.hasTransportPacketMagicHeader then (c.transportPacketMagicHeader, c.transportPacketMagicHeaderMax)
     else (4, 4)]

/-- A header value lies in an interval. -/
def InInterval (v : UInt32) (iv : UInt32 × UInt32) : Prop := iv.1 ≤ v ∧ v ≤ iv.2

/-- The six conditions in the order the spec lists them, each with its error. -/
def asecChecks (c : ASecConfigType) : List (Prop × String) :=
  [(c.hasJunkPacketCount → 1 ≤ c.junkPacketCount ∧ c.junkPacketCount ≤ 128, errJc),
   (¬(c.hasJunkPacketMinSize ∧ c.hasJunkPacketMaxSize ∧ c.junkPacketMinSize > c.junkPacketMaxSize),
     errJmin),
   (c.hasJunkPacketMaxSize → c.junkPacketMaxSize ≤ 1280, errJmax),
   ((setPacketSizes c).Nodup,
     if c.hasCookieReplyPacketJunkSize ∨ c.hasTransportPacketJunkSize then errPacketSizeLong
     else errPacketSizeShort),
   (∀ iv ∈ effectiveHeaders c, iv.1 ≤ iv.2, errHeaderRange),
   ((effectiveHeaders c).Pairwise fun a b => ∀ v : UInt32, ¬(InInterval v a ∧ InInterval v b),
     errHeaderUnique)]

/-! ## The packet-size loop -/

/-- The size of a check, when its field is set. -/
def PacketSizeCheck.setSize (p : PacketSizeCheck) : Option Int := if p.isSet then some p.size else none

theorem mem_filterMap_setSize {l : List PacketSizeCheck} {x : Int} :
    x ∈ l.filterMap PacketSizeCheck.setSize ↔ ∃ q ∈ l, q.isSet ∧ q.size = x := by
  simp only [List.mem_filterMap, PacketSizeCheck.setSize]
  constructor
  · rintro ⟨q, hq, hs⟩
    by_cases h : q.isSet
    · simp only [h, if_true, Option.some.injEq] at hs; exact ⟨q, hq, h, hs⟩
    · simp [h] at hs
  · rintro ⟨q, hq, hs, rfl⟩
    exact ⟨q, hq, by simp [hs]⟩

/-- The double loop finds an equal pair exactly when the set sizes repeat. -/
theorem packetSizesCollide_iff (l : List PacketSizeCheck) :
    packetSizesCollide l = true ↔ ¬(l.filterMap PacketSizeCheck.setSize).Nodup := by
  induction l with
  | nil => simp [packetSizesCollide]
  | cons p rest ih =>
    by_cases hp : p.isSet
    · have hf : (p :: rest).filterMap PacketSizeCheck.setSize =
          p.size :: rest.filterMap PacketSizeCheck.setSize := by
        simp [List.filterMap_cons, PacketSizeCheck.setSize, hp]
      simp only [packetSizesCollide, hp, Bool.true_and, Bool.or_eq_true, List.any_eq_true,
        Bool.and_eq_true, beq_iff_eq, ih, hf, List.nodup_cons, mem_filterMap_setSize, not_and_or,
        not_not]
    · have hf : (p :: rest).filterMap PacketSizeCheck.setSize = rest.filterMap PacketSizeCheck.setSize := by
        simp [List.filterMap_cons, PacketSizeCheck.setSize, hp]
      simp [packetSizesCollide, hp, ih, hf]

theorem setPacketSizes_eq (c : ASecConfigType) :
    setPacketSizes c = (packetSizes c).filterMap PacketSizeCheck.setSize := rfl

/-! ## Header intervals -/

/-- Two non-empty intervals pass the endpoint test exactly when they share a value. -/
theorem meets_iff_shared {a b : HeaderInterval} (ha : a.min ≤ a.max) (hb : b.min ≤ b.max) :
    a.meets b = true ↔ ∃ v : UInt32, InInterval v (a.min, a.max) ∧ InInterval v (b.min, b.max) := by
  simp only [HeaderInterval.meets, Bool.and_eq_true, decide_eq_true_eq, InInterval]
  constructor
  · rintro ⟨h1, h2⟩
    by_cases hab : a.min ≤ b.min
    · exact ⟨b.min, ⟨hab, h2⟩, ⟨UInt32.le_refl _, hb⟩⟩
    · exact ⟨a.min, ⟨UInt32.le_refl _, ha⟩, ⟨(UInt32.le_total _ _).resolve_left hab, h1⟩⟩
  · rintro ⟨v, ⟨h1, h2⟩, ⟨h3, h4⟩⟩
    exact ⟨UInt32.le_trans h1 h4, UInt32.le_trans h3 h2⟩

/-- On non-empty intervals, the endpoint loop finds no overlap exactly when no value is shared. -/
theorem not_hasOverlapping_iff (l : List HeaderInterval) (hl : ∀ iv ∈ l, iv.min ≤ iv.max) :
    hasOverlappingHeaderIntervals l = false ↔
      (l.map fun iv => (iv.min, iv.max)).Pairwise
        fun a b => ∀ v : UInt32, ¬(InInterval v a ∧ InInterval v b) := by
  induction l with
  | nil => simp [hasOverlappingHeaderIntervals]
  | cons x rest ih =>
    have hx := hl x (List.mem_cons_self _ _)
    have hrest : ∀ iv ∈ rest, iv.min ≤ iv.max := fun iv h => hl iv (List.mem_cons_of_mem _ h)
    rw [hasOverlappingHeaderIntervals, Bool.or_eq_false_iff, ih hrest, List.map_cons,
      List.pairwise_cons, List.any_eq_false, List.forall_mem_map]
    refine and_congr_left' (forall₂_congr fun y hy => ?_)
    rw [meets_iff_shared hx (hrest y hy), not_exists]

theorem effectiveHeaders_eq (c : ASecConfigType) :
    effectiveHeaders c = (collectEffectiveHeaderIntervals (some c)).map fun iv => (iv.min, iv.max) := by
  simp only [effectiveHeaders, collectEffectiveHeaderIntervals, effectiveHeaderInterval,
    Option.getD_some, List.map_cons, List.map_nil]
  split_ifs <;> rfl

theorem any_empty_iff (c : ASecConfigType) :
    (collectEffectiveHeaderIntervals (some c)).any (fun i => i.min > i.max) = true ↔
      ¬∀ iv ∈ effectiveHeaders c, iv.1 ≤ iv.2 := by
  simp [effectiveHeaders_eq, List.any_eq_true, UInt32.not_le]

/-! ## The validator reports the first failing condition -/

theorem firstFailure_cons_fail {p : Prop} {e : String} {rest : List (Prop × String)}
    (hp : ¬p) : FirstFailure ((p, e) :: rest) (some e) := .inl ⟨hp, rfl⟩

theorem firstFailure_cons_pass {p : Prop} {e : String} {rest : List (Prop × String)}
    {r : Option String} (hp : p) (h : FirstFailure rest r) : FirstFailure ((p, e) :: rest) r :=
  .inr ⟨hp, h⟩

theorem validate_some_firstFailure (c : ASecConfigType) :
    FirstFailure (asecChecks c) (ValidateASecConfig (some c)) := by
  simp only [asecChecks, ValidateASecConfig]
  by_cases h1 : c.hasJunkPacketCount ∧ (c.junkPacketCount < 1 ∨ c.junkPacketCount > 128)
  · rw [if_pos h1]
    exact firstFailure_cons_fail fun h => by have := h h1.1; omega
  rw [if_neg h1]
  refine firstFailure_cons_pass (fun hc => ?_) ?_
  · have : ¬(c.junkPacketCount < 1 ∨ c.junkPacketCount > 128) := fun h => h1 ⟨hc, h⟩
    omega
  by_cases h2 : c.hasJunkPacketMinSize ∧ c.hasJunkPacketMaxSize ∧
      c.junkPacketMinSize > c.junkPacketMaxSize
  · rw [if_pos h2]; exact firstFailure_cons_fail (not_not.mpr h2)
  rw [if_neg h2]; refine firstFailure_cons_pass h2 ?_
  by_cases h3 : c.hasJunkPacketMaxSize ∧ c.junkPacketMaxSize > 1280
  · rw [if_pos h3]
    exact firstFailure_cons_fail fun h => by have := h h3.1; omega
  rw [if_neg h3]
  refine firstFailure_cons_pass (fun hc => ?_) ?_
  · have : ¬c.junkPacketMaxSize > 1280 := fun h => h3 ⟨hc, h⟩
    omega
  -- the packet sizes
  have hsizes := packetSizesCollide_iff (packetSizes c)
  rw [← setPacketSizes_eq] at hsizes
  by_cases h4 : packetSizesCollide (packetSizes c) = true
  · rw [if_pos h4]
    split_ifs <;> exact firstFailure_cons_fail (hsizes.mp h4)
  rw [if_neg h4]
  refine firstFailure_cons_pass (not_not.mp (mt hsizes.mpr h4)) ?_
  -- the header ranges, then their overlaps
  by_cases h5 : (collectEffectiveHeaderIntervals (some c)).any (fun i => i.min > i.max) = true
  · rw [if_pos h5]; exact firstFailure_cons_fail ((any_empty_iff c).mp h5)
  rw [if_neg h5]
  have hne := not_not.mp (mt (any_empty_iff c).mpr h5)
  refine firstFailure_cons_pass hne ?_
  have hne' : ∀ iv ∈ collectEffectiveHeaderIntervals (some c), iv.min ≤ iv.max := fun iv hiv =>
    hne (iv.min, iv.max) (by rw [effectiveHeaders_eq]; exact List.mem_map_of_mem _ hiv)
  have hover := not_hasOverlapping_iff _ hne'
  rw [← effectiveHeaders_eq] at hover
  cases h6 : hasOverlappingHeaderIntervals (collectEffectiveHeaderIntervals (some c))
  · exact firstFailure_cons_pass (hover.mp h6) rfl
  · exact firstFailure_cons_fail fun h => Bool.noConfusion (h6.symm.trans (hover.mpr h))

/-- **The validator reports the first violated condition.** For every record, `nil` included
(which behaves as the record with no field set), `ValidateASecConfig` returns `nil` exactly
when all six conditions hold, and otherwise the error of the first one that fails. -/
theorem validateASecConfig_first_failure (c : Option ASecConfigType) :
    FirstFailure (asecChecks (c.getD {})) (ValidateASecConfig c) := by
  cases c with
  | none => exact validate_some_firstFailure {}
  | some c => exact validate_some_firstFailure c

end WireproxyAwg.Config
