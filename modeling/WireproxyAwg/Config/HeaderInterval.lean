import WireproxyAwg.Config.ASec
import WireproxyAwg.Go.AddrText

/-!
# Which strings a magic-header interval accepts

`parseMagicHeaderInterval` trims the value, splits it at every `-`, and reads one or two parts
with `strconv.ParseUint(_, 10, 32)`. With base 10, `ParseUint` takes no sign, no base prefix
and no underscore, so it reads exactly a nonempty run of ASCII digits whose value fits
(`parseUint_decimal_iff`; the digit loop is run backwards in `parseDigits_decimal_inv`). A run
of digits holds no dash, so a split part is a whole run or nothing.

Together: the function returns `(N, N)` for a trimmed literal `N` and `(N, M)` for `N-M` with
`N ≤ M`, both runs below `2^32`, and fails on every other string
(`parseMagicHeaderInterval_iff`). What `formatMagicHeaderInterval` prints has no white space
and is such a literal, so it reads back.
-/

namespace WireproxyAwg.Config

open WireproxyAwg.Go

/-- A nonempty run of ASCII digits. -/
def DigitRun (l : List Char) : Prop := l ≠ [] ∧ ∀ c ∈ l, '0' ≤ c ∧ c ≤ '9'

/-- The value of a decimal numeral. -/
def decimalValue (l : List Char) : Nat := l.foldl decStep 0

/-- The header literal as the spec words it: a point `N`, or a range `N-M` with `N ≤ M`, each
a run of digits below `2^32`; `lo` and `hi` are the interval it denotes. -/
def HeaderLiteral (t : List Char) (lo hi : Nat) : Prop :=
  (DigitRun t ∧ decimalValue t < 2 ^ 32 ∧ lo = decimalValue t ∧ hi = lo) ∨
  ∃ n m, t = n ++ '-' :: m ∧ DigitRun n ∧ DigitRun m ∧
    decimalValue n < 2 ^ 32 ∧ decimalValue m < 2 ^ 32 ∧
    lo = decimalValue n ∧ hi = decimalValue m ∧ lo ≤ hi

/-! ## `ParseUint` in base 10 -/

/-- A character worth less than ten is a decimal digit, worth what `decStep` adds for it. -/
theorem digitVal_decimal {c : Char} {d : Nat} (h : digitVal c = some d) (hd : d < 10) :
    ('0' ≤ c ∧ c ≤ '9') ∧ d = c.toNat - '0'.toNat := by
  unfold digitVal at h
  split_ifs at h with h1
  · exact ⟨h1, (Option.some.inj h).symm⟩
  · cases h; omega

/-- **The digit loop run backwards.** A base-10 loop that ends with a value read only digits,
added them up as `decStep` does, and never went past the bound. -/
theorem parseDigits_decimal_inv {M : Nat} : ∀ (l : List Char) (acc : Nat) (us : Bool) {n : Nat}
    {us' : Bool}, parseDigits 10 M false acc us l = some (some (n, us')) →
    (∀ c ∈ l, '0' ≤ c ∧ c ≤ '9') ∧ n = l.foldl decStep acc ∧ (acc ≤ M → n ≤ M) ∧ us' = us
  | [], acc, us, n, us', h => by
    cases h
    exact ⟨fun _ h => absurd h (List.not_mem_nil _), rfl, id, rfl⟩
  | c :: l, acc, us, n, us', h => by
    rw [parseDigits, if_neg (by simp)] at h
    cases hd : digitVal c with
    | none => rw [hd] at h; cases h
    | some d =>
      rw [hd] at h
      simp only at h
      split_ifs at h with h10 hcut hmax
      · cases h
      · cases h
      obtain ⟨hc, rfl⟩ := digitVal_decimal hd (by omega)
      obtain ⟨hl, hn, hle, hus⟩ := parseDigits_decimal_inv l _ us h
      refine ⟨fun x hx => ?_, hn, fun _ => hle (by omega), hus⟩
      rcases List.mem_cons.1 hx with rfl | hx
      exacts [hc, hl x hx]

/-- **`ParseUint(s, 10, bitSize)` reads decimal runs.** It succeeds exactly on a nonempty run of
ASCII digits whose value is below `2^bitSize`, and returns that value. -/
theorem parseUint_decimal_iff (s : String) {bitSize : Nat} (hb : bitSize ≤ 64) (n : Nat) :
    parseUint s 10 bitSize = .ok n ↔
      DigitRun s.toList ∧ decimalValue s.toList < 2 ^ bitSize ∧ n = decimalValue s.toList := by
  have hM : 2 ^ bitSize - 1 ≤ 2 ^ 64 - 1 := Nat.sub_le_sub_right (Nat.pow_le_pow_right (by decide) hb) 1
  unfold parseUint
  rcases hs : s.toList with _ | ⟨c0, t⟩
  · simp only [DigitRun, ne_eq, not_true, false_and, iff_false]
    exact fun h => by cases h
  · simp only [OfNat.ofNat_ne_zero, if_false, decide_False]
    constructor
    · intro h
      split at h
      · cases h
      · cases h
      · next n' us hpd =>
        obtain ⟨hdig, rfl, hle, rfl⟩ := parseDigits_decimal_inv _ 0 false hpd
        cases h
        exact ⟨⟨List.cons_ne_nil _ _, hdig⟩, Nat.lt_of_le_pred (Nat.two_pow_pos _) (hle (Nat.zero_le _)), rfl⟩
    · rintro ⟨⟨-, hdig⟩, hlt, rfl⟩
      rw [parseDigits_decimal hM _ 0 false hdig (Nat.le_sub_one_of_lt hlt)]
      rfl

theorem uint32_le_iff (a b : UInt32) : a ≤ b ↔ a.toNat ≤ b.toNat := UInt32.le_def.trans BitVec.le_def

/-- `parseUint32` is `ParseUint(_, 10, 32)` landing in `uint32`. -/
theorem parseUint32_ok_iff (p : String) (v : UInt32) :
    parseUint32 p = .ok v ↔
      DigitRun p.toList ∧ decimalValue p.toList < 2 ^ 32 ∧ v.toNat = decimalValue p.toList := by
  unfold parseUint32
  cases hp : parseUint p 10 32 with
  | error e =>
    refine ⟨fun h => (by cases h), fun ⟨hr, hlt, _⟩ => ?_⟩
    rw [(parseUint_decimal_iff p (by decide) _).2 ⟨hr, hlt, rfl⟩] at hp
    cases hp
  | ok n =>
    obtain ⟨hr, hlt, rfl⟩ := (parseUint_decimal_iff p (by decide) n).1 hp
    have hv : (UInt32.ofNat (decimalValue p.toList)).toNat = decimalValue p.toList :=
      UInt32.toNat_ofNat_of_lt hlt
    constructor
    · intro h
      cases h
      exact ⟨hr, hlt, hv⟩
    · rintro ⟨-, -, h⟩
      exact congrArg Except.ok (UInt32.toNat.inj (hv.trans h.symm))

/-! ## Splitting at the dash -/

theorem dash_not_mem {l : List Char} (h : DigitRun l) : '-' ∉ l := fun hm => by
  have := h.2 _ hm
  revert this
  decide

theorem splitOn_digitRun {l : List Char} (h : DigitRun l) : l.splitOn '-' = [l] :=
  List.splitOnP_eq_single _ _ fun c hc hdash => dash_not_mem h (by rwa [beq_iff_eq.1 hdash] at hc)

theorem splitOn_range {n m : List Char} (hn : DigitRun n) (hm : DigitRun m) :
    (n ++ '-' :: m).splitOn '-' = [n, m] := by
  rw [List.splitOn, List.splitOnP_first (· == '-') n ?_ '-' (beq_self_eq_true _), ← List.splitOn,
    splitOn_digitRun hm]
  exact fun c hc hdash => dash_not_mem hn (by rwa [beq_iff_eq.1 hdash] at hc)

/-! ## The whole interval -/

theorem string_eq_empty_iff (t : List Char) : (⟨t⟩ : String) = "" ↔ t = [] := by
  simp [String.ext_iff]

/-- **What the parser accepts.** `parseMagicHeaderInterval s` returns `(lo, hi)` exactly when
the trimmed `s` is the literal of the interval `[lo, hi]`. -/
theorem parseMagicHeaderInterval_iff (s : String) (lo hi : UInt32) :
    parseMagicHeaderInterval s = .ok (lo, hi) ↔
      HeaderLiteral (trimSpace s).toList lo.toNat hi.toNat := by
  unfold parseMagicHeaderInterval split
  generalize trimSpace s = T
  obtain ⟨t⟩ := T
  simp only [string_eq_empty_iff, String.toList]
  constructor
  · intro h
    split_ifs at h with ht
    have hcat := List.intercalate_splitOn t '-'
    rcases hps : t.splitOn '-' with _ | ⟨p0, _ | ⟨p1, _ | ⟨p2, rest⟩⟩⟩
    · rw [hps] at h
      cases h
    · rw [hps] at h hcat
      simp only [List.map_cons, List.map_nil] at h
      split_ifs at h
      obtain ⟨v, hv, hvv⟩ := bind_eq_ok.1 h
      cases hvv
      obtain ⟨hr, hlt, hval⟩ := (parseUint32_ok_iff _ _).1 hv
      simp only [List.intercalate, List.intersperse, List.flatten, List.append_nil] at hcat
      subst hcat
      exact .inl ⟨hr, hlt, hval, rfl⟩
    · rw [hps] at h hcat
      simp only [List.map_cons, List.map_nil] at h
      split_ifs at h
      · obtain ⟨_, -, h⟩ := bind_eq_ok.1 h
        cases h
      obtain ⟨v, hv, h⟩ := bind_eq_ok.1 h
      obtain ⟨w, hw, h⟩ := bind_eq_ok.1 h
      split_ifs at h with hwv
      cases h
      obtain ⟨hr, hlt, hval⟩ := (parseUint32_ok_iff _ _).1 hv
      obtain ⟨hr', hlt', hval'⟩ := (parseUint32_ok_iff _ _).1 hw
      simp only [List.intercalate, List.intersperse, List.flatten, List.append_nil] at hcat
      subst hcat
      exact .inr ⟨p0, p1, by simp, hr, hr', hlt, hlt', hval, hval', (uint32_le_iff _ _).1 (UInt32.not_lt.1 hwv)⟩
    · rw [hps] at h
      cases h
  · rintro (⟨hr, hlt, hlo, hhi⟩ | ⟨n, m, rfl, hn, hm, hltn, hltm, hlo, hhi, hle⟩)
    · rw [if_neg hr.1, splitOn_digitRun hr]
      simp only [List.map_cons, List.map_nil]
      rw [if_neg (mt (string_eq_empty_iff t).1 hr.1), UInt32.toNat.inj hhi]
      exact bind_eq_ok.2 ⟨lo, (parseUint32_ok_iff ⟨t⟩ lo).2 ⟨hr, hlt, hlo⟩, rfl⟩
    · rw [if_neg (by simp), splitOn_range hn hm]
      simp only [List.map_cons, List.map_nil]
      rw [if_neg (mt (string_eq_empty_iff n).1 hn.1)]
      refine bind_eq_ok.2 ⟨lo, (parseUint32_ok_iff ⟨n⟩ lo).2 ⟨hn, hltn, hlo⟩, ?_⟩
      rw [if_neg (mt (string_eq_empty_iff m).1 hm.1)]
      refine bind_eq_ok.2 ⟨hi, (parseUint32_ok_iff ⟨m⟩ hi).2 ⟨hm, hltm, hhi⟩, ?_⟩
      rw [if_neg (UInt32.not_lt.2 ((uint32_le_iff _ _).2 hle))]
      rfl

example : parseMagicHeaderInterval " 100-200\n" = .ok (100, 200) := rfl

example : parseMagicHeaderInterval "1-2-3" = .error (.new errHeaderFormat) := rfl

/-! ## Printing an interval -/

theorem digitRun_toDigits (n : Nat) : DigitRun (Nat.toDigits 10 n) :=
  ⟨toDigits_ne_nil 10 n, toDigits_decimal n⟩

theorem decimalValue_toDigits (n : Nat) : decimalValue (Nat.toDigits 10 n) = n := foldl_toDigits n

theorem not_isSpace_toDigits (n : Nat) : ∀ c ∈ Nat.toDigits 10 n, isSpace c = false := by
  intro c hc
  obtain ⟨k, hk, rfl⟩ := mem_toDigits (by decide) hc
  have : ∀ k, k < 10 → isSpace (Nat.digitChar k) = false := by decide
  exact this k hk

theorem dropWhile_isSpace {l : List Char} (h : ∀ c ∈ l, isSpace c = false) :
    l.dropWhile isSpace = l := by
  cases l with
  | nil => rfl
  | cons c l => exact List.dropWhile_cons_of_neg (by simp [h c (List.mem_cons_self c l)])

/-- A string with no white space is its own trim. -/
theorem trimSpace_of_forall {s : String} (h : ∀ c ∈ s.toList, isSpace c = false) : trimSpace s = s := by
  unfold trimSpace
  rw [dropWhile_isSpace h, dropWhile_isSpace (fun c hc => h c (List.mem_reverse.1 hc)),
    List.reverse_reverse]
  rfl

/-- What `formatMagicHeaderInterval` prints for `a ≤ b` is the literal of `[a, b]`. -/
theorem formatMagicHeaderInterval_literal {a b : UInt32} (hab : a ≤ b) :
    HeaderLiteral (trimSpace (formatMagicHeaderInterval a b)).toList a.toNat b.toNat := by
  unfold formatMagicHeaderInterval
  split_ifs with heq
  · subst heq
    rw [@trimSpace_of_forall (formatUint a.toNat) (not_isSpace_toDigits _)]
    exact .inl ⟨digitRun_toDigits _, (decimalValue_toDigits _).symm ▸ a.toNat_lt,
      (decimalValue_toDigits _).symm, rfl⟩
  · have hl : (formatUint a.toNat ++ "-" ++ formatUint b.toNat).toList =
        Nat.toDigits 10 a.toNat ++ '-' :: Nat.toDigits 10 b.toNat :=
      List.append_assoc _ ['-'] _
    rw [trimSpace_of_forall, hl]
    · refine .inr ⟨_, _, rfl, digitRun_toDigits _, digitRun_toDigits _, ?_, ?_, ?_, ?_,
        (uint32_le_iff a b).1 hab⟩ <;> simp only [decimalValue_toDigits, UInt32.toNat_lt]
    · rw [hl]
      intro c hc
      rcases List.mem_append.1 hc with hc | hc
      · exact not_isSpace_toDigits _ c hc
      · rcases List.mem_cons.1 hc with rfl | hc
        exacts [rfl, not_isSpace_toDigits _ c hc]

/-- **Header intervals parse exactly and print back.** Over every string, the parser succeeds
with `(lo, hi)` exactly on the trimmed literal of `[lo, hi]`: one run of digits below `2^32` for a
point, two around one dash for a range with `lo ≤ hi`. Every interval `a ≤ b` it prints, it reads
back. -/
theorem parseMagicHeaderInterval_accepts_literals :
    (∀ (s : String) (lo hi : UInt32), parseMagicHeaderInterval s = .ok (lo, hi) ↔
      HeaderLiteral (trimSpace s).toList lo.toNat hi.toNat) ∧
    ∀ a b : UInt32, a ≤ b → parseMagicHeaderInterval (formatMagicHeaderInterval a b) = .ok (a, b) :=
  ⟨parseMagicHeaderInterval_iff, fun _ _ hab =>
    (parseMagicHeaderInterval_iff _ _ _).2 (formatMagicHeaderInterval_literal hab)⟩

theorem parseMagicHeaderInterval_accepts_literals_range :
    (100 : UInt32) ≤ 200 ∧
    parseMagicHeaderInterval (formatMagicHeaderInterval 100 200) = .ok (100, 200) :=
  ⟨by decide, parseMagicHeaderInterval_accepts_literals.2 100 200 (by decide)⟩

end WireproxyAwg.Config
