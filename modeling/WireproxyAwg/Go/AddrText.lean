import WireproxyAwg.Go.Net

/-!
# Address text round trips

`resolveTarget` joins a host and a port into one string with `net.JoinHostPort`
and `strconv.Itoa`; `createUDPConnectionAsync` takes that string apart again with
`net.SplitHostPort` and `strconv.Atoi` to learn the port its replies carry. This
file proves that the round trip gives back the host and the port, for every host
the relay can put there: an address literal `net.ParseIP` accepted, or the text
of a resolved IP.

The only characters that could make `SplitHostPort` cut elsewhere are brackets,
and a colon in the port, so the host side is a statement about brackets: neither
an accepted literal nor the text of any IP contains one.
-/

namespace WireproxyAwg.Go

/-! ## Decimal numerals

`Nat.toDigits` is what `toString` prints; the lemmas below take it apart one
digit at a time so that the `ParseUint` digit loop can be run over it. -/

theorem toDigitsCore_append (b f n : Nat) (ds : List Char) :
    Nat.toDigitsCore b f n ds = Nat.toDigitsCore b f n [] ++ ds := by
  induction f generalizing n ds with
  | zero => rfl
  | succ f ih =>
    simp only [Nat.toDigitsCore]
    split_ifs
    · rfl
    · rw [ih, ih (n / b) [_]]; simp

theorem toDigitsCore_fuel {b : Nat} (hb : 2 ≤ b) {f f' n : Nat} (hf : n < f) (hf' : n < f')
    (ds : List Char) : Nat.toDigitsCore b f n ds = Nat.toDigitsCore b f' n ds := by
  induction f generalizing f' n ds with
  | zero => omega
  | succ f ih =>
    obtain ⟨f', rfl⟩ : ∃ g, f' = g + 1 := ⟨f' - 1, by omega⟩
    simp only [Nat.toDigitsCore]
    split_ifs with h0
    · rfl
    · have : n / b < n := Nat.div_lt_self (Nat.pos_of_ne_zero fun h => h0 (by simp [h])) (by omega)
      exact ih (by omega) (by omega) _

/-- The last digit comes off the end. -/
theorem toDigits_of_le {b n : Nat} (hb : 2 ≤ b) (hn : b ≤ n) :
    Nat.toDigits b n = Nat.toDigits b (n / b) ++ [Nat.digitChar (n % b)] := by
  have h0 : n / b ≠ 0 := by
    have := (Nat.le_div_iff_mul_le (by omega)).2 (show 1 * b ≤ n by omega); omega
  have : n / b < n := Nat.div_lt_self (by omega) (by omega)
  rw [Nat.toDigits, Nat.toDigitsCore, if_neg h0, toDigitsCore_append,
    toDigitsCore_fuel hb (by omega) (Nat.lt_succ_self _), Nat.toDigits]

theorem toDigits_of_lt {b n : Nat} (hn : n < b) : Nat.toDigits b n = [Nat.digitChar n] := by
  rw [Nat.toDigits, Nat.toDigitsCore, Nat.div_eq_of_lt hn, if_pos rfl, Nat.mod_eq_of_lt hn]

theorem mem_toDigits {b n : Nat} (hb : 2 ≤ b) {c : Char} (hc : c ∈ Nat.toDigits b n) :
    ∃ k < b, c = Nat.digitChar k := by
  induction n using Nat.strong_induction_on with
  | _ n ih =>
    rcases Nat.lt_or_ge n b with hn | hn
    · rw [toDigits_of_lt hn, List.mem_singleton] at hc
      exact ⟨n, hn, hc⟩
    · rw [toDigits_of_le hb hn, List.mem_append, List.mem_singleton] at hc
      rcases hc with hc | hc
      · exact ih _ (Nat.div_lt_self (by omega) (by omega)) hc
      · exact ⟨n % b, Nat.mod_lt _ (by omega), hc⟩

/-- One step of reading a decimal numeral. -/
def decStep (acc : Nat) (c : Char) : Nat := acc * 10 + (c.toNat - '0'.toNat)

theorem digitChar_toNat {k : Nat} (hk : k < 10) : (Nat.digitChar k).toNat - '0'.toNat = k := by
  have : ∀ k, k < 10 → (Nat.digitChar k).toNat - '0'.toNat = k := by decide
  exact this k hk

theorem foldl_toDigits (n : Nat) : (Nat.toDigits 10 n).foldl decStep 0 = n := by
  induction n using Nat.strong_induction_on with
  | _ n ih =>
    rcases Nat.lt_or_ge n 10 with hn | hn
    · rw [toDigits_of_lt hn]; simp only [List.foldl, decStep, Nat.zero_mul, Nat.zero_add, digitChar_toNat hn]
    · rw [toDigits_of_le (by decide) hn, List.foldl_append, ih _ (Nat.div_lt_self (by omega) (by omega))]
      simp only [List.foldl, decStep, digitChar_toNat (Nat.mod_lt n (show 10 > 0 by decide))]
      omega


theorem le_foldl_decStep (l : List Char) (acc : Nat) : acc ≤ l.foldl decStep acc := by
  induction l generalizing acc with
  | nil => exact le_refl acc
  | cons c l ih => exact (show acc ≤ decStep acc c by unfold decStep; omega).trans (ih _)

/-- A run of decimal digits whose value fits reads as that value. -/
theorem parseDigits_decimal {M : Nat} (hM : M ≤ 2 ^ 64 - 1) (l : List Char) (acc : Nat) (us : Bool)
    (hl : ∀ c ∈ l, '0' ≤ c ∧ c ≤ '9') (hv : l.foldl decStep acc ≤ M) :
    parseDigits 10 M false acc us l = some (some (l.foldl decStep acc, us)) := by
  induction l generalizing acc with
  | nil => rfl
  | cons c l ih =>
    have hc := hl c (List.mem_cons_self c l)
    have hstep := le_foldl_decStep l (decStep acc c)
    simp only [List.foldl] at hv ⊢
    have hd : c.toNat - '0'.toNat < 10 := by have : 48 ≤ c.toNat ∧ c.toNat ≤ 57 := hc; simp; omega
    rw [parseDigits, if_neg (by simp), digitVal, if_pos hc]
    simp only [decStep] at hstep hv ⊢
    rw [if_neg (by omega), if_neg (by omega), if_neg (by omega)]
    exact ih _ (fun c hc' => hl c (List.mem_cons_of_mem _ hc')) hv

theorem digitChar_decimal {k : Nat} (hk : k < 10) : '0' ≤ Nat.digitChar k ∧ Nat.digitChar k ≤ '9' := by
  have : ∀ k, k < 10 → '0' ≤ Nat.digitChar k ∧ Nat.digitChar k ≤ '9' := by decide
  exact this k hk

theorem toDigits_decimal (n : Nat) : ∀ c ∈ Nat.toDigits 10 n, '0' ≤ c ∧ c ≤ '9' := by
  intro c hc
  obtain ⟨k, hk, rfl⟩ := mem_toDigits (by decide) hc
  exact digitChar_decimal hk

theorem toDigits_ne_nil (b n : Nat) : Nat.toDigits b n ≠ [] := by
  rw [Nat.toDigits, Nat.toDigitsCore, toDigitsCore_append]
  split_ifs <;> simp

/-- `strconv.Atoi` reads back what `strconv.Itoa` wrote. -/
theorem Atoi_itoa {n : Nat} (hn : n < 2 ^ 63) : Atoi (itoa n) = ((n : Int), none) := by
  have hdig := toDigits_decimal n
  obtain ⟨c0, t, ht⟩ : ∃ c0 t, Nat.toDigits 10 n = c0 :: t :=
    List.exists_cons_of_ne_nil (toDigits_ne_nil 10 n)
  have h0 := hdig c0 (ht ▸ List.mem_cons_self c0 t)
  have hp := parseDigits_decimal (M := 2 ^ 64 - 1) le_rfl (Nat.toDigits 10 n) 0 false hdig
    (by rw [foldl_toDigits]; omega)
  rw [foldl_toDigits, ht] at hp
  have h1 : c0 ≠ '+' := fun h => by subst h; revert h0; decide
  have h2 : c0 ≠ '-' := fun h => by subst h; revert h0; decide
  have h3 : ¬ 9223372036854775808 ≤ n := by omega
  -- the bound appears as `2 ^ 64 - 1` or as its value, depending on the simp set
  have hp' : parseDigits 10 18446744073709551615 false 0 false (c0 :: t) = some (some (n, false)) := hp
  simp [Atoi, parseInt, itoa, toString, Nat.repr, List.asString, ht, h1, h2, parseUint, String.toList,
    hp, hp', h3]

/-! ## Brackets -/

def Bracketless (s : List Char) : Prop := '[' ∉ s ∧ ']' ∉ s

instance : DecidablePred Bracketless := fun s => inferInstanceAs (Decidable ('[' ∉ s ∧ ']' ∉ s))

theorem Bracketless.append {s t : List Char} (hs : Bracketless s) (ht : Bracketless t) :
    Bracketless (s ++ t) := by
  simp only [Bracketless, List.mem_append, not_or] at *; tauto

theorem bracketless_nil : Bracketless [] := ⟨List.not_mem_nil _, List.not_mem_nil _⟩

theorem bracketless_cons {c : Char} {s : List Char} (hc : c ≠ '[' ∧ c ≠ ']') (hs : Bracketless s) :
    Bracketless (c :: s) := by
  simp only [Bracketless, List.mem_cons, not_or] at *
  exact ⟨⟨hc.1.symm, hs.1⟩, ⟨hc.2.symm, hs.2⟩⟩

theorem digit_ne_bracket {c : Char} (h : '0' ≤ c ∧ c ≤ '9') : c ≠ '[' ∧ c ≠ ']' := by
  constructor <;> rintro rfl <;> revert h <;> decide

theorem bracketless_of_forall {s : List Char} (h : ∀ c ∈ s, c ≠ '[' ∧ c ≠ ']') : Bracketless s :=
  ⟨fun hm => (h _ hm).1 rfl, fun hm => (h _ hm).2 rfl⟩

theorem digitChar_ne_bracket (k : Nat) : Nat.digitChar k ≠ '[' ∧ Nat.digitChar k ≠ ']' := by
  by_cases hk : k < 16
  · have : ∀ k < 16, Nat.digitChar k ≠ '[' ∧ Nat.digitChar k ≠ ']' := by decide
    exact this k hk
  · simp (disch := omega) only [Nat.digitChar, if_neg]; decide

theorem bracketless_intercalate_go (sep : String) (hsep : Bracketless sep.toList) :
    ∀ (l : List String) (acc : String), Bracketless acc.toList → (∀ x ∈ l, Bracketless x.toList) →
      Bracketless (String.intercalate.go acc sep l).toList := by
  intro l
  induction l with
  | nil => intro acc hacc _; exact hacc
  | cons a l ih =>
    intro acc hacc hl
    exact ih _ (by simpa using (hacc.append hsep).append (hl a (List.mem_cons_self a l)))
      fun x hx => hl x (List.mem_cons_of_mem a hx)

theorem bracketless_intercalate (sep : String) (hsep : Bracketless sep.toList) (l : List String)
    (hl : ∀ x ∈ l, Bracketless x.toList) : Bracketless (sep.intercalate l).toList := by
  cases l with
  | nil => exact ⟨List.not_mem_nil _, List.not_mem_nil _⟩
  | cons a l =>
    exact bracketless_intercalate_go sep hsep l a (hl a (List.mem_cons_self a l))
      fun x hx => hl x (List.mem_cons_of_mem a hx)

theorem bracketless_toDigits {b : Nat} (hb : 2 ≤ b) (n : Nat) : Bracketless (Nat.toDigits b n) :=
  bracketless_of_forall fun _ hc => by
    obtain ⟨k, -, rfl⟩ := mem_toDigits hb hc
    exact digitChar_ne_bracket k

/-- `strconv.Itoa` of a natural number is digits only. -/
theorem itoa_digits (n : Nat) : ':' ∉ (itoa n).toList ∧ Bracketless (itoa n).toList := by
  have h : ∀ c ∈ (itoa n).toList, '0' ≤ c ∧ c ≤ '9' := toDigits_decimal n
  exact ⟨fun hm => absurd (h _ hm) (by decide),
    bracketless_of_forall fun c hc => digit_ne_bracket (h c hc)⟩

/-- The text of any IP, of whatever length, has no brackets. -/
theorem bracketless_IP_String (ip : IP) : Bracketless ip.String.toList := by
  unfold IP.String
  have hjoin : ∀ g : List Nat, Bracketless (":".intercalate (g.map groupText)).toList := fun g =>
    bracketless_intercalate _ ⟨by decide, by decide⟩ _ (by
      simp only [List.mem_map]; rintro _ ⟨n, -, rfl⟩; exact bracketless_toDigits (by decide) n)
  split_ifs
  · exact ⟨by decide, by decide⟩
  · refine bracketless_of_forall fun c hc => ?_
    simp [hexString, hexDigit] at hc
    rcases hc with rfl | ⟨a, -, rfl | rfl⟩
    · decide
    all_goals exact digitChar_ne_bracket _
  · split
    · exact bracketless_intercalate _ ⟨by decide, by decide⟩ _ (by
        simp only [List.mem_map]; rintro _ ⟨b, -, rfl⟩; exact bracketless_toDigits (by decide) _)
    · unfold ipv6Text
      dsimp only
      split
      · exact hjoin _
      · next s e _ =>
        have hsep : Bracketless "::".toList := ⟨by decide, by decide⟩
        simpa only [String.toList, String.data_append] using
          ((hjoin ((v6Groups ip).take s)).append hsep).append (hjoin ((v6Groups ip).drop e))

theorem bracketless_parseIPv4Fields_go (s : List Char) : ∀ first afterDot val digLen fields r,
    parseIPv4Fields.go s first afterDot val digLen fields = some r → Bracketless s := by
  induction s with
  | nil => intros; exact bracketless_nil
  | cons c rest ih =>
    intro first afterDot val digLen fields r h
    unfold parseIPv4Fields.go at h
    split_ifs at h with hd _ _ hdot
    · exact bracketless_cons (digit_ne_bracket hd) (ih _ _ _ _ _ _ h)
    · exact bracketless_cons (by subst hdot; decide) (ih _ _ _ _ _ _ h)

theorem bracketless_parseIPv4Fields {s : List Char} {r : List UInt8} (h : parseIPv4Fields s = some r) :
    Bracketless s := bracketless_parseIPv4Fields_go s _ _ _ _ _ _ h

theorem hexGroup_split {s rest : List Char} {v off : Nat} (h : hexGroup s = some (v, off, rest)) :
    ∃ pre, s = pre ++ rest ∧ Bracketless pre ∧ off = pre.length := by
  unfold hexGroup at h
  dsimp only at h
  split_ifs at h
  cases h
  refine ⟨_, ?_, ⟨fun hm => ?_, fun hm => ?_⟩, rfl⟩
  · conv_lhs => rw [← List.take_append_drop (List.takeWhile (fun c => (hexVal c).isSome) s).length s]
    rw [← List.prefix_iff_eq_take.1 (List.takeWhile_prefix _)]
  · have := List.mem_takeWhile_imp hm; revert this; decide
  · have := List.mem_takeWhile_imp hm; revert this; decide


theorem parseIPv6Groups_split : ∀ (n : Nat) (s : List Char) (i : Nat) (ell : Option Nat)
    (acc a : List UInt8) (i' : Nat) (e' : Option Nat) (rest : List Char),
    parseIPv6Groups n s i ell acc = some (a, i', e', rest) → ∃ pre, s = pre ++ rest ∧ Bracketless pre
  | 0, s, i, ell, acc, a, i', e', rest, h => by
    simp only [parseIPv6Groups, Option.some.injEq, Prod.mk.injEq] at h
    exact ⟨[], by rw [h.2.2.2]; rfl, bracketless_nil⟩
  | n + 1, s, i, ell, acc, a, i', e', rest, h => by
    rw [parseIPv6Groups] at h
    split at h
    · cases h
    · next v off rest0 hg =>
      obtain ⟨pre, rfl, hpre, rfl⟩ := hexGroup_split hg
      by_cases h0 : pre.length = 0
      · rw [if_pos h0] at h; cases h
      rw [if_neg h0] at h
      by_cases hdot : rest0.head? = some '.'
      · rw [if_pos hdot] at h
        split_ifs at h
        split at h
        · cases h
        · next f hf =>
          cases h; exact ⟨pre ++ rest0, by simp, bracketless_parseIPv4Fields hf⟩
      · rw [if_neg hdot] at h
        dsimp only at h
        split at h
        · cases h; exact ⟨pre, by simp, hpre⟩
        · cases h
        · next t =>
          split_ifs at h with he ht
          · cases h; subst ht; exact ⟨pre ++ [':', ':'], by simp, hpre.append (by decide)⟩
          · obtain ⟨q, rfl, hq⟩ := parseIPv6Groups_split n _ _ _ _ _ _ _ _ h
            exact ⟨pre ++ ':' :: ':' :: q, by simp,
              hpre.append (bracketless_cons (by decide) (bracketless_cons (by decide) hq))⟩
        · next t _ =>
          obtain ⟨q, rfl, hq⟩ := parseIPv6Groups_split n _ _ _ _ _ _ _ _ h
          exact ⟨pre ++ ':' :: q, by simp, hpre.append (bracketless_cons (by decide) hq)⟩
        · cases h


/-- What `parseIPv6` reads after an optional leading `::` is all consumed by the group loop. -/
theorem bracketless_of_parseIPv6_body {ell : Option Nat} {s : List Char} {ip : List UInt8}
    (h : (if ell.isSome ∧ s = [] then some (List.replicate 16 0)
      else match parseIPv6Groups 8 s 0 ell [] with
        | none => none
        | some (acc, i, ell, rest) =>
          if rest ≠ [] then none
          else if i < 16 then
            match ell with
            | none => none
            | some e => some (acc.take e ++ List.replicate (16 - i) 0 ++ acc.drop e)
          else if ell.isSome then none
          else some acc) = some ip) : Bracketless s := by
  split_ifs at h with h1
  · rw [h1.2]; exact bracketless_nil
  · split at h
    · cases h
    · next acc i e rest hg =>
      obtain ⟨pre, rfl, hpre⟩ := parseIPv6Groups_split _ _ _ _ _ _ _ _ _ hg
      by_cases hr : rest = []
      · subst hr; simpa using hpre
      · rw [if_pos hr] at h; cases h

theorem bracketless_parseIPv6 {s : List Char} {ip : List UInt8} (h : parseIPv6 s = some ip) :
    Bracketless s := by
  unfold parseIPv6 at h
  split at h
  next ell s' heq =>
    have hb := bracketless_of_parseIPv6_body h
    split at heq <;> cases heq
    · exact bracketless_cons (by decide) (bracketless_cons (by decide) hb)
    · exact hb

/-- An address literal `net.ParseIP` accepts has no brackets. -/
theorem bracketless_of_ParseIP {s : String} {ip : IP} (h : ParseIP s = some ip) : Bracketless s.toList := by
  unfold ParseIP at h
  split at h
  · obtain ⟨f, hf, -⟩ := Option.map_eq_some'.1 h
    exact bracketless_parseIPv4Fields hf
  · split_ifs at h
    exact bracketless_parseIPv6 h
  · cases h

/-! ## `net.ParseIP` answers in 16 bytes -/

theorem length_parseIPv4Fields_go (s : List Char) : ∀ first afterDot val digLen fields r,
    fields.length ≤ 3 → parseIPv4Fields.go s first afterDot val digLen fields = some r → r.length = 4 := by
  induction s with
  | nil =>
    intro first afterDot val digLen fields r hf h
    simp only [parseIPv4Fields.go] at h
    split_ifs at h with h3
    cases h; simp; omega
  | cons c rest ih =>
    intro first afterDot val digLen fields r hf h
    unfold parseIPv4Fields.go at h
    split_ifs at h
    · exact ih _ _ _ _ _ _ hf h
    · exact ih _ _ _ _ _ _ (by simp; omega) h

theorem length_parseIPv4Fields {s : List Char} {r : List UInt8} (h : parseIPv4Fields s = some r) :
    r.length = 4 := length_parseIPv4Fields_go s _ _ _ _ _ _ (by simp) h

/-- The group loop keeps one byte per position, never passes 16 bytes, and puts the `::` inside. -/
theorem parseIPv6Groups_bounds : ∀ (n : Nat) (s : List Char) (i : Nat) (ell : Option Nat)
    (acc a : List UInt8) (i' : Nat) (e' : Option Nat) (rest : List Char),
    acc.length = i → i + 2 * n ≤ 16 → (∀ e, ell = some e → e ≤ i) →
    parseIPv6Groups n s i ell acc = some (a, i', e', rest) →
      a.length = i' ∧ i' ≤ 16 ∧ ∀ e, e' = some e → e ≤ i'
  | 0, s, i, ell, acc, a, i', e', rest, hacc, hi, he, h => by
    simp only [parseIPv6Groups, Option.some.injEq, Prod.mk.injEq] at h
    obtain ⟨rfl, rfl, rfl, -⟩ := h
    exact ⟨hacc, by omega, he⟩
  | n + 1, s, i, ell, acc, a, i', e', rest, hacc, hi, he, h => by
    rw [parseIPv6Groups] at h
    split at h
    · cases h
    · next v off rest0 hg =>
      by_cases h0 : off = 0
      · rw [if_pos h0] at h; cases h
      rw [if_neg h0] at h
      by_cases hdot : rest0.head? = some '.'
      · rw [if_pos hdot] at h
        split_ifs at h with h1 h2
        split at h
        · cases h
        · next f hf =>
          cases h
          refine ⟨by simp [hacc, length_parseIPv4Fields hf], by omega, fun e he' => ?_⟩
          have := he e he'; omega
      · rw [if_neg hdot] at h
        dsimp only at h
        have hacc' : (acc ++ [UInt8.ofNat (v / 256), UInt8.ofNat (v % 256)]).length = i + 2 := by simp [hacc]
        split at h
        · cases h; exact ⟨hacc', by omega, fun e he' => by have := he e he'; omega⟩
        · cases h
        · next t =>
          split_ifs at h with hs ht
          · cases h; exact ⟨hacc', by omega, fun e he' => by cases he'; omega⟩
          · exact parseIPv6Groups_bounds n _ _ _ _ _ _ _ _ hacc' (by omega)
              (fun e he' => by cases he'; omega) h
        · next t _ =>
          exact parseIPv6Groups_bounds n _ _ _ _ _ _ _ _ hacc' (by omega)
            (fun e he' => by have := he e he'; omega) h
        · cases h

theorem length_parseIPv6 {s : List Char} {ip : List UInt8} (h : parseIPv6 s = some ip) :
    ip.length = 16 := by
  unfold parseIPv6 at h
  split at h
  next ell s' heq =>
    have hell : ∀ e, ell = some e → e ≤ 0 := by
      split at heq <;> cases heq <;> simp
    split_ifs at h with h1
    · cases h; simp
    · split at h
      · cases h
      · next acc i e rest hg =>
        obtain ⟨hlen, hi, he⟩ := parseIPv6Groups_bounds 8 s' 0 ell [] acc i e rest rfl (by omega) hell hg
        split_ifs at h with hr hi16 hsome
        · split at h
          · cases h
          · next e0 =>
            cases h
            have := he e0 rfl
            simp [hlen]; omega
        · cases h; omega

/-- `net.ParseIP` always answers in the 16-byte form. -/
theorem length_ParseIP {s : String} {ip : IP} (h : ParseIP s = some ip) : ip.length = 16 := by
  unfold ParseIP at h
  split at h
  · obtain ⟨f, hf, rfl⟩ := Option.map_eq_some'.1 h
    simp [v4InV6Prefix, length_parseIPv4Fields hf]
  · split_ifs at h
    exact length_parseIPv6 h
  · cases h

/-! ## `host:port` -/

theorem lastIndexOf_append (l r : List Char) (c : Char) (hr : c ∉ r) :
    lastIndexOf (l ++ c :: r) c = some l.length := by
  have : (r.enumFrom (l.length + 1)).filter (·.2 = c) = [] := List.filter_eq_nil_iff.2 fun x hx => by
    simp only [decide_eq_true_eq]; rintro rfl; exact hr (List.snd_mem_of_mem_enumFrom hx)
  simp [lastIndexOf, List.enum_append, List.filter_append, List.enumFrom_cons, this]

theorem indexOf?_append (l r : List Char) (c : Char) (hl : c ∉ l) :
    (l ++ c :: r).indexOf? c = some l.length := by
  have hn : List.findIdx? (· == c) l = none := List.findIdx?_eq_none_iff.2 fun x hx => by
    simp only [beq_eq_false_iff_ne, ne_eq]; rintro rfl; exact hl hx
  simp [List.indexOf?, List.findIdx?_append, hn]

/-- `net.SplitHostPort` undoes `net.JoinHostPort` for a host without brackets and a port without
colons or brackets. -/
theorem SplitHostPort_JoinHostPort {host port : String}
    (hh : '[' ∉ host.toList ∧ ']' ∉ host.toList)
    (hp : ':' ∉ port.toList ∧ '[' ∉ port.toList ∧ ']' ∉ port.toList) :
    SplitHostPort (JoinHostPort host port) = .ok (host, port) := by
  unfold JoinHostPort
  split_ifs with hc
  · have e : ("[" ++ host ++ "]:" ++ port).toList =
        '[' :: (host.toList ++ ']' :: ':' :: port.toList) := by simp
    have hlast : lastIndexOf ('[' :: (host.toList ++ ']' :: ':' :: port.toList)) ':' =
        some (host.toList.length + 2) := by
      simpa using lastIndexOf_append ('[' :: host.toList ++ [']']) port.toList ':' hp.1
    have hidx : ('[' :: (host.toList ++ ']' :: ':' :: port.toList)).indexOf? ']' =
        some (host.toList.length + 1) := by
      simpa using indexOf?_append ('[' :: host.toList) (':' :: port.toList) ']'
        (by simp only [List.mem_cons, not_or]; exact ⟨by decide, hh.2⟩)
    simp only [SplitHostPort, e, hlast, List.head?_cons, if_true, hidx]
    rw [if_neg (by simp), List.take_succ_cons, List.drop_one, List.tail_cons, List.take_left]
    have hd : ∀ k, List.drop (host.toList.length + 1 + k) ('[' :: (host.toList ++ ']' :: ':' :: port.toList)) =
        List.drop k (']' :: ':' :: port.toList) := fun k => by
      rw [show host.toList.length + 1 + k = (host.toList.length + k) + 1 by omega, List.drop_succ_cons,
        List.drop_append]
    have h1 : '[' ∉ List.drop 1 ('[' :: (host.toList ++ ']' :: ':' :: port.toList)) := by
      simp only [List.drop_one, List.tail_cons, List.mem_append, List.mem_cons, not_or]
      exact ⟨hh.1, by decide, by decide, hp.2.1⟩
    have h2 : ']' ∉ List.drop (host.toList.length + 1 + 1) ('[' :: (host.toList ++ ']' :: ':' :: port.toList)) := by
      rw [hd 1]; simp only [List.drop_one, List.tail_cons, List.mem_cons, not_or]
      exact ⟨by decide, hp.2.2⟩
    dsimp only
    rw [if_neg h1, if_neg h2, show host.toList.length + 2 + 1 = host.toList.length + 1 + 2 by omega, hd 2]
    rfl
  · have e : (host ++ ":" ++ port).toList = host.toList ++ ':' :: port.toList := by simp
    have hhead : (host.toList ++ ':' :: port.toList).head? ≠ some '[' := by
      cases hx : host.toList with
      | nil => simp
      | cons a t => simp only [List.cons_append, List.head?_cons, ne_eq, Option.some.injEq]; rintro rfl; exact hh.1 (hx ▸ List.mem_cons_self _ _)
    simp only [SplitHostPort, e, lastIndexOf_append _ _ _ hp.1, if_neg hhead, List.take_left, if_neg hc,
      List.drop_zero, List.drop_left', List.length_append]
    rw [if_neg (by simp only [List.mem_append, List.mem_cons, not_or]; exact ⟨hh.1, by decide, hp.2.1⟩),
      if_neg (by simp only [List.mem_append, List.mem_cons, not_or]; exact ⟨hh.2, by decide, hp.2.2⟩),
      List.drop_append_eq_append_drop, List.drop_eq_nil_of_le (by omega)]
    simp only [List.nil_append, Nat.add_sub_cancel_left, List.drop_one, List.tail_cons]
    rfl

/-- The port `createUDPConnectionAsync` reads back out of `resolveTarget`'s address. -/
theorem SplitHostPort_JoinHostPort_itoa {host : String} (hh : Bracketless host.toList) (n : Nat) :
    SplitHostPort (JoinHostPort host (itoa n)) = .ok (host, itoa n) :=
  SplitHostPort_JoinHostPort hh ⟨(itoa_digits n).1, (itoa_digits n).2⟩

end WireproxyAwg.Go
