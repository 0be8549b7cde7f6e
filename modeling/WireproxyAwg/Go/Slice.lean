import Mathlib

/-!
# Byte slices over a heap of arrays

The relay's hot path is Go slice code: `buf[:n]`, `data[headerLen:]`, `buf[4:8]`,
`copy`, `binary.BigEndian`. Two things about it matter to the properties proved
later, and both are about the difference between a slice and its bytes.

* A slice is a *view*. `payload := data[headerLen:]` does not copy; it keeps
  pointing into the receive buffer, and whoever writes that buffer next changes
  what the payload reads as.
* Every index and every reslice is bounds-checked at run time, against `len` for
  an index and against `cap` for a reslice, and a failed check panics.

So a slice here is a header `(arr, off, len, cap)` into a heap of byte arrays, and
every access returns `Except Panic`. A header always has `len ≤ cap`, as Go's do.
Arrays never change length once made, which is what keeps a header pointing into
its array for as long as it lives.
-/

namespace WireproxyAwg.Go

/-- A run-time panic of slice code. -/
inductive Panic where
  | indexOutOfRange
  | sliceBoundsOutOfRange
  deriving DecidableEq, Repr

/-- Every byte array allocated so far, by address. -/
abbrev Heap := List (List UInt8)

/-- A `[]byte` header: the array it views, where the view starts, `len` and `cap`. -/
structure Slice where
  arr : Nat
  off : Nat
  len : Nat
  cap : Nat
  len_le_cap : len ≤ cap
  deriving DecidableEq

/-- The backing array at an address (empty when nothing was allocated there). -/
def Heap.array (h : Heap) (a : Nat) : List UInt8 := h.getD a []

/-- A header points into memory that exists: its view up to `cap` fits in its array. -/
def Slice.Valid (h : Heap) (s : Slice) : Prop := s.off + s.cap ≤ (h.array s.arr).length

/-- The bytes a slice reads as right now: `s[0:len]`. -/
def Slice.bytes (h : Heap) (s : Slice) : List UInt8 :=
  ((h.array s.arr).drop s.off).take s.len

/-- `s[i]`. -/
def Slice.get (h : Heap) (s : Slice) (i : Nat) : Except Panic UInt8 :=
  if i < s.len then .ok ((h.array s.arr).getD (s.off + i) 0) else .error .indexOutOfRange

/-- `s[lo:hi]`, checked against the capacity as Go does. -/
def Slice.slice (s : Slice) (lo hi : Nat) : Except Panic Slice :=
  if hb : lo ≤ hi ∧ hi ≤ s.cap then .ok ⟨s.arr, s.off + lo, hi - lo, s.cap - lo, by omega⟩
  else .error .sliceBoundsOutOfRange

/-- `s[lo:]`: the high bound defaults to `len`. -/
def Slice.sliceFrom (s : Slice) (lo : Nat) : Except Panic Slice := s.slice lo s.len

/-- Overwrite `a` with `src` from position `off` on. -/
def overwrite (a : List UInt8) (off : Nat) (src : List UInt8) : List UInt8 :=
  a.take off ++ src ++ a.drop (off + src.length)

/-- Store `src` into the array under `s` from the start of its view. -/
def Heap.write (h : Heap) (s : Slice) (src : List UInt8) : Heap :=
  h.modify (fun a => overwrite a s.off src) s.arr

/-- `s[i] = v`. -/
def Heap.set (h : Heap) (s : Slice) (i : Nat) (v : UInt8) : Except Panic Heap :=
  if i < s.len then .ok (h.modify (fun a => a.set (s.off + i) v) s.arr)
  else .error .indexOutOfRange

/-- `copy(dst, src)`: the first `min(len(dst), len(src))` bytes of `src`. -/
def Heap.copy (h : Heap) (dst : Slice) (src : List UInt8) : Heap := h.write dst (src.take dst.len)

/-- `make([]byte, n)`: a fresh zeroed array at the next address. -/
def Heap.make (h : Heap) (n : Nat) : Heap × Slice :=
  (h ++ [List.replicate n 0], ⟨h.length, 0, n, n, le_refl n⟩)

/-- `binary.BigEndian.Uint16(b)`: `_ = b[1]`, then `uint16(b[1]) | uint16(b[0])<<8`. -/
def bigEndianUint16 (h : Heap) (b : Slice) : Except Panic UInt16 := do
  let lo ← b.get h 1
  let hi ← b.get h 0
  pure (UInt16.ofNat (hi.toNat * 256 + lo.toNat))

/-- `binary.BigEndian.PutUint16(b, v)`: `_ = b[1]`, `b[0] = byte(v>>8)`, `b[1] = byte(v)`. -/
def bigEndianPutUint16 (h : Heap) (b : Slice) (v : UInt16) : Except Panic Heap := do
  let _ ← b.get h 1
  let h ← h.set b 0 (UInt8.ofNat (v.toNat / 256))
  h.set b 1 (UInt8.ofNat (v.toNat % 256))

/-- The two big-endian bytes of a 16-bit value. -/
def be16 (v : UInt16) : List UInt8 := [UInt8.ofNat (v.toNat / 256), UInt8.ofNat (v.toNat % 256)]

@[simp] theorem length_be16 (v : UInt16) : (be16 v).length = 2 := rfl

/-! ## Checks that pass -/

/-- A step that did not panic hands its value on. -/
@[simp] theorem ok_bind {ε α β : Type} (a : α) (f : α → Except ε β) : (Except.ok a >>= f) = f a := rfl

section Access

variable {h : Heap} {s : Slice}

theorem Slice.get_of_lt {i : Nat} (hi : i < s.len) :
    s.get h i = pure ((h.array s.arr).getD (s.off + i) 0) := if_pos hi

theorem Slice.slice_of_le {lo hi : Nat} (h1 : lo ≤ hi) (h2 : hi ≤ s.cap) :
    s.slice lo hi = pure ⟨s.arr, s.off + lo, hi - lo, s.cap - lo, by omega⟩ := dif_pos ⟨h1, h2⟩

theorem Heap.set_of_lt {i : Nat} {v : UInt8} (hi : i < s.len) :
    h.set s i v = pure (h.modify (fun a => a.set (s.off + i) v) s.arr) := if_pos hi

theorem bigEndianPutUint16_of_le {v : UInt16} (hb : 2 ≤ s.len) :
    bigEndianPutUint16 h s v = pure ((h.modify (fun a => a.set (s.off + 0) (UInt8.ofNat (v.toNat / 256))) s.arr).modify
      (fun a => a.set (s.off + 1) (UInt8.ofNat (v.toNat % 256))) s.arr) := by
  simp only [bigEndianPutUint16, Slice.get_of_lt (show 1 < s.len by omega),
    Heap.set_of_lt (show 0 < s.len by omega), Heap.set_of_lt (show 1 < s.len by omega)]
  rfl

/-- An index reads the slice's bytes (zero past the end of a short array, as both sides do). -/
theorem Slice.get_eq_bytes {i : Nat} (hi : i < s.len) : s.get h i = pure ((s.bytes h).getD i 0) := by
  rw [Slice.get_of_lt hi, Slice.bytes]
  simp only [List.getD_eq_getElem?_getD, List.getElem?_take, if_pos hi, List.getElem?_drop]

/-- A view `n` bytes long starting `lo` bytes into `s`, inside `len`, reads that part of `s`'s
bytes (whatever capacity it was given). -/
theorem Slice.bytes_sub {lo n c : Nat} {p : n ≤ c} (hn : lo + n ≤ s.len) :
    Slice.bytes h ⟨s.arr, s.off + lo, n, c, p⟩ = ((s.bytes h).drop lo).take n := by
  simp only [Slice.bytes, List.drop_take, List.drop_drop, List.take_take]
  rw [Nat.min_eq_left (by omega), Nat.add_comm]

theorem bigEndianUint16_of_le (hb : 2 ≤ s.len) :
    bigEndianUint16 h s = pure (UInt16.ofNat (((s.bytes h).getD 0 0).toNat * 256 + ((s.bytes h).getD 1 0).toNat)) := by
  simp only [bigEndianUint16, Slice.get_eq_bytes (show 1 < s.len by omega),
    Slice.get_eq_bytes (show 0 < s.len by omega)]
  rfl

end Access

/-- `binary.BigEndian.Uint16` undoes `PutUint16`. -/
theorem be16_decode (v : UInt16) :
    UInt16.ofNat ((UInt8.ofNat (v.toNat / 256)).toNat * 256 + (UInt8.ofNat (v.toNat % 256)).toNat) = v := by
  have hv := v.toNat_lt_size
  have : UInt16.size = 65536 := rfl
  rw [UInt8.toNat_ofNat_of_lt (by show _ < 256; omega), UInt8.toNat_ofNat_of_lt (by show _ < 256; omega),
    Nat.div_add_mod']
  exact UInt16.toNat.inj (UInt16.toNat_ofNat_of_lt hv)

/-! ## A heap that only grows -/

/-- No array of `h` is shorter in `h'`: every header valid in `h` stays valid. -/
def Heap.Grows (h h' : Heap) : Prop := ∀ a, (h.array a).length ≤ (h'.array a).length

theorem Heap.Grows.refl (h : Heap) : h.Grows h := fun _ => le_refl _

theorem Heap.Grows.trans {h h' h'' : Heap} (h1 : h.Grows h') (h2 : h'.Grows h'') : h.Grows h'' :=
  fun a => (h1 a).trans (h2 a)

theorem Slice.Valid.mono {h h' : Heap} {s : Slice} (hv : s.Valid h) (hg : h.Grows h') : s.Valid h' :=
  hv.trans (hg s.arr)

theorem Heap.array_make_of_lt {h : Heap} {n a : Nat} (ha : a < h.length) :
    Heap.array (h.make n).1 a = h.array a := by
  simp [Heap.make, Heap.array, List.getD_eq_getElem?_getD, List.getElem?_append_left ha]

theorem Heap.make_grows (h : Heap) (n : Nat) : h.Grows (h.make n).1 := by
  intro a
  by_cases ha : a < h.length
  · rw [Heap.array_make_of_lt ha]
  · simp [Heap.array, List.getD_eq_getElem?_getD, List.getElem?_eq_none (Nat.le_of_not_lt ha)]

theorem Heap.make_valid (h : Heap) (n : Nat) : (h.make n).2.Valid (h.make n).1 := by
  simp [Slice.Valid, Heap.make, Heap.array, List.getD_eq_getElem?_getD]

/-! ## Overwriting -/

section Overwrite

variable {a s t : List UInt8} {i : Nat}

@[simp] theorem length_overwrite (hfit : i + s.length ≤ a.length) :
    (overwrite a i s).length = a.length := by
  simp only [overwrite, List.length_append, List.length_take, List.length_drop]; omega

theorem set_eq_overwrite {v : UInt8} (hi : i < a.length) : a.set i v = overwrite a i [v] := by
  simp [List.set_eq_take_append_cons_drop, hi, overwrite]

/-- Two writes that meet end to start are one write. -/
theorem overwrite_overwrite (hfit : i + s.length + t.length ≤ a.length) :
    overwrite (overwrite a i s) (i + s.length) t = overwrite a i (s ++ t) := by
  have hi : i ≤ a.length := by omega
  have h1 : (overwrite a i s).take (i + s.length) = a.take i ++ s := by
    simp [overwrite, List.take_append_eq_append_take, min_eq_left hi]
  have h2 : (overwrite a i s).drop (i + s.length + t.length) = a.drop (i + s.length + t.length) := by
    simp only [overwrite, List.append_assoc, List.drop_append_eq_append_drop, List.length_take,
      List.length_append, min_eq_left hi, List.drop_drop]
    rw [List.drop_eq_nil_of_le (by simp; omega), List.drop_eq_nil_of_le (by omega)]
    simp only [List.nil_append]; congr 1; omega
  show (overwrite a i s).take (i + s.length) ++ t ++ (overwrite a i s).drop (i + s.length + t.length) = _
  rw [h1, h2]; simp [overwrite, Nat.add_assoc]

theorem overwrite_all (hlen : s.length = a.length) : overwrite a 0 s = s := by
  simp [overwrite, hlen]

theorem drop_overwrite {k j : Nat} (hk : k ≤ a.length) :
    (overwrite a (k + j) s).drop k = overwrite (a.drop k) j s := by
  have : k ≤ (a.take (k + j)).length := by simp; omega
  rw [overwrite, List.append_assoc, List.drop_append_of_le_length this, List.drop_take,
    Nat.add_sub_cancel_left, overwrite, List.drop_drop, List.append_assoc, Nat.add_assoc,
    Nat.add_comm k]

theorem take_overwrite {n : Nat} (hi : i ≤ a.length) (hfit : i + s.length ≤ n) :
    (overwrite a i s).take n = overwrite (a.take n) i s := by
  simp only [overwrite, List.append_assoc, List.take_append_eq_append_take, List.length_take,
    List.take_take, List.drop_take, List.length_append, Nat.min_eq_left hi,
    Nat.min_eq_right (show i ≤ n by omega), Nat.min_eq_left (show i ≤ n by omega), Nat.sub_sub,
    List.take_of_length_le (show s.length ≤ n - i by omega)]

/-- Writing at the end of what has been written so far appends to it. -/
theorem overwrite_cursor (pre : List UInt8) :
    overwrite (pre ++ a.drop pre.length) pre.length s = pre ++ s ++ a.drop (pre.length + s.length) := by
  simp [overwrite, List.drop_append_eq_append_drop, List.drop_drop, Nat.add_comm]

end Overwrite

/-! ## Writes seen through a slice -/

section View

variable {h : Heap} {s : Slice}

theorem Heap.array_modify_self (f : List UInt8 → List UInt8) {a : Nat} (ha : a < h.length) :
    Heap.array (h.modify f a) a = f (h.array a) := by
  simp [Heap.array, List.getD_eq_getElem?_getD, List.getElem?_modify, List.getElem?_eq_getElem ha]

theorem Heap.array_modify_ne (f : List UInt8 → List UInt8) {a b : Nat} (hab : a ≠ b) :
    Heap.array (h.modify f a) b = h.array b := by
  simp only [Heap.array, List.getD_eq_getElem?_getD, List.getElem?_modify, if_neg hab]
  cases h[b]? <;> rfl

theorem Heap.length_modify (f : List UInt8 → List UInt8) (a : Nat) :
    (h.modify f a).length = h.length := List.length_modify f a h

theorem Slice.length_bytes_le (h : Heap) (s : Slice) : (s.bytes h).length ≤ s.len :=
  List.length_take_le _ _

theorem Slice.Valid.length_bytes (hv : s.Valid h) : (s.bytes h).length = s.len := by
  unfold Slice.Valid at hv
  have := s.len_le_cap
  simp [Slice.bytes]; omega

/-- Writes that fit keep every array's length. -/
theorem Heap.length_array_write {d : Slice} {src : List UInt8}
    (hfit : d.off + src.length ≤ (h.array d.arr).length) (b : Nat) :
    (Heap.array (h.write d src) b).length = (h.array b).length := by
  by_cases hb : d.arr = b
  · subst hb
    by_cases ha : d.arr < h.length
    · rw [Heap.write, Heap.array_modify_self _ ha, length_overwrite hfit]
    · rw [Heap.write, List.modify_eq_self (by omega)]
  · rw [Heap.write, Heap.array_modify_ne _ hb]

/-- Changing a cell in range is writing one byte there. -/
theorem Heap.modify_set_eq_write {a k : Nat} {v : UInt8} (hk : k < (h.array a).length) :
    h.modify (fun x => x.set k v) a = h.write ⟨a, k, 1, 1, le_refl 1⟩ [v] := by
  apply List.ext_getElem?
  intro b
  simp only [Heap.write, List.getElem?_modify]
  by_cases hb : a = b
  · subst hb
    cases hx : h[a]? with
    | none => rfl
    | some x =>
      have : h.array a = x := by simp [Heap.array, List.getD_eq_getElem?_getD, hx]
      simp only [Option.map_eq_map, Option.map_some', if_pos rfl]
      rw [set_eq_overwrite (this ▸ hk)]
  · simp [hb]

/-- A valid header with a positive capacity points at an allocated array. -/
theorem Slice.Valid.arr_lt (hv : s.Valid h) (hc : 0 < s.cap) : s.arr < h.length := by
  by_contra hn
  have : h.array s.arr = [] := by
    simp [Heap.array, List.getD_eq_getElem?_getD, List.getElem?_eq_none (Nat.le_of_not_lt hn)]
  unfold Slice.Valid at hv; rw [this] at hv; simp at hv; omega

/-- A write inside a valid view is an overwrite of the bytes the view reads. -/
theorem Slice.bytes_write {d : Slice} {src : List UInt8} {lo : Nat} (hv : s.Valid h)
    (harr : d.arr = s.arr) (hoff : d.off = s.off + lo) (hfit : lo + src.length ≤ s.len) :
    s.bytes (h.write d src) = overwrite (s.bytes h) lo src := by
  rcases Nat.eq_zero_or_pos s.len with hl | hl
  · have : src = [] := List.eq_nil_of_length_eq_zero (by omega)
    subst this
    simp [Slice.bytes, hl, show lo = 0 by omega, overwrite]
  · have hA := hv.arr_lt (by have := s.len_le_cap; omega)
    unfold Slice.Valid at hv
    have := s.len_le_cap
    rw [Slice.bytes, Heap.write, harr, Heap.array_modify_self _ hA, hoff, drop_overwrite (by omega),
      take_overwrite (by simp; omega) hfit, Slice.bytes]

end View

/-! ## Filling a buffer front to back

`sendUDPResponseFast` builds its datagram by a run of stores into one buffer, each
starting where the last one ended. `Filled h0 h buf B pre` says where such a run
stands: `buf`'s bytes start with `pre` and are `B`'s after it, and no array has
changed length since `h0`. -/

section Fill

variable {h0 h : Heap} {buf d : Slice} {B pre src : List UInt8}

/-- The state of a front-to-back fill of `buf`. -/
structure Filled (h0 h : Heap) (buf : Slice) (B pre : List UInt8) : Prop where
  valid : buf.Valid h
  /-- No array has been resized since `h0`. -/
  sizes : ∀ a, (h.array a).length = (h0.array a).length
  bytes_eq : buf.bytes h = pre ++ B.drop pre.length

theorem Filled.init (hv : buf.Valid h) : Filled h h buf (buf.bytes h) [] :=
  ⟨hv, fun _ => rfl, by simp⟩

/-- A store of `src` through a header `d` at the fill position advances the fill by `src`. -/
theorem Filled.write (hf : Filled h0 h buf B pre) (harr : d.arr = buf.arr)
    (hoff : d.off = buf.off + pre.length) (hfit : pre.length + src.length ≤ buf.len) :
    Filled h0 (h.write d src) buf B (pre ++ src) := by
  have hv := hf.valid
  have hsz : ∀ a, (Heap.array (h.write d src) a).length = (h.array a).length :=
    Heap.length_array_write (by unfold Slice.Valid at hv; have := buf.len_le_cap; rw [harr]; omega)
  refine ⟨?_, fun a => (hsz a).trans (hf.sizes a), ?_⟩
  · unfold Slice.Valid; rw [hsz]; exact hv
  · rw [Slice.bytes_write hv harr hoff hfit, hf.bytes_eq, overwrite_cursor, List.length_append]

/-- `s[j] = v` at the fill position, for a header `s` into `buf`'s array at `a`, the cell
being `k`. -/
theorem Filled.set {a k : Nat} {v : UInt8} (hf : Filled h0 h buf B pre) (harr : a = buf.arr)
    (hk : k = buf.off + pre.length) (hfit : pre.length < buf.len) :
    Filled h0 (h.modify (fun x => x.set k v) a) buf B (pre ++ [v]) := by
  have hv := hf.valid
  unfold Slice.Valid at hv
  have := buf.len_le_cap
  subst harr
  rw [Heap.modify_set_eq_write (show k < (h.array buf.arr).length by omega)]
  exact hf.write rfl hk (by simpa using hfit)

/-- `copy(d, src)` at the fill position: the first `len(d)` bytes of `src`, or all of a
shorter `src`. -/
theorem Filled.copy (hf : Filled h0 h buf B pre) (harr : d.arr = buf.arr)
    (hoff : d.off = buf.off + pre.length) (hfit : pre.length + d.len ≤ buf.len) :
    Filled h0 (h.copy d src) buf B (pre ++ src.take d.len) :=
  hf.write harr hoff (by simp; omega)

/-- Bytes the fill passes over keep what `B` had there. -/
theorem Filled.skip (hf : Filled h0 h buf B pre) (k : Nat) :
    Filled h0 h buf B (pre ++ (B.drop pre.length).take k) := by
  refine ⟨hf.valid, hf.sizes, ?_⟩
  rw [hf.bytes_eq, List.append_assoc, List.length_append, ← List.drop_drop, List.length_take,
    List.length_drop]
  congr 1
  rcases le_total k (B.length - pre.length) with hk | hk
  · rw [Nat.min_eq_left hk, List.take_append_drop]
  · rw [Nat.min_eq_right hk, List.take_of_length_le (by simpa using hk)]
    simp; omega

/-- `binary.BigEndian.PutUint16(d, v)` at the fill position, `d` starting at cell `o`. -/
theorem Filled.putUint16 {a o : Nat} {v : UInt16} (hf : Filled h0 h buf B pre) (harr : a = buf.arr)
    (ho : o = buf.off + pre.length) (hfit : pre.length + 2 ≤ buf.len) :
    Filled h0 ((h.modify (fun x => x.set (o + 0) (UInt8.ofNat (v.toNat / 256))) a).modify
      (fun x => x.set (o + 1) (UInt8.ofNat (v.toNat % 256))) a) buf B (pre ++ be16 v) := by
  have h2 : Filled h0 ((h.modify (fun x => x.set (o + 0) (UInt8.ofNat (v.toNat / 256))) a).modify
      (fun x => x.set (o + 1) (UInt8.ofNat (v.toNat % 256))) a) buf B
      (pre ++ [UInt8.ofNat (v.toNat / 256)] ++ [UInt8.ofNat (v.toNat % 256)]) :=
    (hf.set harr (by omega) (by omega)).set harr (by simp; omega) (by simp; omega)
  simpa [be16] using h2

theorem Filled.grows (hf : Filled h0 h buf B pre) : h0.Grows h := fun a => (hf.sizes a).ge

/-- A fill that has reached the end of `buf` has written all of its bytes. -/
theorem Filled.bytes_of_length (hf : Filled h0 h buf B pre) (hB : B.length ≤ pre.length) :
    buf.bytes h = pre := by
  rw [hf.bytes_eq, List.drop_eq_nil_of_le hB, List.append_nil]

end Fill

end WireproxyAwg.Go
