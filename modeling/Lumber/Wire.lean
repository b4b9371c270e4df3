import Mathlib.Data.List.Basic
import Mathlib.Data.Int.Order.Basic
import Mathlib.Algebra.Group.Nat.Basic
import Mathlib.Algebra.Group.Int

/-!
# Bytes, readers and Go's `int`

`reader.go` reads a window through three kinds of `io.Reader`: the connection's `bufio.Reader`, the `io.LimitReader`
that bounds a compressed frame, and the zlib reader opened over that limit. Each is modelled by what it serves: a
`ByteStream` is the bytes a reader will ever hand out, and the error a read past them returns (`io.EOF` for a clean end,
or the reader's own error: a passed deadline, a reset connection, a corrupt zlib stream). `ByteStream.readFull` is
`io.ReadFull` over such a reader.

Read deadlines are real time and are not modelled: a deadline that passes mid-window is a stream that stops with an
error. The zlib package is not modelled either; `Zlib` takes its behaviour as a parameter, a function of the bytes the
limit reader lets it see, and `Zlib.Encodes` is the one law a client's compressor is assumed to meet.
-/

namespace Lumber

/-- The error values reader.go meets or returns. -/
inductive Error where
  /-- `io.EOF` -/
  | eof
  /-- `io.ErrUnexpectedEOF` -/
  | unexpectedEOF
  /-- `ErrProtocolError` -/
  | protocol
  /-- any other error value: a transport error, a zlib error, a decoder's error -/
  | other (code : Nat)
  deriving DecidableEq, Repr

/-- How a Go call ends when it does not return normally. -/
inductive Fault where
  /-- it returns a non-nil error -/
  | error (e : Error)
  /-- a run-time panic: `make` or a slice expression out of range -/
  | panic
  /-- the fuel ran out: the call has not returned -/
  | diverge
  deriving DecidableEq, Repr

/-- An error value returned by a callee, passed on by a caller that returns it. -/
def liftErr {β : Type} : Except Error β → Except Fault β
  | .ok b => .ok b
  | .error e => .error (.error e)

@[simp] theorem liftErr_ok {β : Type} (b : β) : liftErr (.ok b) = .ok b := rfl

@[simp] theorem liftErr_error {β : Type} (e : Error) : liftErr (β := β) (.error e) = .error (.error e) := rfl

/-! ## Byte streams and `io.ReadFull` -/

/-- What an `io.Reader` serves: its bytes, then the error a read past them returns. -/
structure ByteStream where
  bytes : List UInt8
  stop : Error
  deriving DecidableEq, Repr

/-- The reader after `n` bytes were taken from it. -/
def ByteStream.drop (s : ByteStream) (n : Nat) : ByteStream := { s with bytes := s.bytes.drop n }

@[simp] theorem ByteStream.drop_bytes (s : ByteStream) (n : Nat) : (s.drop n).bytes = s.bytes.drop n := rfl

@[simp] theorem ByteStream.drop_stop (s : ByteStream) (n : Nat) : (s.drop n).stop = s.stop := rfl

@[simp] theorem ByteStream.drop_drop (s : ByteStream) (m n : Nat) : (s.drop m).drop n = s.drop (m + n) := by
  simp [ByteStream.drop]

/-- `readFull(in, buf)` with `len(buf) = n`, which is `io.ReadFull`: the `n` bytes and the reader after them. Short of
`n` bytes it fails with the reader's error, which `io.ReadFull` turns into `io.ErrUnexpectedEOF` when some bytes came
before a clean end. -/
def ByteStream.readFull (s : ByteStream) (n : Nat) : Except Error (List UInt8 × ByteStream) :=
  if n ≤ s.bytes.length then .ok (s.bytes.take n, s.drop n)
  else .error (if s.bytes.isEmpty then s.stop else if s.stop = .eof then .unexpectedEOF else s.stop)

/-- `io.ReadFull` of the first bytes of a reader that holds them. -/
theorem ByteStream.readFull_append {b : List UInt8} (rest : List UInt8) (stop : Error) {n : Nat} (h : b.length = n) :
    ByteStream.readFull ⟨b ++ rest, stop⟩ n = .ok (b, ⟨rest, stop⟩) := by
  subst h
  simp [ByteStream.readFull, ByteStream.drop]

/-- What a successful `io.ReadFull` returns: the first `n` bytes, and the reader after them. -/
theorem ByteStream.readFull_ok {s t : ByteStream} {n : Nat} {b : List UInt8} (h : s.readFull n = .ok (b, t)) :
    b.length = n ∧ s.bytes = b ++ t.bytes ∧ t.stop = s.stop := by
  unfold ByteStream.readFull at h
  split at h
  · cases h
    rename_i hn
    exact ⟨by simp only [List.length_take]; omega, by simp [ByteStream.drop], rfl⟩
  · cases h

/-- A successful `io.ReadFull` leaves the reader `n` bytes on. -/
theorem ByteStream.readFull_eq_drop {s t : ByteStream} {n : Nat} {b : List UInt8} (h : s.readFull n = .ok (b, t)) :
    t = s.drop n := by
  unfold ByteStream.readFull at h
  split at h
  · cases h; rfl
  · cases h

/-! ## `binary.BigEndian` -/

/-- `binary.BigEndian.Uint32` of a 4-byte slice. -/
def bigEndianUint32 (b : List UInt8) : Nat := b.foldl (fun acc x => acc * 256 + x.toNat) 0

/-- `binary.BigEndian.PutUint32`: the four bytes a client writes for a count or a length below `2^32`. -/
def bigEndianPutUint32 (n : Nat) : List UInt8 :=
  [UInt8.ofNat (n / 2 ^ 24), UInt8.ofNat (n / 2 ^ 16), UInt8.ofNat (n / 2 ^ 8), UInt8.ofNat n]

@[simp] theorem length_bigEndianPutUint32 (n : Nat) : (bigEndianPutUint32 n).length = 4 := rfl

/-- `UInt8.ofNat` keeps the value modulo 256. -/
theorem toNat_uint8OfNat (n : Nat) : (UInt8.ofNat n).toNat = n % 256 := rfl

/-- Four bytes encode a value below `2^32`. -/
theorem bigEndianUint32_lt {b : List UInt8} (h : b.length = 4) : bigEndianUint32 b < 2 ^ 32 := by
  match b, h with
  | [x, y, z, v], _ =>
    have := x.toNat_lt_size; have := y.toNat_lt_size; have := z.toNat_lt_size; have := v.toNat_lt_size
    simp only [bigEndianUint32, List.foldl, UInt8.size] at *
    omega

/-- Reading back what `PutUint32` wrote gives the value. -/
theorem bigEndianUint32_put {n : Nat} (h : n < 2 ^ 32) : bigEndianUint32 (bigEndianPutUint32 n) = n := by
  simp only [bigEndianUint32, bigEndianPutUint32, List.foldl, toNat_uint8OfNat]
  omega

/-! ## Go's `int` -/

/-- The width of Go's `int`: 32 bits on 32-bit platforms, 64 on the others. -/
inductive IntWidth where
  | w32
  | w64
  deriving DecidableEq, Repr

/-- The number of bits of an `int` of this width. -/
def IntWidth.bits : IntWidth → Nat
  | .w32 => 32
  | .w64 => 64

/-- The conversion `int(x)` of a `uint32` value `x`: two's complement, wrapping into the signed range of the width. -/
def goInt (w : IntWidth) (x : Nat) : Int := Int.bmod x (2 ^ w.bits)

/-- On 64 bits every `uint32` value converts to itself. -/
theorem goInt_w64 {x : Nat} (h : x < 2 ^ 32) : goInt .w64 x = x := by
  show Int.bmod x (2 ^ 64) = x
  rw [Int.bmod_pos, Int.emod_eq_of_lt] <;> omega

/-- On 32 bits a value below `2^31` converts to itself. -/
theorem goInt_w32 {x : Nat} (h : x < 2 ^ 31) : goInt .w32 x = x := by
  show Int.bmod x (2 ^ 32) = x
  rw [Int.bmod_pos, Int.emod_eq_of_lt] <;> omega

/-- On 32 bits a `uint32` value at or above `2^31` converts to a negative `int`. -/
theorem goInt_w32_neg {x : Nat} (h₁ : 2 ^ 31 ≤ x) (h₂ : x < 2 ^ 32) : goInt .w32 x < 0 := by
  show Int.bmod x (2 ^ 32) < 0
  rw [Int.bmod_neg, Int.emod_eq_of_lt] <;> omega

/-- An `int(x)` that is not negative is `x`. -/
theorem goInt_eq_of_nonneg {w : IntWidth} {x : Nat} (hx : x < 2 ^ 32) (h : 0 ≤ goInt w x) : goInt w x = x := by
  cases w with
  | w64 => exact goInt_w64 hx
  | w32 =>
    by_cases hlt : x < 2 ^ 31
    · exact goInt_w32 hlt
    · have := goInt_w32_neg (by omega) hx
      omega

/-! ## `io.LimitReader` -/

/-- `io.LimitedReader`: at most `n` more bytes of the reader `r`. -/
structure LimitedReader where
  n : Nat
  r : ByteStream
  deriving DecidableEq, Repr

/-- What a reader opened over the limit reader is served: the first `n` bytes of `r`, then `io.EOF` once the limit is
spent, or `r`'s own error if `r` ends first. -/
def LimitedReader.serves (l : LimitedReader) : ByteStream :=
  ⟨l.r.bytes.take l.n, if l.n ≤ l.r.bytes.length then .eof else l.r.stop⟩

/-- The limit reader after a reader on top of it pulled `p` bytes through it. -/
def LimitedReader.skip (l : LimitedReader) (p : Nat) : LimitedReader :=
  ⟨l.n - min p (min l.n l.r.bytes.length), l.r.drop (min p (min l.n l.r.bytes.length))⟩

/-- `LimitedReader.Read(p)` with `len(p) = k`: `io.EOF` once the limit is spent, else one read of at most `k` and at
most `n` bytes from `r`, or `r`'s error if `r` has no byte left. The count read, and the limit reader after it. -/
def LimitedReader.read (l : LimitedReader) (k : Nat) : Except Error (Nat × LimitedReader) :=
  if l.n = 0 then .error .eof
  else if l.r.bytes.isEmpty then .error l.r.stop
  else
    let m := min (min k l.n) l.r.bytes.length
    .ok (m, ⟨l.n - m, l.r.drop m⟩)

/-- A read of the limit reader fails with `io.EOF` once the limit is spent, or with the underlying reader's error once
that reader is spent. -/
theorem LimitedReader.read_error {l : LimitedReader} {k : Nat} {e : Error} (h : l.read k = .error e) :
    (l.n = 0 ∧ e = .eof) ∨ (l.n ≠ 0 ∧ l.r.bytes = [] ∧ e = l.r.stop) := by
  unfold LimitedReader.read at h
  split at h
  · cases h; exact .inl ⟨‹_›, rfl⟩
  split at h
  · cases h; exact .inr ⟨‹_›, List.isEmpty_iff.mp ‹_›, rfl⟩
  · cases h

/-- A read of the limit reader that returns takes `m` bytes, at most `k` and at most what the limit allows. -/
theorem LimitedReader.read_ok {l l' : LimitedReader} {k m : Nat} (h : l.read k = .ok (m, l')) :
    l.n ≠ 0 ∧ l.r.bytes ≠ [] ∧ m = min (min k l.n) l.r.bytes.length ∧ l' = ⟨l.n - m, l.r.drop m⟩ := by
  unfold LimitedReader.read at h
  split at h
  · cases h
  split at h
  · cases h
  · cases h
    exact ⟨‹_›, fun he => by simp_all, rfl, rfl⟩

/-- A read of a nonempty buffer that returns lowers what the limit allows. -/
theorem LimitedReader.read_n_lt {l l' : LimitedReader} {k m : Nat} (hk : 0 < k) (h : l.read k = .ok (m, l')) :
    l'.n < l.n := by
  obtain ⟨hn, hb, rfl, rfl⟩ := LimitedReader.read_ok h
  have : 0 < l.r.bytes.length := List.length_pos.mpr hb
  simp only
  omega

/-- The loop at the end of readCompressed: read the limit reader 16 bytes at a time until a read fails; `io.EOF` ends
the loop normally, any other error is returned. It ends because every read that returns lowers what the limit allows.
What it leaves is the underlying reader. -/
def LimitedReader.drain (l : LimitedReader) : Except Error ByteStream :=
  match _hread : l.read 16 with
  | .error e => if e = .eof then .ok l.r else .error e
  | .ok (_, l') => l'.drain
termination_by l.n
decreasing_by exact LimitedReader.read_n_lt (by decide) _hread

/-- The drain loop stops at the first read that fails. -/
theorem LimitedReader.drain_of_read_error {l : LimitedReader} {e : Error} (h : l.read 16 = .error e) :
    l.drain = if e = .eof then .ok l.r else .error e := by
  rw [LimitedReader.drain]
  split <;> simp_all

/-- The drain loop goes on after a read that returns. -/
theorem LimitedReader.drain_of_read_ok {l l' : LimitedReader} {m : Nat} (h : l.read 16 = .ok (m, l')) :
    l.drain = l'.drain := by
  rw [LimitedReader.drain]
  split <;> simp_all

/-- The drain loop reads exactly the rest of the limit: the underlying reader is left `n` bytes on, unless it ends
first with an error other than `io.EOF`, which the loop returns. -/
theorem LimitedReader.drain_eq (l : LimitedReader) :
    l.drain = if l.n ≤ l.r.bytes.length ∨ l.r.stop = .eof then .ok (l.r.drop l.n) else .error l.r.stop := by
  induction l using LimitedReader.drain.induct with
  | case1 l h =>
    rw [LimitedReader.drain_of_read_error h, if_pos rfl]
    rcases LimitedReader.read_error h with ⟨hn, -⟩ | ⟨-, hb, he⟩
    · simp [hn, ByteStream.drop]
    · obtain ⟨n, ⟨b, st⟩⟩ := l
      simp_all [ByteStream.drop]
  | case2 l e h he =>
    rw [LimitedReader.drain_of_read_error h, if_neg he]
    rcases LimitedReader.read_error h with ⟨-, rfl⟩ | ⟨hn, hb, rfl⟩
    · exact absurd rfl he
    · rw [if_neg (by simp [hb, hn, he])]
  | case3 l m l' h ih =>
    rw [LimitedReader.drain_of_read_ok h, ih]
    obtain ⟨hn, hb, rfl, rfl⟩ := LimitedReader.read_ok h
    have hpos : 0 < l.r.bytes.length := List.length_pos.mpr hb
    have hdrop : (l.r.drop (min (min 16 l.n) l.r.bytes.length)).drop (l.n - min (min 16 l.n) l.r.bytes.length) =
        l.r.drop l.n := by
      rw [ByteStream.drop_drop]; congr 1; omega
    have hle : l.n - min (min 16 l.n) l.r.bytes.length ≤ l.r.bytes.length - min (min 16 l.n) l.r.bytes.length ↔
        l.n ≤ l.r.bytes.length := by omega
    simp only [ByteStream.drop_bytes, ByteStream.drop_stop, List.length_drop, hdrop, hle]

/-- What the drain loop leaves does not depend on how many bytes a reader on top pulled through the limit first. -/
theorem LimitedReader.drain_skip (l : LimitedReader) (p : Nat) : (l.skip p).drain = l.drain := by
  rw [LimitedReader.drain_eq, LimitedReader.drain_eq]
  simp only [LimitedReader.skip, ByteStream.drop_bytes, ByteStream.drop_stop, List.length_drop, ByteStream.drop_drop]
  have hle : l.n - min p (min l.n l.r.bytes.length) ≤ l.r.bytes.length - min p (min l.n l.r.bytes.length) ↔
      l.n ≤ l.r.bytes.length := by omega
  have hn : min p (min l.n l.r.bytes.length) + (l.n - min p (min l.n l.r.bytes.length)) = l.n := by omega
  simp only [hle, hn]

/-! ## The zlib reader -/

/-- A reader `zlib.NewReader` opened, by what it does: the decompressed stream its reads serve, how many compressed bytes
it has pulled through the limit reader once `k` decompressed bytes were read, and what `Close` returns then. -/
structure Inflater where
  out : ByteStream
  pulled : Nat → Nat
  close : Nat → Option Error

/-- The zlib package: `zlib.NewReader` over a reader that serves the given stream, and the reader it opens or the error
it returns. -/
structure Zlib where
  newReader : ByteStream → Except Error Inflater

/-- `z` is a zlib stream of `d`: opened over `z` followed by any bytes, the reader serves `d` and then `io.EOF`, and
`Close` reports no error however far it was read. -/
def Zlib.Encodes (Z : Zlib) (z d : List UInt8) : Prop :=
  ∀ pad, ∃ inf, Z.newReader ⟨z ++ pad, .eof⟩ = .ok inf ∧ inf.out = ⟨d, .eof⟩ ∧ ∀ k, inf.close k = none

end Lumber
