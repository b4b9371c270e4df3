import Lumber.Wire

/-!
# A zlib reader for stored blocks

`Zlib` leaves the zlib package a parameter. `storedZlib` is one instance of it: the zlib format (RFC 1950) whose deflate
data is a single stored block (RFC 1951, section 3.2.4), read the way `compress/zlib` reads it. The 2-byte header is
read when the reader is opened, and a bad one is the error `zlib.NewReader` returns; the block's bytes are served as they
come, and a short block, a short trailer or a wrong Adler-32 is the error that ends them. `storedStream d` is what a
compressor writes for `d` at level zero, and it encodes `d` (`storedStream_encodes`): so windows with compressed frames
can be built and run.
-/

namespace Lumber

/-- Adler-32 (RFC 1950, section 8.2), as `hash/adler32` computes it: two sums modulo 65521, the second in the high
half. -/
def adler32 (d : List UInt8) : Nat :=
  let s := d.foldl (fun (s : Nat × Nat) x => ((s.1 + x.toNat) % 65521, (s.2 + (s.1 + x.toNat) % 65521) % 65521)) (1, 0)
  s.2 * 65536 + s.1

/-- Two bytes, low byte first, as a stored block writes LEN and NLEN. -/
def littleEndianPutUint16 (n : Nat) : List UInt8 := [UInt8.ofNat n, UInt8.ofNat (n / 256)]

/-- The zlib stream of `d` in one stored block: CMF `0x78`, FLG `0x01`, the block header with BFINAL set and BTYPE 00,
LEN and NLEN, the bytes, and their Adler-32. -/
def storedStream (d : List UInt8) : List UInt8 :=
  [0x78, 0x01, 0x01] ++ littleEndianPutUint16 d.length ++ littleEndianPutUint16 (65535 - d.length) ++ d ++
    bigEndianPutUint32 (adler32 d)

/-- What the reader serves after the header: the bytes of one final stored block, then `io.EOF` when the Adler-32
trailer matches them. A block that is cut short, or a short trailer, ends with `io.ErrUnexpectedEOF`; a wrong NLEN or
another kind of block is a corrupt stream (code 1), a wrong Adler-32 is `zlib.ErrChecksum` (code 2). -/
def inflateStored : List UInt8 → ByteStream
  | bt :: l0 :: l1 :: n0 :: n1 :: body =>
    let len := l0.toNat + 256 * l1.toNat
    if bt ≠ 0x01 ∨ len + (n0.toNat + 256 * n1.toNat) ≠ 65535 then ⟨[], .other 1⟩
    else if body.length < len then ⟨body, .unexpectedEOF⟩
    else if (body.drop len).length < 4 then ⟨body.take len, .unexpectedEOF⟩
    else if bigEndianUint32 ((body.drop len).take 4) ≠ adler32 (body.take len) then ⟨body.take len, .other 2⟩
    else ⟨body.take len, .eof⟩
  | _ => ⟨[], .unexpectedEOF⟩

/-- `zlib.NewReader` restricted to stored blocks: the header must name deflate with a 32K window and no preset
dictionary, with its check bits right (`zlib.ErrHeader`, code 0, otherwise); a stream shorter than the header fails
as `io.ReadFull` does. The reader may have pulled everything the limit serves into its buffer, and `Close` reports
nothing. -/
def storedZlib : Zlib where
  newReader s :=
    match s.bytes with
    | cmf :: flg :: rest =>
      if cmf ≠ 0x78 ∨ (cmf.toNat * 256 + flg.toNat) % 31 ≠ 0 ∨ flg.toNat / 32 % 2 ≠ 0 then .error (.other 0)
      else .ok ⟨inflateStored rest, fun _ => s.bytes.length, fun _ => none⟩
    | _ => .error (if s.bytes.isEmpty then s.stop else .unexpectedEOF)

namespace StoredAux

/-- Both sums of Adler-32 stay below the modulus. -/
theorem adler32_fold_lt (d : List UInt8) : ∀ s : Nat × Nat, s.1 < 65521 → s.2 < 65521 →
    (d.foldl (fun (s : Nat × Nat) x => ((s.1 + x.toNat) % 65521, (s.2 + (s.1 + x.toNat) % 65521) % 65521)) s).1 <
      65521 ∧
    (d.foldl (fun (s : Nat × Nat) x => ((s.1 + x.toNat) % 65521, (s.2 + (s.1 + x.toNat) % 65521) % 65521)) s).2 <
      65521 := by
  induction d with
  | nil => intro s h1 h2; exact ⟨h1, h2⟩
  | cons x d ih => intro s _ _; exact ih _ (Nat.mod_lt _ (by decide)) (Nat.mod_lt _ (by decide))

/-- An Adler-32 fits the 4-byte trailer. -/
theorem adler32_lt (d : List UInt8) : adler32 d < 2 ^ 32 := by
  obtain ⟨h1, h2⟩ := adler32_fold_lt d (1, 0) (by decide) (by decide)
  unfold adler32
  dsimp only
  omega

/-- LEN and NLEN read back as the length they were written from. -/
theorem littleEndianPutUint16_read {n : Nat} (h : n < 65536) :
    (UInt8.ofNat n).toNat + 256 * (UInt8.ofNat (n / 256)).toNat = n := by
  simp only [toNat_uint8OfNat]
  omega

/-- What is left after the header is served at most in full. -/
theorem inflateStored_length_le (l : List UInt8) : (inflateStored l).bytes.length ≤ l.length := by
  unfold inflateStored
  split
  · dsimp only
    split_ifs <;> simp only [List.length_cons, List.length_nil, List.length_take] <;> omega
  · exact Nat.zero_le _

end StoredAux

open StoredAux

/-- A stored block never expands: the reader serves at most as many bytes as it was opened over. -/
theorem storedZlib_out_length_le {s : ByteStream} {inf : Inflater} (h : storedZlib.newReader s = .ok inf) :
    inf.out.bytes.length ≤ s.bytes.length := by
  simp only [storedZlib] at h
  split at h
  · rename_i rest hs
    split at h
    · cases h
    · cases h
      have := inflateStored_length_le rest
      simp only [hs, List.length_cons]
      omega
  · cases h


/-- `storedStream d` is a zlib stream of `d`, for every `d` one stored block can hold. -/
theorem storedStream_encodes {d : List UInt8} (h : d.length < 65536) : storedZlib.Encodes (storedStream d) d := by
  intro pad
  refine ⟨⟨⟨d, .eof⟩, fun _ => (storedStream d ++ pad).length, fun _ => none⟩, ?_, rfl, fun _ => rfl⟩
  have hlen := littleEndianPutUint16_read h
  have hsum : d.length + (UInt8.ofNat (65535 - d.length)).toNat +
      256 * (UInt8.ofNat ((65535 - d.length) / 256)).toNat = 65535 := by
    rw [Nat.add_assoc, littleEndianPutUint16_read (by omega)]; omega
  simp only [storedZlib, storedStream, littleEndianPutUint16, List.cons_append, List.nil_append, List.append_assoc]
  rw [if_neg (by decide)]
  simp only [inflateStored, hlen, hsum, ← Nat.add_assoc, List.drop_left, List.take_left,
    List.take_left' (length_bigEndianPutUint32 _), bigEndianUint32_put (adler32_lt d)]
  rw [if_neg (by decide), if_neg (by simp only [List.length_append]; omega),
    if_neg (by simp only [List.length_append, length_bigEndianPutUint32]; omega), if_neg (fun h => h rfl)]

end Lumber
