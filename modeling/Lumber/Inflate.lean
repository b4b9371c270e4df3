import Lumber.Stored

/-!
# A zlib reader for stored and fixed-Huffman blocks

`inflateZlib` is `zlib.NewReader` for the zlib format (RFC 1950) whose deflate data (RFC 1951) is made of stored blocks
and blocks compressed with the fixed Huffman codes, in any number, read the way `compress/zlib` and `compress/flate`
read them; reader.go imports `github.com/klauspost/compress/zlib`, a fork of those packages that reads the same
format. The header is checked when the reader is opened: a bad one is `zlib.ErrHeader`, and a preset dictionary is
refused (`zlib.ErrDictionary`) unless its id is that of the empty one, as `zlib.NewReader` without a dictionary does. The
blocks are served as they are decoded: a stored block byte by byte, a fixed block symbol by symbol, a length and
distance copying one byte at a time from that far back, so a copy may overlap what it writes. A stream cut short ends
with `io.ErrUnexpectedEOF` (or the underlying reader's error), a corrupt one (a wrong NLEN, block type 3, a length or
distance symbol out of range, a distance past what was served) with `flate.CorruptInputError` (code 1), and a wrong
Adler-32 trailer with `zlib.ErrChecksum` (code 2).

Blocks with dynamic Huffman codes are not decoded: this reader ends such a stream with an error of its own (code 4)
where `compress/flate` would go on. It agrees with zlib on every stream of stored and fixed blocks.
-/

namespace Lumber

/-- The bits of a byte string in the order DEFLATE reads them: each byte from its lowest bit (RFC 1951, 3.1.1). -/
def bitsOf : List UInt8 → List Bool
  | [] => []
  | b :: bs => (List.range 8).map (fun i => b.toNat / 2 ^ i % 2 == 1) ++ bitsOf bs

/-- A number of `n` bits, lowest bit first, as DEFLATE packs header fields and extra bits; `none` when the bits run
out. -/
def readBits : Nat → List Bool → Option (Nat × List Bool)
  | 0, bs => some (0, bs)
  | _ + 1, [] => none
  | n + 1, b :: bs => (readBits n bs).map fun r => ((if b then 1 else 0) + 2 * r.1, r.2)

/-- `n` more bits of a Huffman code whose first bits have the value `c`: a code is packed from its highest bit. -/
def readCode : Nat → Nat → List Bool → Option (Nat × List Bool)
  | c, 0, bs => some (c, bs)
  | _, _ + 1, [] => none
  | c, n + 1, b :: bs => readCode (2 * c + if b then 1 else 0) n bs

/-- A symbol of the fixed literal/length code (RFC 1951, 3.2.6): 7-bit codes for 256 to 279, 8-bit codes for 0 to 143
and 280 to 287, 9-bit codes for 144 to 255. -/
def fixedLitLen (bs : List Bool) : Option (Nat × List Bool) :=
  match readCode 0 7 bs with
  | none => none
  | some (c, bs) =>
    if c < 24 then some (256 + c, bs)
    else match readCode c 1 bs with
      | none => none
      | some (c, bs) =>
        if c < 192 then some (c - 48, bs)
        else if c < 200 then some (c + 88, bs)
        else (readCode c 1 bs).map fun r => (r.1 - 256, r.2)

/-- The error of a stream cut short: `io.ErrUnexpectedEOF` for a clean end, else the underlying reader's error. -/
def truncError (stop : Error) : Error := if stop = .eof then .unexpectedEOF else stop

/-- `flate.CorruptInputError`. -/
def corruptError : Error := .other 1

section
variable (stop : Error)

/-- `n` bits, or the error of a stream cut short. -/
def needBits (n : Nat) (bs : List Bool) : Except Error (Nat × List Bool) :=
  match readBits n bs with
  | some r => .ok r
  | none => .error (truncError stop)

/-- The length a length symbol stands for, and how many extra bits follow it, as `compress/flate`'s `huffmanBlock`
computes them (RFC 1951, 3.2.5); 286 and 287 are corrupt. -/
def lengthBase (sym : Nat) : Option (Nat × Nat) :=
  if sym < 265 then some (sym - (257 - 3), 0)
  else if sym < 269 then some (sym * 2 - (265 * 2 - 11), 1)
  else if sym < 273 then some (sym * 4 - (269 * 4 - 19), 2)
  else if sym < 277 then some (sym * 8 - (273 * 8 - 35), 3)
  else if sym < 281 then some (sym * 16 - (277 * 16 - 67), 4)
  else if sym < 285 then some (sym * 32 - (281 * 32 - 131), 5)
  else if sym < 286 then some (258, 0)
  else none

/-- The length of a length symbol, with its extra bits. -/
def lengthOf (sym : Nat) (bs : List Bool) : Except Error (Nat × List Bool) :=
  match lengthBase sym with
  | none => .error corruptError
  | some (len, n) => (needBits stop n bs).map fun r => (len + r.1, r.2)

/-- A distance of the fixed distance code, a 5-bit code, with its extra bits, as `huffmanBlock` computes it; codes 30
and 31 are corrupt. -/
def distOf (bs : List Bool) : Except Error (Nat × List Bool) :=
  match readCode 0 5 bs with
  | none => .error (truncError stop)
  | some (d, bs) =>
    if d < 4 then .ok (d + 1, bs)
    else if d < 30 then
      let nb := (d - 2) / 2
      (needBits stop nb bs).map fun r => (2 ^ (nb + 1) + 1 + (d % 2) * 2 ^ nb + r.1, r.2)
    else .error corruptError

/-- `n` bytes copied from `d` back, one at a time, onto the bytes served so far, kept last first: the window a copy
looks back into. -/
def copyBack (d : Nat) : Nat → List UInt8 → List UInt8
  | 0, hist => hist
  | n + 1, hist => copyBack d n (hist.getD (d - 1) 0 :: hist)

/-- The symbols of a fixed-Huffman block after the bytes `hist` served so far (last first), up to its end-of-block
symbol: the bytes served then, and the bits after the block or the error that ends the stream. One unit of fuel a
symbol: the bits left are more than enough. -/
def fixedBlock : Nat → List Bool → List UInt8 → List UInt8 × Except Error (List Bool)
  | 0, _, hist => (hist, .error corruptError)
  | fuel + 1, bs, hist =>
    match fixedLitLen bs with
    | none => (hist, .error (truncError stop))
    | some (sym, bs) =>
      if sym < 256 then fixedBlock fuel bs (UInt8.ofNat sym :: hist)
      else if sym = 256 then (hist, .ok bs)
      else match lengthOf stop sym bs with
        | .error e => (hist, .error e)
        | .ok (len, bs) =>
          match distOf stop bs with
          | .error e => (hist, .error e)
          | .ok (d, bs) =>
            if hist.length < d then (hist, .error corruptError) else fixedBlock fuel bs (copyBack d len hist)

/-- The `n` bytes of a stored block, served one by one. -/
def storedBytes : Nat → List Bool → List UInt8 → List UInt8 × Except Error (List Bool)
  | 0, bs, hist => (hist, .ok bs)
  | n + 1, bs, hist =>
    match readBits 8 bs with
    | none => (hist, .error (truncError stop))
    | some (b, bs) => storedBytes n bs (UInt8.ofNat b :: hist)

/-- A stored block after its 3 header bits: the bits up to the next byte boundary are skipped, then LEN and NLEN, which
must be complements, then LEN bytes. -/
def storedBlock (bs : List Bool) (hist : List UInt8) : List UInt8 × Except Error (List Bool) :=
  let bs := bs.drop (bs.length % 8)
  match readBits 16 bs with
  | none => (hist, .error (truncError stop))
  | some (len, bs) =>
    match readBits 16 bs with
    | none => (hist, .error (truncError stop))
    | some (nlen, bs) => if len + nlen ≠ 65535 then (hist, .error corruptError) else storedBytes stop len bs hist

/-- The blocks of deflate data, each after its header (BFINAL, then BTYPE), up to the final one: the bytes served (last
first), and the bits after the final block or the error that ends the stream. One unit of fuel a block. -/
def inflateBlocks : Nat → List Bool → List UInt8 → List UInt8 × Except Error (List Bool)
  | 0, _, hist => (hist, .error corruptError)
  | fuel + 1, bs, hist =>
    match readBits 3 bs with
    | none => (hist, .error (truncError stop))
    | some (hdr, bs) =>
      let r := match hdr / 2 with
        | 0 => storedBlock stop bs hist
        | 1 => fixedBlock stop (bs.length + 1) bs hist
        | 2 => (hist, .error (.other 4))
        | _ => (hist, .error corruptError)
      match r with
      | (hist, .error e) => (hist, .error e)
      | (hist, .ok bs) => if hdr % 2 = 1 then (hist, .ok bs) else inflateBlocks fuel bs hist

/-- What the reader serves from the bytes after the zlib header: the decoded bytes, then `io.EOF` when the Adler-32
trailer, read from the byte after the final block, matches them. -/
def inflateStream (rest : List UInt8) : ByteStream :=
  let bs := bitsOf rest
  match inflateBlocks stop (bs.length + 1) bs [] with
  | (hist, .error e) => ⟨hist.reverse, e⟩
  | (hist, .ok bs) =>
    let out := hist.reverse
    let trailer := rest.drop (rest.length - bs.length / 8)
    if trailer.length < 4 then ⟨out, truncError stop⟩
    else if bigEndianUint32 (trailer.take 4) ≠ adler32 out then ⟨out, .other 2⟩
    else ⟨out, .eof⟩

end

/-- `zlib.NewReader`: the 2-byte header must name deflate with a window of at most 32K and have its check bits right
(`zlib.ErrHeader`, code 0); a preset dictionary's id must be the empty dictionary's (`zlib.ErrDictionary`, code 3); a
stream shorter than the header fails as `io.ReadFull` does, `io.EOF` becoming `io.ErrUnexpectedEOF`. The reader may have
pulled everything the limit serves into its buffer, and `Close` reports nothing. -/
def inflateZlib : Zlib where
  newReader s :=
    match s.bytes with
    | cmf :: flg :: rest =>
      if cmf.toNat % 16 ≠ 8 ∨ 7 < cmf.toNat / 16 ∨ (cmf.toNat * 256 + flg.toNat) % 31 ≠ 0 then .error (.other 0)
      else if flg.toNat / 32 % 2 = 0 then .ok ⟨inflateStream s.stop rest, fun _ => s.bytes.length, fun _ => none⟩
      else if rest.length < 4 then .error (truncError s.stop)
      else if bigEndianUint32 (rest.take 4) ≠ adler32 [] then .error (.other 3)
      else .ok ⟨inflateStream s.stop (rest.drop 4), fun _ => s.bytes.length, fun _ => none⟩
    | _ => .error (truncError s.stop)

end Lumber
