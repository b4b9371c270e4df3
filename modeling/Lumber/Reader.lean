import Lumber.Wire

/-!
# The v2 reader

`server/v2/reader.go`, function by function. `readEvents` is the loop `for len(events) < cap(events)`: the capacity is
the window's count, fixed by `make` in ReadBatch and kept by every `append` (which never runs past it), so the model passes
it as `cap`. A compressed frame runs the same loop over the zlib reader, with the same slice: `readCompressed` takes that
inner loop as its argument `readEvents`, which is how `readEvents` calls it.

Nothing bounds how deeply compressed frames nest, so `readEvents` takes fuel, one unit for each turn of its loop and each
level of nesting; out of fuel it reports `Fault.diverge`: the Go call has not returned. The two `SetReadDeadline` calls
of ReadBatch are not modelled (a deadline is real time; the second call fails only on a closed connection, whose reads
fail too). The batch's source metadata (`remoteAddr`, `tlsState`) is copied into the batch and read by nothing here.
-/

namespace Lumber

/-- Modelled from the spec: `protocol.CodeVersion` of the `protocol/v2` package, the version byte `'2'`. -/
def codeVersion : UInt8 := 0x32

/-- Modelled from the spec: `protocol.CodeWindowSize`, the frame type `'W'`. -/
def codeWindowSize : UInt8 := 0x57

/-- Modelled from the spec: `protocol.CodeJSONDataFrame`, the frame type `'J'`. -/
def codeJSONDataFrame : UInt8 := 0x4A

/-- Modelled from the spec: `protocol.CodeCompressed`, the frame type `'C'`. -/
def codeCompressed : UInt8 := 0x43

/-- The state of a `reader` that ReadBatch reads and writes: `r.in`, the connection's buffered reader, and `r.buf`, the
scratch buffer payloads are read into. -/
structure Reader where
  input : ByteStream
  buf : List UInt8
  deriving DecidableEq, Repr

/-- `newReader`: the scratch buffer starts empty (`make([]byte, 0, 64)`). -/
def newReader (c : ByteStream) : Reader := ⟨c, []⟩

section
variable {α : Type} (w : IntWidth) (Z : Zlib) (decoder : List UInt8 → Except Error α)

/-- `readJSONEvent`: an 8-byte header (sequence number, payload length), then the payload, read into the scratch buffer,
which is first grown to the payload's length if it is shorter; the decoder is handed the buffer's first `payloadSz`
bytes. The event, the reader after the payload, and the scratch buffer. -/
def readJSONEvent (input : ByteStream) (buf : List UInt8) : Except Fault (α × ByteStream × List UInt8) := do
  let (hdr, input) ← liftErr (input.readFull 8)
  let payloadSz := goInt w (bigEndianUint32 (hdr.drop 4))
  let buf := if payloadSz > buf.length then List.replicate payloadSz.toNat 0 else buf
  if payloadSz < 0 then throw .panic
  let (payload, input) ← liftErr (input.readFull payloadSz.toNat)
  let buf := payload ++ buf.drop payload.length
  let event ← liftErr (decoder (buf.take payloadSz.toNat))
  return (event, input, buf)

/-- `readCompressed`: a 4-byte length `L`, a zlib reader over `io.LimitReader(in, L)`, the loop `readEvents` run over
the zlib reader with the same slice, `Close`, and the drain loop over what is left of the limit. -/
def readCompressed (readEvents : ByteStream → List UInt8 → List α → Except Fault (List α × ByteStream × List UInt8))
    (input : ByteStream) (buf : List UInt8) (events : List α) : Except Fault (List α × ByteStream × List UInt8) := do
  let (hdr, input) ← liftErr (input.readFull 4)
  let limit : LimitedReader := ⟨bigEndianUint32 hdr, input⟩
  let reader ← liftErr (Z.newReader limit.serves)
  let (events, rest, buf) ← readEvents reader.out buf events
  let read := reader.out.bytes.length - rest.bytes.length
  if let some e := reader.close read then throw (.error e)
  let input ← liftErr ((limit.skip (reader.pulled read)).drain)
  return (events, input, buf)

/-- `readEvents`: while the slice is below its capacity `cap`, a 2-byte frame header, version then type; a JSON frame
appends its event, a compressed frame runs the loop inside it. -/
def readEvents : Nat → ByteStream → List UInt8 → List α → Nat → Except Fault (List α × ByteStream × List UInt8)
  | 0, _, _, _, _ => throw .diverge
  | fuel + 1, input, buf, events, cap =>
    if events.length < cap then do
      let (hdr, input) ← liftErr (input.readFull 2)
      if hdr.getD 0 0 ≠ codeVersion then throw (.error .protocol)
      if hdr.getD 1 0 = codeJSONDataFrame then
        let (event, input, buf) ← readJSONEvent w decoder input buf
        readEvents fuel input buf (events ++ [event]) cap
      else if hdr.getD 1 0 = codeCompressed then
        let (events, input, buf) ← readCompressed Z (fun s b e => readEvents fuel s b e cap) input buf events
        readEvents fuel input buf events cap
      else throw (.error .protocol)
    else return (events, input, buf)

/-- `ReadBatch`: a 6-byte window header; `nil` for a count of zero, else the count's events, read into a slice made with
that capacity. The batch's events (`none` for `nil`) and the reader after them. -/
def readBatch (fuel : Nat) (r : Reader) : Except Fault (Option (List α) × Reader) := do
  let (win, input) ← liftErr (r.input.readFull 6)
  if win.getD 0 0 ≠ codeVersion ∧ win.getD 1 0 ≠ codeWindowSize then throw (.error .protocol)
  let count := goInt w (bigEndianUint32 (win.drop 2))
  if count = 0 then return (none, { r with input })
  if count < 0 then throw .panic
  let (events, input, buf) ← readEvents w Z decoder fuel input r.buf [] count.toNat
  return (some events, ⟨input, buf⟩)

end

end Lumber
