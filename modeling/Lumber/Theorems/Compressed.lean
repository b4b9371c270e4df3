import Lumber.Theorems.RoundTrip

/-!
# Compressed frames

readCompressed bounds the zlib reader by the frame's length and drains what the zlib reader left of it, so a compressed
frame consumes exactly its declared length, whatever the zlib reader and the loop inside it do
(`readCompressed_consumes_declared_length`).

Inside a compressed frame the loop runs until the window is full, so a compressed frame ends its window. Compressing the
frames that end a window changes nothing ReadBatch returns (`readBatch_compress_final_segment`). Compressing frames
that do not end it does: the inner loop reads past the end of the zlib stream and ReadBatch fails where the original
window reads (`readBatch_compress_inner_segment_fails`).
-/

namespace Lumber

/-- A compressed frame consumes exactly its declared length. Whatever the zlib reader and the loop inside it do: when
the reader holds the 4-byte length `L` and `L` more bytes, and readCompressed returns, it has consumed exactly `4 + L`
bytes; the events and the scratch buffer it returns are what the zlib reader and the loop make of those `L` bytes
alone; and the drain loop, however many bytes the zlib reader pulled through the limit, ends at the frame's end. -/
theorem readCompressed_consumes_declared_length {α : Type} {Z : Zlib}
    {readEvents : ByteStream → List UInt8 → List α → Except Fault (List α × ByteStream × List UInt8)}
    {s t : ByteStream} {buf buf' : List UInt8} {events events' : List α}
    (hlen : 4 + bigEndianUint32 (s.bytes.take 4) ≤ s.bytes.length)
    (h : readCompressed Z readEvents s buf events = .ok (events', t, buf')) :
    t = s.drop (4 + bigEndianUint32 (s.bytes.take 4)) ∧
      readCompressedBody (Z := Z) readEvents ((s.bytes.drop 4).take (bigEndianUint32 (s.bytes.take 4))) buf events =
        .ok (events', buf') ∧
      ∀ p, ((LimitedReader.mk (bigEndianUint32 (s.bytes.take 4)) (s.drop 4)).skip p).drain = .ok t := by
  obtain ⟨sz, body, hsz, hs, hstop, hb, hbody⟩ := readCompressed_ok h
  have htake : s.bytes.take 4 = sz := by rw [hs, List.append_assoc, List.take_left' hsz]
  have hdrop : s.bytes.drop 4 = body ++ t.bytes := by rw [hs, List.append_assoc, List.drop_left' hsz]
  have hl : s.bytes.length = 4 + body.length + t.bytes.length := by simp [hs, hsz, Nat.add_assoc]
  rw [htake] at hlen ⊢
  have hbl : body.length = bigEndianUint32 sz := by
    rcases hb with hb | ⟨hb, ht, -⟩
    · exact hb
    · simp only [ht, List.length_nil] at hl; omega
  have ht : t = s.drop (4 + bigEndianUint32 sz) := by
    obtain ⟨tb, ts⟩ := t
    simp only at hs hstop
    simp only [ByteStream.drop, hs, ← hstop,
      List.drop_left' (show (sz ++ body).length = 4 + bigEndianUint32 sz by simp [hsz, hbl])]
  refine ⟨ht, by rwa [hdrop, List.take_left' hbl], fun p => ?_⟩
  rw [LimitedReader.drain_skip, LimitedReader.drain_eq, if_pos (.inl (by simp; omega)), ht, ByteStream.drop_drop]

namespace CompressedWitness

/-- A frame of 4-byte length then a stored-block zlib stream of the JSON frame of `1`, followed by one more byte. -/
def stream : ByteStream :=
  ⟨bigEndianPutUint32 (storedStream (Frame.json RoundTripWitness.one).encode).length ++
    storedStream (Frame.json RoundTripWitness.one).encode ++ [0x99], .eof⟩

/-- The loop a window of one event runs inside the frame. -/
def inner (s : ByteStream) (buf : List UInt8) (events : List (List UInt8)) :
    Except Fault (List (List UInt8) × ByteStream × List UInt8) :=
  readEvents .w64 storedZlib Except.ok 3 s buf events 1

/-- readCompressed on the frame returns the event and stops before the byte after it. -/
theorem readCompressed_stream : readCompressed storedZlib inner stream [] [] = .ok ([[0x31]], ⟨[0x99], .eof⟩, [0x31]) := by
  rw [stream, readCompressed_eq _ _ _ (length_bigEndianPutUint32 _) (.inl (bigEndianUint32_put (by decide)).symm)]
  rfl

end CompressedWitness

/-- On a stored-block frame followed by one more byte, readCompressed consumes the length field and the frame and stops
at that byte. -/
theorem readCompressed_consumes_declared_length_stored :
    4 + bigEndianUint32 (CompressedWitness.stream.bytes.take 4) ≤ CompressedWitness.stream.bytes.length ∧
    readCompressed storedZlib CompressedWitness.inner CompressedWitness.stream [] [] =
      .ok ([[0x31]], ⟨[0x99], .eof⟩, [0x31]) ∧
    ((⟨[0x99], .eof⟩ : ByteStream) =
        CompressedWitness.stream.drop (4 + bigEndianUint32 (CompressedWitness.stream.bytes.take 4)) ∧
      readCompressedBody (Z := storedZlib) CompressedWitness.inner
          ((CompressedWitness.stream.bytes.drop 4).take (bigEndianUint32 (CompressedWitness.stream.bytes.take 4))) []
          [] = .ok ([[0x31]], [0x31]) ∧
      ∀ p, ((LimitedReader.mk (bigEndianUint32 (CompressedWitness.stream.bytes.take 4))
        (CompressedWitness.stream.drop 4)).skip p).drain = .ok ⟨[0x99], .eof⟩) :=
  ⟨by decide, CompressedWitness.readCompressed_stream,
    readCompressed_consumes_declared_length (by decide) CompressedWitness.readCompressed_stream⟩

/-- Compressing the frames that end a window. Take a window of `N` events whose frames are JSON frames for the events
`pre`, then frames `S` holding the rest of the window's events (`Reads` derives them, ending where the window ends).
Replace `S` by one compressed frame whose payload is a zlib stream `z` of `S`, then any padding. For every decoder,
ReadBatch returns the same on both windows, given the fuel: the decoder's results on the same payloads in the same
order, or the same first error; and each call leaves the reader just after its window. -/
theorem readBatch_compress_final_segment {α : Type} {Z : Zlib} {N : Nat} (hN : N < 2 ^ 32) {pre : List JSONEvent}
    (hpre : pre.length < N) {S z pad rest : List UInt8} {stop : Error} {ps : List (List UInt8)}
    (hS : Reads .w64 Z (N - pre.length) ⟨S ++ rest, stop⟩ ps ⟨rest, stop⟩) (hz : Z.Encodes z S)
    (hL : (z ++ pad).length < 2 ^ 32) (dec : List UInt8 → Except Error α) (buf : List UInt8) :
    ∃ buf₁ buf₂ fuel₀, ∀ fuel, fuel₀ ≤ fuel →
      readBatch .w64 Z dec fuel ⟨⟨windowHeader N ++ encodeFrames (pre.map .json) ++ S ++ rest, stop⟩, buf⟩ =
        liftErr (((pre.map JSONEvent.payload ++ ps).mapM dec).map fun vs => (some vs, ⟨⟨rest, stop⟩, buf₁⟩)) ∧
      readBatch .w64 Z dec fuel
          ⟨⟨windowHeader N ++ encodeFrames (pre.map .json) ++ (Frame.compressed (z ++ pad) hL).encode ++ rest, stop⟩,
            buf⟩ =
        liftErr (((pre.map JSONEvent.payload ++ ps).mapM dec).map fun vs => (some vs, ⟨⟨rest, stop⟩, buf₂⟩)) := by
  have hpos : 0 < goInt .w64 N := by rw [goInt_w64 hN]; omega
  have hn : pre.length + (N - pre.length) = N := by omega
  obtain ⟨inf, hopen, hout, hclose⟩ := hz pad
  have hC : Reads .w64 Z (N - pre.length) ⟨(Frame.compressed (z ++ pad) hL).encode ++ rest, stop⟩ ps ⟨rest, stop⟩ := by
    obtain ⟨k, hk⟩ : ∃ k, N - pre.length = k + 1 := ⟨N - pre.length - 1, by omega⟩
    rw [hk] at hS ⊢
    simpa [Frame.encode, List.append_assoc] using Reads.compressed (length_bigEndianPutUint32 _)
      (.inl (bigEndianUint32_put hL).symm) hopen (by rw [hout]; exact hS.close_stream) (hclose _)
  have hO := hS.json_frames pre
  have hNew := hC.json_frames pre
  rw [hn, ← List.append_assoc] at hO hNew
  obtain ⟨buf₁, f₁, h₁⟩ := @readBatch_complete α .w64 Z dec N hN hpos _ _ _ _ hO buf
  obtain ⟨buf₂, f₂, h₂⟩ := @readBatch_complete α .w64 Z dec N hN hpos _ _ _ _ hNew buf
  refine ⟨buf₁, buf₂, max f₁ f₂, fun fuel hf => ⟨?_, ?_⟩⟩
  · rw [List.append_assoc (windowHeader N)]
    exact h₁ fuel (by omega)
  · rw [List.append_assoc (windowHeader N)]
    exact h₂ fuel (by omega)

/-- A window of `{}` in a JSON frame and `1` compressed, read with the decoder that keeps each payload. -/
theorem readBatch_compress_final_segment_stored :
    (2 : Nat) < 2 ^ 32 ∧ [RoundTripWitness.braces].length < 2 ∧
    Reads .w64 storedZlib (2 - [RoundTripWitness.braces].length)
      ⟨encodeFrames ([RoundTripWitness.one].map .json) ++ [], .eof⟩ ([RoundTripWitness.one].map JSONEvent.payload ++ [])
      ⟨[], .eof⟩ ∧
    storedZlib.Encodes (storedStream (encodeFrames ([RoundTripWitness.one].map .json)))
      (encodeFrames ([RoundTripWitness.one].map .json)) ∧
    ∃ buf₁ buf₂ fuel₀, ∀ fuel, fuel₀ ≤ fuel →
      readBatch .w64 storedZlib Except.ok fuel ⟨⟨windowHeader 2 ++ encodeFrames ([RoundTripWitness.braces].map .json) ++
          encodeFrames ([RoundTripWitness.one].map .json) ++ [], .eof⟩, []⟩ =
        liftErr ((([RoundTripWitness.braces].map JSONEvent.payload ++
          ([RoundTripWitness.one].map JSONEvent.payload ++ [])).mapM Except.ok).map
            fun vs => (some vs, ⟨⟨[], .eof⟩, buf₁⟩)) ∧
      readBatch .w64 storedZlib Except.ok fuel ⟨⟨windowHeader 2 ++ encodeFrames ([RoundTripWitness.braces].map .json) ++
          (Frame.compressed (storedStream (encodeFrames ([RoundTripWitness.one].map .json)) ++ []) (by decide)).encode ++
            [], .eof⟩, []⟩ =
        liftErr ((([RoundTripWitness.braces].map JSONEvent.payload ++
          ([RoundTripWitness.one].map JSONEvent.payload ++ [])).mapM Except.ok).map
            fun vs => (some vs, ⟨⟨[], .eof⟩, buf₂⟩)) :=
  have hS := (Reads.done (w := .w64) (Z := storedZlib) ⟨[], .eof⟩).json_frames [RoundTripWitness.one]
  have hz := storedStream_encodes (d := encodeFrames ([RoundTripWitness.one].map .json)) (by decide)
  ⟨by decide, by decide, hS, hz,
    readBatch_compress_final_segment (by decide) (by decide) hS hz (by decide) Except.ok []⟩

/-- Compressing frames that do not end their window. In a window of two events, `{}` compressed on its own and then
`1` in a JSON frame: the loop inside the compressed frame reads `{}`, asks for a second event, and finds the end of the
zlib stream, so ReadBatch returns an error (`io.EOF`) at every fuel. The same window with both events in JSON frames
reads both. -/
theorem readBatch_compress_inner_segment_fails :
    (¬ ∃ fuel b r, readBatch .w64 storedZlib Except.ok fuel
        ⟨⟨windowHeader 2 ++ (Frame.compressed (storedStream (Frame.json RoundTripWitness.braces).encode)
          (by decide)).encode ++ (Frame.json RoundTripWitness.one).encode, .eof⟩, []⟩ = .ok (b, r)) ∧
    readBatch .w64 storedZlib Except.ok 3 ⟨⟨windowHeader 2 ++ (Frame.json RoundTripWitness.braces).encode ++
        (Frame.json RoundTripWitness.one).encode, .eof⟩, []⟩ =
      .ok (some [[0x7B, 0x7D], [0x31]], ⟨⟨[], .eof⟩, [0x31, 0x7D]⟩) := by
  refine ⟨?_, rfl⟩
  rintro ⟨fuel, b, r, h⟩
  rcases fuel with _ | _ | _ | f <;> cases h

end Lumber
