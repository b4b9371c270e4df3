import Lumber.Lemmas.Sound
import Lumber.Theorems.RoundTrip

/-!
# What one ReadBatch call accepts and returns

A batch that ReadBatch returns is a whole window: the count in its header is at least one, the batch holds exactly that
many events, and they are the decoder's results on the JSON payloads of the frames after the header, at any depth of
compression, in wire order (`readBatch_batch_integrity`). The frames are fixed by the bytes alone: with any other
decoder ReadBatch decodes the same payloads and returns their results, or the first error.

The header check joins its two byte tests with `&&`, so a header wrong in only one of its two bytes is read as a window
header (`readBatch_accepts_json_frame_header`); the frame headers inside a window are checked byte by byte, at every
frame the loop reaches (`readBatch_rejects_frame_header`). With Go's `int` 32 bits wide, a count of `2^31` or more
converts to a negative `int`, and `make` panics (`readBatch_w32_count_panics`). With `int` 64 bits wide, ReadBatch
never panics of itself (`readBatch_w64_ne_panic`): the only panics of the reader are a count or a payload length that
converts to a negative `int`. The decoder is a function that returns, here as in the whole model; reader.go calls
`r.decoder` with no `recover`, so a decoder that panics panics ReadBatch.
-/

namespace Lumber

namespace WindowAux

section
variable {α : Type} {w : IntWidth} {Z : Zlib} {decoder : List UInt8 → Except Error α}

/-- The loop of readEvents panics only inside a readJSONEvent, at any depth of compression. -/
theorem readEvents_panic {fuel : Nat} : ∀ {s : ByteStream} {buf : List UInt8} {events : List α} {cap : Nat},
    readEvents w Z decoder fuel s buf events cap = .error .panic →
    ∃ s' buf', readJSONEvent w decoder s' buf' = .error .panic := by
  induction fuel with
  | zero => intro s buf events cap h; cases h
  | succ fuel ih =>
    intro s buf events cap h
    by_cases hlt : events.length < cap
    · obtain ⟨_, ⟨-, hj | ⟨_, _, _, -, hr⟩⟩ | ⟨-, hc | ⟨_, _, _, -, hr⟩⟩⟩ :=
        readEvents_fault_cases Fault.panic_ne_error hlt h
      · exact ⟨_, _, hj⟩
      · exact ih hr
      · obtain ⟨_, _, _, -, -, hr⟩ := readCompressed_fault Fault.panic_ne_error hc
        exact ih hr
      · exact ih hr
    · rw [readEvents_full (by omega)] at h
      cases h

/-- With a 64-bit `int`, readJSONEvent never panics: a length field of four bytes converts to itself. -/
theorem readJSONEvent_w64_ne_panic (s : ByteStream) (buf : List UInt8) :
    readJSONEvent .w64 decoder s buf ≠ .error .panic := by
  intro h
  obtain ⟨-, hdr, _, h1, hneg⟩ := readJSONEvent_fault Fault.panic_ne_error h
  rw [goInt_w64 (bigEndianUint32_lt (by simp [(ByteStream.readFull_ok h1).1]))] at hneg
  omega

end

end WindowAux

open WindowAux

section
variable {α : Type} {w : IntWidth} {Z : Zlib} {decoder : List UInt8 → Except Error α}

/-- Batch integrity. When ReadBatch returns a batch `evs`, it read a 6-byte header whose count `N` is at least one, and
then frames that `Reads` derives, holding `N` JSON payloads `ps` in wire order (at any depth of compression); `evs` has
exactly `N` events, the decoder's results on `ps`. With any decoder `dec` on the same bytes, ReadBatch (given the fuel)
returns the results of `dec` on the same payloads, or the error of the first payload `dec` fails on and no batch. -/
theorem readBatch_batch_integrity {fuel : Nat} {r r' : Reader} {evs : List α}
    (h : readBatch w Z decoder fuel r = .ok (some evs, r')) :
    ∃ hdr more ps, hdr.length = 6 ∧ r.input.bytes = hdr ++ more ∧ 1 ≤ bigEndianUint32 (hdr.drop 2) ∧
      evs.length = bigEndianUint32 (hdr.drop 2) ∧
      Reads w Z (bigEndianUint32 (hdr.drop 2)) ⟨more, r.input.stop⟩ ps r'.input ∧ ps.mapM decoder = .ok evs ∧
      ∀ {β : Type} (dec : List UInt8 → Except Error β), ∃ buf' fuel₀, ∀ fuel', fuel₀ ≤ fuel' →
        readBatch w Z dec fuel' r = liftErr ((ps.mapM dec).map fun vs => (some vs, ⟨r'.input, buf'⟩)) := by
  obtain ⟨hdr, more, hl, hb, hacc, ⟨-, hnone, -⟩ | ⟨hpos, evs', hsome, hr⟩⟩ := readBatch_ok h
  · cases hnone
  cases hsome
  have hval := goInt_eq_of_nonneg (w := w) (bigEndianUint32_lt (b := hdr.drop 2) (by simp [hl])) (by omega)
  obtain ⟨ps, vs, hR, hm, rfl⟩ := readEvents_sound (by simp) hr
  rw [List.length_nil, Nat.sub_zero] at hR
  have hr : r = ⟨⟨hdr ++ more, r.input.stop⟩, r.buf⟩ := by rw [← hb]
  refine ⟨hdr, more, ps, hl, hb, by omega, ?_, hR, hm, fun dec => ?_⟩
  · rw [length_of_mapM_ok hm, hR.length_eq]
  obtain ⟨buf', fuel₀, hc⟩ := @readEvents_complete _ w Z dec _ _ _ _ hR r.buf [] _ (Nat.zero_add _)
  refine ⟨buf', fuel₀, fun fuel' hf => ?_⟩
  rw [hr, readBatch_accepted hl hacc, if_neg (by omega), if_neg (by omega), hc fuel' hf]
  cases ps.mapM dec <;> rfl

/-- The window of `{}` in a JSON frame and `1` in a compressed frame, a stored-block zlib stream padded with a zero
byte. -/
def compressedTail : Window :=
  ⟨[RoundTripWitness.braces, RoundTripWitness.one], by decide,
    some (1, storedStream (encodeFrames [.json RoundTripWitness.one]), [0])⟩

/-- `compressedTail` read with the decoder that keeps each payload: the batch holds both events, and the frames derived
go through the compressed frame. -/
theorem readBatch_batch_integrity_compressed_tail :
    ∃ fuel buf', readBatch .w64 storedZlib Except.ok fuel ⟨⟨compressedTail.encode ++ [], .eof⟩, []⟩ =
        .ok (some [[0x7B, 0x7D], [0x31]], ⟨⟨[], .eof⟩, buf'⟩) ∧
      ∃ hdr more ps, hdr.length = 6 ∧ compressedTail.encode ++ [] = hdr ++ more ∧ 1 ≤ bigEndianUint32 (hdr.drop 2) ∧
        [[0x7B, 0x7D], [0x31]].length = bigEndianUint32 (hdr.drop 2) ∧
        Reads .w64 storedZlib (bigEndianUint32 (hdr.drop 2)) ⟨more, .eof⟩ ps ⟨[], .eof⟩ ∧
        ps.mapM (fun p => (Except.ok p : Except Error (List UInt8))) = .ok [[0x7B, 0x7D], [0x31]] ∧
        ∀ {β : Type} (dec : List UInt8 → Except Error β), ∃ buf'' fuel₀, ∀ fuel', fuel₀ ≤ fuel' →
          readBatch .w64 storedZlib dec fuel' ⟨⟨compressedTail.encode ++ [], .eof⟩, []⟩ =
            liftErr ((ps.mapM dec).map fun vs => (some vs, ⟨⟨[], .eof⟩, buf''⟩)) := by
  have hv : compressedTail.Valid storedZlib := ⟨by decide, by decide, storedStream_encodes (by decide)⟩
  obtain ⟨buf', fuel₀, h⟩ := @RoundTripAux.readBatch_window_round_trip _ storedZlib Except.ok id _ hv
    (fun _ _ => rfl) [] .eof []
  have h0 := h fuel₀ le_rfl
  exact ⟨fuel₀, buf', h0, @readBatch_batch_integrity _ .w64 storedZlib Except.ok fuel₀ _ _ _ h0⟩

/-- A header with the version byte and the JSON frame type `'J'` in place of the window type is accepted as a window
header: with a zero count after it, ReadBatch returns no batch and no error, whatever follows. -/
theorem readBatch_accepts_json_frame_header (fuel : Nat) (more : List UInt8) (stop : Error) (buf : List UInt8) :
    readBatch w Z decoder fuel ⟨⟨[codeVersion, codeJSONDataFrame, 0, 0, 0, 0] ++ more, stop⟩, buf⟩ =
      .ok (none, ⟨⟨more, stop⟩, buf⟩) := by
  rw [readBatch_accepted (show [codeVersion, codeJSONDataFrame, 0, 0, 0, 0].length = 6 from rfl) (.inl rfl)]
  rfl

/-- With a 32-bit `int`, every window count of `2^31` or more converts to a negative `int`, and ReadBatch panics. -/
theorem readBatch_w32_count_panics {n : Nat} (h₁ : 2 ^ 31 ≤ n) (h₂ : n < 2 ^ 32) (fuel : Nat) (more : List UInt8)
    (stop : Error) (buf : List UInt8) :
    readBatch .w32 Z decoder fuel ⟨⟨windowHeader n ++ more, stop⟩, buf⟩ = .error .panic := by
  obtain ⟨hl, hacc⟩ := windowHeader_accepted n
  rw [readBatch_accepted hl hacc, windowHeader_count h₂, if_neg (by omega), if_pos (goInt_w32_neg h₁ h₂)]

/-- The header `'2' 'W' 0x80 0 0 0` panics ReadBatch with a 32-bit `int`. -/
theorem readBatch_w32_count_panics_at_2p31 :
    windowHeader (2 ^ 31) = [0x32, 0x57, 0x80, 0, 0, 0] ∧
      readBatch .w32 storedZlib Except.ok 0 ⟨⟨windowHeader (2 ^ 31) ++ [], .eof⟩, []⟩ = .error .panic :=
  ⟨rfl, @readBatch_w32_count_panics (List UInt8) storedZlib Except.ok _ (by decide) (by decide) 0 [] .eof []⟩

/-- With a 64-bit `int`, ReadBatch never panics, on any input and with any zlib reader and any decoder that returns
(a value or an error, as every decoder of the model does): the count and every payload length, four bytes each,
convert to themselves. -/
theorem readBatch_w64_ne_panic (fuel : Nat) (r : Reader) : readBatch .w64 Z decoder fuel r ≠ .error .panic := by
  intro h
  unfold readBatch at h
  obtain ⟨⟨hdr, s⟩, h1, h⟩ := liftErr_bind_eq_error Fault.panic_ne_error h
  have hval := goInt_w64 (bigEndianUint32_lt (b := hdr.drop 2) (by simp [(ByteStream.readFull_ok h1).1]))
  dsimp only at h
  split at h
  · cases h
  simp only [pure_eq, ok_bind, hval] at h
  split at h
  · cases h
  rw [if_neg (by omega)] at h
  rcases bind_eq_error h with h | ⟨_, -, h⟩
  · obtain ⟨s', buf', h⟩ := readEvents_panic h
    exact readJSONEvent_w64_ne_panic s' buf' h
  · cases h

end

end Lumber
