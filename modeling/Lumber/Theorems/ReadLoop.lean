import Lumber.Theorems.RoundTrip
import Lumber.Theorems.Termination
import Lumber.Lemmas.Sound

/-!
# ReadBatch called again and again on one reader

handler.go's read task calls ReadBatch on one reader until it fails. Two things make that loop safe on any input.

The scratch buffer `r.buf` is reused for every JSON payload of every call: readJSONEvent grows it when it is too short,
copies the payload over its front, and hands the decoder its first `payloadSz` bytes. Those are the payload, whatever the
buffer held before, so nothing of an earlier payload ever reaches the decoder or decides what happens. Over any number of
calls, the batches, the faults, and where each call leaves the connection are those of calls that each start with a
fresh buffer (`readBatches_independent_of_scratch`), on every input and at any depth of compression. The proof is a
two-run argument: one congruence lemma for `Except`'s bind (`ReadLoopAux.map_bind_congr`), then one lemma for each
function of reader.go, the loop's by induction on the fuel.

Every call that returns has consumed at least its 6-byte window header, and only moves forward on the connection
(`ReadLoopAux.readBatch_consumes`). So on a connection of `n` bytes the loop cannot go on for ever: of any `k` calls with
`n < 6 * k`, one fails, and when compressed frames nest boundedly on the connection with fuel to match, it fails with
an error or a panic that the call returns, not by running for ever (`readBatches_fail_beyond_input`).
-/

namespace Lumber

namespace ReadLoopAux

/-- Two runs whose first steps agree on what `p` keeps, and whose continuations agree on what `f` keeps whenever
their inputs agree on `p`, agree on what `f` keeps. -/
theorem map_bind_congr {ε β β' γ δ : Type} {x y : Except ε β} {p : β → β'} {f : γ → δ} {g h : β → Except ε γ}
    (hxy : x.map p = y.map p) (hgh : ∀ a b, p a = p b → (g a).map f = (h b).map f) :
    (x >>= g).map f = (y >>= h).map f := by
  cases x with
  | error e =>
    cases y with
    | error e' => cases hxy; rfl
    | ok b => cases hxy
  | ok a =>
    cases y with
    | error e' => cases hxy
    | ok b => exact hgh a b (Except.ok.inj hxy)

/-- The same, for a first step that returns events, a reader and the scratch buffer: the continuation need only agree
with itself on two buffers. -/
theorem map_bind_congr_buf {ε β γ δ : Type} {x y : Except ε (β × ByteStream × List UInt8)} {f : γ → δ}
    {g : β × ByteStream × List UInt8 → Except ε γ}
    (hxy : x.map (fun r => (r.1, r.2.1)) = y.map (fun r => (r.1, r.2.1)))
    (hg : ∀ e t b b', (g (e, t, b)).map f = (g (e, t, b')).map f) : (x >>= g).map f = (y >>= g).map f :=
  map_bind_congr hxy fun ⟨_, _, _⟩ ⟨_, _, _⟩ hab => by
    obtain ⟨rfl, rfl⟩ := Prod.mk.inj hab
    exact hg _ _ _ _

section
variable {α : Type} {w : IntWidth} {Z : Zlib} {decoder : List UInt8 → Except Error α}

/-- readJSONEvent's event and where it leaves the reader do not depend on the scratch buffer. -/
theorem readJSONEvent_map_buf (s : ByteStream) (buf buf' : List UInt8) :
    (readJSONEvent w decoder s buf).map (fun r => (r.1, r.2.1)) =
      (readJSONEvent w decoder s buf').map (fun r => (r.1, r.2.1)) := by
  unfold readJSONEvent
  cases s.readFull 8 with
  | error e => simp only [liftErr_error, error_bind]
  | ok r =>
    simp only [liftErr_ok, ok_bind]
    split
    · rfl
    simp only [pure_eq, ok_bind]
    cases h : r.2.readFull _ with
    | error e => simp only [liftErr_error, error_bind]
    | ok q =>
      simp only [liftErr_ok, ok_bind, List.take_left' (ByteStream.readFull_ok h).1]
      cases decoder q.1 <;> rfl

/-- readCompressed passes the scratch buffer only to the inner loop: when the loop's events and where it leaves its
reader do not depend on the buffer, neither do readCompressed's. -/
theorem readCompressed_map_buf {ev : ByteStream → List UInt8 → List α → Except Fault (List α × ByteStream × List UInt8)}
    (hev : ∀ s b b' e, (ev s b e).map (fun r => (r.1, r.2.1)) = (ev s b' e).map (fun r => (r.1, r.2.1)))
    (s : ByteStream) (buf buf' : List UInt8) (events : List α) :
    (readCompressed Z ev s buf events).map (fun r => (r.1, r.2.1)) =
      (readCompressed Z ev s buf' events).map (fun r => (r.1, r.2.1)) := by
  unfold readCompressed
  cases s.readFull 4 with
  | error e => simp only [liftErr_error, error_bind]
  | ok r =>
    simp only [liftErr_ok, ok_bind]
    cases Z.newReader _ with
    | error e => simp only [liftErr_error, error_bind]
    | ok reader =>
      simp only [liftErr_ok, ok_bind]
      refine map_bind_congr_buf (hev _ buf buf' events) fun _ _ _ _ => ?_
      dsimp only
      split
      · rfl
      cases (LimitedReader.skip _ _).drain <;> rfl

/-- The loop of readEvents: its events, its faults, and where it leaves the reader do not depend on the scratch
buffer. -/
theorem readEvents_map_buf : ∀ (fuel : Nat) (s : ByteStream) (buf buf' : List UInt8) (events : List α) (cap : Nat),
    (readEvents w Z decoder fuel s buf events cap).map (fun r => (r.1, r.2.1)) =
      (readEvents w Z decoder fuel s buf' events cap).map (fun r => (r.1, r.2.1))
  | 0, _, _, _, _, _ => rfl
  | fuel + 1, s, buf, buf', events, cap => by
    simp only [readEvents]
    split
    · cases s.readFull 2 with
      | error e => simp only [liftErr_error, error_bind]
      | ok r =>
        simp only [liftErr_ok, ok_bind]
        split
        · rfl
        simp only [pure_eq, ok_bind]
        split
        · exact map_bind_congr_buf (readJSONEvent_map_buf _ buf buf') fun _ t b b' =>
            readEvents_map_buf fuel t b b' _ cap
        split
        · exact map_bind_congr_buf (readCompressed_map_buf (fun s b b' e => readEvents_map_buf fuel s b b' e cap) _
            buf buf' events) fun e t b b' => readEvents_map_buf fuel t b b' e cap
        · rfl
    · rfl

/-- One ReadBatch call: its batch, its faults, and where it leaves the connection do not depend on the scratch
buffer. -/
theorem readBatch_map_buf (fuel : Nat) (input : ByteStream) (buf buf' : List UInt8) :
    (readBatch w Z decoder fuel ⟨input, buf⟩).map (fun r => (r.1, r.2.input)) =
      (readBatch w Z decoder fuel ⟨input, buf'⟩).map (fun r => (r.1, r.2.input)) := by
  unfold readBatch
  cases input.readFull 6 with
  | error e => simp only [liftErr_error, error_bind]
  | ok r =>
    simp only [liftErr_ok, ok_bind]
    split
    · rfl
    simp only [pure_eq, ok_bind]
    split
    · rfl
    split
    · rfl
    exact map_bind_congr_buf (readEvents_map_buf fuel _ buf buf' [] _) fun _ _ _ _ => rfl

/-- A ReadBatch call that returns has consumed its 6-byte window header and what follows it, and leaves a connection
that ends the same way. -/
theorem readBatch_consumes {fuel : Nat} {r r' : Reader} {b : Option (List α)}
    (h : readBatch w Z decoder fuel r = .ok (b, r')) :
    ∃ c, 6 ≤ c.length ∧ r.input.bytes = c ++ r'.input.bytes ∧ r'.input.stop = r.input.stop := by
  obtain ⟨hdr, more, hl, hb, -, ⟨-, -, rfl⟩ | ⟨-, evs, -, hr⟩⟩ := readBatch_ok h
  · exact ⟨hdr, by omega, hb, rfl⟩
  obtain ⟨ps, vs, hR, -, -⟩ := readEvents_sound (Nat.zero_le _) hr
  obtain ⟨c, hc, hs⟩ := hR.suffix
  exact ⟨hdr ++ c, by rw [List.length_append]; omega, by rw [hb, show more = _ from hc, List.append_assoc], hs.symm⟩

/-- `k` ReadBatch calls that all return have consumed at least six bytes each. -/
theorem readBatches_consumes {fuel : Nat} : ∀ {k : Nat} {r : Reader} {calls : List (Option (List α) × Reader)},
    readBatches w Z decoder fuel k r = .ok calls → 6 * k ≤ r.input.bytes.length
  | 0, _, _, _ => Nat.zero_le _
  | k + 1, r, calls, h => by
    obtain ⟨⟨b, r1⟩, h1, h⟩ := bind_eq_ok h
    obtain ⟨_, h2, -⟩ := bind_eq_ok h
    obtain ⟨c, hc, hb, -⟩ := readBatch_consumes h1
    have := readBatches_consumes h2
    rw [hb, List.length_append]
    omega

/-- Under a nesting bound on `s₀` and fuel to match, no call of the loop over a suffix of `s₀` runs for ever: each
call starts on a suffix of what the one before had. -/
theorem readBatches_ne_diverge {d fuel : Nat} {s₀ : ByteStream} (hn : nestsWithin Z d s₀ = true)
    (hf : nestFuel Z d s₀ ≤ fuel) : ∀ {k : Nat} {r : Reader}, r.input.bytes <:+ s₀.bytes → r.input.stop = s₀.stop →
    readBatches w Z decoder fuel k r ≠ .error .diverge
  | 0, _, _, _ => fun h => by cases h
  | k + 1, r, ht, hs => fun h => by
    rcases bind_eq_error h with h | ⟨⟨b, r1⟩, h1, h⟩
    · exact TerminationAux.readBatch_ne_diverge_within hn hf ht hs h
    rcases bind_eq_error h with h | ⟨_, -, h⟩
    · obtain ⟨c, -, hb, hst⟩ := readBatch_consumes h1
      exact readBatches_ne_diverge hn hf ((hb ▸ List.suffix_append c _).trans ht) (hst.trans hs) h
    · cases h

end

end ReadLoopAux

open ReadLoopAux

/-- The scratch buffer never leaks. Over any number `k` of ReadBatch calls on one reader, each on the reader the one
before left, the batches, the faults, and where each call leaves the connection do not depend on what the scratch
buffer held before the first call: they are those of calls that start with a fresh buffer. -/
theorem readBatches_independent_of_scratch {α : Type} {w : IntWidth} {Z : Zlib} {decoder : List UInt8 → Except Error α}
    (fuel : Nat) : ∀ (k : Nat) (input : ByteStream) (buf buf' : List UInt8),
    (readBatches w Z decoder fuel k ⟨input, buf⟩).map (fun calls => calls.map fun c => (c.1, c.2.input)) =
      (readBatches w Z decoder fuel k ⟨input, buf'⟩).map (fun calls => calls.map fun c => (c.1, c.2.input))
  | 0, _, _, _ => rfl
  | k + 1, input, buf, buf' => by
    simp only [readBatches]
    refine map_bind_congr (readBatch_map_buf fuel input buf buf') fun a b hab => ?_
    obtain ⟨b1, ⟨i1, r1⟩⟩ := a
    obtain ⟨b2, ⟨i2, r2⟩⟩ := b
    obtain ⟨rfl, rfl⟩ := Prod.mk.inj hab
    refine map_bind_congr (readBatches_independent_of_scratch fuel k i1 r1 r2) fun c d hcd => ?_
    simp only [pure_eq, Except.map, List.map_cons, hcd]

/-- The read loop cannot go on for ever on a finite connection: of `k` ReadBatch calls on one reader, each on the
reader the one before left, one fails when the connection holds fewer than `6 * k` bytes; when compressed frames nest at
most `d` deep on it and the fuel is `nestFuel Z d` of it, the failure is an error or a panic, returned by the call. -/
theorem readBatches_fail_beyond_input {α : Type} {w : IntWidth} {Z : Zlib} {decoder : List UInt8 → Except Error α}
    {d fuel k : Nat} {r : Reader} (hn : nestsWithin Z d r.input = true) (hf : nestFuel Z d r.input ≤ fuel)
    (hk : r.input.bytes.length < 6 * k) : ∃ f, readBatches w Z decoder fuel k r = .error f ∧ f ≠ .diverge := by
  rcases h : readBatches w Z decoder fuel k r with f | calls
  · exact ⟨f, rfl, fun hd => readBatches_ne_diverge hn hf (List.suffix_refl _) rfl (hd ▸ h)⟩
  · exact absurd (readBatches_consumes h) (by omega)

set_option maxRecDepth 10000 in
/-- A window of one event in a compressed frame under zlib, thirty bytes nested one deep: of six calls, one fails, and
returns. -/
theorem readBatches_fail_beyond_input_deflated :
    nestsWithin inflateZlib 1 ⟨windowHeader 1 ++ [codeVersion, codeCompressed] ++ bigEndianPutUint32 18 ++
      deflatedEvent, .eof⟩ = true ∧
    nestFuel inflateZlib 1 ⟨windowHeader 1 ++ [codeVersion, codeCompressed] ++ bigEndianPutUint32 18 ++
      deflatedEvent, .eof⟩ ≤ 50 ∧
    (windowHeader 1 ++ [codeVersion, codeCompressed] ++ bigEndianPutUint32 18 ++ deflatedEvent).length < 6 * 6 ∧
    ∃ f, readBatches .w64 inflateZlib Except.ok 50 6 ⟨⟨windowHeader 1 ++ [codeVersion, codeCompressed] ++
      bigEndianPutUint32 18 ++ deflatedEvent, .eof⟩, []⟩ = .error f ∧ f ≠ .diverge :=
  have hn : nestsWithin inflateZlib 1 ⟨windowHeader 1 ++ [codeVersion, codeCompressed] ++ bigEndianPutUint32 18 ++
      deflatedEvent, .eof⟩ = true := by decide
  have hf : nestFuel inflateZlib 1 ⟨windowHeader 1 ++ [codeVersion, codeCompressed] ++ bigEndianPutUint32 18 ++
      deflatedEvent, .eof⟩ ≤ 50 := by decide
  ⟨hn, hf, by decide, readBatches_fail_beyond_input hn hf (by decide)⟩

end Lumber
