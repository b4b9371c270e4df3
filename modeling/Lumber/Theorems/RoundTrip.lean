import Lumber.Lemmas.Complete
import Lumber.Lemmas.Grammar
import Lumber.Stored

/-!
# The wire format round trip

A client writes windows one after another on a connection, each a header and its events in JSON frames, or in JSON
frames then one compressed frame that ends the window. ReadBatch, called once for each window on one reader, returns
each window's batch in turn (`readBatches_round_trip`): `nil` for an empty window, else the decoder's results on the
window's payloads in wire order. Each call leaves the reader at the first byte of the next window, and the scratch buffer
the calls share never shows in what the decoder is given.

Go's `int` is 64 bits wide here; with 32 bits a count or a payload length of `2^31` or more panics
(`Theorems/Window.lean`).
-/

namespace Lumber

section
variable {α : Type} (w : IntWidth) (Z : Zlib) (decoder : List UInt8 → Except Error α)

/-- `k` calls of ReadBatch on one reader, each on the reader the one before left, as the handler's read loop makes
them: each call's batch and the reader after it. -/
def readBatches (fuel : Nat) : Nat → Reader → Except Fault (List (Option (List α) × Reader))
  | 0, _ => .ok []
  | k + 1, r => do
    let (b, r) ← readBatch w Z decoder fuel r
    let calls ← readBatches fuel k r
    return (b, r) :: calls

end

/-- What a window should come back as: `nil` when it is empty, else the decoder's results on its payloads. -/
def Window.batch {α : Type} (out : List UInt8 → α) (win : Window) : Option (List α) :=
  if win.events.isEmpty then none else some (win.events.map fun e => out e.payload)

namespace RoundTripAux

/-- Each element of a list paired with the elements after it: the first pair, then the rest's. -/
theorem zip_tails_tail_cons {β : Type} (x : β) (xs : List β) :
    (x :: xs).zip (x :: xs).tails.tail = (x, xs) :: xs.zip xs.tails.tail := by
  cases xs <;> rfl

section
variable {Z : Zlib}

/-- The frames after a valid window's header derive the window's payloads, and end where the window does. -/
theorem reads_window {win : Window} (hv : win.Valid Z) (rest : List UInt8) (stop : Error) :
    ∃ body, win.encode = windowHeader win.events.length ++ body ∧
      Reads .w64 Z win.events.length ⟨body ++ rest, stop⟩ (win.events.map JSONEvent.payload) ⟨rest, stop⟩ := by
  obtain ⟨events, hcount, tail⟩ := win
  rcases tail with _ | ⟨m, z, pad⟩
  · refine ⟨_, rfl, ?_⟩
    simpa using (Reads.done (w := .w64) (Z := Z) ⟨rest, stop⟩).json_frames events
  · obtain ⟨hm, hL, hz⟩ := hv
    dsimp only at hm hz
    obtain ⟨inf, hopen, hout, hclose⟩ := hz pad
    have hinner := (Reads.done (w := .w64) (Z := Z) ⟨[], .eof⟩).json_frames (events.drop m)
    simp only [List.append_nil] at hinner
    rw [← hout] at hinner
    have hC := @Reads.compressed .w64 Z (events.length - m - 1) _ _ rest stop _ _ _ (length_bigEndianPutUint32 _)
      (.inl (bigEndianUint32_put hL).symm) hopen
      (by rwa [show events.length - m - 1 + 1 = (events.drop m).length + 0 by rw [List.length_drop]; omega])
      (hclose _)
    have hall := hC.json_frames (events.take m)
    rw [show (events.take m).length + (events.length - m - 1 + 1) = events.length by rw [List.length_take]; omega,
      ← List.map_append, List.take_append_drop] at hall
    refine ⟨_, rfl, ?_⟩
    simpa [List.append_assoc] using hall

end

section
variable {α : Type} {Z : Zlib} {dec : List UInt8 → Except Error α} {out : List UInt8 → α}

/-- One call of ReadBatch on a valid window whose payloads all decode: the window's batch, and the reader left just
after the window, whatever the scratch buffer held. -/
theorem readBatch_window_round_trip {win : Window} (hv : win.Valid Z)
    (hdec : ∀ e ∈ win.events, dec e.payload = .ok (out e.payload)) (rest : List UInt8) (stop : Error)
    (buf : List UInt8) :
    ∃ buf' fuel₀, ∀ fuel, fuel₀ ≤ fuel →
      readBatch .w64 Z dec fuel ⟨⟨win.encode ++ rest, stop⟩, buf⟩ = .ok (win.batch out, ⟨⟨rest, stop⟩, buf'⟩) := by
  obtain ⟨body, henc, hR⟩ := reads_window hv rest stop
  have hN := win.count_lt
  obtain ⟨hl, hacc⟩ := windowHeader_accepted win.events.length
  by_cases h0 : win.events = []
  · have hbody : body = [] := by
      have := congrArg ByteStream.bytes (Reads.eq_of_zero (by rwa [h0] at hR))
      simpa using this
    refine ⟨buf, 0, fun fuel _ => ?_⟩
    rw [henc, hbody, List.append_nil, readBatch_accepted hl hacc, windowHeader_count hN, h0]
    simp [Window.batch, h0]
  · have hpos : 0 < win.events.length := List.length_pos.mpr h0
    obtain ⟨buf', fuel₀, hc⟩ := @readEvents_complete _ .w64 Z dec _ _ _ _ hR buf [] _ (Nat.zero_add _)
    refine ⟨buf', fuel₀, fun fuel hf => ?_⟩
    rw [henc, List.append_assoc, readBatch_accepted hl hacc, windowHeader_count hN, if_neg (by omega),
      goInt_w64 hN, if_neg (by omega), hc fuel hf, mapM_eq_ok_map (g := out) (by simpa only [List.mem_map, forall_exists_index, and_imp, forall_apply_eq_imp_iff₂] using hdec)]
    simp [Window.batch, h0, Except.map]

end

end RoundTripAux

open RoundTripAux

/-- The round trip of the v2 wire format. Windows written one after another, each valid and each with payloads the
decoder accepts, are read back by one call of ReadBatch each, given the fuel: each call returns its window's batch
(`nil` for an empty window, else the decoder's results on its payloads in wire order) and leaves the reader at the
first byte of the windows after it, whatever the scratch buffer held before. -/
theorem readBatches_round_trip {α : Type} {Z : Zlib} {windows : List Window} (hvalid : ∀ win ∈ windows, win.Valid Z)
    {dec : List UInt8 → Except Error α} {out : List UInt8 → α}
    (hdec : ∀ win ∈ windows, ∀ e ∈ win.events, dec e.payload = .ok (out e.payload))
    (rest : List UInt8) (stop : Error) (buf : List UInt8) :
    ∃ fuel₀, ∀ fuel, fuel₀ ≤ fuel →
      (readBatches .w64 Z dec fuel windows.length ⟨⟨(windows.map Window.encode).flatten ++ rest, stop⟩, buf⟩).map
          (fun calls => calls.map fun c => (c.1, c.2.input)) =
        .ok ((windows.zip windows.tails.tail).map fun p =>
          (p.1.batch out, ⟨(p.2.map Window.encode).flatten ++ rest, stop⟩)) := by
  induction windows generalizing buf with
  | nil => exact ⟨0, fun _ _ => rfl⟩
  | cons win ws ih =>
    obtain ⟨buf', f₁, h₁⟩ := readBatch_window_round_trip (hvalid win (List.mem_cons_self _ _))
      (hdec win (List.mem_cons_self _ _)) ((ws.map Window.encode).flatten ++ rest) stop buf
    obtain ⟨f₂, h₂⟩ := ih (fun v hv => hvalid v (List.mem_cons_of_mem _ hv))
      (fun v hv => hdec v (List.mem_cons_of_mem _ hv)) buf'
    refine ⟨max f₁ f₂, fun fuel hf => ?_⟩
    have h₂' := h₂ fuel (by omega)
    rw [List.map_cons, List.flatten_cons, List.append_assoc, List.length_cons, readBatches, h₁ fuel (by omega)]
    rcases hr : readBatches .w64 Z dec fuel ws.length ⟨⟨(ws.map Window.encode).flatten ++ rest, stop⟩, buf'⟩
      with e | calls
    · rw [hr] at h₂'; cases h₂'
    · rw [hr] at h₂'
      rw [zip_tails_tail_cons, List.map_cons, ← Except.ok.inj h₂']
      simp only [ok_bind, hr]
      rfl

namespace RoundTripWitness

/-- The JSON event `{}` with sequence number 1. -/
def braces : JSONEvent := ⟨1, [0x7B, 0x7D], by decide⟩

/-- The JSON event `1` with sequence number 2. -/
def one : JSONEvent := ⟨2, [0x31], by decide⟩

/-- Three windows: both events in JSON frames, an empty window, and the first event in a JSON frame with the second in
a stored-block zlib stream padded with a zero byte. -/
def windows : List Window :=
  [⟨[braces, one], by decide, none⟩, ⟨[], by decide, none⟩,
    ⟨[braces, one], by decide, some (1, storedStream (encodeFrames [.json one]), [0])⟩]

theorem windows_valid : ∀ win ∈ windows, win.Valid storedZlib := by
  simp only [windows, List.mem_cons, List.mem_singleton, List.not_mem_nil, or_false, forall_eq_or_imp, forall_eq]
  exact ⟨trivial, trivial, by decide, by decide, storedStream_encodes (by decide)⟩

end RoundTripWitness

/-- The round trip on three windows, one with a compressed tail, read with the decoder that keeps each payload. -/
theorem readBatches_round_trip_three_windows :
    (∀ win ∈ RoundTripWitness.windows, win.Valid storedZlib) ∧
    (∀ win ∈ RoundTripWitness.windows, ∀ e ∈ win.events,
      (Except.ok e.payload : Except Error (List UInt8)) = .ok (id e.payload)) ∧
    ∃ fuel₀, ∀ fuel, fuel₀ ≤ fuel →
      (readBatches .w64 storedZlib Except.ok fuel RoundTripWitness.windows.length
          ⟨⟨(RoundTripWitness.windows.map Window.encode).flatten ++ [], .eof⟩, []⟩).map
          (fun calls => calls.map fun c => (c.1, c.2.input)) =
        .ok ((RoundTripWitness.windows.zip RoundTripWitness.windows.tails.tail).map fun p =>
          (p.1.batch id, ⟨(p.2.map Window.encode).flatten ++ [], .eof⟩)) :=
  ⟨RoundTripWitness.windows_valid, fun _ _ _ _ => rfl,
    readBatches_round_trip RoundTripWitness.windows_valid (fun _ _ _ _ => rfl) [] .eof []⟩

end Lumber
