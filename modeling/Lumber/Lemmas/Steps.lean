import Lumber.Frames

namespace Lumber

/-! ## `Except` as the monad of Go's error returns -/

@[simp] theorem ok_bind {ε β γ : Type} (a : β) (f : β → Except ε γ) : (Except.ok a >>= f) = f a := rfl

@[simp] theorem error_bind {ε β γ : Type} (e : ε) (f : β → Except ε γ) : (Except.error e >>= f) = .error e := rfl

@[simp] theorem throw_eq {ε β : Type} (e : ε) : (throw e : Except ε β) = .error e := rfl

@[simp] theorem pure_eq {ε β : Type} (a : β) : (pure a : Except ε β) = .ok a := rfl

/-- A bind that returns: the first computation returned, and the rest returned. -/
theorem bind_eq_ok {ε β γ : Type} {x : Except ε β} {f : β → Except ε γ} {r : γ} (h : x >>= f = .ok r) :
    ∃ a, x = .ok a ∧ f a = .ok r := by
  rcases x with e | a
  · cases h
  · exact ⟨a, rfl, h⟩

/-- A bind that fails: the first computation failed, or returned and the rest failed. -/
theorem bind_eq_error {ε β γ : Type} {x : Except ε β} {f : β → Except ε γ} {e : ε} (h : x >>= f = .error e) :
    x = .error e ∨ ∃ a, x = .ok a ∧ f a = .error e := by
  rcases x with e' | a
  · obtain rfl := Except.error.inj ((error_bind e' f).symm.trans h)
    exact .inl rfl
  · exact .inr ⟨a, rfl, h⟩

theorem Fault.panic_ne_error (e : Error) : Fault.panic ≠ .error e := fun h => Fault.noConfusion h

theorem Fault.diverge_ne_error (e : Error) : Fault.diverge ≠ .error e := fun h => Fault.noConfusion h

/-- A callee's error value is passed on as it is: a bind after one ends in a panic or a divergence only in its
continuation. -/
theorem liftErr_bind_eq_error {β γ : Type} {x : Except Error β} {f : β → Except Fault γ} {e : Fault}
    (he : ∀ e', e ≠ .error e') (h : liftErr x >>= f = .error e) : ∃ a, x = .ok a ∧ f a = .error e := by
  rcases x with e' | a
  · exact absurd (Except.error.inj h).symm (he e')
  · exact ⟨a, rfl, h⟩

/-- A bind after a callee returns only when the callee returned. -/
theorem liftErr_bind_eq_ok {β γ : Type} {x : Except Error β} {f : β → Except Fault γ} {r : γ}
    (h : liftErr x >>= f = .ok r) : ∃ a, x = .ok a ∧ f a = .ok r := by
  rcases x with e | a
  · cases h
  · exact ⟨a, rfl, h⟩

/-- The decoder's results on a list of payloads are as many as the payloads. -/
theorem length_of_mapM_ok {α β : Type} {f : α → Except Error β} :
    ∀ {xs : List α} {ys : List β}, xs.mapM f = .ok ys → ys.length = xs.length
  | [], ys, h => by simp at h; cases h; rfl
  | x :: xs, ys, h => by
    rcases hx : f x with e | y
    · simp only [List.mapM_cons, hx, error_bind] at h; cases h
    rcases hxs : xs.mapM f with e | ys'
    · simp only [List.mapM_cons, hx, hxs, ok_bind, error_bind] at h; cases h
    simp only [List.mapM_cons, hx, hxs, ok_bind, pure_eq, Except.ok.injEq] at h
    subst h
    simp [length_of_mapM_ok hxs]

/-- Decoding a list of payloads is decoding the first, then the rest. -/
theorem mapM_cons_eq {α β : Type} (f : α → Except Error β) (x : α) (xs : List α) :
    (x :: xs).mapM f = (f x >>= fun y => (xs.mapM f).map (y :: ·)) := by
  rw [List.mapM_cons]
  rcases f x with e | y
  · rfl
  rcases xs.mapM f with e | ys <;> rfl

section
variable {α : Type} {w : IntWidth} {Z : Zlib} {decoder : List UInt8 → Except Error α}

/-! ## Spec lemmas, one function at a time -/

/-- What a readJSONEvent that returns has read: a sequence number, a length that converts to an `int` that is not
negative, and that many bytes of payload, which the decoder turned into the event. -/
theorem readJSONEvent_ok {s t : ByteStream} {buf buf' : List UInt8} {e : α}
    (h : readJSONEvent w decoder s buf = .ok (e, t, buf')) :
    ∃ seq sz payload, seq.length = 4 ∧ sz.length = 4 ∧ payload.length = bigEndianUint32 sz ∧
      0 ≤ goInt w (bigEndianUint32 sz) ∧ s.bytes = seq ++ sz ++ payload ++ t.bytes ∧ t.stop = s.stop ∧
      decoder payload = .ok e := by
  unfold readJSONEvent at h
  obtain ⟨⟨hdr, s1⟩, h1, h⟩ := liftErr_bind_eq_ok h
  dsimp only at h
  split at h
  · cases h
  obtain ⟨⟨payload, s2⟩, h2, h⟩ := liftErr_bind_eq_ok h
  obtain ⟨v, h3, h⟩ := liftErr_bind_eq_ok h
  obtain ⟨hl1, hb1, hs1⟩ := ByteStream.readFull_ok h1
  obtain ⟨hl2, hb2, hs2⟩ := ByteStream.readFull_ok h2
  rw [List.take_left' hl2] at h3
  obtain ⟨rfl, rfl, -⟩ := Prod.mk.inj_iff.mp (Except.ok.inj h)
  have hsz : (hdr.drop 4).length = 4 := by simp [hl1]
  have hval := goInt_eq_of_nonneg (w := w) (bigEndianUint32_lt hsz) (by omega)
  refine ⟨hdr.take 4, hdr.drop 4, payload, by simp [hl1], hsz, by omega, by omega, ?_, by rw [hs2, hs1], h3⟩
  rw [hb1, hb2, List.take_append_drop, List.append_assoc]

/-- readJSONEvent reads one JSON frame's body and hands the decoder exactly its payload, whatever the scratch buffer
held before. -/
theorem readJSONEvent_frame {seq sz payload rest : List UInt8} {stop : Error} (buf : List UInt8)
    (hseq : seq.length = 4) (hsz : sz.length = 4) (hlen : payload.length = bigEndianUint32 sz)
    (hw : 0 ≤ goInt w (bigEndianUint32 sz)) :
    ∃ buf', readJSONEvent w decoder ⟨seq ++ sz ++ payload ++ rest, stop⟩ buf =
      liftErr ((decoder payload).map fun e => (e, ⟨rest, stop⟩, buf')) := by
  have hval := goInt_eq_of_nonneg (bigEndianUint32_lt hsz) hw
  refine ⟨payload ++ (if (bigEndianUint32 sz : Int) > buf.length then List.replicate (bigEndianUint32 sz) 0
    else buf).drop payload.length, ?_⟩
  unfold readJSONEvent
  rw [List.append_assoc, List.append_assoc, ← List.append_assoc seq,
    ByteStream.readFull_append _ _ (by simp [hseq, hsz])]
  simp only [liftErr_ok, ok_bind, List.drop_left' hseq, hval]
  rw [if_neg (by omega)]
  simp only [pure_eq, ok_bind, Int.toNat_ofNat, ← hlen, ByteStream.readFull_append _ _ rfl, liftErr_ok,
    List.take_left' rfl]
  cases decoder payload <;> rfl

/-- The middle of readCompressed, over the bytes the limit reader serves: open the zlib reader, run the inner loop over
it, `Close` it. The events and the scratch buffer. -/
def readCompressedBody (readEvents : ByteStream → List UInt8 → List α → Except Fault (List α × ByteStream × List UInt8))
    (body buf : List UInt8) (events : List α) : Except Fault (List α × List UInt8) := do
  let reader ← liftErr (Z.newReader ⟨body, .eof⟩)
  let (events, rest, buf) ← readEvents reader.out buf events
  if let some e := reader.close (reader.out.bytes.length - rest.bytes.length) then throw (.error e)
  return (events, buf)

/-- The middle of readCompressed returns when the zlib reader opens, the inner loop returns over it, and `Close`
reports nothing. -/
theorem readCompressedBody_eq_ok
    {readEvents : ByteStream → List UInt8 → List α → Except Fault (List α × ByteStream × List UInt8)}
    {body buf buf' : List UInt8} {events events' : List α} :
    readCompressedBody (Z := Z) readEvents body buf events = .ok (events', buf') ↔
      ∃ inf u, Z.newReader ⟨body, .eof⟩ = .ok inf ∧ readEvents inf.out buf events = .ok (events', u, buf') ∧
        inf.close (inf.out.bytes.length - u.bytes.length) = none := by
  unfold readCompressedBody
  constructor
  · intro h
    obtain ⟨inf, h1, h⟩ := liftErr_bind_eq_ok h
    obtain ⟨⟨evs, u, b⟩, h2, h⟩ := bind_eq_ok h
    dsimp only at h
    rcases h3 : inf.close (inf.out.bytes.length - u.bytes.length) with _ | e3 <;> rw [h3] at h
    · obtain ⟨rfl, rfl⟩ := Prod.mk.inj_iff.mp (Except.ok.inj h)
      exact ⟨inf, u, h1, h2, h3⟩
    · cases h
  · rintro ⟨inf, u, h1, h2, h3⟩
    simp only [h1, h2, h3, liftErr_ok, ok_bind, pure_eq]

/-- readCompressed over a frame whose payload the reader holds whole (or that ends the connection cleanly): the zlib
reader sees exactly the payload, and the reader is left just after it, whatever follows. -/
theorem readCompressed_eq (readEvents : ByteStream → List UInt8 → List α → Except Fault (List α × ByteStream × List UInt8))
    {sz body rest : List UInt8} {stop : Error} (buf : List UInt8) (events : List α) (hsz : sz.length = 4)
    (hb : body.length = bigEndianUint32 sz ∨ body.length < bigEndianUint32 sz ∧ rest = [] ∧ stop = .eof) :
    readCompressed Z readEvents ⟨sz ++ body ++ rest, stop⟩ buf events =
      (readCompressedBody (Z := Z) readEvents body buf events).map fun r => (r.1, ⟨rest, stop⟩, r.2) := by
  have hserves : (LimitedReader.mk (bigEndianUint32 sz) ⟨body ++ rest, stop⟩).serves = ⟨body, .eof⟩ := by
    rcases hb with hb | ⟨hb, rfl, rfl⟩
    · simp [LimitedReader.serves, ← hb]
    · simp [LimitedReader.serves, List.take_of_length_le hb.le]
  have hdrain : (LimitedReader.mk (bigEndianUint32 sz) ⟨body ++ rest, stop⟩).drain = .ok ⟨rest, stop⟩ := by
    rw [LimitedReader.drain_eq, if_pos]
    · rcases hb with hb | ⟨hb, rfl, rfl⟩
      · simp [ByteStream.drop, ← hb]
      · simp [ByteStream.drop, List.drop_of_length_le hb.le]
    · rcases hb with hb | ⟨-, -, rfl⟩
      · simp [← hb]
      · exact .inr rfl
  unfold readCompressed readCompressedBody
  rw [List.append_assoc, ByteStream.readFull_append _ _ hsz]
  simp only [liftErr_ok, ok_bind, hserves]
  rcases Z.newReader ⟨body, .eof⟩ with e1 | inf
  · rfl
  simp only [liftErr_ok, ok_bind]
  rcases readEvents inf.out buf events with e2 | ⟨evs, u, b⟩
  · rfl
  simp only [ok_bind]
  rcases inf.close (inf.out.bytes.length - u.bytes.length) with _ | e3
  · simp [LimitedReader.drain_skip, hdrain, Except.map]
  · rfl

/-- What a readCompressed that returns has read: a 4-byte length, then the payload the zlib reader was opened over,
whole, or cut short by a clean end of the connection; and the reader is left just after it. -/
theorem readCompressed_ok
    {readEvents : ByteStream → List UInt8 → List α → Except Fault (List α × ByteStream × List UInt8)}
    {s t : ByteStream} {buf buf' : List UInt8} {events events' : List α}
    (h : readCompressed Z readEvents s buf events = .ok (events', t, buf')) :
    ∃ sz body, sz.length = 4 ∧ s.bytes = sz ++ body ++ t.bytes ∧ t.stop = s.stop ∧
      (body.length = bigEndianUint32 sz ∨ body.length < bigEndianUint32 sz ∧ t.bytes = [] ∧ s.stop = .eof) ∧
      readCompressedBody (Z := Z) readEvents body buf events = .ok (events', buf') := by
  unfold readCompressed at h
  obtain ⟨⟨hdr, s1⟩, h1, h⟩ := liftErr_bind_eq_ok h
  obtain ⟨inf, h2, h⟩ := liftErr_bind_eq_ok h
  obtain ⟨⟨evs, u, b⟩, h3, h⟩ := bind_eq_ok h
  obtain ⟨hl1, hb1, hs1⟩ := ByteStream.readFull_ok h1
  dsimp only at h
  rcases h4 : inf.close (inf.out.bytes.length - u.bytes.length) with _ | e4 <;> rw [h4] at h
  · obtain ⟨s2, hd, h⟩ := liftErr_bind_eq_ok h
    obtain ⟨rfl, rfl, rfl⟩ := Prod.mk.inj_iff.mp (Except.ok.inj h)
    rw [LimitedReader.drain_skip, LimitedReader.drain_eq] at hd
    dsimp only at hd
    split at hd
    · rename_i hc
      obtain rfl := Except.ok.inj hd
      have hserves : (LimitedReader.mk (bigEndianUint32 hdr) s1).serves =
          ⟨s1.bytes.take (bigEndianUint32 hdr), .eof⟩ := by
        simp only [LimitedReader.serves, ByteStream.mk.injEq, true_and]
        exact ite_eq_left_iff.mpr hc.resolve_left
      refine ⟨hdr, s1.bytes.take (bigEndianUint32 hdr), hl1, by simp [hb1], by simp [hs1], ?_, ?_⟩
      · by_cases hle : bigEndianUint32 hdr ≤ s1.bytes.length
        · exact .inl (by simp [hle])
        · refine .inr ⟨by simp; omega, by simp; omega, ?_⟩
          exact hs1 ▸ hc.resolve_left hle
      · simp only [readCompressedBody, ← hserves, h2, h3, h4, liftErr_ok, ok_bind, pure_eq]
    · cases hd
  · cases h

/-! ### The loop of readEvents -/

/-- A full slice ends the loop. -/
theorem readEvents_full {fuel : Nat} {s : ByteStream} {buf : List UInt8} {events : List α} {cap : Nat}
    (h : cap ≤ events.length) : readEvents w Z decoder (fuel + 1) s buf events cap = .ok (events, s, buf) := by
  simp [readEvents, Nat.not_lt.mpr h]

/-- One turn of the loop over a frame header with the version byte: the frame's type picks the branch. -/
theorem readEvents_versioned {fuel cap : Nat} {more buf : List UInt8} {stop : Error} {events : List α} (t : UInt8)
    (hlt : events.length < cap) :
    readEvents w Z decoder (fuel + 1) ⟨[codeVersion, t] ++ more, stop⟩ buf events cap =
      if t = codeJSONDataFrame then
        readJSONEvent w decoder ⟨more, stop⟩ buf >>=
          fun r => readEvents w Z decoder fuel r.2.1 r.2.2 (events ++ [r.1]) cap
      else if t = codeCompressed then
        readCompressed Z (fun s b e => readEvents w Z decoder fuel s b e cap) ⟨more, stop⟩ buf events >>=
          fun r => readEvents w Z decoder fuel r.2.1 r.2.2 r.1 cap
      else .error (.error .protocol) := by
  rw [readEvents, if_pos hlt, ByteStream.readFull_append (b := [_, _]) (n := 2) _ _ rfl]
  simp only [liftErr_ok, ok_bind, List.getD_cons_zero, List.getD_cons_succ, ne_eq, not_true_eq_false, if_false,
    pure_eq, throw_eq]

/-- A JSON frame: its event is appended and the loop goes on. -/
theorem readEvents_json_ok {fuel cap : Nat} {more buf b : List UInt8} {stop : Error} {events : List α} {e : α}
    {s' : ByteStream} (hlt : events.length < cap) (h : readJSONEvent w decoder ⟨more, stop⟩ buf = .ok (e, s', b)) :
    readEvents w Z decoder (fuel + 1) ⟨[codeVersion, codeJSONDataFrame] ++ more, stop⟩ buf events cap =
      readEvents w Z decoder fuel s' b (events ++ [e]) cap := by
  rw [readEvents_versioned _ hlt, if_pos rfl, h]
  rfl

/-- A JSON frame that fails ends the loop with its fault. -/
theorem readEvents_json_error {fuel cap : Nat} {more buf : List UInt8} {stop : Error} {events : List α} {f : Fault}
    (hlt : events.length < cap) (h : readJSONEvent w decoder ⟨more, stop⟩ buf = .error f) :
    readEvents w Z decoder (fuel + 1) ⟨[codeVersion, codeJSONDataFrame] ++ more, stop⟩ buf events cap = .error f := by
  rw [readEvents_versioned _ hlt, if_pos rfl, h]
  rfl

/-- A compressed frame: the loop runs inside it, then goes on with the slice it filled. -/
theorem readEvents_compressed_ok {fuel cap : Nat} {more buf b : List UInt8} {stop : Error} {events events' : List α}
    {s' : ByteStream} (hlt : events.length < cap)
    (h : readCompressed Z (fun s b e => readEvents w Z decoder fuel s b e cap) ⟨more, stop⟩ buf events =
      .ok (events', s', b)) :
    readEvents w Z decoder (fuel + 1) ⟨[codeVersion, codeCompressed] ++ more, stop⟩ buf events cap =
      readEvents w Z decoder fuel s' b events' cap := by
  rw [readEvents_versioned _ hlt, if_neg (by decide), if_pos rfl, h]
  rfl

/-- A compressed frame that fails ends the loop with its fault. -/
theorem readEvents_compressed_error {fuel cap : Nat} {more buf : List UInt8} {stop : Error} {events : List α}
    {f : Fault} (hlt : events.length < cap)
    (h : readCompressed Z (fun s b e => readEvents w Z decoder fuel s b e cap) ⟨more, stop⟩ buf events = .error f) :
    readEvents w Z decoder (fuel + 1) ⟨[codeVersion, codeCompressed] ++ more, stop⟩ buf events cap = .error f := by
  rw [readEvents_versioned _ hlt, if_neg (by decide), if_pos rfl, h]
  rfl

/-- What one turn of the loop can do when it returns: a JSON frame, or a compressed frame. -/
theorem readEvents_ok_cases {fuel cap : Nat} {s : ByteStream} {buf : List UInt8} {events : List α}
    {r : List α × ByteStream × List UInt8} (hlt : events.length < cap)
    (h : readEvents w Z decoder (fuel + 1) s buf events cap = .ok r) :
    (∃ more e s' b, s.bytes = [codeVersion, codeJSONDataFrame] ++ more ∧
        readJSONEvent w decoder ⟨more, s.stop⟩ buf = .ok (e, s', b) ∧
        readEvents w Z decoder fuel s' b (events ++ [e]) cap = .ok r) ∨
    (∃ more events' s' b, s.bytes = [codeVersion, codeCompressed] ++ more ∧
        readCompressed Z (fun s b e => readEvents w Z decoder fuel s b e cap) ⟨more, s.stop⟩ buf events =
          .ok (events', s', b) ∧
        readEvents w Z decoder fuel s' b events' cap = .ok r) := by
  rw [readEvents, if_pos hlt] at h
  obtain ⟨⟨hdr, s1⟩, h1, h⟩ := liftErr_bind_eq_ok h
  obtain ⟨hl, hb, -⟩ := ByteStream.readFull_ok h1
  obtain rfl := ByteStream.readFull_eq_drop h1
  match hdr, hl with
  | [v, t], _ =>
    dsimp only at h
    simp only [List.getD_cons_zero, List.getD_cons_succ] at h
    split at h
    · cases h
    rename_i hv
    simp only [not_not] at hv
    subst hv
    simp only [pure_eq, ok_bind] at h
    split at h
    · rename_i ht
      subst ht
      obtain ⟨⟨e, s', b⟩, h2, h⟩ := bind_eq_ok h
      exact .inl ⟨s.bytes.drop 2, e, s', b, hb, h2, h⟩
    split at h
    · rename_i _ ht
      subst ht
      obtain ⟨⟨evs, s', b⟩, h2, h⟩ := bind_eq_ok h
      exact .inr ⟨s.bytes.drop 2, evs, s', b, hb, h2, h⟩
    · cases h

/-! ### ReadBatch -/

/-- What a ReadBatch that returns has read: a 6-byte header that has the version byte or the window type (the check
rejects only a header wrong in both), then nothing for a count of zero, or the count's events. -/
theorem readBatch_ok {fuel : Nat} {r r' : Reader} {b : Option (List α)}
    (h : readBatch w Z decoder fuel r = .ok (b, r')) :
    ∃ hdr more, hdr.length = 6 ∧ r.input.bytes = hdr ++ more ∧
      (hdr.getD 0 0 = codeVersion ∨ hdr.getD 1 0 = codeWindowSize) ∧
      ((bigEndianUint32 (hdr.drop 2) = 0 ∧ b = none ∧ r' = ⟨⟨more, r.input.stop⟩, r.buf⟩) ∨
        (0 < goInt w (bigEndianUint32 (hdr.drop 2)) ∧ ∃ evs, b = some evs ∧
          readEvents w Z decoder fuel ⟨more, r.input.stop⟩ r.buf [] (bigEndianUint32 (hdr.drop 2)) =
            .ok (evs, r'.input, r'.buf))) := by
  unfold readBatch at h
  obtain ⟨⟨hdr, s1⟩, h1, h⟩ := liftErr_bind_eq_ok h
  obtain ⟨hl, hb, hs⟩ := ByteStream.readFull_ok h1
  have hs1 : s1 = ⟨s1.bytes, r.input.stop⟩ := by rw [← hs]
  refine ⟨hdr, s1.bytes, hl, hb, ?_⟩
  dsimp only at h
  split at h
  · cases h
  rename_i hcheck
  simp only [pure_eq, ok_bind] at h
  have hN := bigEndianUint32_lt (b := hdr.drop 2) (by simp [hl])
  refine ⟨by by_contra hc; simp only [not_or] at hc; exact hcheck hc, ?_⟩
  split at h
  · obtain ⟨rfl, rfl⟩ := Prod.mk.inj_iff.mp (Except.ok.inj h)
    refine .inl ⟨by have := goInt_eq_of_nonneg (w := w) hN (by omega); omega, rfl, ?_⟩
    rw [← hs1]
  split at h
  · cases h
  have hval := goInt_eq_of_nonneg (w := w) hN (by omega)
  obtain ⟨⟨evs, s2, b2⟩, h2, h⟩ := bind_eq_ok h
  obtain ⟨rfl, rfl⟩ := Prod.mk.inj_iff.mp (Except.ok.inj h)
  refine .inr ⟨by omega, evs, rfl, ?_⟩
  rw [hval, Int.toNat_ofNat] at h2
  rw [← hs1]
  exact h2

/-- A count read from four bytes converts to the `int` zero only when it is zero. -/
theorem goInt_eq_zero_iff {w : IntWidth} {n : Nat} (hn : n < 2 ^ 32) : goInt w n = 0 ↔ n = 0 := by
  constructor
  · intro h
    cases w with
    | w64 => rw [goInt_w64 hn] at h; omega
    | w32 =>
      by_cases hlt : n < 2 ^ 31
      · rw [goInt_w32 hlt] at h; omega
      · have := goInt_w32_neg (by omega) hn; omega
  · rintro rfl; simp [goInt]

/-- ReadBatch on a 6-byte header its check accepts: `nil` for a count of zero; else a panic if the count converts to a
negative `int`, or the count's events. -/
theorem readBatch_accepted {fuel : Nat} {hdr : List UInt8} (hl : hdr.length = 6)
    (hacc : hdr.getD 0 0 = codeVersion ∨ hdr.getD 1 0 = codeWindowSize) (more : List UInt8) (stop : Error)
    (buf : List UInt8) :
    readBatch w Z decoder fuel ⟨⟨hdr ++ more, stop⟩, buf⟩ =
      if bigEndianUint32 (hdr.drop 2) = 0 then .ok (none, ⟨⟨more, stop⟩, buf⟩)
      else if goInt w (bigEndianUint32 (hdr.drop 2)) < 0 then .error .panic
      else (readEvents w Z decoder fuel ⟨more, stop⟩ buf [] (bigEndianUint32 (hdr.drop 2))).map
        fun r => (some r.1, ⟨r.2.1, r.2.2⟩) := by
  have hN := bigEndianUint32_lt (b := hdr.drop 2) (by simp [hl])
  unfold readBatch
  rw [ByteStream.readFull_append _ _ hl]
  simp only [liftErr_ok, ok_bind]
  rw [if_neg (by rintro ⟨h1, h2⟩; rcases hacc with h | h <;> contradiction), pure_eq, ok_bind]
  by_cases hz : bigEndianUint32 (hdr.drop 2) = 0
  · simp [hz, goInt]
  · rw [if_neg (by rwa [goInt_eq_zero_iff hN]), if_neg hz]
    by_cases hneg : goInt w (bigEndianUint32 (hdr.drop 2)) < 0
    · simp [hneg]
    · have hval := goInt_eq_of_nonneg (w := w) hN (by omega)
      simp only [hneg, if_false, pure_eq, ok_bind, hval, Int.toNat_ofNat]
      rcases readEvents w Z decoder fuel ⟨more, stop⟩ buf [] (bigEndianUint32 (hdr.drop 2)) with e | ⟨evs, s, b⟩ <;>
        rfl

/-- The header a client writes for a window of `n` events. -/
theorem windowHeader_accepted (n : Nat) :
    (windowHeader n).length = 6 ∧
      ((windowHeader n).getD 0 0 = codeVersion ∨ (windowHeader n).getD 1 0 = codeWindowSize) := by
  simp [windowHeader]

@[simp] theorem windowHeader_count {n : Nat} (hn : n < 2 ^ 32) : bigEndianUint32 ((windowHeader n).drop 2) = n := by
  simp [windowHeader, bigEndianUint32_put hn]

/-! ### Panics and divergence -/

/-- readJSONEvent ends in a fault that is not an error value only by panicking, on a length field that converts to a
negative `int`. -/
theorem readJSONEvent_fault {s : ByteStream} {buf : List UInt8} {e : Fault} (he : ∀ e', e ≠ .error e')
    (h : readJSONEvent w decoder s buf = .error e) :
    e = .panic ∧ ∃ hdr s', s.readFull 8 = .ok (hdr, s') ∧ goInt w (bigEndianUint32 (hdr.drop 4)) < 0 := by
  unfold readJSONEvent at h
  obtain ⟨⟨hdr, s'⟩, h1, h⟩ := liftErr_bind_eq_error he h
  dsimp only at h
  split at h
  · exact ⟨(Except.error.inj h).symm, hdr, s', h1, ‹_›⟩
  obtain ⟨_, -, h⟩ := liftErr_bind_eq_error he h
  obtain ⟨_, -, h⟩ := liftErr_bind_eq_error he h
  cases h

/-- readCompressed ends in a fault that is not an error value only when the loop it runs over the zlib reader does. -/
theorem readCompressed_fault
    {readEvents : ByteStream → List UInt8 → List α → Except Fault (List α × ByteStream × List UInt8)}
    {s : ByteStream} {buf : List UInt8} {events : List α} {e : Fault} (he : ∀ e', e ≠ .error e')
    (h : readCompressed Z readEvents s buf events = .error e) :
    ∃ hdr s' inf, s.readFull 4 = .ok (hdr, s') ∧ Z.newReader (LimitedReader.mk (bigEndianUint32 hdr) s').serves = .ok inf ∧
      readEvents inf.out buf events = .error e := by
  unfold readCompressed at h
  obtain ⟨⟨hdr, s'⟩, h1, h⟩ := liftErr_bind_eq_error he h
  obtain ⟨inf, h2, h⟩ := liftErr_bind_eq_error he h
  rcases bind_eq_error h with h | ⟨_, -, h⟩
  · exact ⟨hdr, s', inf, h1, h2, h⟩
  dsimp only at h
  split at h
  · exact absurd (Except.error.inj h).symm (he _)
  obtain ⟨_, -, h⟩ := liftErr_bind_eq_error he h
  cases h

/-- What one turn of the loop can do when it ends in a fault that is not an error value: the frame header has the
version byte, and the fault comes from a JSON frame or the loop after it, or from a compressed frame or the loop after
it. -/
theorem readEvents_fault_cases {fuel cap : Nat} {s : ByteStream} {buf : List UInt8} {events : List α} {e : Fault}
    (he : ∀ e', e ≠ .error e') (hlt : events.length < cap)
    (h : readEvents w Z decoder (fuel + 1) s buf events cap = .error e) :
    ∃ more, (s.bytes = [codeVersion, codeJSONDataFrame] ++ more ∧
        (readJSONEvent w decoder ⟨more, s.stop⟩ buf = .error e ∨
          ∃ ev s' b, readJSONEvent w decoder ⟨more, s.stop⟩ buf = .ok (ev, s', b) ∧
            readEvents w Z decoder fuel s' b (events ++ [ev]) cap = .error e)) ∨
      (s.bytes = [codeVersion, codeCompressed] ++ more ∧
        (readCompressed Z (fun s b e => readEvents w Z decoder fuel s b e cap) ⟨more, s.stop⟩ buf events = .error e ∨
          ∃ evs s' b, readCompressed Z (fun s b e => readEvents w Z decoder fuel s b e cap) ⟨more, s.stop⟩ buf events =
            .ok (evs, s', b) ∧ readEvents w Z decoder fuel s' b evs cap = .error e)) := by
  rw [readEvents, if_pos hlt] at h
  obtain ⟨⟨hdr, s1⟩, h1, h⟩ := liftErr_bind_eq_error he h
  obtain ⟨hl, hb, -⟩ := ByteStream.readFull_ok h1
  obtain rfl := ByteStream.readFull_eq_drop h1
  match hdr, hl with
  | [v, t], _ =>
    dsimp only at h
    simp only [List.getD_cons_zero, List.getD_cons_succ] at h
    split at h
    · exact absurd (Except.error.inj h).symm (he _)
    rename_i hv
    simp only [not_not] at hv
    subst hv
    simp only [pure_eq, ok_bind] at h
    split at h
    · rename_i ht
      subst ht
      refine ⟨s.bytes.drop 2, .inl ⟨hb, ?_⟩⟩
      rcases bind_eq_error h with h | ⟨⟨ev, s', b⟩, h2, h⟩
      · exact .inl h
      · exact .inr ⟨ev, s', b, h2, h⟩
    split at h
    · rename_i _ ht
      subst ht
      refine ⟨s.bytes.drop 2, .inr ⟨hb, ?_⟩⟩
      rcases bind_eq_error h with h | ⟨⟨evs, s', b⟩, h2, h⟩
      · exact .inl h
      · exact .inr ⟨evs, s', b, h2, h⟩
    · exact absurd (Except.error.inj h).symm (he _)

end
end Lumber
