import Lumber.Lemmas.Steps
import Lumber.Stored

/-!
# A window cut short

Every read of reader.go is an `io.ReadFull` of a length the bytes before it fixed: the window header's six bytes, each
frame header's two, each JSON frame's eight, then its payload. A connection that ends or fails part way through a window
of JSON frames therefore never yields a batch, not even a shorter one: ReadBatch returns an error value, and it is the
connection's own error, `io.ErrUnexpectedEOF`, or the decoder's on an event that arrived whole, never an
`ErrProtocolError` of the reader's own checks (`readBatch_truncated_window`). The proof follows the reader through
the frames, splitting the bytes that arrived at each field it takes (`TruncationAux.readEvents_truncated`).

A window with a compressed frame is left out: what the zlib reader makes of a cut stream is the zlib package's business,
which `Zlib` leaves open.
-/

namespace Lumber

namespace TruncationAux

/-- The bytes that arrived, `p`, end inside the field `a` or run past it. -/
theorem append_eq_append_cases {β : Type} {p r a b : List β} (h : p ++ r = a ++ b) :
    (∃ a', a' ≠ [] ∧ p ++ a' = a) ∨ ∃ p', p = a ++ p' ∧ p' ++ r = b := by
  rcases List.append_eq_append_iff.mp h with ⟨a', ha, hr⟩ | ⟨c', hp, hb⟩
  · by_cases h0 : a' = []
    · subst h0
      exact .inr ⟨[], by rw [ha, List.append_nil, List.append_nil], by rw [hr, List.nil_append, List.nil_append]⟩
    · exact .inl ⟨a', h0, ha.symm⟩
  · exact .inr ⟨c', hp, hb.symm⟩

theorem length_lt_of_append {β : Type} {p a' a : List β} (ha : a' ≠ []) (h : p ++ a' = a) : p.length < a.length := by
  have := List.length_pos.mpr ha
  rw [← h, List.length_append]
  omega

/-- `io.ReadFull` of more bytes than the reader holds fails with the reader's error or `io.ErrUnexpectedEOF`. -/
theorem readFull_short (s : ByteStream) (n : Nat) (h : s.bytes.length < n) :
    ∃ e, s.readFull n = .error e ∧ (e = s.stop ∨ e = .unexpectedEOF) := by
  refine ⟨_, if_neg (by omega), ?_⟩
  by_cases h1 : s.bytes.isEmpty <;> by_cases h2 : s.stop = .eof <;> simp [h1, h2]

section
variable {α : Type} {w : IntWidth} {Z : Zlib} {decoder : List UInt8 → Except Error α}

/-- readJSONEvent on a strict prefix of a JSON frame's body fails at the header or at the payload, with the error of the
read that came short. -/
theorem readJSONEvent_truncated {seq sz payload q r : List UInt8} {stop : Error} (buf : List UInt8)
    (hseq : seq.length = 4) (hsz : sz.length = 4) (hlen : payload.length = bigEndianUint32 sz)
    (hw : 0 ≤ goInt w (bigEndianUint32 sz)) (h : q ++ r = seq ++ sz ++ payload) (hr : r ≠ []) :
    ∃ e, readJSONEvent w decoder ⟨q, stop⟩ buf = .error (.error e) ∧ (e = stop ∨ e = .unexpectedEOF) := by
  unfold readJSONEvent
  rcases append_eq_append_cases h with ⟨a', ha, hq⟩ | ⟨q', rfl, hq'⟩
  · have hq8 := length_lt_of_append ha hq
    rw [List.length_append, hseq, hsz] at hq8
    obtain ⟨e, he, hstop⟩ := readFull_short ⟨q, stop⟩ 8 hq8
    rw [he]
    exact ⟨e, rfl, hstop⟩
  · have hval := goInt_eq_of_nonneg (bigEndianUint32_lt hsz) hw
    rw [ByteStream.readFull_append _ _ (by rw [List.length_append, hseq, hsz])]
    simp only [liftErr_ok, ok_bind, List.drop_left' hseq, hval]
    rw [if_neg (by omega)]
    obtain ⟨e, he, hstop⟩ := readFull_short ⟨q', stop⟩ payload.length (length_lt_of_append hr hq')
    simp only [pure_eq, ok_bind, Int.toNat_ofNat, ← hlen, he]
    exact ⟨e, rfl, hstop⟩

/-- The loop of readEvents on a strict prefix of the JSON frames of `es`, with room in the slice and fuel for all of
them, fails with an error value: the error of the read that came short, or the decoder's on an event of `es`. -/
theorem readEvents_truncated {stop : Error} : ∀ {es : List JSONEvent} {p r : List UInt8} (fuel : Nat)
    (buf : List UInt8) (events : List α) (cap : Nat), (∀ e ∈ es, 0 ≤ goInt w e.payload.length) →
    p ++ r = encodeFrames (es.map .json) → r ≠ [] → es.length ≤ fuel → events.length + es.length ≤ cap →
    ∃ x, readEvents w Z decoder fuel ⟨p, stop⟩ buf events cap = .error (.error x) ∧
      (x = stop ∨ x = .unexpectedEOF ∨ ∃ e ∈ es, decoder e.payload = .error x)
  | [], _, _, _, _, _, _, _, h, hr, _, _ => absurd (List.append_eq_nil.mp h).2 hr
  | _ :: _, _, _, 0, _, _, _, _, _, _, hf, _ => absurd hf (by simp)
  | e :: es, p, r, fuel + 1, buf, events, cap, hw, h, hr, hf, hc => by
    have hlt : events.length < cap := by rw [List.length_cons] at hc; omega
    have hlen := bigEndianUint32_put e.hlen
    have hwe : 0 ≤ goInt w (bigEndianUint32 (bigEndianPutUint32 e.payload.length)) := by
      rw [hlen]; exact hw e (List.mem_cons_self _ _)
    simp only [List.map_cons, encodeFrames_cons, Frame.encode, List.append_assoc] at h
    rcases append_eq_append_cases h with ⟨a', ha, hp⟩ | ⟨p1, rfl, hp1⟩
    · -- the frame header came short
      obtain ⟨x, hx, hstop⟩ := readFull_short ⟨p, stop⟩ 2 (length_lt_of_append ha hp)
      refine ⟨x, ?_, hstop.imp_right .inl⟩
      rw [readEvents, if_pos hlt, hx]
      rfl
    rw [readEvents_versioned _ hlt, if_pos rfl]
    rw [← List.append_assoc, ← List.append_assoc] at hp1
    rcases append_eq_append_cases hp1 with ⟨a', ha, hq⟩ | ⟨p2, rfl, hp2⟩
    · -- the frame's body came short
      obtain ⟨x, hx, hstop⟩ := @readJSONEvent_truncated α w decoder _ _ _ _ _ stop buf (length_bigEndianPutUint32 _)
        (length_bigEndianPutUint32 _) hlen.symm hwe hq ha
      rw [hx]
      exact ⟨x, rfl, hstop.imp_right .inl⟩
    -- the frame arrived whole: its event is decoded, and the loop goes on over the rest
    obtain ⟨buf', hb⟩ := @readJSONEvent_frame α w decoder _ _ _ p2 stop buf (length_bigEndianPutUint32 _)
      (length_bigEndianPutUint32 _) hlen.symm hwe
    rw [hb]
    rcases hd : decoder e.payload with x | v
    · exact ⟨x, rfl, .inr (.inr ⟨e, List.mem_cons_self _ _, hd⟩)⟩
    obtain ⟨x, hx, hcut⟩ := readEvents_truncated fuel buf' (events ++ [v]) cap
      (fun e he => hw e (List.mem_cons_of_mem _ he)) hp2 hr (by rw [List.length_cons] at hf; omega)
      (by rw [List.length_cons] at hc; rw [List.length_append, List.length_singleton]; omega)
    refine ⟨x, hx, hcut.imp_right (.imp_right fun ⟨e', he', hd'⟩ => ⟨e', List.mem_cons_of_mem _ he', hd'⟩)⟩

end

end TruncationAux

open TruncationAux

section
variable {α : Type} {w : IntWidth} {Z : Zlib} {decoder : List UInt8 → Except Error α}

/-- A window of JSON frames cut short. When the connection serves only a strict prefix `p` of the window's bytes and
then fails with `stop` (`io.EOF` for a clean close), ReadBatch, given fuel for the window's events, returns no batch
but an error value, which is:
1. `stop` or `io.ErrUnexpectedEOF`, from the `io.ReadFull` that came short; or
2. the decoder's error on the payload of an event that arrived whole.
The count and the payload lengths are assumed to convert to `int`s that are not negative, as they do with 64-bit
`int`s. -/
theorem readBatch_truncated_window {win : Window} (ht : win.tail = none) (hn : 0 ≤ goInt w win.events.length)
    (hw : ∀ e ∈ win.events, 0 ≤ goInt w e.payload.length) {p r : List UInt8} (h : p ++ r = win.encode)
    (hr : r ≠ []) (stop : Error) (buf : List UInt8) {fuel : Nat} (hf : win.events.length ≤ fuel) :
    ∃ x, readBatch w Z decoder fuel ⟨⟨p, stop⟩, buf⟩ = .error (.error x) ∧
      (x = stop ∨ x = .unexpectedEOF ∨ ∃ e ∈ win.events, decoder e.payload = .error x) := by
  simp only [Window.encode, ht] at h
  rcases append_eq_append_cases h with ⟨a', ha, hp⟩ | ⟨p1, rfl, hp1⟩
  · -- the window header came short
    have hp6 := length_lt_of_append ha hp
    obtain ⟨x, hx, hstop⟩ := readFull_short ⟨p, stop⟩ 6 (by simpa only [windowHeader] using hp6)
    refine ⟨x, ?_, hstop.imp_right .inl⟩
    unfold readBatch
    rw [hx]
    rfl
  obtain ⟨hl, hacc⟩ := windowHeader_accepted win.events.length
  have hne : win.events.length ≠ 0 := fun h0 => hr (List.append_eq_nil.mp
    (by rw [hp1, List.length_eq_zero.mp h0]; rfl)).2
  rw [readBatch_accepted hl hacc, windowHeader_count win.count_lt, if_neg hne, if_neg (not_lt.mpr hn)]
  obtain ⟨x, hx, hcut⟩ := @readEvents_truncated α w Z decoder stop _ _ _ fuel buf [] _ hw hp1 hr hf
    (by rw [List.length_nil, Nat.zero_add])
  rw [hx]
  exact ⟨x, rfl, hcut⟩

end

namespace TruncationWitness

/-- A window of two JSON events, `{}` and `1`, in JSON frames. -/
def twoEvents : Window := ⟨[⟨1, [0x7B, 0x7D], by decide⟩, ⟨2, [0x31], by decide⟩], by decide, none⟩

end TruncationWitness

open TruncationWitness

/-- The connection closes one byte before the window's end, where the last payload starts: ReadBatch fails with
`io.EOF`, which `io.ReadFull` returns when no byte came. -/
theorem readBatch_truncated_window_last_byte :
    readBatch .w64 storedZlib Except.ok 2 ⟨⟨twoEvents.encode.dropLast, .eof⟩, []⟩ = .error (.error .eof) ∧
    ∃ x, readBatch .w64 storedZlib Except.ok 2 ⟨⟨twoEvents.encode.dropLast, .eof⟩, []⟩ = .error (.error x) ∧
      (x = .eof ∨ x = .unexpectedEOF ∨ ∃ e ∈ twoEvents.events, Except.ok e.payload = .error x) :=
  ⟨rfl, readBatch_truncated_window rfl (by decide) (by decide) (List.dropLast_append_getLast (by decide))
    (List.cons_ne_nil _ _) .eof [] (by decide)⟩

end Lumber
