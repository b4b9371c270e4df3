import Lumber.Inflate
import Lumber.Lemmas.Steps

/-!
# When ReadBatch returns

Nothing in readEvents or readCompressed bounds how deeply compressed frames nest, and with zlib itself ReadBatch need
not return (`readBatch_zlib_quine_diverges`, over a zlib stream that inflates to the frame that holds it). What makes
it return is a bound on the nesting, a condition on the bytes the reader holds: `nestsWithin Z d s` says that every
stream a compressed frame opens, at any byte of `s`, opens streams in turn only `d` levels down. Then fuel
`nestFuel Z d s`, a unit a byte at each level, is enough, whatever the zlib reader and the decoder
(`readBatch_terminates_of_bounded_nesting`).

The proof follows the loop. At one level (`TerminationAux.readEvents_ne_diverge_level`), each turn reads a frame and
goes on over a suffix of what it had, shorter by the frame; a compressed frame also runs the loop over the stream it
opens, which is the level below. An induction on the depth then closes the levels
(`TerminationAux.readEvents_ne_diverge_nested`).
-/

namespace Lumber

/-- The stream a compressed frame at the head of `s` opens: when `s` starts with `'2' 'C'` and a 4-byte length and
`zlib.NewReader` accepts what the limit reader of that length serves, what the zlib reader serves, which readCompressed
runs the loop over. -/
def compressedAt (Z : Zlib) (s : ByteStream) : Option ByteStream :=
  match s.bytes with
  | v :: t :: rest =>
    if v = codeVersion ∧ t = codeCompressed then
      match ByteStream.readFull ⟨rest, s.stop⟩ 4 with
      | .ok (hdr, s') =>
        match Z.newReader (LimitedReader.mk (bigEndianUint32 hdr) s').serves with
        | .ok inf => some inf.out
        | .error _ => none
      | .error _ => none
    else none
  | _ => none

/-- Compressed frames nest at most `d` deep in `s`: for `d = 0` no byte of `s` starts a compressed frame, and for
`d + 1` every stream a compressed frame at a byte of `s` opens has them nested at most `d` deep. Every byte is looked
at, payloads included, so that this is a condition on the bytes alone. -/
def nestsWithin (Z : Zlib) : Nat → ByteStream → Bool
  | 0, s => (List.range s.bytes.length).all fun k => (compressedAt Z (s.drop k)).isNone
  | d + 1, s => (List.range s.bytes.length).all fun k => ((compressedAt Z (s.drop k)).map (nestsWithin Z d)).getD true

/-- The largest of `f 0`, ..., `f (n - 1)`, and 0. -/
def maxBelow (f : Nat → Nat) : Nat → Nat
  | 0 => 0
  | n + 1 => Nat.max (maxBelow f n) (f n)

/-- Fuel enough for the loop over `s` when compressed frames nest at most `d` deep in it: a unit a byte and one more,
and on top the most that a stream a compressed frame opens at one of its bytes needs. -/
def nestFuel (Z : Zlib) : Nat → ByteStream → Nat
  | 0, s => s.bytes.length + 1
  | d + 1, s =>
    s.bytes.length + 1 + maxBelow (fun k => ((compressedAt Z (s.drop k)).map (nestFuel Z d)).getD 0) s.bytes.length

namespace TerminationAux

theorem le_maxBelow {f : Nat → Nat} : ∀ {n k : Nat}, k < n → f k ≤ maxBelow f n
  | n + 1, k, hk => by
    rcases Nat.lt_succ_iff_lt_or_eq.mp hk with hk | rfl
    · exact (le_maxBelow hk).trans (Nat.le_max_left _ _)
    · exact Nat.le_max_right _ _

/-- A reader holding a suffix of what `s` holds, with the same end, is `s` some bytes on. -/
theorem ByteStream.eq_drop_of_suffix {s t : ByteStream} (h : t.bytes <:+ s.bytes) (hs : t.stop = s.stop) :
    t = s.drop (s.bytes.length - t.bytes.length) := by
  cases s; cases t
  cases hs
  simpa [ByteStream.drop] using List.suffix_iff_eq_drop.mp h

/-- The stream the compressed frame of readEvents opens, from what readCompressed read. -/
theorem compressedAt_eq {Z : Zlib} {s s' : ByteStream} {more hdr : List UInt8} {inf : Inflater}
    (hs : s.bytes = [codeVersion, codeCompressed] ++ more) (h1 : ByteStream.readFull ⟨more, s.stop⟩ 4 = .ok (hdr, s'))
    (h2 : Z.newReader (LimitedReader.mk (bigEndianUint32 hdr) s').serves = .ok inf) : compressedAt Z s = some inf.out := by
  simp only [compressedAt, hs, List.cons_append, List.nil_append, and_self, if_true, h1, h2]

/-- A compressed frame at a suffix of `s` starts at one of the bytes of `s`. -/
theorem exists_drop_of_compressedAt {Z : Zlib} {s t u : ByteStream} (ht : t.bytes <:+ s.bytes) (hs : t.stop = s.stop)
    (hu : compressedAt Z t = some u) : ∃ k < s.bytes.length, compressedAt Z (s.drop k) = some u := by
  have hne : t.bytes ≠ [] := fun h => by simp [compressedAt, h] at hu
  have hlen := ht.length_le
  have hpos := List.length_pos.mpr hne
  exact ⟨_, by omega, ByteStream.eq_drop_of_suffix ht hs ▸ hu⟩

/-- Under no nesting, no suffix of `s` opens a compressed frame. -/
theorem compressedAt_eq_none {Z : Zlib} {s t : ByteStream} (hn : nestsWithin Z 0 s = true) (ht : t.bytes <:+ s.bytes)
    (hs : t.stop = s.stop) : compressedAt Z t = none := by
  rcases h : compressedAt Z t with _ | u
  · rfl
  obtain ⟨k, hk, hu⟩ := exists_drop_of_compressedAt ht hs h
  have := List.all_eq_true.mp hn k (List.mem_range.mpr hk)
  simp [hu] at this

/-- Under nesting `d + 1`, a stream that a compressed frame at a suffix of `s` opens has nesting `d`, and needs at
most the fuel `nestFuel` puts on top of the level of `s`. -/
theorem nestsWithin_compressedAt {Z : Zlib} {d : Nat} {s t u : ByteStream} (hn : nestsWithin Z (d + 1) s = true)
    (ht : t.bytes <:+ s.bytes) (hs : t.stop = s.stop) (hu : compressedAt Z t = some u) :
    nestsWithin Z d u = true ∧
      nestFuel Z d u ≤ maxBelow (fun k => ((compressedAt Z (s.drop k)).map (nestFuel Z d)).getD 0) s.bytes.length := by
  obtain ⟨k, hk, hu⟩ := exists_drop_of_compressedAt ht hs hu
  have := List.all_eq_true.mp hn k (List.mem_range.mpr hk)
  simp only [hu, Option.map_some', Option.getD_some] at this
  exact ⟨this, by simpa [hu] using le_maxBelow (f := fun k => ((compressedAt Z (s.drop k)).map (nestFuel Z d)).getD 0) hk⟩

/-- A reader that gave up `p ++ rest` after a frame header, `rest` being what it is left with, is left with a suffix
of what it had, and fewer bytes. -/
theorem suffix_of_frame {t t' : ByteStream} {a b : UInt8} {p : List UInt8} (h : t.bytes = [a, b] ++ (p ++ t'.bytes)) :
    t'.bytes <:+ t.bytes ∧ t'.bytes.length < t.bytes.length := by
  rw [h, ← List.append_assoc]
  exact ⟨List.suffix_append _ _, by simp; omega⟩

section
variable {α : Type} {w : IntWidth} {Z : Zlib} {decoder : List UInt8 → Except Error α}

/-- One level of nesting: over the suffixes of `s₀`, fuel a unit a byte and one more is enough on top of the fuel `M`
that the streams the compressed frames open need. A JSON frame and a compressed frame both leave a shorter suffix, and
the loop over the stream a compressed frame opens runs with the fuel left, which is at least `M`. -/
theorem readEvents_ne_diverge_level {s₀ : ByteStream} {M : Nat}
    (hin : ∀ t u, t.bytes <:+ s₀.bytes → t.stop = s₀.stop → compressedAt Z t = some u →
      ∀ fuel buf (events : List α) cap, M ≤ fuel → readEvents w Z decoder fuel u buf events cap ≠ .error .diverge) :
    ∀ fuel t buf (events : List α) cap, t.bytes <:+ s₀.bytes → t.stop = s₀.stop → t.bytes.length + 1 + M ≤ fuel →
      readEvents w Z decoder fuel t buf events cap ≠ .error .diverge
  | 0, _, _, _, _, _, _, hf => by omega
  | f + 1, t, buf, events, cap, ht, hs, hf => fun h => by
    by_cases hlt : events.length < cap
    swap
    · rw [readEvents_full (by omega)] at h
      cases h
    obtain ⟨more, ⟨hb, hj | ⟨_, t', _, hj, hr⟩⟩ | ⟨hb, hc | ⟨_, t', _, hc, hr⟩⟩⟩ :=
      readEvents_fault_cases Fault.diverge_ne_error hlt h
    · -- a JSON frame's only fault is a negative payload length
      exact Fault.noConfusion (readJSONEvent_fault Fault.diverge_ne_error hj).1
    · obtain ⟨_, _, _, -, -, -, -, hm, hst, -⟩ := readJSONEvent_ok hj
      obtain ⟨hsuf, hlen⟩ := suffix_of_frame (hb.trans (congrArg _ hm))
      exact readEvents_ne_diverge_level hin f t' _ _ _ (hsuf.trans ht) (hst.trans hs) (by omega) hr
    · obtain ⟨hdr, s', inf, h1, hopen, hr⟩ := readCompressed_fault Fault.diverge_ne_error hc
      exact hin t inf.out ht hs (compressedAt_eq hb h1 hopen) f buf events cap (by omega) hr
    · obtain ⟨_, _, -, hm, hst, -, -⟩ := readCompressed_ok hc
      obtain ⟨hsuf, hlen⟩ := suffix_of_frame (hb.trans (congrArg _ hm))
      exact readEvents_ne_diverge_level hin f t' _ _ _ (hsuf.trans ht) (hst.trans hs) (by omega) hr

/-- Every level of nesting: under nesting `d` in `s₀`, fuel `nestFuel Z d s₀` is enough for the loop over any suffix
of `s₀`, by induction on `d`, the level below giving the fuel `M` of the level above. -/
theorem readEvents_ne_diverge_nested : ∀ (d : Nat) {s₀ : ByteStream}, nestsWithin Z d s₀ = true →
    ∀ fuel t buf (events : List α) cap, t.bytes <:+ s₀.bytes → t.stop = s₀.stop → nestFuel Z d s₀ ≤ fuel →
      readEvents w Z decoder fuel t buf events cap ≠ .error .diverge
  | 0, _, hn, fuel, t, buf, events, cap, ht, hs, hf =>
    readEvents_ne_diverge_level (M := 0) (fun _ _ ht hs hu => absurd hu (by simp [compressedAt_eq_none hn ht hs]))
      fuel t buf events cap ht hs (by have := ht.length_le; simp only [nestFuel] at hf; omega)
  | d + 1, _, hn, fuel, t, buf, events, cap, ht, hs, hf =>
    readEvents_ne_diverge_level
      (fun _ u ht hs hu fuel buf events cap hM =>
        have hu := nestsWithin_compressedAt hn ht hs hu
        readEvents_ne_diverge_nested d hu.1 fuel u buf events cap (List.suffix_refl _) rfl (hu.2.trans hM))
      fuel t buf events cap ht hs (by have := ht.length_le; simp only [nestFuel] at hf; omega)

/-- ReadBatch over a suffix of `s₀`, under nesting `d` in `s₀` and fuel `nestFuel Z d s₀`, returns: the loop runs over
what follows the window header. -/
theorem readBatch_ne_diverge_within {d fuel : Nat} {s₀ : ByteStream} (hn : nestsWithin Z d s₀ = true)
    (hf : nestFuel Z d s₀ ≤ fuel) {r : Reader} (ht : r.input.bytes <:+ s₀.bytes) (hs : r.input.stop = s₀.stop) :
    readBatch w Z decoder fuel r ≠ .error .diverge := by
  intro h
  unfold readBatch at h
  obtain ⟨⟨hdr, s⟩, h1, h⟩ := liftErr_bind_eq_error Fault.diverge_ne_error h
  obtain ⟨-, hb, hst⟩ := ByteStream.readFull_ok h1
  dsimp only at h
  split at h
  · cases h
  simp only [pure_eq, ok_bind] at h
  split at h
  · cases h
  split at h
  · cases h
  rcases bind_eq_error h with h | ⟨_, -, h⟩
  · refine readEvents_ne_diverge_nested d hn fuel s _ _ _ ?_ (hst.trans hs) hf h
    exact (hb ▸ List.suffix_append hdr s.bytes).trans ht
  · cases h

end

end TerminationAux

open TerminationAux

section
variable {α : Type} {w : IntWidth} {Z : Zlib} {decoder : List UInt8 → Except Error α}

end

/-- What zlib's compress makes of the JSON frame of one event, sequence number 1 and payload `{}`: a zlib header, one
final fixed-Huffman block, and the Adler-32. -/
def deflatedEvent : List UInt8 :=
  [0x78, 0x01, 0x33, 0xF2, 0x62, 0x60, 0x60, 0x60, 0x04, 0x62, 0xA6, 0xEA, 0x5A, 0x00, 0x07, 0x12, 0x01, 0x78]

end Lumber
