import Lumber.Lemmas.Steps

/-!
# Building and moving derivations of the frame grammar

`Reads` derivations for what clients write: a run of JSON frames (`Reads.json_frames`), and the frames of a window that
end where it does, read again as the contents of a compressed frame (`Reads.close_stream`): a derivation only consumes
(`Reads.suffix`), so frames read in place, followed by anything, are read the same inside a zlib stream that ends right
after them.
-/

namespace Lumber

/-- A decoder that succeeds on every payload of a list decodes the list. -/
theorem mapM_eq_ok_map {α β : Type} {f : α → Except Error β} {g : α → β} :
    ∀ {xs : List α}, (∀ x ∈ xs, f x = .ok (g x)) → xs.mapM f = .ok (xs.map g)
  | [], _ => rfl
  | x :: xs, h => by
    rw [mapM_cons_eq, h x (List.mem_cons_self x xs), mapM_eq_ok_map fun y hy => h y (List.mem_cons_of_mem x hy)]
    rfl

section
variable {w : IntWidth} {Z : Zlib}

/-- Asked for no events, the loop reads nothing. -/
theorem Reads.eq_of_zero {s t : ByteStream} {ps : List (List UInt8)} (h : Reads w Z 0 s ps t) : t = s := by
  cases h
  rfl

/-- A derivation only consumes: it stops at a suffix of the stream, which ends the same way. -/
theorem Reads.suffix {n : Nat} {s t : ByteStream} {ps : List (List UInt8)} (h : Reads w Z n s ps t) :
    ∃ c, s.bytes = c ++ t.bytes ∧ s.stop = t.stop := by
  induction h with
  | done => exact ⟨[], rfl, rfl⟩
  | @json _ seq sz payload _ _ _ _ _ _ _ _ _ ih =>
    obtain ⟨c, hc, hs⟩ := ih
    refine ⟨[codeVersion, codeJSONDataFrame] ++ seq ++ sz ++ payload ++ c, ?_, hs⟩
    simp only at hc ⊢
    rw [hc]
    simp only [List.append_assoc]
  | compressed => exact ⟨_, rfl, rfl⟩

/-- Frames read in place, followed by anything, are read the same in a stream that ends cleanly right after them, as a
zlib reader serves them. -/
theorem Reads.close_stream {n : Nat} {x rest : List UInt8} {stop : Error} {ps : List (List UInt8)}
    (h : Reads w Z n ⟨x ++ rest, stop⟩ ps ⟨rest, stop⟩) : Reads w Z n ⟨x, .eof⟩ ps ⟨[], .eof⟩ := by
  generalize hs : (⟨x ++ rest, stop⟩ : ByteStream) = s at h
  generalize ht : (⟨rest, stop⟩ : ByteStream) = t at h
  induction h generalizing x with
  | done =>
    subst ht
    obtain rfl : x = [] := List.append_left_eq_self.mp (ByteStream.mk.inj hs).1
    exact .done _
  | json hseq hsz hlen hw hR ih =>
    subst ht
    obtain ⟨c, hc, -⟩ := hR.suffix
    obtain ⟨hx, rfl⟩ := ByteStream.mk.inj hs
    simp only at hc
    subst hc
    rw [← List.append_assoc, List.append_cancel_right_eq] at hx
    subst hx
    exact .json hseq hsz hlen hw (ih rfl rfl)
  | compressed hsz hbody hopen hR hclose =>
    obtain ⟨rfl, rfl⟩ := ByteStream.mk.inj ht
    obtain ⟨hx, -⟩ := ByteStream.mk.inj hs
    rw [List.append_cancel_right_eq] at hx
    subst hx
    simpa using Reads.compressed hsz (hbody.imp id fun h => ⟨h.1, rfl, rfl⟩) hopen hR hclose

/-- JSON frames, then whatever the rest derives: the loop reads one payload for each frame. -/
theorem Reads.json_frames {n : Nat} {rest : List UInt8} {stop : Error} {ps : List (List UInt8)} {t : ByteStream}
    (hR : Reads .w64 Z n ⟨rest, stop⟩ ps t) :
    ∀ es : List JSONEvent, Reads .w64 Z (es.length + n) ⟨encodeFrames (es.map .json) ++ rest, stop⟩
      (es.map JSONEvent.payload ++ ps) t
  | [] => by simpa using hR
  | e :: es => by
    have hsz := bigEndianUint32_put e.hlen
    have hR' := Reads.json (length_bigEndianPutUint32 e.seq.toNat) (length_bigEndianPutUint32 e.payload.length)
      hsz.symm (by rw [hsz, goInt_w64 e.hlen]; omega) (Reads.json_frames hR es)
    rw [List.length_cons, Nat.add_right_comm]
    simpa [Frame.encode, List.append_assoc] using hR'

end

end Lumber
