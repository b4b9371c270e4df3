import Lumber.Lemmas.Steps

/-!
# readEvents reads everything the grammar derives

The completeness half of the frame grammar: given enough fuel, the loop reads whatever `Reads` derives, and what it
returns is the decoder's results on the derived payloads, in order, or the first error the decoder gives on them. The
induction is on the derivation, one case for each constructor.
-/

namespace Lumber

section
variable {α : Type} {w : IntWidth} {Z : Zlib} {decoder : List UInt8 → Except Error α}

/-- Completeness of readEvents: on frames `Reads` derives, asked for exactly their payloads, the loop returns the
decoder's results on them appended to the slice and stops where the derivation does, or returns the first error the
decoder gives; the scratch buffer it leaves does not depend on the decoder's answers. -/
theorem readEvents_complete {n : Nat} {s t : ByteStream} {ps : List (List UInt8)} (hR : Reads w Z n s ps t) :
    ∀ (buf : List UInt8) (events : List α) (cap : Nat), events.length + n = cap →
    ∃ buf' fuel₀, ∀ fuel, fuel₀ ≤ fuel → readEvents w Z decoder fuel s buf events cap =
      liftErr ((ps.mapM decoder).map fun vs => (events ++ vs, t, buf')) := by
  induction hR with
  | done s =>
    intro buf events cap hcap
    refine ⟨buf, 1, fun fuel hfuel => ?_⟩
    obtain ⟨f, rfl⟩ : ∃ f, fuel = f + 1 := ⟨fuel - 1, by omega⟩
    rw [readEvents_full (by omega), List.mapM_nil]
    simp [Except.map]
  | @json n seq sz payload rest stop ps t hseq hsz hlen hw _ ih =>
    intro buf events cap hcap
    obtain ⟨bufJ, hj⟩ := @readJSONEvent_frame _ w decoder _ _ _ rest stop buf hseq hsz hlen hw
    rw [List.append_assoc, List.append_assoc, List.append_assoc]
    rcases hdec : decoder payload with e | v
    · rw [hdec] at hj
      refine ⟨bufJ, 1, fun fuel hfuel => ?_⟩
      obtain ⟨f, rfl⟩ : ∃ f, fuel = f + 1 := ⟨fuel - 1, by omega⟩
      rw [readEvents_json_error (by omega) (by rw [← List.append_assoc, ← List.append_assoc]; exact hj),
        mapM_cons_eq, hdec]
      rfl
    · rw [hdec] at hj
      obtain ⟨buf', f₀, hf⟩ := ih bufJ (events ++ [v]) cap (by simp; omega)
      refine ⟨buf', f₀ + 1, fun fuel hfuel => ?_⟩
      obtain ⟨f, rfl⟩ : ∃ f, fuel = f + 1 := ⟨fuel - 1, by omega⟩
      rw [readEvents_json_ok (by omega) (by rw [← List.append_assoc, ← List.append_assoc]; exact hj), hf f (by omega)]
      rw [mapM_cons_eq, hdec]
      rcases ps.mapM decoder with e | vs
      · rfl
      · simp [Except.map]
  | @compressed n sz body rest stop inf ps u hsz hbody hopen hR hclose ih =>
    intro buf events cap hcap
    obtain ⟨buf', f₀, hf⟩ := ih buf events cap hcap
    refine ⟨buf', max f₀ 1 + 1, fun fuel hfuel => ?_⟩
    obtain ⟨f, rfl⟩ : ∃ f, fuel = f + 1 := ⟨fuel - 1, by omega⟩
    have hinner := hf f (by omega)
    rw [List.append_assoc, List.append_assoc]
    rcases hm : ps.mapM decoder with e | vs
    · rw [hm] at hinner
      refine readEvents_compressed_error (by omega) ?_
      rw [← List.append_assoc, readCompressed_eq _ buf events hsz hbody]
      simp only [readCompressedBody, hopen, liftErr_ok, ok_bind, hinner]
      rfl
    · rw [hm] at hinner
      have hc : readCompressed Z (fun s b e => readEvents w Z decoder f s b e cap) ⟨sz ++ body ++ rest, stop⟩ buf
          events = .ok (events ++ vs, ⟨rest, stop⟩, buf') := by
        rw [readCompressed_eq _ buf events hsz hbody,
          readCompressedBody_eq_ok.mpr ⟨inf, u, hopen, by simpa [Except.map] using hinner, hclose⟩]
        rfl
      rw [readEvents_compressed_ok (by omega) (by rw [← List.append_assoc]; exact hc)]
      obtain ⟨g, rfl⟩ : ∃ g, f = g + 1 := ⟨f - 1, by omega⟩
      have := length_of_mapM_ok hm
      have := hR.length_eq
      rw [readEvents_full (by simp; omega)]
      rfl

/-- Completeness of ReadBatch: on a window header whose count `N` converts to a positive `int`, followed by frames
`Reads` derives for `N` events, ReadBatch returns the decoder's results on their payloads, or the first error the
decoder gives, and leaves the reader where the derivation stops. -/
theorem readBatch_complete {N : Nat} (hN : N < 2 ^ 32) (hpos : 0 < goInt w N) {body rest : List UInt8} {stop : Error}
    {ps : List (List UInt8)} (hR : Reads w Z N ⟨body ++ rest, stop⟩ ps ⟨rest, stop⟩) (buf : List UInt8) :
    ∃ buf' fuel₀, ∀ fuel, fuel₀ ≤ fuel →
      readBatch w Z decoder fuel ⟨⟨windowHeader N ++ body ++ rest, stop⟩, buf⟩ =
        liftErr ((ps.mapM decoder).map fun vs => (some vs, ⟨⟨rest, stop⟩, buf'⟩)) := by
  obtain ⟨hl, hacc⟩ := windowHeader_accepted N
  obtain ⟨buf', fuel₀, hc⟩ := @readEvents_complete _ w Z decoder _ _ _ _ hR buf [] N (Nat.zero_add N)
  refine ⟨buf', fuel₀, fun fuel hf => ?_⟩
  rw [List.append_assoc, readBatch_accepted hl hacc, windowHeader_count hN, if_neg (by rintro rfl; simp [goInt] at hpos),
    if_neg (by omega), hc fuel hf]
  cases ps.mapM decoder <;> rfl

end

end Lumber
