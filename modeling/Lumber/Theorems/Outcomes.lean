import Lumber.Handler
import Lumber.Lemmas.Sound

/-!
# The handler's view of ReadBatch

handler.go reads through the `BatchReader` interface, and the handler's model sees each call by its `Outcome`: a batch
of `len` events, `len` at least one, `nil`, or an error. `Outcome.ofReadBatch` reads that outcome off what the v2
reader's `readBatch` returns. It is defined on every result but two, a panic and a call that does not return, and
every other result of `readBatch` has an outcome: in particular ReadBatch never returns an empty batch, the case
`Outcome.batch` leaves out (`readBatch_outcome_isSome_iff`). So the handler's moves on ReadBatch cover every return of
the v2 reader.
-/

namespace Lumber

/-- The outcome the handler's model gives one ReadBatch call: a batch of its events' number, `nil`, or an error value.
An empty batch, a panic and a call that does not return have none. -/
def Outcome.ofReadBatch {α : Type} : Except Fault (Option (List α) × Reader) → Option Outcome
  | .ok (some evs, _) => if h : 0 < evs.length then some (.batch evs.length h) else none
  | .ok (none, _) => some .empty
  | .error (.error _) => some .error
  | .error _ => none

namespace OutcomesAux

section
variable {α : Type} {w : IntWidth} {Z : Zlib} {decoder : List UInt8 → Except Error α}

/-- A batch ReadBatch returns is never empty: it holds as many events as its header's count, which is not zero. -/
theorem readBatch_some_length_pos {fuel : Nat} {r r' : Reader} {evs : List α}
    (h : readBatch w Z decoder fuel r = .ok (some evs, r')) : 0 < evs.length := by
  obtain ⟨hdr, _, hl, -, -, ⟨-, hnone, -⟩ | ⟨hpos, evs', hsome, hr⟩⟩ := readBatch_ok h
  · cases hnone
  cases hsome
  have hval := goInt_eq_of_nonneg (w := w) (bigEndianUint32_lt (b := hdr.drop 2) (by simp [hl])) (by omega)
  rw [readEvents_ok_length hr, List.length_nil]
  omega

end

end OutcomesAux

open OutcomesAux

/-- The handler's outcomes cover ReadBatch: a result of the v2 reader's `readBatch`, at either width of Go's `int`,
with any zlib reader, decoder and fuel, has an outcome exactly when it is not a panic and the call returns. -/
theorem readBatch_outcome_isSome_iff {α : Type} {w : IntWidth} {Z : Zlib} {decoder : List UInt8 → Except Error α}
    (fuel : Nat) (r : Reader) :
    (Outcome.ofReadBatch (readBatch w Z decoder fuel r)).isSome ↔
      readBatch w Z decoder fuel r ≠ .error .panic ∧ readBatch w Z decoder fuel r ≠ .error .diverge := by
  rcases h : readBatch w Z decoder fuel r with f | ⟨_ | evs, r'⟩
  · cases f <;> simp [Outcome.ofReadBatch]
  · simp [Outcome.ofReadBatch]
  · simp [Outcome.ofReadBatch, readBatch_some_length_pos h]

end Lumber
