import Lumber.Reader

/-!
# Frames, and the grammar readEvents accepts

What a client writes (`Frame.encode`, `windowHeader`, `Window.encode`), and `Reads`, the grammar of what readEvents
accepts: one constructor for each way its loop goes on. `Reads` is the abstract side of the reader; `Lemmas/Sound.lean`
and `Lemmas/Complete.lean` show that readEvents reads exactly what it derives.

The grammar follows the code, not the spec's wording. A compressed frame ends the loop it is read in, because the inner
loop returns only once the slice is full; and a compressed frame that ends the connection may be shorter than its length
field says, when the zlib reader is done before the missing bytes and the connection then ends cleanly.
-/

namespace Lumber

/-- A JSON frame's contents as a client writes them: a sequence number and a payload whose length fits its field. -/
structure JSONEvent where
  seq : UInt32
  payload : List UInt8
  hlen : payload.length < 2 ^ 32

/-- An event frame as a client writes it. -/
inductive Frame where
  /-- `'2' 'J'`, the sequence number, the payload's length, the payload -/
  | json (e : JSONEvent)
  /-- `'2' 'C'`, the payload's length, the payload: a zlib stream of frames -/
  | compressed (payload : List UInt8) (hlen : payload.length < 2 ^ 32)

/-- The bytes of a frame. -/
def Frame.encode : Frame → List UInt8
  | .json e => [codeVersion, codeJSONDataFrame] ++ bigEndianPutUint32 e.seq.toNat ++
      bigEndianPutUint32 e.payload.length ++ e.payload
  | .compressed payload _ => [codeVersion, codeCompressed] ++ bigEndianPutUint32 payload.length ++ payload

/-- The bytes of a run of frames. -/
def encodeFrames (fs : List Frame) : List UInt8 := fs.flatMap Frame.encode

@[simp] theorem encodeFrames_nil : encodeFrames [] = [] := rfl

@[simp] theorem encodeFrames_cons (f : Frame) (fs : List Frame) :
    encodeFrames (f :: fs) = f.encode ++ encodeFrames fs := rfl

@[simp] theorem encodeFrames_append (fs gs : List Frame) :
    encodeFrames (fs ++ gs) = encodeFrames fs ++ encodeFrames gs := by
  simp [encodeFrames, List.flatMap_append]

/-- The six bytes that open a window of `n` events. -/
def windowHeader (n : Nat) : List UInt8 := [codeVersion, codeWindowSize] ++ bigEndianPutUint32 n

/-! ## The grammar -/

/-- `Reads w Z n s ps t`: the loop of readEvents, asked for `n` more events, reads from `s` frames holding the JSON
payloads `ps`, in wire order, and stops at `t`. A JSON frame's length must convert to an `int` that is not negative. A
compressed frame is read over the zlib reader the limit opens and ends the loop: the inner loop reads all `n + 1`
events, `Close` succeeds, and the drain loop leaves the reader after the frame's payload. -/
inductive Reads (w : IntWidth) (Z : Zlib) : Nat → ByteStream → List (List UInt8) → ByteStream → Prop where
  | done (s : ByteStream) : Reads w Z 0 s [] s
  | json {n : Nat} {seq sz payload rest : List UInt8} {stop : Error} {ps : List (List UInt8)} {t : ByteStream} :
      seq.length = 4 → sz.length = 4 → payload.length = bigEndianUint32 sz → 0 ≤ goInt w (bigEndianUint32 sz) →
      Reads w Z n ⟨rest, stop⟩ ps t →
      Reads w Z (n + 1) ⟨[codeVersion, codeJSONDataFrame] ++ seq ++ sz ++ payload ++ rest, stop⟩ (payload :: ps) t
  | compressed {n : Nat} {sz body rest : List UInt8} {stop : Error} {inf : Inflater} {ps : List (List UInt8)}
      {u : ByteStream} :
      sz.length = 4 →
      (body.length = bigEndianUint32 sz ∨ body.length < bigEndianUint32 sz ∧ rest = [] ∧ stop = .eof) →
      Z.newReader ⟨body, .eof⟩ = .ok inf → Reads w Z (n + 1) inf.out ps u →
      inf.close (inf.out.bytes.length - u.bytes.length) = none →
      Reads w Z (n + 1) ⟨[codeVersion, codeCompressed] ++ sz ++ body ++ rest, stop⟩ ps ⟨rest, stop⟩

/-- The loop meets exactly as many payloads as it was asked for. -/
theorem Reads.length_eq {w : IntWidth} {Z : Zlib} {n : Nat} {s t : ByteStream} {ps : List (List UInt8)}
    (h : Reads w Z n s ps t) : ps.length = n := by
  induction h with
  | done => rfl
  | json _ _ _ _ _ ih => simp [ih]
  | compressed _ _ _ _ _ ih => exact ih

/-! ## Windows -/

/-- A window as the round trip lays it out: its JSON events, all in JSON frames (`tail = none`), or the first `m` in
JSON frames and the rest in one compressed frame whose payload is `z` then `pad` (`tail = some (m, z, pad)`). -/
structure Window where
  events : List JSONEvent
  count_lt : events.length < 2 ^ 32
  tail : Option (Nat × List UInt8 × List UInt8)

/-- The bytes of a window. -/
def Window.encode (win : Window) : List UInt8 :=
  windowHeader win.events.length ++
    match win.tail with
    | none => encodeFrames (win.events.map .json)
    | some (m, z, pad) => encodeFrames ((win.events.take m).map .json) ++
        [codeVersion, codeCompressed] ++ bigEndianPutUint32 (z ++ pad).length ++ z ++ pad

/-- A compressed tail that is laid out as the round trip says: at least one event goes in it, its payload's length
fits its field, and `z` is a zlib stream of the JSON frames of the events it holds. -/
def Window.Valid (Z : Zlib) (win : Window) : Prop :=
  match win.tail with
  | none => True
  | some (m, z, pad) =>
    m < win.events.length ∧ (z ++ pad).length < 2 ^ 32 ∧ Z.Encodes z (encodeFrames ((win.events.drop m).map .json))

end Lumber
