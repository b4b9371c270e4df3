import Lumber.Lemmas.Steps

/-!
# readEvents reads only what the grammar derives

The soundness half of the frame grammar: when the loop returns, the bytes it consumed are frames `Reads` derives, holding
as many JSON payloads as the slice lacked, and the events it appended are the decoder's results on those payloads, in
wire order. The induction is on the fuel, with one case for each way a turn of the loop can go (`readEvents_ok_cases`).
-/

namespace Lumber

section
variable {α : Type} {w : IntWidth} {Z : Zlib} {decoder : List UInt8 → Except Error α}

/-- A loop that returns has filled the slice to its capacity, or found it full. -/
theorem readEvents_ok_length {fuel : Nat} : ∀ {s t : ByteStream} {buf buf' : List UInt8} {events events' : List α}
    {cap : Nat}, readEvents w Z decoder fuel s buf events cap = .ok (events', t, buf') →
    events'.length = max events.length cap := by
  induction fuel with
  | zero => intro s t buf buf' events events' cap h; cases h
  | succ fuel ih =>
    intro s t buf buf' events events' cap h
    by_cases hlt : events.length < cap
    · rcases readEvents_ok_cases hlt h with ⟨_, e, s', b, -, -, hr⟩ | ⟨_, evs, s', b, -, hc, hr⟩
      · have := ih hr
        simp only [List.length_append, List.length_singleton] at this
        omega
      · obtain ⟨_, _, -, -, -, -, hbody⟩ := readCompressed_ok hc
        obtain ⟨inf, u, -, hinner, -⟩ := readCompressedBody_eq_ok.mp hbody
        have h1 := ih (s := inf.out) hinner
        have h2 := ih hr
        omega
    · rw [readEvents_full (by omega)] at h
      cases h
      omega

/-- Soundness of readEvents: from a slice no fuller than its capacity, a loop that returns has read frames `Reads`
derives, holding as many payloads as the slice lacked, and appended the decoder's results on them, in order. -/
theorem readEvents_sound {fuel : Nat} : ∀ {s t : ByteStream} {buf buf' : List UInt8} {events events' : List α}
    {cap : Nat}, events.length ≤ cap → readEvents w Z decoder fuel s buf events cap = .ok (events', t, buf') →
    ∃ ps vs, Reads w Z (cap - events.length) s ps t ∧ ps.mapM decoder = .ok vs ∧ events' = events ++ vs := by
  induction fuel with
  | zero => intro s t buf buf' events events' cap _ h; cases h
  | succ fuel ih =>
    intro s t buf buf' events events' cap hle h
    by_cases hlt : events.length < cap
    · obtain ⟨sb, sst⟩ := s
      rcases readEvents_ok_cases hlt h with ⟨more, e, s', b, hs, hj, hr⟩ | ⟨more, evs, s', b, hs, hc, hr⟩
      · obtain ⟨seq, sz, payload, hseq, hsz, hlen, hw, hmore, hstop, hdec⟩ := readJSONEvent_ok hj
        obtain ⟨ps, vs, hR, hm, rfl⟩ := ih (by simp only [List.length_append, List.length_singleton]; omega) hr
        refine ⟨payload :: ps, e :: vs, ?_, by rw [List.mapM_cons, hdec, hm]; rfl, by simp⟩
        have hn : cap - events.length = cap - (events ++ [e]).length + 1 := by
          simp only [List.length_append, List.length_singleton]; omega
        simp only at hs hmore hstop
        rw [hn, hs, hmore, ← hstop, ← List.append_assoc, ← List.append_assoc, ← List.append_assoc]
        exact Reads.json hseq hsz hlen hw hR
      · obtain ⟨sz, body, hsz, hmore, hstop, hbody, hinner⟩ := readCompressed_ok hc
        obtain ⟨inf, u, hopen, hread, hclose⟩ := readCompressedBody_eq_ok.mp hinner
        obtain ⟨ps, vs, hR, hm, rfl⟩ := ih (s := inf.out) hle hread
        have hfull : cap ≤ (events ++ vs).length := by
          have := readEvents_ok_length (s := inf.out) hread
          omega
        rcases fuel with _ | fuel
        · cases hr
        rw [readEvents_full hfull] at hr
        cases hr
        refine ⟨ps, vs, ?_, hm, rfl⟩
        have hn : cap - events.length = cap - events.length - 1 + 1 := by omega
        simp only at hs hmore hstop
        rw [hs, hmore, ← hstop, ← List.append_assoc, ← List.append_assoc]
        rw [hn] at hR ⊢
        exact Reads.compressed hsz (by simpa [hstop] using hbody) hopen hR hclose
    · rw [readEvents_full (by omega)] at h
      cases h
      exact ⟨[], [], by rw [show cap - events.length = 0 by omega]; exact .done _, rfl, by simp⟩

end

end Lumber
