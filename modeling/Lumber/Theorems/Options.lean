import Lumber.Options

/-!
# What `applyOptions`, `NewServer` and `Handle` do

`applyOptions` returns the first error an option returns, and the defaults as the options before it left them
(`OptionsAux.applyFrom_checked`). So `NewServer` fails exactly with the first refused option's message, or with
`ErrNoVersionEnabled` when both versions are off (`newServer_error_iff`).

What `NewServer` does not do: the `v2` server it builds gets the timeout, channel, TLS configuration and decoder, but
not the keep-alive or the logging flag, which stay `v2`'s defaults of 3 seconds and off whatever `Keepalive` and
`Logging` said (`newServer_v2_keepalive_default`). With both versions on, the multiplexer's listeners are never set, and
`Handle` dereferences a nil listener on every connection whose first byte selects a server (`handle_mux_panics`).
-/

namespace Lumber

namespace OptionsAux

section
variable {α σ : Type} {chk : σ → Option String} {upd : σ → α → α} {f : σ → OptionFn α}

/-- Over options that fail with their check's error, leaving the options as they are, or pass and update them, the
loop of `applyOptions` returns the first error, and the options as the options before it left them. -/
theorem applyFrom_checked
    (hf : ∀ x o, f x o = match chk x with
      | some e => (o, some e)
      | none => (upd x o, none)) :
    ∀ (xs : List σ) (o : α), applyFrom o (xs.map f) =
      ((xs.takeWhile fun x => (chk x).isNone).foldl (fun o x => upd x o) o, xs.findSome? chk)
  | [], _ => rfl
  | x :: xs, o => by
    simp only [List.map_cons, applyFrom, hf, List.findSome?_cons, List.takeWhile_cons]
    cases chk x with
    | some e => rfl
    | none => exact applyFrom_checked hf xs (upd x o)

/-- What every option keeps holds after `applyOptions`. -/
theorem applyFrom_invariant {P : α → Prop} {opts : List (OptionFn α)} (h : ∀ opt ∈ opts, ∀ o, P o → P (opt o).1) :
    ∀ {o : α}, P o → P (applyFrom o opts).1 := by
  induction opts with
  | nil => exact id
  | cons opt opts ih =>
    intro o ho
    have hopt := h opt (List.mem_cons_self opt opts) o ho
    simp only [applyFrom]
    split
    · next o' he => exact ih (fun opt' hm => h opt' (List.mem_cons_of_mem opt hm)) (by rw [he] at hopt; exact hopt)
    · next o' _ he => rw [he] at hopt; exact hopt

end

open Server

/-- The error of `applyOptions` on exported options is the first option's error. -/
theorem applyOptions_error (opts : List Opt) : (applyOptions (opts.map Opt.toFn)).2 = opts.findSome? Opt.check := by
  rw [applyOptions, applyFrom_checked Opt.toFn_eq]

/-- No exported option makes the timeout negative. -/
theorem applyOptions_timeout_nonneg (opts : List Opt) : 0 ≤ (applyOptions (opts.map Opt.toFn)).1.timeout := by
  refine applyFrom_invariant (P := fun o : Options => 0 ≤ o.timeout) ?_ (by decide)
  simp only [List.mem_map]
  rintro _ ⟨x, -, rfl⟩ o ho
  rw [Opt.toFn_eq]
  cases x <;> simp only [Opt.check, Opt.set] <;> (try split) <;> simp_all

/-- The `v2` options `NewServer` passes, on a non-negative timeout: the defaults with the four fields set. -/
theorem applyOptions_passed {t : Duration} (ht : 0 ≤ t) (c : Chan) (tl : Option Nat) (d : DecoderRef) :
    V2.applyOptions [V2.timeout t, V2.channel c, V2.tls tl, V2.jsonDecoder d] =
      ({ V2.defaults with timeout := t, ch := c, tls := tl, decoder := d }, none) := by
  simp only [V2.applyOptions, applyFrom, V2.timeout, durationOption, not_lt.mpr ht, if_false, V2.channel, V2.tls,
    V2.jsonDecoder, setOption]

/-- The only `v2` server among the makers is the one with the options of `cfg`. -/
theorem v2_mem_servers {cfg : Options} {vopts : List (OptionFn V2.Options)}
    (h : Proto.v2 vopts ∈ (servers cfg).map Prod.fst) :
    vopts = [V2.timeout cfg.timeout, V2.channel cfg.ch, V2.tls cfg.tls, V2.jsonDecoder cfg.decoder] := by
  unfold servers at h
  split at h <;> split at h <;> simp_all

/-- With both versions on, the multiplexer has the server of '1', then the server of '2', neither with a listener. -/
theorem mux_of_newServer {opts : List Opt} {ch : Chan} {own : Bool} {ms : List MuxServer}
    (h : newServer (opts.map Opt.toFn) = .ok (.mux ch own ms)) :
    ∃ p₁ p₂, ms = [⟨'1'.toUInt8, none, p₁⟩, ⟨'2'.toUInt8, none, p₂⟩] := by
  unfold newServer at h
  rcases happ : applyOptions (opts.map Opt.toFn) with ⟨cfg, _ | err⟩
  · rw [happ] at h
    cases h1 : cfg.v1 <;> cases h2 : cfg.v2 <;>
      simp only [servers, h1, h2, Bool.false_eq_true, if_false, if_true, List.nil_append, List.cons_append] at h
    · cases h
    · cases h
    · cases h
    · injection h with h
      injection h with _ _ h
      subst h
      split <;> simp only [servers, h1, h2, if_true, List.cons_append, List.nil_append, List.map_cons, List.map_nil] <;>
        exact ⟨_, _, rfl⟩
  · rw [happ] at h
    cases h

end OptionsAux

open OptionsAux Server

/-- `NewServer` fails exactly with the first error of its options (a negative `Keepalive` or `Timeout`), or, when they
are all accepted and leave both versions off, with `ErrNoVersionEnabled`. -/
theorem newServer_error_iff (opts : List Opt) (e : String) :
    newServer (opts.map Opt.toFn) = .error e ↔
      opts.findSome? Opt.check = some e ∨
      (opts.findSome? Opt.check = none ∧ (applyOptions (opts.map Opt.toFn)).1.v1 = false ∧
        (applyOptions (opts.map Opt.toFn)).1.v2 = false ∧ e = errNoVersionEnabled) := by
  rw [← applyOptions_error]
  unfold newServer
  rcases applyOptions (opts.map Opt.toFn) with ⟨cfg, _ | err⟩
  · cases h1 : cfg.v1 <;> cases h2 : cfg.v2 <;>
      simp only [servers, h1, h2, Bool.false_eq_true, if_false, if_true, List.nil_append, List.cons_append]
    · simp [eq_comm]
    · simp
    · simp
    · exact iff_of_false (fun h => Except.noConfusion h) (by simp)
  · simp

/-- The `v2` server `NewServer` builds is configured with the timeout, TLS configuration and decoder of the options, and
its options never fail; its keep-alive and logging are `v2`'s defaults (3 seconds, off), whatever `Keepalive` and
`Logging` said. Its channel is, by case:
1. with one version on, the channel of the options;
2. with both on, the channel of the multiplexed server, which is the one `NewServer` made, of 128 batches, when the
   options gave none, and the options' channel otherwise. -/
theorem newServer_v2_keepalive_default {opts : List Opt} {cfg : Options} {b : Built}
    (hcfg : (applyOptions (opts.map Opt.toFn)).1 = cfg) (h : newServer (opts.map Opt.toFn) = .ok b)
    {vopts : List (OptionFn V2.Options)} (hv : Proto.v2 vopts ∈ b.protos) :
    (∀ p, b = .single p → V2.applyOptions vopts =
      ({ V2.defaults with timeout := cfg.timeout, ch := cfg.ch, tls := cfg.tls, decoder := cfg.decoder }, none)) ∧
    (∀ ch own ms, b = .mux ch own ms → ch = (if cfg.ch = .nil then .made 128 else cfg.ch) ∧
      V2.applyOptions vopts =
        ({ V2.defaults with timeout := cfg.timeout, ch := ch, tls := cfg.tls, decoder := cfg.decoder }, none)) := by
  have ht := applyOptions_timeout_nonneg opts
  unfold newServer at h
  rcases happ : applyOptions (opts.map Opt.toFn) with ⟨cfg', _ | err⟩
  · rw [happ] at h ht hcfg
    subst hcfg
    dsimp only at h ht
    split at h
    · cases h
    · next p _ hs =>
      cases h
      have hm : Proto.v2 vopts ∈ (servers cfg').map Prod.fst := by rw [hs]; simpa [Built.protos] using hv
      exact ⟨fun _ _ => v2_mem_servers hm ▸ applyOptions_passed ht _ _ _, fun _ _ _ hb => Built.noConfusion hb⟩
    · cases h
      simp only [Built.protos, List.map_map] at hv
      have hm := v2_mem_servers (List.map_congr_left (fun _ _ => rfl) ▸ hv :
        Proto.v2 vopts ∈ (servers (if cfg'.ch = .nil then { cfg' with ch := .made 128 } else cfg')).map Prod.fst)
      refine ⟨fun _ hb => Built.noConfusion hb, fun ch _ _ hb => ?_⟩
      obtain ⟨rfl, -, -⟩ := Built.mux.inj hb
      by_cases hnil : cfg'.ch = .nil
      · simp only [hnil, ↓reduceIte] at hm ⊢
        exact ⟨trivial, hm ▸ applyOptions_passed ht _ _ _⟩
      · simp only [hnil, ↓reduceIte] at hm ⊢
        exact ⟨trivial, hm ▸ applyOptions_passed ht _ _ _⟩
  · rw [happ] at h
    cases h

/-- With both versions on, `Handle` closes a connection that sends no byte, or a first byte other than '1' and '2';
on '1' and '2' it dereferences the `nil` listener of the server it picked, and panics. -/
theorem handle_mux_panics {opts : List Opt} {ch : Chan} {own : Bool} {ms : List MuxServer}
    (h : newServer (opts.map Opt.toFn) = .ok (.mux ch own ms)) (client : ByteStream) :
    handle ms client = match client.bytes with
      | [] => .closed
      | b :: _ => if b = '1'.toUInt8 ∨ b = '2'.toUInt8 then .panic else .closed := by
  obtain ⟨p₁, p₂, rfl⟩ := mux_of_newServer h
  obtain ⟨bytes, stop⟩ := client
  cases bytes with
  | nil => simp [handle, ByteStream.readFull]
  | cons b rest =>
    rw [handle, show (⟨b :: rest, stop⟩ : ByteStream) = ⟨[b] ++ rest, stop⟩ from rfl,
      @ByteStream.readFull_append [b] rest stop 1 rfl]
    by_cases h1 : b = '1'.toUInt8 <;> by_cases h2 : b = '2'.toUInt8 <;> simp_all [List.find?]

namespace OptionsWitness

/-- A `Keepalive` of 10 seconds, both versions on. -/
def tenSeconds : List Opt := [.keepalive (10 * second)]

end OptionsWitness

/-- A `Keepalive` of 10 seconds does not reach the multiplexed `v2` server, whose keep-alive stays 3 seconds; its
channel is the one `NewServer` made. -/
theorem newServer_v2_keepalive_default_ten :
    ∃ ch own ms vopts, newServer (OptionsWitness.tenSeconds.map Opt.toFn) = .ok (.mux ch own ms) ∧
      Proto.v2 vopts ∈ (Built.mux ch own ms).protos ∧ ch = .made 128 ∧ (V2.applyOptions vopts).1.keepalive = 3 * second ∧
      ((∀ p, Built.mux ch own ms = .single p → V2.applyOptions vopts =
        ({ V2.defaults with timeout := 30 * second, ch := .nil, tls := none, decoder := .jsonUnmarshal }, none)) ∧
      (∀ ch' own' ms', Built.mux ch own ms = .mux ch' own' ms' →
        ch' = (if Chan.nil = .nil then .made 128 else Chan.nil) ∧ V2.applyOptions vopts =
          ({ V2.defaults with timeout := 30 * second, ch := ch', tls := none, decoder := .jsonUnmarshal }, none))) :=
  ⟨_, _, _, _, rfl, .tail _ (.head _), rfl, rfl,
    @newServer_v2_keepalive_default OptionsWitness.tenSeconds _ _ rfl rfl _ (.tail _ (.head _))⟩

end Lumber
