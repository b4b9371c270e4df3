import Lumber.Wire

/-!
# Options and the server

`server/v2/opts.go` and the `server` package's options: an `Option` is a function that changes the options in place
and returns an error or `nil`; `applyOptions` applies a list of them to the defaults and stops at the first error. The
duration options check their argument (`Keepalive`, `Timeout`); the others set a field. Those two families are
`durationOption` and `setOption`, and each option of the source is one of them applied to its own field and message.

`NewServer` (`server/server.go`) applies the options, builds a server for each protocol version enabled, and returns
that server when there is one and a multiplexer over them when there are two; `Handle` reads a connection's first byte
and hands the connection to the server of that byte through its listener. The versions' own constructors are not in the
source: a server is recorded by what `NewServer` passes to its constructor.
-/

namespace Lumber

/-- `time.Duration`: a count of nanoseconds. -/
abbrev Duration := Int

/-- `time.Second`. -/
def second : Duration := 1000000000

/-- The JSON decoder an option names: `json.Unmarshal`, or one the caller passes, told apart by an id. -/
inductive DecoderRef where
  | jsonUnmarshal
  | custom (id : Nat)
  deriving DecidableEq, Repr

/-- A channel of batches: `nil`, one the caller passes (told apart by an id), or one `NewServer` makes, of its
capacity. -/
inductive Chan where
  | nil
  | given (id : Nat)
  | made (cap : Nat)
  deriving DecidableEq, Repr

/-- An option on options of type `α`: Go's `func(*options) error`, which changes the options in place and returns an
error or `nil`. -/
abbrev OptionFn (α : Type) := α → α × Option String

/-- The loop of `applyOptions`: apply the options in order; at the first error, return the options as they are then,
and the error. -/
def applyFrom {α : Type} : α → List (OptionFn α) → α × Option String
  | o, [] => (o, none)
  | o, opt :: opts =>
    match opt o with
    | (o', none) => applyFrom o' opts
    | (o', some err) => (o', some err)

/-- An option that sets a duration field after checking that the duration is not negative: `Keepalive`, `Timeout`. -/
def durationOption {α : Type} (set : α → Duration → α) (msg : String) (d : Duration) : OptionFn α :=
  fun o => if d < 0 then (o, some msg) else (set o d, none)

/-- An option that sets a field and does not fail: `TLS`, `Channel`, `JSONDecoder`, `Logging`, `V1`, `V2`. -/
def setOption {α β : Type} (set : α → β → α) (b : β) : OptionFn α :=
  fun o => (set o b, none)

namespace V2

/-- The options of package `v2`; `tls` is `nil` or a configuration told apart by an id. -/
structure Options where
  timeout : Duration
  keepalive : Duration
  decoder : DecoderRef
  tls : Option Nat
  ch : Chan
  logging : Bool
  deriving DecidableEq, Repr

/-- `Keepalive(kl)`. -/
def keepalive (kl : Duration) : OptionFn Options :=
  durationOption (fun o d => { o with keepalive := d }) "keepalive must not be negative" kl

/-- `Timeout(to)`, with `to` named `d`. -/
def timeout (d : Duration) : OptionFn Options :=
  durationOption (fun o d => { o with timeout := d }) "timeouts must not be negative" d

/-- `Channel(c)`. -/
def channel (c : Chan) : OptionFn Options := setOption (fun o c => { o with ch := c }) c

/-- `TLS(tls)`. -/
def tls (t : Option Nat) : OptionFn Options := setOption (fun o t => { o with tls := t }) t

/-- `JSONDecoder(decoder)`. -/
def jsonDecoder (d : DecoderRef) : OptionFn Options := setOption (fun o d => { o with decoder := d }) d

/-- `Logging(b)`. -/
def logging (b : Bool) : OptionFn Options := setOption (fun o b => { o with logging := b }) b

/-- The options `applyOptions` starts from. -/
def defaults : Options := ⟨30 * second, 3 * second, .jsonUnmarshal, none, .nil, false⟩

/-- `applyOptions(opts)`. -/
def applyOptions (opts : List (OptionFn Options)) : Options × Option String := applyFrom defaults opts

end V2

namespace Server

/-- The options of package `server`. -/
structure Options where
  timeout : Duration
  keepalive : Duration
  decoder : DecoderRef
  tls : Option Nat
  v1 : Bool
  v2 : Bool
  ch : Chan
  logging : Bool
  deriving DecidableEq, Repr

/-- `Keepalive(kl)`. -/
def keepalive (kl : Duration) : OptionFn Options :=
  durationOption (fun o d => { o with keepalive := d }) "keepalive must not be negative" kl

/-- `Timeout(to)`, with `to` named `d`. -/
def timeout (d : Duration) : OptionFn Options :=
  durationOption (fun o d => { o with timeout := d }) "timeouts must not be negative" d

/-- `TLS(tls)`. -/
def tls (t : Option Nat) : OptionFn Options := setOption (fun o t => { o with tls := t }) t

/-- `Channel(c)`. -/
def channel (c : Chan) : OptionFn Options := setOption (fun o c => { o with ch := c }) c

/-- `JSONDecoder(decoder)`. -/
def jsonDecoder (d : DecoderRef) : OptionFn Options := setOption (fun o d => { o with decoder := d }) d

/-- `V1(b)`. -/
def v1 (b : Bool) : OptionFn Options := setOption (fun o b => { o with v1 := b }) b

/-- `V2(b)`. -/
def v2 (b : Bool) : OptionFn Options := setOption (fun o b => { o with v2 := b }) b

/-- `Logging(b)`. -/
def logging (b : Bool) : OptionFn Options := setOption (fun o b => { o with logging := b }) b

/-- The options `applyOptions` starts from: both versions on. -/
def defaults : Options := ⟨30 * second, 3 * second, .jsonUnmarshal, none, true, true, .nil, true⟩

/-- `applyOptions(opts)`. -/
def applyOptions (opts : List (OptionFn Options)) : Options × Option String := applyFrom defaults opts

/-- The options package `server` exports, as data. A caller outside the package cannot write an `Option` of its own,
since `options` is unexported: every `Option` is one of these. -/
inductive Opt where
  | keepalive (kl : Duration)
  | timeout (d : Duration)
  | tls (t : Option Nat)
  | channel (c : Chan)
  | jsonDecoder (d : DecoderRef)
  | v1 (b : Bool)
  | v2 (b : Bool)
  | logging (b : Bool)
  deriving DecidableEq, Repr

/-- The function of an exported option. -/
def Opt.toFn : Opt → OptionFn Options
  | .keepalive kl => Server.keepalive kl
  | .timeout d => Server.timeout d
  | .tls t => Server.tls t
  | .channel c => Server.channel c
  | .jsonDecoder d => Server.jsonDecoder d
  | .v1 b => Server.v1 b
  | .v2 b => Server.v2 b
  | .logging b => Server.logging b

/-- The error an exported option returns: a negative `Keepalive` or `Timeout` is refused with its message. -/
def Opt.check : Opt → Option String
  | .keepalive kl => if kl < 0 then some "keepalive must not be negative" else none
  | .timeout d => if d < 0 then some "timeouts must not be negative" else none
  | _ => none

/-- The field an exported option sets when it passes its check. -/
def Opt.set : Opt → Options → Options
  | .keepalive kl, o => { o with keepalive := kl }
  | .timeout d, o => { o with timeout := d }
  | .tls t, o => { o with tls := t }
  | .channel c, o => { o with ch := c }
  | .jsonDecoder d, o => { o with decoder := d }
  | .v1 b, o => { o with v1 := b }
  | .v2 b, o => { o with v2 := b }
  | .logging b, o => { o with logging := b }

/-- An exported option fails with its check's error and leaves the options as they are, or passes and sets its
field. -/
theorem Opt.toFn_eq (x : Opt) (o : Options) :
    x.toFn o = match x.check with
      | some e => (o, some e)
      | none => (x.set o, none) := by
  cases x <;> simp only [toFn, check, set, Server.keepalive, Server.timeout, Server.tls, Server.channel,
    Server.jsonDecoder, Server.v1, Server.v2, Server.logging, durationOption, setOption] <;> split <;> rfl

/-- `ErrNoVersionEnabled`. -/
def errNoVersionEnabled : String := "no protocol version enabled"

/-- A server of one protocol version, by what `NewServer` passes to its constructor: to `v1.NewWithListener` a `nil`
listener, the channel and the TLS configuration; to `v2.NewWithListener` a `nil` listener and these `v2` options. -/
inductive Proto where
  | v1 (ch : Chan) (tls : Option Nat)
  | v2 (opts : List (OptionFn V2.Options))

/-- The makers `NewServer` collects in `servers`, each with the byte that selects it, run on the options as they are
when it is called. -/
def servers (cfg : Options) : List (Proto × UInt8) :=
  (if cfg.v1 then [(.v1 cfg.ch cfg.tls, '1'.toUInt8)] else []) ++
  (if cfg.v2 then [(.v2 [V2.timeout cfg.timeout, V2.channel cfg.ch, V2.tls cfg.tls, V2.jsonDecoder cfg.decoder],
    '2'.toUInt8)] else [])

/-- `muxServer`: the byte that selects a server, its listener (`nil`, or one told apart by an id), and the server. -/
structure MuxServer where
  mux : UInt8
  l : Option Nat
  server : Proto

/-- What `NewServer` returns: the one server of the version enabled, or, with both enabled, a `server` with its
channel, whether it made it, and its multiplexed servers. -/
inductive Built where
  | single (p : Proto)
  | mux (ch : Chan) (ownCH : Bool) (mux : List MuxServer)

/-- The servers of what `NewServer` returns. -/
def Built.protos : Built → List Proto
  | .single p => [p]
  | .mux _ _ ms => ms.map MuxServer.server

/-- `NewServer(opts...)`. The makers are closures over `cfg`: with both versions enabled they run after `NewServer` has
put its own channel of 128 batches in `cfg.ch`, if there was none. The line that would set each `muxServer`'s listener
is commented out in the source, so the listener stays `nil`. -/
def newServer (opts : List (OptionFn Options)) : Except String Built :=
  match applyOptions opts with
  | (_, some err) => .error err
  | (cfg, none) =>
    match servers cfg with
    | [] => .error errNoVersionEnabled
    | [(p, _)] => .ok (.single p)
    | _ =>
      let ownCH := cfg.ch = .nil
      let cfg := if ownCH then { cfg with ch := .made 128 } else cfg
      .ok (.mux cfg.ch ownCH ((servers cfg).map fun (p, b) => ⟨b, none, p⟩))

/-- What the goroutine that `Handle` starts does with a connection. -/
inductive Dispatch where
  /-- `client.Close()`: the first byte could not be read, or no server has it -/
  | closed
  /-- `m.l.ch <- conn`: the connection goes to the listener of the server of its first byte -/
  | handed (mux : UInt8) (l : Nat)
  /-- `m.l.ch` with `m.l` `nil`: a nil pointer dereference, which panics -/
  | panic
  deriving DecidableEq, Repr

/-- `Handle(client)`, the goroutine that reads the first byte and picks the server; the one that closes the connection
on shutdown is not modelled. -/
def handle (mux : List MuxServer) (client : ByteStream) : Dispatch :=
  match client.readFull 1 with
  | .error _ => .closed
  | .ok (buf, _) =>
    match mux.find? fun m => buf.head? = some m.mux with
    | none => .closed
    | some m =>
      match m.l with
      | none => .panic
      | some l => .handed m.mux l

end Server

end Lumber
