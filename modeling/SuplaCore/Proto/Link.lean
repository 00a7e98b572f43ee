import SuplaCore.Lib.Sys
import SuplaCore.Proto.Buffer

/-!
# Receiving, and two instances joined by a wire

`receive`: a byte stream handed to one instance chunk by chunk, with all complete packets popped
after every chunk. `link`: a sender and a receiver with a wire between them; the sender builds and
appends packets and drains its output buffer onto the wire, the receiver is fed from the wire.
-/

namespace Proto

/-! ## Receiving -/

/-- An instance and the packet its owner passes to `sproto_pop_in_sdp`. -/
structure Receiver where
  spd : TSuplaProtoData
  sdp : TSuplaDataPacket

/-- Pop until the answer is not `TRUE`: the packets, the last answer, the state left. The `i`-th
call from the end of the fuel uses `rs i`. -/
def popAll (rs : Nat → Realloc) : Nat → Receiver → List PacketView × SuplaResult × Receiver
  | 0, rcv => ([], .true, rcv)
  | fuel + 1, rcv =>
    let p := sprotoPopInSdp (rs fuel) rcv.spd rcv.sdp
    if p.1 = .true then
      let q := popAll rs fuel ⟨p.2.1, p.2.2⟩
      (p.2.2.view :: q.1, q.2)
    else ([], p.1, ⟨p.2.1, p.2.2⟩)

/-- How the receiver got on with a chunk. -/
inductive Outcome where
  | fed
  /-- The chunk was not appended. -/
  | refused
  /-- A packet could not be read. -/
  | stopped (e : SuplaResult)
deriving DecidableEq

/-- A piece of the stream, with the answers of `realloc` while it is worked on. -/
structure Chunk where
  bytes : List UInt8
  append : Realloc
  pops : Nat → Realloc

/-- `sproto_in_buffer_append`, then `sproto_pop_in_sdp` as long as it returns `TRUE`. Every packet
takes at least one byte, so one call more than there are bytes is enough. -/
def feed (c : Chunk) (rcv : Receiver) : List PacketView × Outcome × Receiver :=
  let a := sprotoInBufferAppend c.append rcv.spd c.bytes
  if a.1 = .true then
    let q := popAll c.pops (a.2.inBuf.dataSize + 1) { rcv with spd := a.2 }
    (q.1, if q.2.1 = .versionError ∨ q.2.1 = .dataError then .stopped q.2.1 else .fed, q.2.2)
  else ([], .refused, { rcv with spd := a.2 })

/-- Feed the chunks in order, up to the first that is refused or stops the receiver. -/
def receive : Receiver → List Chunk → List PacketView × Outcome
  | _, [] => ([], .fed)
  | rcv, c :: cs =>
    let f := feed c rcv
    if f.2.1 = .fed then
      let g := receive f.2.2 cs
      (f.1 ++ g.1, g.2)
    else (f.1, f.2.1)

/-- A fresh instance; the packet its owner passes may hold anything. -/
def Receiver.init (sdp : TSuplaDataPacket) : Receiver := ⟨sprotoInit, sdp⟩

/-! ## The link -/

structure Link where
  snd : TSuplaProtoData
  wire : List UInt8
  rcv : Receiver
  /-- The packets appended by the sender. -/
  sent : List PacketView
  /-- The packets popped by the receiver. -/
  got : List PacketView
  stopped : Option SuplaResult

inductive LinkAct where
  | setVersion (v : UInt8)
  /-- `sproto_sdp_init`, `sproto_set_data`, `sproto_out_buffer_append`. -/
  | push (r₁ r₂ : Realloc) (data : Option (List UInt8)) (callId : UInt32)
  /-- `sproto_pop_out_data` with a buffer of `n` bytes. -/
  | drain (r : Realloc) (n : Nat)
  /-- The next `k` bytes of the wire to the receiver. -/
  | feed (k : Nat) (append : Realloc) (pops : Nat → Realloc)

def pushStep (r₁ r₂ : Realloc) (data : Option (List UInt8)) (callId : UInt32) (s : Link) :
    Option Link :=
  let i := sprotoSdpInit s.snd
  let d := sprotoSetData i.2 data (UInt32.ofNat (data.getD []).length) callId
  let o := sprotoOutBufferAppend r₁ r₂ i.1 d.2
  if (data.getD []).length < 2 ^ 32 ∧ d.1 = .true ∧ o.1 = .true then
    some { s with snd := o.2, sent := s.sent ++ [d.2.view] }
  else none

def drainStep (r : Realloc) (n : Nat) (s : Link) : Option Link :=
  let p := sprotoPopOutData r s.snd n
  if n ≠ 0 ∧ n < 2 ^ 32 then some { s with snd := p.2, wire := s.wire ++ p.1 } else none

/-- The size of a chunk is a `_supla_int_t`. -/
def feedStep (k : Nat) (append : Realloc) (pops : Nat → Realloc) (s : Link) : Option Link :=
  let f := feed ⟨s.wire.take k, append, pops⟩ s.rcv
  if 0 < k ∧ k < 2 ^ 31 ∧ s.stopped = none ∧ f.2.1 ≠ .refused then
    some { s with
      wire := s.wire.drop k
      rcv := f.2.2
      got := s.got ++ f.1
      stopped := match f.2.1 with | .stopped e => some e | _ => none }
  else none

/-- Steps in which every append returns `TRUE`. -/
def link : Sys.Machine Link LinkAct where
  init s := s.snd = sprotoInit ∧ s.wire = [] ∧ s.rcv.spd = sprotoInit ∧ s.sent = [] ∧
    s.got = [] ∧ s.stopped = none
  step s
    | .setVersion v => some { s with snd := sprotoSetVersion s.snd v }
    | .push r₁ r₂ data callId => pushStep r₁ r₂ data callId s
    | .drain r n => drainStep r n s
    | .feed k append pops => feedStep k append pops s

end Proto
