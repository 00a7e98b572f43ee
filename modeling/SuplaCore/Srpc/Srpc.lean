import SuplaCore.Srpc.Call
import SuplaCore.Srpc.Queue

/-!
# One connection end (`srpc.c`, server build)

`Tsrpc` and its operations, cut at the lock: the locked part of `srpc_async__call`
(`srpcAsyncCall`), and `srpc_iterate` as the part before the callback (`srpcIterateIn`) and the
part after it (`srpcIterateOut`). When no packet was received the two parts run under one lock.
-/

namespace Srpc

open Proto

structure Tsrpc where
  proto : TSuplaProtoData
  /-- The scratch packet shared by everything that holds the lock. -/
  sdp : TSuplaDataPacket
  inQueue : TsrpcQueue
  outQueue : TsrpcQueue

def srpcInit : Tsrpc where
  proto := sprotoInit
  sdp := .zero
  inQueue := .empty .server
  outQueue := .empty .server

def srpcGetProtoVersion (srpc : Tsrpc) : UInt8 := sprotoGetVersion srpc.proto

def srpcSetProtoVersion (srpc : Tsrpc) (version : UInt8) : Tsrpc :=
  { srpc with proto := sprotoSetVersion srpc.proto version }

/-! ## Sending -/

/-- The arguments of `srpc_async__call`; `data` and `version` are `none` for null pointers. -/
structure CallArgs where
  callId : UInt32
  data : Option (List UInt8)
  dataSize : UInt32
  version : Option UInt8

/-- The packet `srpc_async__call` builds in `srpc->sdp`, with the answer of `sproto_set_data`. -/
def buildPacket (proto : TSuplaProtoData) (a : CallArgs) :
    SuplaResult × TSuplaProtoData × TSuplaDataPacket :=
  let i := sprotoSdpInit proto
  let sdp := { i.2 with version := a.version.getD i.2.version }
  let d := sprotoSetData sdp a.data a.dataSize a.callId
  (d.1, i.1, d.2)

/-- The locked part of `srpc_async__call`: the number it returns (zero on failure) and the new
state. `m` is the answer of `malloc` in the queue. -/
def srpcAsyncCall (m : Option Nat) (srpc : Tsrpc) (a : CallArgs) : UInt32 × Tsrpc :=
  let p := buildPacket srpc.proto a
  let srpc := { srpc with proto := p.2.1, sdp := p.2.2 }
  if p.1 = .true then
    let q := srpcQueuePush .server m srpc.outQueue srpc.sdp
    if q.1 = .true then (srpc.sdp.rrId, { srpc with outQueue := q.2 })
    else (0, { srpc with outQueue := q.2 })
  else (0, srpc)

/-! ## `srpc_iterate` -/

/-- What `data_read` returns. -/
inductive DataRead where
  /-- Zero: the connection is closed. -/
  | closed
  /-- Negative: nothing to read. -/
  | nothing
  | bytes (data : List UInt8)

/-- The answers of the system to the first part of `srpc_iterate`. -/
structure InEnv where
  read : DataRead
  append : Realloc
  shrink : Realloc
  malloc : Option Nat

/-- How the first part of `srpc_iterate` ends. -/
inductive InResult where
  /-- `srpc_iterate` returns `FALSE`. -/
  | failed
  /-- No packet; the second part follows under the same lock. -/
  | noPacket
  /-- A packet was pushed to the in queue; the lock is released for the callback. -/
  | received
deriving DecidableEq

/-- From the input to the in queue. -/
def srpcPopIn (e : InEnv) (srpc : Tsrpc) : InResult × Tsrpc :=
  let p := sprotoPopInSdp e.shrink srpc.proto srpc.sdp
  let srpc := { srpc with proto := p.2.1, sdp := p.2.2 }
  if p.1 = .true then
    let q := srpcQueuePush .server e.malloc srpc.inQueue srpc.sdp
    if q.1 = .true then (.received, { srpc with inQueue := q.2 })
    else (.failed, { srpc with inQueue := q.2 })
  else if p.1 = .false then (.noPacket, srpc)
  else (.failed, srpc)

def srpcIterateIn (e : InEnv) (srpc : Tsrpc) : InResult × Tsrpc :=
  match e.read with
  | .closed => (.failed, srpc)
  | .nothing => srpcPopIn e srpc
  | .bytes data =>
    let a := sprotoInBufferAppend e.append srpc.proto data
    if a.1 = .true then srpcPopIn e { srpc with proto := a.2 }
    else (.failed, { srpc with proto := a.2 })

/-- The answers of the system to the second part: `data_write` accepts the first `written` bytes
(none, if it returns a negative number). -/
structure OutEnv where
  append₁ : Realloc
  append₂ : Realloc
  shrink : Realloc
  written : Nat

/-- One packet from the out queue to the output buffer; `none` where `srpc_iterate` returns
`FALSE`. -/
def srpcPopOut (e : OutEnv) (srpc : Tsrpc) : Option Tsrpc :=
  let q := srpcQueuePop .server srpc.outQueue srpc.sdp 0
  let srpc := { srpc with outQueue := q.2.1, sdp := q.2.2 }
  if q.1 = .true then
    let o := sprotoOutBufferAppend e.append₁ e.append₂ srpc.proto srpc.sdp
    if o.1 ≠ .true ∧ o.1 ≠ .false then none else some { srpc with proto := o.2 }
  else some srpc

/-- The bytes offered to `data_write`, and the new state. -/
def srpcIterateOut (e : OutEnv) (srpc : Tsrpc) : Option (List UInt8 × Tsrpc) :=
  (srpcPopOut e srpc).map fun srpc =>
    let d := sprotoPopOutData e.shrink srpc.proto srpcBufferSize
    (d.1, { srpc with proto := d.2 })

end Srpc
