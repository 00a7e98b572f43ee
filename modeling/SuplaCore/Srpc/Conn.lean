import SuplaCore.Lib.Sys
import SuplaCore.Srpc.Getdata

/-!
# A connection as a machine

One thread runs `srpc_iterate` on a `Tsrpc`, any number of others run `srpc_async__call` on it.
A step is a section under the lock, or the reading of `srpc->sdp` between `lck_unlock` and the
callback. The callback starts with `srpc_getdata` (`supla_connection::on_remote_call_received`);
the calls it makes afterwards are `send` steps like those of the other threads.

The state also records what happened: the packets of the calls that returned non-zero (`calls`),
the bytes the transport accepted (`accepted`), whether a `data_write` ever took less than it was
offered (`short`) and the packet pushed last to the in queue (`pushed`).
-/

namespace Srpc

open Proto

/-- Where the iterating thread is. -/
inductive Pc where
  /-- Outside `srpc_iterate`. -/
  | idle
  /-- After `lck_unlock`, before the arguments of the callback are read. -/
  | unlocked
  /-- In the callback. -/
  | callback (rrId callId : UInt32) (version : UInt8)
  /-- In the callback, after `srpc_getdata`. -/
  | handled (heap : Heap) (result : SuplaResult) (rd : TsrpcReceivedData)

structure Conn where
  srpc : Tsrpc
  pc : Pc
  /-- Calls that were found allowed and have not entered their section yet. -/
  entered : List UInt32
  calls : List TSuplaDataPacket
  accepted : List UInt8
  short : Bool
  pushed : Option TSuplaDataPacket
  /-- An `srpc_iterate` returned `FALSE`. -/
  failed : Bool

inductive ConnAct where
  | setVersion (v : UInt8)
  /-- `srpc_call_allowed`. -/
  | enter (callId : UInt32)
  /-- The locked part of `srpc_async__call`. -/
  | send (m : Option Nat) (args : CallArgs)
  /-- `srpc_iterate` up to the callback, or to its end if there is none. -/
  | iterate (ein : InEnv) (eout : OutEnv)
  | readArgs
  | getdata (heap : Heap)
  /-- The rest of `srpc_iterate` after the callback. -/
  | resume (eout : OutEnv)

/-- What `data_read` can return. -/
def InEnv.valid (e : InEnv) : Bool :=
  match e.read with
  | .bytes data => data ≠ [] ∧ data.length ≤ srpcBufferSize
  | _ => true

namespace Conn

def sendStep (m : Option Nat) (args : CallArgs) (s : Conn) : Option Conn :=
  let r := srpcAsyncCall m s.srpc args
  if args.callId ∈ s.entered then
    some { s with
      srpc := r.2
      entered := s.entered.erase args.callId
      calls := if r.1 = 0 then s.calls else s.calls ++ [r.2.sdp] }
  else none

/-- The part of `srpc_iterate` after the callback, up to its return. -/
def outStep (e : OutEnv) (s : Conn) : Conn :=
  match srpcIterateOut e s.srpc with
  | none => { s with pc := .idle, failed := true }
  | some (offered, srpc) =>
    { s with
      srpc := srpc
      pc := .idle
      accepted := s.accepted ++ offered.take e.written
      short := s.short || decide (e.written < offered.length) }

def iterateStep (ein : InEnv) (eout : OutEnv) (s : Conn) : Conn :=
  let r := srpcIterateIn ein s.srpc
  match r.1 with
  | .failed => { s with srpc := r.2, failed := true }
  | .noPacket => outStep eout { s with srpc := r.2 }
  | .received => { s with srpc := r.2, pc := .unlocked, pushed := some r.2.sdp }

def getdataStep (heap : Heap) (rrId : UInt32) (s : Conn) : Conn :=
  let g := srpcGetdata heap s.srpc rrId
  { s with srpc := g.2.2, pc := .handled heap g.1 g.2.1 }

def step (s : Conn) (a : ConnAct) : Option Conn :=
  if s.failed then none
  else match a, s.pc with
    | .setVersion v, _ => some { s with srpc := srpcSetProtoVersion s.srpc v }
    | .enter callId, _ =>
      if srpcCallAllowed s.srpc.proto callId then some { s with entered := callId :: s.entered }
      else none
    | .send m args, _ => sendStep m args s
    | .iterate ein eout, .idle =>
      if ein.valid then some (iterateStep ein eout s) else none
    | .readArgs, .unlocked =>
      some { s with pc := .callback s.srpc.sdp.rrId s.srpc.sdp.callId s.srpc.sdp.version }
    | .getdata heap, .callback rrId _ _ => some (getdataStep heap rrId s)
    | .resume eout, .handled _ _ _ => some (outStep eout s)
    | _, _ => none

def start : Conn where
  srpc := srpcInit
  pc := .idle
  entered := []
  calls := []
  accepted := []
  short := false
  pushed := none
  failed := false

end Conn

def conn : Sys.Machine Conn ConnAct where
  init s := s = .start
  step := Conn.step

end Srpc
