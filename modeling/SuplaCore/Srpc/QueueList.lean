import SuplaCore.Lib.Sys
import SuplaCore.Srpc.Queue

/-!
# What a packet queue is for

A list of at most `SRPC_QUEUE_SIZE` packets (`listPush`, `listPop`), and a run of a queue beside the
list it stands for (`queueRun`).
-/

namespace Srpc

open Proto

/-! ## The list -/

def listPush (size : Nat) (ps : List TSuplaDataPacket) (sdp : TSuplaDataPacket) :
    SuplaResult × List TSuplaDataPacket :=
  if ps.length ≥ size then (.false, ps) else (.true, ps ++ [sdp])

/-- The oldest packet, or the oldest one with the given number. -/
def listPop (ps : List TSuplaDataPacket) (sdp : TSuplaDataPacket) (rrId : UInt32) :
    SuplaResult × List TSuplaDataPacket × TSuplaDataPacket :=
  match ps.findIdx? fun p => rrId == 0 || p.rrId == rrId with
  | some a => (.true, ps.eraseIdx a, ps.getD a sdp)
  | none => (.false, ps, sdp)

/-! ## Runs -/

/-- The blocks of all slots. -/
def TsrpcQueue.addrs (q : TsrpcQueue) : List Nat := q.item.filterMap (Option.map Block.addr)

structure QueueRun where
  queue : TsrpcQueue
  list : List TSuplaDataPacket
  /-- The answers of both, with the packet that was pushed or popped. -/
  answers : List ((SuplaResult × TSuplaDataPacket) × (SuplaResult × TSuplaDataPacket))

inductive QueueAct where
  /-- `addr` is the block that `malloc` returns, if it is called. -/
  | push (addr : Nat) (sdp : TSuplaDataPacket)
  /-- `sdp` is what the packet of the caller holds before. -/
  | pop (sdp : TSuplaDataPacket) (rrId : UInt32)

def QueueRun.step (cfg : QueueCfg) (s : QueueRun) : QueueAct → Option QueueRun
  | .push addr sdp =>
    -- `malloc` returns no block that is allocated already
    if addr ∈ s.queue.addrs then none
    else
      let r := srpcQueuePush cfg (some addr) s.queue sdp
      let l := listPush cfg.size s.list sdp
      some ⟨r.2, l.2, s.answers ++ [((r.1, sdp), (l.1, sdp))]⟩
  | .pop sdp rrId =>
    let r := srpcQueuePop cfg s.queue sdp rrId
    let l := listPop s.list sdp rrId
    some ⟨r.2.1, l.2.1, s.answers ++ [((r.1, r.2.2), (l.1, l.2.2))]⟩

def queueRun (cfg : QueueCfg) : Sys.Machine QueueRun QueueAct where
  init := fun s => s = ⟨.empty cfg, [], []⟩
  step := QueueRun.step cfg

end Srpc
