import SuplaCore.Proto.Buffer

/-!
# The packet queues (`srpc.c`)

`Tsrpc_Queue`: an array of pointers to packets, the live ones first. A slot is `none` where the
pointer is null and otherwise holds the address and the content of its block. The build's
`SRPC_QUEUE_SIZE` and `SRPC_QUEUE_MIN_ALLOC_COUNT` are parameters (`QueueCfg`).
-/

namespace Srpc

open Proto

structure QueueCfg where
  /-- `SRPC_QUEUE_SIZE`. -/
  size : Nat
  /-- `SRPC_QUEUE_MIN_ALLOC_COUNT`. -/
  minAlloc : Nat

/-- The values of the server build. -/
def QueueCfg.server : QueueCfg := ⟨10, 0⟩

/-- A block allocated for a packet. -/
structure Block where
  addr : Nat
  sdp : TSuplaDataPacket

/-- The two counters are unsigned chars. -/
structure TsrpcQueue where
  itemCount : Nat
  allocCount : Nat
  item : List (Option Block)

/-- `memset` of the enclosing structure. -/
def TsrpcQueue.empty (cfg : QueueCfg) : TsrpcQueue := ⟨0, 0, List.replicate cfg.size none⟩

/-- The pointer in a slot. -/
def TsrpcQueue.slot (q : TsrpcQueue) (a : Nat) : Option Block := q.item.getD a none

variable (cfg : QueueCfg)

/-- `m` is the answer of `malloc`, if it is called. -/
def srpcQueuePush (m : Option Nat) (q : TsrpcQueue) (sdp : TSuplaDataPacket) :
    SuplaResult × TsrpcQueue :=
  if q.itemCount ≥ cfg.size then (.false, q)
  else
    let addr := match q.slot q.itemCount with
      | some b => some b.addr
      | none => m
    match addr with
    | none => (.false, q)
    | some addr => (.true, {
        itemCount := (q.itemCount + 1) % 256
        allocCount := (q.allocCount + 1) % 256
        item := q.item.set q.itemCount (some ⟨addr, sdp⟩) })

/-- `rr_id == 0 || queue->item[a]->rr_id == rr_id`. -/
def rrIdMatches (rrId : UInt32) (slot : Option Block) : Bool :=
  rrId == 0 || slot.any fun b => b.sdp.rrId == rrId

/-- Take slot `a` out: the slots behind it move down, and its pointer, null if the block was
freed, goes behind the live ones. -/
def srpcQueueTake (q : TsrpcQueue) (a : Nat) : TsrpcQueue :=
  let free := q.allocCount > cfg.minAlloc
  let item := if free then none else q.slot a
  { itemCount := q.itemCount - 1
    allocCount := if free then q.allocCount - 1 else q.allocCount
    item := q.item.take a ++ (q.item.drop (a + 1)).take (q.itemCount - 1 - a) ++
      item :: q.item.drop q.itemCount }

def srpcQueuePop (q : TsrpcQueue) (sdp : TSuplaDataPacket) (rrId : UInt32) :
    SuplaResult × TsrpcQueue × TSuplaDataPacket :=
  match (q.item.take q.itemCount).findIdx? (rrIdMatches rrId) with
  | some a => (.true, srpcQueueTake cfg q a, ((q.slot a).map Block.sdp).getD sdp)
  | none => (.false, q, sdp)

end Srpc
