import SuplaCore.Lib.Sys
import SuplaCore.Srpc.EmEvTool

/-!
# Stored values of electricity meters

`supla_channel_em_extended_value` keeps an extended value of version 3, with the prices of its
channel, and gives it to clients in the version of their protocol.
-/

namespace Device

open Srpc Bytes

/-- The prices of a channel, `text_param1` and `param2`. -/
structure Billing where
  currency : List UInt8
  pricePerUnit : BitVec 32

namespace EmExtendedValue

/-- `value` of `supla_abstract_channel_extended_value`, the bytes behind `real_size` as zeros. -/
abbrev Stored := Option TSuplaChannelExtendedValue

/-! ## Storing -/

/-- `supla_abstract_channel_extended_value::set_raw_value` -/
def store (value : TSuplaChannelExtendedValue) : Stored :=
  if value.size > channelExtendedValueSize then none
  else some (zeroedEv.copy 0 value.bytes (evHeaderSize + value.size))

/-- `get_currency` -/
def getCurrency (text : List UInt8) : Vector (BitVec 8) 3 :=
  match text with
  | [a, b, c] => #v[a.toBitVec, b.toBitVec, c.toBitVec]
  | _ => .replicate 3 0

section
-- `get_cost` computes with `double`: a price and counters in 0.00001 units, which are summed up
variable (getCost : BitVec 32 → List (BitVec 64) → BitVec 32)

/-- The fields that are overwritten where the prices are known. -/
def bill (billing : Option Billing) (value : TElectricityMeterExtendedValueV3) :
    TElectricityMeterExtendedValueV3 :=
  match billing with
  | none => value
  | some billing =>
    { value with
      pricePerUnit := billing.pricePerUnit
      currency := getCurrency billing.currency
      totalCost := getCost billing.pricePerUnit value.totalForwardActiveEnergy.toList
      totalCostBalanced :=
        if value.measuredValues &&& emVarForwardActiveEnergyBalanced ≠ 0 then
          getCost billing.pricePerUnit [value.totalForwardActiveEnergyBalanced]
        else 0 }

/-- `set_raw_value` with a structure. The prices are written over fields that lie in front of
`m_count` in the encoded value; they are put in here before the encoding. -/
def setRawValueV3 (value : TElectricityMeterExtendedValueV3) (billing : Option Billing)
    (stored : Stored) : Stored :=
  let r := srpcEvtoolV3Emextended2extended (bill getCost billing value) zeroedEv
  if r.1 then store r.2 else stored

/-- `set_raw_value` with an extended value of any version. -/
def setRawValue (value : Option TSuplaChannelExtendedValue) (billing : Option Billing)
    (stored : Stored) : Stored :=
  match value with
  | none => setRawValueV3 getCost v3Layout.zeroed billing stored
  | some value =>
    if value.type = v1Layout.evType then
      let v1 := srpcEvtoolV1Extended2emextended value v1Layout.zeroed
      if v1.1 then
        setRawValueV3 getCost (srpcEvtoolEmevV2to3 (srpcEvtoolEmevV1to2 v1.2)) billing stored
      else stored
    else if value.type = v2Layout.evType then
      let v2 := srpcEvtoolV2Extended2emextended value v2Layout.zeroed
      if v2.1 then setRawValueV3 getCost (srpcEvtoolEmevV2to3 v2.2) billing stored else stored
    else if value.type = v3Layout.evType then
      let v3 := srpcEvtoolV3Extended2emextended value v3Layout.zeroed
      if v3.1 then setRawValueV3 getCost v3.2 billing stored else stored
    else stored

/-! ## Runs -/

/-- What is stored in an object. -/
inductive Act
  | setRawValue (value : Option TSuplaChannelExtendedValue) (billing : Option Billing)
  | setRawValueV3 (value : TElectricityMeterExtendedValueV3) (billing : Option Billing)

/-- An object, from the beginning of its constructor on. -/
def object : Sys.Machine Stored Act where
  init stored := stored = none
  step stored
    | .setRawValue value billing => some (setRawValue getCost value billing stored)
    | .setRawValueV3 value billing => some (setRawValueV3 getCost value billing stored)

end

/-! ## Reading -/

def isEvTypeSupported (type : UInt8) : Bool :=
  type = v1Layout.evType ∨ type = v2Layout.evType ∨ type = v3Layout.evType

/-- `get_raw_value` with a structure -/
def getRawValueV3 (stored : Stored) : Bool × TElectricityMeterExtendedValueV3 :=
  match stored with
  | some value =>
    let r := srpcEvtoolV3Extended2emextended value v3Layout.zeroed
    if r.1 then r else (false, v3Layout.zeroed)
  | none => (false, v3Layout.zeroed)

/-- `get_raw_value` with an extended value; `value` is what it held before. -/
def getRawValue (stored : Stored) (value : TSuplaChannelExtendedValue) :
    Bool × TSuplaChannelExtendedValue :=
  match stored with
  | some ev => if isEvTypeSupported ev.type then (true, ev) else (false, value)
  | none => (false, value)

/-- `get_raw_value` for a protocol version -/
def getRawValueFor (stored : Stored) (value : TSuplaChannelExtendedValue)
    (protocolVersion : UInt8) : Bool × TSuplaChannelExtendedValue :=
  if 0 < protocolVersion ∧ protocolVersion ≤ 12 then
    let v3 := getRawValueV3 stored
    if v3.1 then
      srpcEvtoolV1Emextended2extended (srpcEvtoolEmevV2to1 (srpcEvtoolEmevV3to2 v3.2)) value
    else (false, value)
  else if 0 < protocolVersion ∧ protocolVersion < 25 then
    let v3 := getRawValueV3 stored
    if v3.1 then srpcEvtoolV2Emextended2extended (srpcEvtoolEmevV3to2 v3.2) value
    else (false, value)
  else getRawValue stored value

end EmExtendedValue

end Device
