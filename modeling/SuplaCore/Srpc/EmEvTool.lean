import SuplaCore.Lib.Packed
import SuplaCore.Srpc.EvTool

/-!
# Extended values of electricity meters

`TElectricityMeter_ExtendedValue` in its three versions, their encoding as an extended value and
back (`RETURN_EMEXTENDED2EXTENDED`, `RETURN_EXTENDED2EMEXTENDED`) and the conversions from one
version to the next (`srpc_evtool_emev_v1to2` and the others).
-/

namespace Srpc

open Bytes Packed

/-- `EM_MEASUREMENT_COUNT` -/
def emMeasurementCount : Nat := 5

/-! ## The versions -/

structure TElectricityMeterMeasurement where
  freq : BitVec 16
  voltage : Vector (BitVec 16) 3
  current : Vector (BitVec 16) 3
  powerActive : Vector (BitVec 32) 3
  powerReactive : Vector (BitVec 32) 3
  powerApparent : Vector (BitVec 32) 3
  powerFactor : Vector (BitVec 16) 3
  phaseAngle : Vector (BitVec 16) 3
  deriving DecidableEq

structure TElectricityMeterExtendedValue where
  totalForwardActiveEnergy : Vector (BitVec 64) 3
  totalReverseActiveEnergy : Vector (BitVec 64) 3
  totalForwardReactiveEnergy : Vector (BitVec 64) 3
  totalReverseReactiveEnergy : Vector (BitVec 64) 3
  totalCost : BitVec 32
  pricePerUnit : BitVec 32
  currency : Vector (BitVec 8) 3
  measuredValues : BitVec 32
  period : BitVec 32
  mCount : BitVec 32
  m : Vector TElectricityMeterMeasurement emMeasurementCount
  deriving DecidableEq

/-- The new fields lie between the others, see `v2Layout`. -/
structure TElectricityMeterExtendedValueV2 extends TElectricityMeterExtendedValue where
  totalForwardActiveEnergyBalanced : BitVec 64
  totalReverseActiveEnergyBalanced : BitVec 64
  totalCostBalanced : BitVec 32
  deriving DecidableEq

/-- The new fields lie between the others, see `v3Layout`. -/
structure TElectricityMeterExtendedValueV3 extends TElectricityMeterExtendedValueV2 where
  voltagePhaseAngle12 : BitVec 16
  voltagePhaseAngle13 : BitVec 16
  phaseSequence : BitVec 8
  deriving DecidableEq

/-! ## Layouts -/

def measurement : Packed TElectricityMeterMeasurement :=
  ((word 2).pair <| ((word 2).vector 3).pair <| ((word 2).vector 3).pair <|
    ((word 4).vector 3).pair <| ((word 4).vector 3).pair <| ((word 4).vector 3).pair <|
    ((word 2).vector 3).pair ((word 2).vector 3)).iso
      (fun (f, v, c, pa, pr, pp, pf, ph) => ⟨f, v, c, pa, pr, pp, pf, ph⟩)
      (fun m => (m.freq, m.voltage, m.current, m.powerActive, m.powerReactive, m.powerApparent,
        m.powerFactor, m.phaseAngle))
      (fun _ => rfl)

/-- A structure that ends with `m_count` and the measurements. -/
structure EmLayout (η α : Type) where
  evType : UInt8
  head : Packed η
  pack : η × BitVec 32 × Vector TElectricityMeterMeasurement emMeasurementCount → α
  unpack : α → η × BitVec 32 × Vector TElectricityMeterMeasurement emMeasurementCount
  pack_unpack : ∀ e, pack (unpack e) = e
  unpack_pack : ∀ x, unpack (pack x) = x
  fits : head.size + (4 + emMeasurementCount * measurement.size) ≤ channelExtendedValueSize

def energies : Packed (Vector (BitVec 64) 3) := (word 8).vector 3

def v1Layout : EmLayout (Vector (BitVec 64) 3 × Vector (BitVec 64) 3 × Vector (BitVec 64) 3 ×
    Vector (BitVec 64) 3 × BitVec 32 × BitVec 32 × Vector (BitVec 8) 3 × BitVec 32 × BitVec 32)
    TElectricityMeterExtendedValue where
  evType := 10
  head := energies.pair <| energies.pair <| energies.pair <| energies.pair <| (word 4).pair <|
    (word 4).pair <| ((word 1).vector 3).pair <| (word 4).pair (word 4)
  pack := fun ((fa, ra, fr, rr, cost, price, currency, measured, period), mCount, m) =>
    ⟨fa, ra, fr, rr, cost, price, currency, measured, period, mCount, m⟩
  unpack e :=
    ((e.totalForwardActiveEnergy, e.totalReverseActiveEnergy, e.totalForwardReactiveEnergy,
      e.totalReverseReactiveEnergy, e.totalCost, e.pricePerUnit, e.currency, e.measuredValues,
      e.period), e.mCount, e.m)
  pack_unpack _ := rfl
  unpack_pack _ := rfl
  fits := by decide

def v2Layout : EmLayout (Vector (BitVec 64) 3 × Vector (BitVec 64) 3 × Vector (BitVec 64) 3 ×
    Vector (BitVec 64) 3 × BitVec 64 × BitVec 64 × BitVec 32 × BitVec 32 × BitVec 32 ×
    Vector (BitVec 8) 3 × BitVec 32 × BitVec 32) TElectricityMeterExtendedValueV2 where
  evType := 12
  head := energies.pair <| energies.pair <| energies.pair <| energies.pair <| (word 8).pair <|
    (word 8).pair <| (word 4).pair <| (word 4).pair <| (word 4).pair <| ((word 1).vector 3).pair <|
    (word 4).pair (word 4)
  pack := fun ((fa, ra, fr, rr, fab, rab, cost, costb, price, currency, measured, period),
      mCount, m) =>
    ⟨⟨fa, ra, fr, rr, cost, price, currency, measured, period, mCount, m⟩, fab, rab, costb⟩
  unpack e :=
    ((e.totalForwardActiveEnergy, e.totalReverseActiveEnergy, e.totalForwardReactiveEnergy,
      e.totalReverseReactiveEnergy, e.totalForwardActiveEnergyBalanced,
      e.totalReverseActiveEnergyBalanced, e.totalCost, e.totalCostBalanced, e.pricePerUnit,
      e.currency, e.measuredValues, e.period), e.mCount, e.m)
  pack_unpack _ := rfl
  unpack_pack _ := rfl
  fits := by decide

def v3Layout : EmLayout (Vector (BitVec 64) 3 × Vector (BitVec 64) 3 × Vector (BitVec 64) 3 ×
    Vector (BitVec 64) 3 × BitVec 64 × BitVec 64 × BitVec 16 × BitVec 16 × BitVec 8 × BitVec 32 ×
    BitVec 32 × BitVec 32 × Vector (BitVec 8) 3 × BitVec 32 × BitVec 32)
    TElectricityMeterExtendedValueV3 where
  evType := 14
  head := energies.pair <| energies.pair <| energies.pair <| energies.pair <| (word 8).pair <|
    (word 8).pair <| (word 2).pair <| (word 2).pair <| (word 1).pair <| (word 4).pair <|
    (word 4).pair <| (word 4).pair <| ((word 1).vector 3).pair <| (word 4).pair (word 4)
  pack := fun ((fa, ra, fr, rr, fab, rab, angle12, angle13, sequence, cost, costb, price, currency,
      measured, period), mCount, m) =>
    ⟨⟨⟨fa, ra, fr, rr, cost, price, currency, measured, period, mCount, m⟩, fab, rab, costb⟩,
      angle12, angle13, sequence⟩
  unpack e :=
    ((e.totalForwardActiveEnergy, e.totalReverseActiveEnergy, e.totalForwardReactiveEnergy,
      e.totalReverseReactiveEnergy, e.totalForwardActiveEnergyBalanced,
      e.totalReverseActiveEnergyBalanced, e.voltagePhaseAngle12, e.voltagePhaseAngle13,
      e.phaseSequence, e.totalCost, e.totalCostBalanced, e.pricePerUnit, e.currency,
      e.measuredValues, e.period), e.mCount, e.m)
  pack_unpack _ := rfl
  unpack_pack _ := rfl
  fits := by decide

namespace EmLayout

variable {η α : Type} (L : EmLayout η α)

def packed : Packed α :=
  (L.head.pair ((word 4).pair (measurement.vector emMeasurementCount))).iso L.pack L.unpack
    L.pack_unpack

/-- `sizeof` of the structure -/
def sizeof : Nat := L.packed.size

/-- `sizeof` without the measurements -/
def baseSize : Nat := L.sizeof - measurement.size * emMeasurementCount

def mCount (e : α) : BitVec 32 := (L.unpack e).2.1

/-- A structure after `memset` with 0. -/
def zeroed : α := L.packed.read (List.replicate L.sizeof 0)

end EmLayout

/-! ## Encoding -/

/-- An extended value after `memset` with 0. -/
def zeroedEv : TSuplaChannelExtendedValue where
  bytes := List.replicate (evHeaderSize + channelExtendedValueSize) 0
  length_bytes := List.length_replicate

section
variable {η α : Type} (L : EmLayout η α)

/-- `RETURN_EMEXTENDED2EXTENDED` -/
def emextended2extended (emEv : α) (ev : TSuplaChannelExtendedValue) :
    Bool × TSuplaChannelExtendedValue :=
  let mCount := (L.mCount emEv).toInt
  if mCount > emMeasurementCount ∨ mCount < 0 then (false, ev)
  else
    let size := L.baseSize + measurement.size * mCount.toNat
    let ev := (zeroedEv.setType L.evType).setSize size
    if size > 0 ∧ size ≤ channelExtendedValueSize then
      (true, ev.copy evHeaderSize (L.packed.write emEv) size)
    else (false, ev.setSize 0)

/-- `RETURN_EXTENDED2EMEXTENDED`; the size is computed with the sign of `m_count` extended, and
kept in 32 bits. -/
def extended2emextended (ev : TSuplaChannelExtendedValue) (emEv : α) : Bool × α :=
  if ev.type ≠ L.evType ∨ ev.size = 0 ∨ ev.size > L.sizeof then (false, emEv)
  else
    let emEv := L.packed.read (memcpy (List.replicate L.sizeof 0) 0 ev.value ev.size)
    let mCount := (L.mCount emEv).toInt
    let expectedSize : BitVec 32 :=
      if mCount ≤ emMeasurementCount then BitVec.ofInt 32 (L.baseSize + measurement.size * mCount)
      else 0
    if BitVec.ofNat 32 ev.size ≠ expectedSize then (false, L.zeroed) else (true, emEv)

end

def srpcEvtoolV1Emextended2extended := emextended2extended v1Layout
def srpcEvtoolV1Extended2emextended := extended2emextended v1Layout
def srpcEvtoolV2Emextended2extended := emextended2extended v2Layout
def srpcEvtoolV2Extended2emextended := extended2emextended v2Layout
def srpcEvtoolV3Emextended2extended := emextended2extended v3Layout
def srpcEvtoolV3Extended2emextended := extended2emextended v3Layout

/-! ## Conversions

`EMEV_COPY` copies the fields that all versions have, into a structure after `memset` with 0. -/

def emVarForwardActiveEnergyBalanced : BitVec 32 := 0x2000
def emVarReverseActiveEnergyBalanced : BitVec 32 := 0x4000
def emVarVoltagePhaseAngle12 : BitVec 32 := 0x10000
def emVarVoltagePhaseAngle13 : BitVec 32 := 0x20000
def emVarVoltagePhaseSequence : BitVec 32 := 0x40000
def emVarCurrentPhaseSequence : BitVec 32 := 0x80000

/-- `measured_values ^= measured_values & var` -/
def withoutVar (measuredValues var : BitVec 32) : BitVec 32 :=
  measuredValues ^^^ (measuredValues &&& var)

/-- The bits that version 1 does not have and version 2 has. -/
def withoutBalanced (measuredValues : BitVec 32) : BitVec 32 :=
  withoutVar (withoutVar measuredValues emVarForwardActiveEnergyBalanced)
    emVarReverseActiveEnergyBalanced

/-- The bits that version 2 does not have and version 3 has. -/
def withoutPhases (measuredValues : BitVec 32) : BitVec 32 :=
  withoutVar (withoutVar (withoutVar (withoutVar measuredValues emVarVoltagePhaseAngle12)
    emVarVoltagePhaseAngle13) emVarVoltagePhaseSequence) emVarCurrentPhaseSequence

def srpcEvtoolEmevV1to2 (v1 : TElectricityMeterExtendedValue) : TElectricityMeterExtendedValueV2 :=
  { v1 with
    totalForwardActiveEnergyBalanced := 0
    totalReverseActiveEnergyBalanced := 0
    totalCostBalanced := 0
    measuredValues := withoutBalanced v1.measuredValues }

def srpcEvtoolEmevV2to1 (v2 : TElectricityMeterExtendedValueV2) : TElectricityMeterExtendedValue :=
  { v2.toTElectricityMeterExtendedValue with
    measuredValues := withoutBalanced v2.measuredValues }

def srpcEvtoolEmevV2to3 (v2 : TElectricityMeterExtendedValueV2) :
    TElectricityMeterExtendedValueV3 :=
  { v2 with
    voltagePhaseAngle12 := 0
    voltagePhaseAngle13 := 0
    phaseSequence := 0
    measuredValues := withoutPhases v2.measuredValues }

def srpcEvtoolEmevV3to2 (v3 : TElectricityMeterExtendedValueV3) :
    TElectricityMeterExtendedValueV2 :=
  { v3.toTElectricityMeterExtendedValueV2 with
    measuredValues := withoutPhases v3.measuredValues }

/-- `srpc_evtool_extended2emextended_latest` -/
def srpcEvtoolExtended2emextendedLatest (ev : TSuplaChannelExtendedValue)
    (emEv : TElectricityMeterExtendedValueV3) : Bool × TElectricityMeterExtendedValueV3 :=
  let r := srpcEvtoolV3Extended2emextended ev emEv
  if r.1 then r
  else if ev.type = v2Layout.evType then
    let v2 := srpcEvtoolV2Extended2emextended ev v2Layout.zeroed
    if v2.1 then (true, srpcEvtoolEmevV2to3 v2.2) else (false, r.2)
  else if ev.type = v1Layout.evType then
    let v1 := srpcEvtoolV1Extended2emextended ev v1Layout.zeroed
    if v1.1 then (true, srpcEvtoolEmevV2to3 (srpcEvtoolEmevV1to2 v1.2)) else (false, r.2)
  else (false, r.2)

end Srpc
