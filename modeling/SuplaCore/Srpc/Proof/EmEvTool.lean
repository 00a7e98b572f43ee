import SuplaCore.Srpc.EmEvTool
import SuplaCore.Srpc.Proof.EvAdd

/-!
# Electricity meters there and back

What is encoded is decoded with the measurements behind `m_count` as zeros (`decode_encoded`). What
is decoded has one of the sizes that the encoding makes, unless `m_count` is negative: the size for
it is computed in 32 bits, and a negative number can lead to each even size (`accepts_iff`). A
conversion to the next version and back loses nothing but bits of `measured_values`
(`emev_v2to3to2`, `emev_v1to2to1`).
-/

namespace Srpc

open Bytes Packed TSuplaChannelExtendedValue

/-! ## Bytes -/

/-- A measurement after `memset` with 0. -/
def zeroMeasurement : TElectricityMeterMeasurement :=
  ⟨0, .replicate 3 0, .replicate 3 0, .replicate 3 0, .replicate 3 0, .replicate 3 0,
    .replicate 3 0, .replicate 3 0⟩

theorem write_zeroMeasurement :
    measurement.write zeroMeasurement = List.replicate measurement.size 0 := by decide

theorem size_measurement : measurement.size = 62 := by decide

theorem ofLE_zeros (n : Nat) : ofLE (List.replicate n 0) = 0 := by
  induction n with
  | zero => rfl
  | succ n ih =>
    rw [List.replicate_succ, ofLE, ih]
    rfl

/-- Zeros at the end do not count. -/
theorem ofLE_append_zeros (bs : List UInt8) (n : Nat) :
    ofLE (bs ++ List.replicate n 0) = ofLE bs := by
  induction bs with
  | nil => exact ofLE_zeros n
  | cons b bs ih => rw [List.cons_append, ofLE, ofLE, ih]

/-- The start of a block that is copied over zeros. -/
theorem memcpy_zeros {bs : List UInt8} {n : Nat} (size : Nat) (hbs : n ≤ bs.length) :
    memcpy (List.replicate size 0) 0 bs n = bs.take n ++ List.replicate (size - n) 0 := by
  rw [memcpy, List.take_zero, List.nil_append, Nat.zero_add, Nat.min_eq_left hbs,
    List.drop_replicate]

section
variable {η α : Type} (L : EmLayout η α)

namespace EmLayout

theorem sizeof_eq : L.sizeof = L.head.size + 314 := by
  have hsize : L.sizeof = L.head.size + (4 + emMeasurementCount * measurement.size) := rfl
  rw [size_measurement, emMeasurementCount] at hsize
  omega

theorem baseSize_eq : L.baseSize = L.head.size + 4 := by
  rw [baseSize, sizeof_eq, size_measurement, emMeasurementCount]
  omega

theorem sizeof_le : L.sizeof ≤ channelExtendedValueSize := L.fits

/-- `m_count` of a structure that can be encoded. -/
structure HasCount (e : α) : Prop where
  nonneg : 0 ≤ (L.mCount e).toInt
  le : (L.mCount e).toInt ≤ 5

/-- The number of the measurements that are encoded. -/
def count (e : α) : Nat := (L.mCount e).toInt.toNat

variable {L} in
theorem HasCount.count_le {e : α} (h : L.HasCount e) : L.count e ≤ 5 := by
  have hle := h.le
  rw [count]
  omega

/-- `ev->size` of an encoded structure. -/
def size (e : α) : Nat := L.baseSize + measurement.size * L.count e

/-- The structure with zeros for the measurements behind `m_count`. -/
def cut (e : α) : α :=
  L.pack ((L.unpack e).1, (L.unpack e).2.1,
    keepFirst zeroMeasurement (L.count e) (L.unpack e).2.2)

@[simp] theorem mCount_cut (e : α) : L.mCount (L.cut e) = L.mCount e := by
  rw [mCount, cut, L.unpack_pack]
  rfl

/-- Nothing is behind `m_count`. -/
def Short (e : α) : Prop :=
  ∀ i (hi : i < emMeasurementCount), L.count e ≤ i → (L.unpack e).2.2[i] = zeroMeasurement

variable {L} in
theorem cut_of_short {e : α} (h : L.Short e) : L.cut e = e := by
  rw [cut, keepFirst_eq h]
  exact L.pack_unpack e

theorem short_cut (e : α) : L.Short (L.cut e) := by
  intro i hi hcount
  rw [count, mCount_cut] at hcount
  have hzero := @getElem_keepFirst _ _ _ zeroMeasurement (L.unpack e).2.2 _ hi hcount
  simp only [cut, L.unpack_pack]
  exact hzero

/-- What is in front of the measurements. -/
def front (x : η) (mCount : BitVec 32) : List UInt8 := L.head.write x ++ (word 4).write mCount

theorem length_front (x : η) (mCount : BitVec 32) : (L.front x mCount).length = L.baseSize := by
  rw [front, List.length_append, L.head.length_write, (word 4).length_write, baseSize_eq]
  rfl

theorem write_pack (x : η) (mCount : BitVec 32)
    (m : Vector TElectricityMeterMeasurement emMeasurementCount) :
    L.packed.write (L.pack (x, mCount, m)) =
      L.front x mCount ++ (measurement.vector emMeasurementCount).write m := by
  show (L.head.pair ((word 4).pair (measurement.vector emMeasurementCount))).write
    (L.unpack (L.pack (x, mCount, m))) = _
  rw [L.unpack_pack, front, List.append_assoc]
  rfl

/-- What is encoded is what is left of the measurements, with zeros for the others. -/
theorem write_cut {e : α} (h : L.HasCount e) : L.packed.write (L.cut e) =
    (L.packed.write e).take (L.size e) ++ List.replicate (L.sizeof - L.size e) 0 := by
  have hcount := h.count_le
  have hkeep := measurement.write_keepFirst write_zeroMeasurement
    (show L.count e ≤ emMeasurementCount from hcount) (L.unpack e).2.2
  have htake : (L.packed.write e).take (L.size e) = L.front (L.unpack e).1 (L.unpack e).2.1 ++
      ((measurement.vector emMeasurementCount).write (L.unpack e).2.2).take
        (L.count e * measurement.size) := by
    have he : L.packed.write e = _ := congrArg L.packed.write (L.pack_unpack e).symm
    rw [he, L.write_pack, size, ← L.length_front (L.unpack e).1 (L.unpack e).2.1,
      List.take_length_add_append, Nat.mul_comm measurement.size]
  have hzeros : L.sizeof - L.size e = (emMeasurementCount - L.count e) * measurement.size := by
    rw [size, baseSize_eq, sizeof_eq, size_measurement, emMeasurementCount]
    omega
  rw [cut, write_pack, hkeep, htake, hzeros, List.append_assoc]

end EmLayout

/-! ## Encoding -/

/-- The extended value of a structure. -/
def encoded (e : α) : TSuplaChannelExtendedValue :=
  ((zeroedEv.setType L.evType).setSize (L.size e)).copy evHeaderSize (L.packed.write e) (L.size e)

variable {L} in
theorem size_le {e : α} (h : L.HasCount e) : 0 < L.size e ∧ L.size e ≤ L.sizeof := by
  have hcount := h.count_le
  rw [EmLayout.size, L.baseSize_eq, L.sizeof_eq, size_measurement]
  omega

/-- **A structure is encoded** where the number of its measurements fits. -/
theorem emextended2extended_eq {e : α} (h : L.HasCount e) (ev : TSuplaChannelExtendedValue) :
    emextended2extended L e ev = (true, encoded L e) := by
  have hle := h.le
  have hnonneg := h.nonneg
  have hsize := size_le h
  have hfits := L.sizeof_le
  rw [emextended2extended, if_neg (by rw [emMeasurementCount]; omega)]
  show (if L.size e > 0 ∧ L.size e ≤ channelExtendedValueSize then _ else _) = _
  rw [if_pos ⟨hsize.1, Nat.le_trans hsize.2 hfits⟩]
  rfl

theorem emextended2extended_false {e : α} (h : ¬ L.HasCount e) (ev : TSuplaChannelExtendedValue) :
    emextended2extended L e ev = (false, ev) := by
  rw [emextended2extended, if_pos]
  by_contra hno
  rw [emMeasurementCount] at hno
  exact h ⟨by omega, by omega⟩

/-- What is in the extended value of a structure. -/
theorem encoded_spec {e : α} (h : L.HasCount e) : (encoded L e).type = L.evType ∧
    (encoded L e).size = L.size e ∧
    (encoded L e).value.take (L.size e) = (L.packed.write e).take (L.size e) := by
  obtain ⟨-, hsize⟩ := size_le h
  have hfits := Nat.le_trans hsize L.sizeof_le
  have hwrite : L.size e ≤ (L.packed.write e).length := by
    rw [L.packed.length_write]
    exact hsize
  have hsmall : L.size e < 2 ^ 32 := Nat.lt_of_le_of_lt hfits (by decide)
  have hheader := header_eq (@header_copy ((zeroedEv.setType L.evType).setSize (L.size e)) 0
    (L.size e) (L.packed.write e) (by omega) hwrite)
  rw [size_setSize hsmall, type_setSize, type_setType, Nat.add_zero] at hheader
  refine ⟨hheader.1, hheader.2, ?_⟩
  have hvalue := @value_copy ((zeroedEv.setType L.evType).setSize (L.size e)) 0 (L.size e)
    (L.packed.write e) (by omega) hwrite
  rw [Nat.add_zero, List.take_zero, List.nil_append] at hvalue
  rw [encoded, hvalue, List.take_left' (by rw [List.length_take, Nat.min_eq_left hwrite])]

/-! ## Decoding -/

/-- The structure that is read from an extended value. -/
def copied (ev : TSuplaChannelExtendedValue) : α :=
  L.packed.read (memcpy (List.replicate L.sizeof 0) 0 ev.value ev.size)

/-- An extended value that is decoded. -/
structure Decodes (ev : TSuplaChannelExtendedValue) : Prop where
  type : ev.type = L.evType
  pos : ev.size ≠ 0
  le : ev.size ≤ L.sizeof
  count : (L.mCount (copied L ev)).toInt ≤ 5
  expected : BitVec.ofNat 32 ev.size =
    BitVec.ofInt 32 (L.baseSize + measurement.size * (L.mCount (copied L ev)).toInt)

theorem extended2emextended_spec (ev : TSuplaChannelExtendedValue) (e : α) :
    Decodes L ev ∧ extended2emextended L ev e = (true, copied L ev) ∨
      ¬ Decodes L ev ∧ (extended2emextended L ev e).1 = false := by
  rw [extended2emextended]
  split
  · rename_i hno
    refine .inr ⟨fun h => ?_, rfl⟩
    obtain hno | hno | hno := hno
    · exact hno h.type
    · exact h.pos hno
    · exact absurd h.le (by omega)
  · rename_i hyes
    simp only [not_or, not_not] at hyes
    obtain ⟨htype, hpos, hle⟩ := hyes
    have hle := Nat.le_of_not_lt hle
    dsimp only
    rw [show L.packed.read (memcpy (List.replicate L.sizeof 0) 0 ev.value ev.size) =
      copied L ev from rfl]
    by_cases hexpected : BitVec.ofNat 32 ev.size =
        if (L.mCount (copied L ev)).toInt ≤ (emMeasurementCount : Int) then
          BitVec.ofInt 32 (L.baseSize + measurement.size * (L.mCount (copied L ev)).toInt)
        else 0
    · rw [if_neg (not_not.mpr hexpected)]
      by_cases hcount : (L.mCount (copied L ev)).toInt ≤ (emMeasurementCount : Int)
      · rw [if_pos hcount] at hexpected
        exact .inl ⟨⟨htype, hpos, hle, hcount, hexpected⟩, rfl⟩
      · rw [if_neg hcount] at hexpected
        have hzero := congrArg BitVec.toNat hexpected
        rw [BitVec.toNat_ofNat, Nat.mod_eq_of_lt (size_lt ev)] at hzero
        exact absurd hzero hpos
    · rw [if_pos hexpected]
      refine .inr ⟨fun h => hexpected ?_, rfl⟩
      rw [if_pos (show _ ≤ (emMeasurementCount : Int) from h.count)]
      exact h.expected

/-- **What is encoded is decoded**, without the measurements behind `m_count`. -/
theorem decode_encoded {e : α} (h : L.HasCount e) (e₀ : α) :
    extended2emextended L (encoded L e) e₀ = (true, L.cut e) := by
  obtain ⟨htype, hsize, hvalue⟩ := encoded_spec L h
  obtain ⟨hpos, hle⟩ := size_le h
  have hlength : L.size e ≤ (encoded L e).value.length := by
    rw [length_value]
    exact Nat.le_trans hle L.sizeof_le
  have hcopied : copied L (encoded L e) = L.cut e := by
    rw [copied, hsize, memcpy_zeros L.sizeof hlength, hvalue, ← L.write_cut h]
    have hread := L.packed.read_write (L.cut e) []
    rw [List.append_nil] at hread
    exact hread
  have hdecodes : Decodes L (encoded L e) := by
    have hnonneg := h.nonneg
    refine ⟨htype, by omega, by omega, ?_, ?_⟩
    · rw [hcopied, L.mCount_cut]
      exact h.le
    · rw [hcopied, L.mCount_cut, hsize, EmLayout.size, EmLayout.count, ← BitVec.ofInt_natCast]
      congr 1
      push_cast
      rw [Int.toNat_of_nonneg hnonneg]
  obtain ⟨-, hdecode⟩ | ⟨hno, -⟩ := extended2emextended_spec L (encoded L e) e₀
  · rw [hdecode, hcopied]
  · exact absurd hdecodes hno

/-- Only what is said to be there is looked at. -/
theorem extended2emextended_congr {ev ev' : TSuplaChannelExtendedValue}
    (htype : ev'.type = ev.type) (hsize : ev'.size = ev.size)
    (hvalue : ev'.value.take ev.size = ev.value.take ev.size) (e : α) :
    extended2emextended L ev' e = extended2emextended L ev e := by
  have hcopy : memcpy (List.replicate L.sizeof 0) 0 ev'.value ev.size =
      memcpy (List.replicate L.sizeof 0) 0 ev.value ev.size := by
    rw [← memcpy_take, hvalue, memcpy_take]
  rw [extended2emextended, extended2emextended, htype, hsize, hcopy]

/-- **Decoding gives back** what was encoded. -/
def RoundTrip (encode : α → TSuplaChannelExtendedValue → Bool × TSuplaChannelExtendedValue)
    (decode : TSuplaChannelExtendedValue → α → Bool × α) : Prop :=
  ∀ e, L.HasCount e → L.Short e → ∀ ev, ∃ ev', encode e ev = (true, ev') ∧
    ∀ e₀, decode ev' e₀ = (true, e)

theorem roundTrip : RoundTrip L (emextended2extended L) (extended2emextended L) := by
  intro e hcount hshort ev
  refine ⟨encoded L e, emextended2extended_eq L hcount ev, fun e₀ => ?_⟩
  rw [decode_encoded L hcount, EmLayout.cut_of_short hshort]

/-! ## What is accepted -/

/-- `m_count` in the bytes of an extended value. -/
def countField (ev : TSuplaChannelExtendedValue) : Nat := readLE ev.value L.head.size 4

/-- The type, and the size for the number of measurements that is said. -/
def WellFormed (ev : TSuplaChannelExtendedValue) : Prop :=
  ev.type = L.evType ∧ ∃ k, k ≤ emMeasurementCount ∧
    ev.size = L.baseSize + measurement.size * k ∧ countField L ev = k

/-- A negative number of measurements, for which the computed size comes out as the size that is
said. -/
structure Wraps (ev : TSuplaChannelExtendedValue) : Prop where
  type : ev.type = L.evType
  base : L.baseSize ≤ ev.size
  le : ev.size ≤ L.sizeof
  negative : 2 ^ 31 ≤ countField L ev
  wrapped : (L.baseSize + measurement.size * countField L ev) % 2 ^ 32 = ev.size

theorem countField_lt (ev : TSuplaChannelExtendedValue) : countField L ev < 2 ^ 32 :=
  readLE_lt ev.value L.head.size 4

/-- The number is read with zeros for what was not sent. -/
theorem mCount_copied {ev : TSuplaChannelExtendedValue} (hle : ev.size ≤ L.sizeof) :
    (L.mCount (copied L ev)).toNat =
      readLE (ev.value.take ev.size ++ List.replicate (L.sizeof - ev.size) 0) L.head.size 4 := by
  have hlength : ev.size ≤ ev.value.length := by
    rw [length_value]
    exact Nat.le_trans hle L.sizeof_le
  have hread (bs : List UInt8) :
      (L.mCount (L.packed.read bs)).toNat = readLE bs L.head.size 4 := by
    have hcount : L.mCount (L.packed.read bs) = (word 4).read (bs.drop L.head.size) := by
      rw [EmLayout.mCount]
      show (L.unpack (L.pack _)).2.1 = _
      rw [L.unpack_pack]
      rfl
    rw [hcount]
    exact Nat.mod_eq_of_lt (readLE_lt (bs.drop L.head.size) 0 4)
  rw [copied, memcpy_zeros L.sizeof hlength, hread]

theorem mCount_copied_base {ev : TSuplaChannelExtendedValue} (hle : ev.size ≤ L.sizeof)
    (hbase : L.baseSize ≤ ev.size) :
    (L.mCount (copied L ev)).toNat = countField L ev := by
  rw [L.baseSize_eq] at hbase
  have hlength : ev.size ≤ ev.value.length := by
    rw [length_value]
    exact Nat.le_trans hle L.sizeof_le
  rw [mCount_copied L hle, readLE_append, readLE_take hbase]
  · rfl
  · rw [List.length_take, Nat.min_eq_left hlength]
    exact hbase

/-- Where `m_count` is not sent whole it is not negative. -/
theorem mCount_copied_short {ev : TSuplaChannelExtendedValue} (hle : ev.size ≤ L.sizeof)
    (hshort : ev.size < L.baseSize) : (L.mCount (copied L ev)).toNat < 2 ^ 24 := by
  rw [L.baseSize_eq] at hshort
  have hlength : ((ev.value.take ev.size).drop L.head.size).length ≤ 3 := by
    rw [List.length_drop, List.length_take]
    omega
  rw [mCount_copied L hle, readLE, List.drop_append, List.take_append,
    List.take_of_length_le (Nat.le_trans hlength (by decide)), List.drop_replicate,
    List.take_replicate, ofLE_append_zeros]
  exact Nat.lt_of_lt_of_le (ofLE_lt _) (Nat.pow_le_pow_right (by decide) hlength)

/-- The computed size, for a number that is not negative and for one that is. -/
theorem expected_iff (size base : Nat) (hsize : size < 2 ^ 32) (mCount : BitVec 32) :
    BitVec.ofNat 32 size = BitVec.ofInt 32 (base + measurement.size * mCount.toInt) ↔
      (base + measurement.size * mCount.toNat) % 2 ^ 32 = size := by
  have hlt := mCount.isLt
  rw [← BitVec.toNat_inj, BitVec.toNat_ofNat, Nat.mod_eq_of_lt hsize, BitVec.toNat_ofInt,
    BitVec.toInt_eq_toNat_cond, size_measurement]
  split <;> omega

/-- **What is accepted**: well-formed values, and those with a negative number that wraps. -/
theorem accepts_iff (ev : TSuplaChannelExtendedValue) (e : α) :
    (extended2emextended L ev e).1 = true ↔ WellFormed L ev ∨ Wraps L ev := by
  have hdecodes : (extended2emextended L ev e).1 = true ↔ Decodes L ev := by
    obtain ⟨hyes, hdecode⟩ | ⟨hno, hfalse⟩ := extended2emextended_spec L ev e
    · rw [hdecode]
      exact iff_of_true rfl hyes
    · rw [hfalse]
      exact iff_of_false Bool.false_ne_true hno
  have hsizeof := L.sizeof_eq
  have hfits := L.sizeof_le
  have hbase := L.baseSize_eq
  rw [channelExtendedValueSize] at hfits
  rw [hdecodes]
  constructor
  · rintro ⟨htype, hpos, hle, hcount, hexpected⟩
    rw [expected_iff ev.size L.baseSize (size_lt ev)] at hexpected
    have hcond := (L.mCount (copied L ev)).toInt_eq_toNat_cond
    rcases Nat.lt_or_ge ev.size L.baseSize with hshort | hlong
    · -- the number is small, and then so is the computed size
      have hsmall := mCount_copied_short L hle hshort
      rw [if_pos (by omega)] at hcond
      rw [size_measurement, Nat.mod_eq_of_lt (by omega)] at hexpected
      omega
    · rw [mCount_copied_base L hle hlong] at hexpected hcond
      have hlt := countField_lt L ev
      by_cases hnegative : 2 ^ 31 ≤ countField L ev
      · exact .inr ⟨htype, hlong, hle, hnegative, hexpected⟩
      · rw [if_pos (by omega)] at hcond
        refine .inl ⟨htype, countField L ev, ?_, ?_, rfl⟩
        · rw [emMeasurementCount]
          omega
        · rw [size_measurement, Nat.mod_eq_of_lt (by omega)] at hexpected
          rw [size_measurement, hexpected]
  · rintro (⟨htype, k, hk, hsize, hfield⟩ | ⟨htype, hlong, hle, hnegative, hwrapped⟩)
    · rw [emMeasurementCount] at hk
      have hmeasurement := size_measurement
      rw [hmeasurement] at hsize
      have hle : ev.size ≤ L.sizeof := by omega
      have hcopied := mCount_copied_base L hle (by omega)
      have hcond := (L.mCount (copied L ev)).toInt_eq_toNat_cond
      rw [hcopied, hfield, if_pos (by omega)] at hcond
      refine ⟨htype, by omega, hle, by omega, ?_⟩
      rw [expected_iff ev.size L.baseSize (size_lt ev), hcopied, hfield, hmeasurement]
      omega
    · have hcopied := mCount_copied_base L hle hlong
      have hlt := countField_lt L ev
      have hcond := (L.mCount (copied L ev)).toInt_eq_toNat_cond
      rw [hcopied, if_neg (by omega)] at hcond
      refine ⟨htype, by omega, hle, by omega, ?_⟩
      rw [expected_iff ev.size L.baseSize (size_lt ev), hcopied]
      exact hwrapped

theorem not_wraps_of_wellFormed {ev : TSuplaChannelExtendedValue} (h : WellFormed L ev) :
    ¬ Wraps L ev := by
  obtain ⟨-, k, hk, -, hfield⟩ := h
  intro hwraps
  have hnegative := hwraps.negative
  rw [hfield] at hnegative
  rw [emMeasurementCount] at hk
  omega

/-- What is well formed is accepted, and nothing else. -/
def AcceptsExactly (decode : TSuplaChannelExtendedValue → α → Bool × α)
    (ev : TSuplaChannelExtendedValue) : Prop :=
  ∀ e, (decode ev e).1 = true ↔ WellFormed L ev

theorem acceptsExactly_iff (ev : TSuplaChannelExtendedValue) :
    AcceptsExactly L (extended2emextended L) ev ↔ ¬ Wraps L ev := by
  constructor
  · intro h hwraps
    have haccepted := (accepts_iff L ev L.zeroed).mpr (.inr hwraps)
    exact not_wraps_of_wellFormed L ((h L.zeroed).mp haccepted) hwraps
  · intro h e
    rw [accepts_iff]
    exact or_iff_left h

end

/-! ## Conversions -/

theorem withoutVar_eq (measuredValues var : BitVec 32) :
    withoutVar measuredValues var = measuredValues &&& ~~~var := by
  rw [withoutVar]
  apply BitVec.eq_of_getLsbD_eq
  intro i hi
  rw [BitVec.getLsbD_xor, BitVec.getLsbD_and, BitVec.getLsbD_and, BitVec.getLsbD_not,
    decide_eq_true hi, Bool.true_and]
  cases measuredValues.getLsbD i <;> cases var.getLsbD i <;> rfl

/-- The bits of `measured_values` that version 1 does not define and version 2 does. -/
def balancedVars : BitVec 32 :=
  emVarForwardActiveEnergyBalanced ||| emVarReverseActiveEnergyBalanced

/-- The bits of `measured_values` that version 2 does not define and version 3 does. -/
def phaseVars : BitVec 32 :=
  emVarVoltagePhaseAngle12 ||| emVarVoltagePhaseAngle13 ||| emVarVoltagePhaseSequence |||
    emVarCurrentPhaseSequence

theorem withoutBalanced_eq (measuredValues : BitVec 32) :
    withoutBalanced measuredValues = measuredValues &&& ~~~balancedVars := by
  rw [withoutBalanced, withoutVar_eq, withoutVar_eq, BitVec.and_assoc]
  rfl

theorem withoutPhases_eq (measuredValues : BitVec 32) :
    withoutPhases measuredValues = measuredValues &&& ~~~phaseVars := by
  rw [withoutPhases, withoutVar_eq, withoutVar_eq, withoutVar_eq, withoutVar_eq, BitVec.and_assoc,
    BitVec.and_assoc, BitVec.and_assoc]
  rfl

theorem emev_v2to3to2 (v2 : TElectricityMeterExtendedValueV2) :
    srpcEvtoolEmevV3to2 (srpcEvtoolEmevV2to3 v2) =
      { v2 with measuredValues := v2.measuredValues &&& ~~~phaseVars } := by
  rw [srpcEvtoolEmevV3to2, srpcEvtoolEmevV2to3]
  simp only [withoutPhases_eq, BitVec.and_assoc, BitVec.and_self]

theorem emev_v1to2to1 (v1 : TElectricityMeterExtendedValue) :
    srpcEvtoolEmevV2to1 (srpcEvtoolEmevV1to2 v1) =
      { v1 with measuredValues := v1.measuredValues &&& ~~~balancedVars } := by
  rw [srpcEvtoolEmevV2to1, srpcEvtoolEmevV1to2]
  simp only [withoutBalanced_eq, BitVec.and_assoc, BitVec.and_self]

end Srpc
