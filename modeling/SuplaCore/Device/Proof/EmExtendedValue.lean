import SuplaCore.Device.EmExtendedValue
import SuplaCore.Srpc.Proof.EmEvTool

/-!
# Values of electricity meters from device to client

What is stored decodes as version 3 (`holds_of_reach`), so a client gets it in the version of its
protocol, with every field that this version defines (`meter_values_survive`).
-/

namespace Device

open Srpc Bytes Sys TSuplaChannelExtendedValue

namespace EmExtendedValue

/-! ## Storing -/

/-- What is stored of a value reads as the value. -/
theorem store_spec {value : TSuplaChannelExtendedValue}
    (hsize : value.size ≤ channelExtendedValueSize) : ∃ v, store value = some v ∧
      v.type = value.type ∧ v.size = value.size ∧
      v.value.take value.size = value.value.take value.size := by
  rw [store, if_neg (Nat.not_lt.mpr hsize)]
  have hfits : 0 + (evHeaderSize + value.size) ≤ evHeaderSize + channelExtendedValueSize := by
    omega
  have hlength : evHeaderSize + value.size ≤ value.bytes.length := by
    rw [value.length_bytes]
    omega
  have hbytes := @bytes_copy zeroedEv 0 (evHeaderSize + value.size) value.bytes hfits hlength
  rw [List.take_zero, List.nil_append, List.take_add, List.append_assoc] at hbytes
  have hhead : (value.bytes.take evHeaderSize).length = evHeaderSize := by
    rw [List.length_take]
    omega
  have htail : ((value.bytes.drop evHeaderSize).take value.size).length = value.size := by
    rw [List.length_take, List.length_drop]
    omega
  refine ⟨_, rfl, ?_⟩
  have hheader := @header_eq value (zeroedEv.copy 0 value.bytes (evHeaderSize + value.size))
    (by rw [hbytes, List.take_left' hhead])
  refine ⟨hheader.1, hheader.2, ?_⟩
  rw [TSuplaChannelExtendedValue.value, hbytes, List.drop_left' hhead, List.take_left' htail]
  rfl

/-- What is stored is a structure of version 3. -/
def Holds (stored : Stored) : Prop :=
  ∀ v, stored = some v → v.type = v3Layout.evType ∧ ∃ e, v3Layout.HasCount e ∧ v3Layout.Short e ∧
    ∀ e₀, srpcEvtoolV3Extended2emextended v e₀ = (true, e)

section
variable (getCost : BitVec 32 → List (BitVec 64) → BitVec 32)

/-- A value is taken over as the latest version of it. -/
theorem setRawValue_latest (value : TSuplaChannelExtendedValue) (billing : Option Billing)
    (stored : Stored) : setRawValue getCost (some value) billing stored =
      let r := srpcEvtoolExtended2emextendedLatest value v3Layout.zeroed
      if r.1 then setRawValueV3 getCost r.2 billing stored else stored := by
  have hother (htype : value.type ≠ v3Layout.evType) :
      srpcEvtoolV3Extended2emextended value v3Layout.zeroed = (false, v3Layout.zeroed) :=
    if_pos (.inl htype)
  unfold setRawValue srpcEvtoolExtended2emextendedLatest
  dsimp only
  by_cases h₁ : value.type = v1Layout.evType
  · rw [if_pos h₁, hother (by rw [h₁]; decide), if_neg Bool.false_ne_true,
      if_neg (show value.type ≠ v2Layout.evType by rw [h₁]; decide), if_pos h₁]
    split <;> rfl
  · rw [if_neg h₁]
    by_cases h₂ : value.type = v2Layout.evType
    · rw [if_pos h₂, hother (by rw [h₂]; decide), if_neg Bool.false_ne_true, if_pos h₂]
      split <;> rfl
    · rw [if_neg h₂, if_neg h₂, if_neg h₁]
      by_cases h₃ : value.type = v3Layout.evType
      · rw [if_pos h₃]
        split <;> rfl
      · rw [if_neg h₃, hother h₃]
        rfl

/-- **Storing a structure** keeps what is stored a structure of version 3. -/
theorem holds_setRawValueV3 {stored : Stored} (hstored : Holds stored)
    (value : TElectricityMeterExtendedValueV3) (billing : Option Billing) :
    Holds (setRawValueV3 getCost value billing stored) := by
  rw [setRawValueV3]
  generalize bill getCost billing value = billed
  by_cases hcount : v3Layout.HasCount billed
  · rw [srpcEvtoolV3Emextended2extended, emextended2extended_eq v3Layout hcount, if_pos rfl]
    obtain ⟨htype, hsize, -⟩ := encoded_spec v3Layout hcount
    obtain ⟨-, hle⟩ := size_le hcount
    have hfits : (encoded v3Layout billed).size ≤ channelExtendedValueSize := by
      rw [hsize]
      exact Nat.le_trans hle v3Layout.sizeof_le
    obtain ⟨v, hstore, htype', hsize', hvalue⟩ := store_spec hfits
    intro w hw
    rw [hstore] at hw
    cases hw
    refine ⟨htype'.trans htype, v3Layout.cut billed, ⟨?_, ?_⟩, v3Layout.short_cut billed, ?_⟩
    · rw [v3Layout.mCount_cut]
      exact hcount.nonneg
    · rw [v3Layout.mCount_cut]
      exact hcount.le
    · intro e₀
      rw [srpcEvtoolV3Extended2emextended, extended2emextended_congr v3Layout htype' hsize' hvalue,
        decode_encoded v3Layout hcount]
  · rw [srpcEvtoolV3Emextended2extended, emextended2extended_false v3Layout hcount,
      if_neg Bool.false_ne_true]
    exact hstored

/-- Whatever an object is given. -/
theorem holds_of_reach {stored : Stored} (h : Reach (object getCost) Any stored) :
    Holds stored := by
  refine h.invariant (fun stored hinit => ?_) fun {stored stored' a} _ hstored hstep => ?_
  · rw [show stored = none from hinit]
    exact nofun
  · cases a with
    | setRawValueV3 value billing =>
      cases hstep
      exact holds_setRawValueV3 getCost hstored value billing
    | setRawValue value billing =>
      cases hstep
      cases value with
      | none => exact holds_setRawValueV3 getCost hstored v3Layout.zeroed billing
      | some value =>
        rw [setRawValue_latest]
        dsimp only
        split
        · exact holds_setRawValueV3 getCost hstored _ billing
        · exact hstored

end

/-! ## Reading -/

/-- What version 2 defines of a structure of version 3. -/
def asV2 (e : TElectricityMeterExtendedValueV3) : TElectricityMeterExtendedValueV2 :=
  { e.toTElectricityMeterExtendedValueV2 with
    measuredValues := e.measuredValues &&& ~~~phaseVars }

/-- What version 1 defines of a structure of version 3. -/
def asV1 (e : TElectricityMeterExtendedValueV3) : TElectricityMeterExtendedValue :=
  { e.toTElectricityMeterExtendedValue with
    measuredValues := e.measuredValues &&& ~~~phaseVars &&& ~~~balancedVars }

theorem emev_v3to2 (e : TElectricityMeterExtendedValueV3) : srpcEvtoolEmevV3to2 e = asV2 e := by
  rw [srpcEvtoolEmevV3to2, withoutPhases_eq]
  rfl

theorem emev_v3to2to1 (e : TElectricityMeterExtendedValueV3) :
    srpcEvtoolEmevV2to1 (srpcEvtoolEmevV3to2 e) = asV1 e := by
  rw [emev_v3to2, srpcEvtoolEmevV2to1, withoutBalanced_eq]
  rfl

/-- **The content for a client** with an older protocol is that of the stored value, in every field
that the version of the protocol defines. -/
def Delivers (stored : Stored) : Prop :=
  ∀ v, stored = some v → ∃ e, (∀ e₀, srpcEvtoolV3Extended2emextended v e₀ = (true, e)) ∧
    ∀ value protocolVersion, ∃ out, getRawValueFor stored value protocolVersion = (true, out) ∧
      if 0 < protocolVersion ∧ protocolVersion ≤ 12 then
        ∀ e₀, srpcEvtoolV1Extended2emextended out e₀ = (true, asV1 e)
      else if 0 < protocolVersion ∧ protocolVersion < 25 then
        ∀ e₀, srpcEvtoolV2Extended2emextended out e₀ = (true, asV2 e)
      else ∀ e₀, srpcEvtoolV3Extended2emextended out e₀ = (true, e)

theorem delivers_of_holds {stored : Stored} (h : Holds stored) : Delivers stored := by
  intro v hv
  obtain ⟨htype, e, hcount, hshort, hdecode⟩ := h v hv
  refine ⟨e, hdecode, fun value protocolVersion => ?_⟩
  have hread : getRawValueV3 stored = (true, e) := by
    rw [hv, getRawValueV3, hdecode, if_pos rfl]
  rw [getRawValueFor, hread]
  by_cases h₁ : 0 < protocolVersion ∧ protocolVersion ≤ 12
  · rw [if_pos h₁, if_pos rfl, emev_v3to2to1]
    obtain ⟨out, hencode, hout⟩ :=
      roundTrip v1Layout (asV1 e) ⟨hcount.nonneg, hcount.le⟩ hshort value
    exact ⟨out, hencode, by rw [if_pos h₁]; exact hout⟩
  · rw [if_neg h₁]
    by_cases h₂ : 0 < protocolVersion ∧ protocolVersion < 25
    · rw [if_pos h₂, if_pos rfl, emev_v3to2]
      obtain ⟨out, hencode, hout⟩ :=
        roundTrip v2Layout (asV2 e) ⟨hcount.nonneg, hcount.le⟩ hshort value
      exact ⟨out, hencode, by rw [if_neg h₁, if_pos h₂]; exact hout⟩
    · rw [if_neg h₂]
      refine ⟨v, ?_, by rw [if_neg h₁, if_neg h₂]; exact hdecode⟩
      rw [hv, getRawValue, if_pos (by rw [htype]; decide)]

/-- **Electricity-meter values survive** encoding, conversion and storing; the decoder of each
version accepts what is well formed, and nothing else, exactly where no negative number of
measurements wraps. -/
theorem meter_values_survive (getCost : BitVec 32 → List (BitVec 64) → BitVec 32) :
    (RoundTrip v1Layout srpcEvtoolV1Emextended2extended srpcEvtoolV1Extended2emextended ∧
      RoundTrip v2Layout srpcEvtoolV2Emextended2extended srpcEvtoolV2Extended2emextended ∧
      RoundTrip v3Layout srpcEvtoolV3Emextended2extended srpcEvtoolV3Extended2emextended) ∧
    (∀ ev,
      (AcceptsExactly v1Layout srpcEvtoolV1Extended2emextended ev ↔ ¬ Wraps v1Layout ev) ∧
      (AcceptsExactly v2Layout srpcEvtoolV2Extended2emextended ev ↔ ¬ Wraps v2Layout ev) ∧
      (AcceptsExactly v3Layout srpcEvtoolV3Extended2emextended ev ↔ ¬ Wraps v3Layout ev)) ∧
    (∀ v2, srpcEvtoolEmevV3to2 (srpcEvtoolEmevV2to3 v2) =
      { v2 with measuredValues := v2.measuredValues &&& ~~~phaseVars }) ∧
    (∀ v1, srpcEvtoolEmevV2to1 (srpcEvtoolEmevV1to2 v1) =
      { v1 with measuredValues := v1.measuredValues &&& ~~~balancedVars }) ∧
    ∀ stored, Reach (object getCost) Any stored → Delivers stored :=
  ⟨⟨roundTrip v1Layout, roundTrip v2Layout, roundTrip v3Layout⟩,
    fun ev => ⟨acceptsExactly_iff v1Layout ev, acceptsExactly_iff v2Layout ev,
      acceptsExactly_iff v3Layout ev⟩,
    emev_v2to3to2, emev_v1to2to1,
    fun _ h => delivers_of_holds (holds_of_reach getCost h)⟩

/-- A value of version 3 without measurements, whose `m_count` is the least `int`. -/
def wrapping : TSuplaChannelExtendedValue :=
  ((zeroedEv.setType v3Layout.evType).setSize v3Layout.baseSize).copy
    (evHeaderSize + v3Layout.head.size + 3) [0x80] 1

theorem wrapping_accepted : ¬ AcceptsExactly v3Layout srpcEvtoolV3Extended2emextended wrapping :=
  fun h => (acceptsExactly_iff v3Layout wrapping).mp h
    ⟨by decide +kernel, by decide +kernel, by decide +kernel, by decide +kernel,
      by decide +kernel⟩

end EmExtendedValue

end Device
