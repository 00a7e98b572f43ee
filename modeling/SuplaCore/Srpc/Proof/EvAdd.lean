import SuplaCore.Srpc.Proof.EvTool
import Mathlib.Data.List.Induction

/-!
# Collecting extended values

`srpc_evtool_value_add` keeps the values that it accepts: none, one as it is, or several as the
records of a multi value (`Holds`, `add_spec`). `srpc_evtool_value_get` finds each of them
(`value_get_added`).
-/

namespace Srpc

open Bytes Proto TSuplaChannelExtendedValue

namespace TSuplaChannelExtendedValue

variable {ev : TSuplaChannelExtendedValue}

/-! ## Writing to a value -/

theorem length_value (ev : TSuplaChannelExtendedValue) :
    ev.value.length = channelExtendedValueSize := by
  rw [value, List.length_drop, ev.length_bytes, Nat.add_sub_cancel_left]

theorem size_lt (ev : TSuplaChannelExtendedValue) : ev.size < 2 ^ 32 := sizeAt_lt _

theorem bytes_copy {off n : Nat} {src : List UInt8}
    (hoff : off + n ≤ evHeaderSize + channelExtendedValueSize) (hsrc : n ≤ src.length) :
    (ev.copy off src n).bytes = ev.bytes.take off ++ (src.take n ++ ev.bytes.drop (off + n)) := by
  have hlen := length_memcpy src (ev.length_bytes.symm ▸ hoff)
  rw [ev.length_bytes] at hlen
  refine (List.take_of_length_le hlen.le).trans ?_
  rw [memcpy, Nat.min_eq_left hsrc, List.append_assoc]

@[simp] theorem type_setSize (n : Nat) : (ev.setSize n).type = ev.type := by
  obtain ⟨bytes, hlen⟩ := ev
  cases bytes with
  | nil => cases hlen
  | cons b bytes => rfl

@[simp] theorem size_setSize {n : Nat} (h : n < 2 ^ 32) : (ev.setSize n).size = n := by
  have hbytes := @bytes_copy ev 1 4 (toLE 4 n) (by decide) (by simp)
  have htake : (toLE 4 n).take 4 = toLE 4 n := List.take_of_length_le (by simp)
  have hone : (ev.bytes.take 1).length = 1 := by
    rw [List.length_take, ev.length_bytes]
    rfl
  rw [size, sizeAt, setSize, hbytes, htake, readLE, List.drop_left' hone,
    List.take_left' (length_toLE 4 n), ofLE_toLE, Nat.mod_eq_of_lt (show n < 256 ^ 4 from h)]

@[simp] theorem value_setSize (n : Nat) : (ev.setSize n).value = ev.value := by
  have hbytes := @bytes_copy ev 1 4 (toLE 4 n) (by decide) (by simp)
  have hlen : (ev.bytes.take 1 ++ (toLE 4 n).take 4).length = evHeaderSize := by
    rw [List.length_append, List.length_take, List.length_take, length_toLE, ev.length_bytes]
    rfl
  rw [value, setSize, hbytes, ← List.append_assoc, List.drop_left' hlen]
  rfl

@[simp] theorem type_setType (t : UInt8) : (ev.setType t).type = t := rfl

@[simp] theorem value_setType (t : UInt8) : (ev.setType t).value = ev.value := by
  have hbytes := @bytes_copy ev 0 1 [t] (by decide) (Nat.le_refl 1)
  rw [value, setType, hbytes]
  show (ev.bytes.drop 1).drop 4 = ev.value
  rw [List.drop_drop]
  rfl

section
variable {m n : Nat} {src : List UInt8} (hfits : m + n ≤ channelExtendedValueSize)
  (hsrc : n ≤ src.length)
include hfits hsrc

/-- Copying into `value`. -/
theorem value_copy : (ev.copy (evHeaderSize + m) src n).value =
    ev.value.take m ++ (src.take n ++ ev.value.drop (m + n)) := by
  have hbytes := @bytes_copy ev (evHeaderSize + m) n src (by omega) hsrc
  have hhead : ((ev.bytes.take evHeaderSize).length) = evHeaderSize := by
    rw [List.length_take, ev.length_bytes, Nat.min_eq_left (Nat.le_add_right _ _)]
  rw [value, hbytes, List.take_add, List.append_assoc, List.drop_left' hhead, value,
    List.drop_drop, Nat.add_assoc]

/-- The header stays. -/
theorem header_copy : (ev.copy (evHeaderSize + m) src n).bytes.take evHeaderSize =
    ev.bytes.take evHeaderSize := by
  have hbytes := @bytes_copy ev (evHeaderSize + m) n src (by omega) hsrc
  have hhead : ((ev.bytes.take evHeaderSize).length) = evHeaderSize := by
    rw [List.length_take, ev.length_bytes, Nat.min_eq_left (Nat.le_add_right _ _)]
  rw [hbytes, List.take_add, List.append_assoc, List.take_left' hhead]

end

/-- Type and size stand in the header. -/
theorem header_eq {ev ev' : TSuplaChannelExtendedValue}
    (h : ev'.bytes.take evHeaderSize = ev.bytes.take evHeaderSize) :
    ev'.type = ev.type ∧ ev'.size = ev.size := by
  rw [type, type, size, size, typeAt_take, typeAt_take ev.bytes, sizeAt_take, sizeAt_take ev.bytes,
    h]
  exact ⟨rfl, rfl⟩

end TSuplaChannelExtendedValue

/-! ## Adding -/

/-- A value that can be added: `1 ≤ size ≤ SUPLA_CHANNELEXTENDEDVALUE_SIZE`. -/
structure Addable (v : TSuplaChannelExtendedValue) : Prop where
  some : v.type ≠ evTypeNone
  single : v.type ≠ evTypeMultiValue
  pos : 1 ≤ v.size
  fits : v.size ≤ channelExtendedValueSize

/-- A value without the unused end of `value`. -/
def record (v : TSuplaChannelExtendedValue) : List UInt8 := v.bytes.take (evHeaderSize + v.size)

theorem Addable.length_record {v : TSuplaChannelExtendedValue} (h : Addable v) :
    (record v).length = evHeaderSize + v.size := by
  have hfits := h.fits
  rw [record, List.length_take, v.length_bytes, Nat.min_eq_left (by omega)]

theorem recordSize_le {v : TSuplaChannelExtendedValue} (h : v.size ≤ channelExtendedValueSize) :
    recordSize v = evHeaderSize + v.size := by
  rw [channelExtendedValueSize] at h
  exact add32_of_lt (by unfold evHeaderSize; omega)

theorem Addable.recordSize {v : TSuplaChannelExtendedValue} (h : Addable v) :
    recordSize v = evHeaderSize + v.size := recordSize_le h.fits

/-- A destination that becomes a multi value with its old value as the first. -/
def wrap (dest : TSuplaChannelExtendedValue) : TSuplaChannelExtendedValue :=
  ((dest.setType evTypeMultiValue).setSize (evHeaderSize + dest.size)).copy evHeaderSize dest.bytes
    (evHeaderSize + dest.size)

section
variable {dest : TSuplaChannelExtendedValue}
  (hfits : evHeaderSize + dest.size ≤ channelExtendedValueSize)
include hfits

theorem length_wrapped : evHeaderSize + dest.size ≤ dest.bytes.length := by
  rw [dest.length_bytes]
  omega

theorem header_wrap :
    (wrap dest).type = evTypeMultiValue ∧ (wrap dest).size = evHeaderSize + dest.size := by
  have hheader := header_eq (@header_copy ((dest.setType evTypeMultiValue).setSize
    (evHeaderSize + dest.size)) 0 (evHeaderSize + dest.size) dest.bytes (by omega)
      (length_wrapped hfits))
  have hsmall : evHeaderSize + dest.size < 2 ^ 32 := Nat.lt_of_le_of_lt hfits (by decide)
  rw [size_setSize hsmall, type_setSize, type_setType, Nat.add_zero] at hheader
  exact hheader

theorem value_wrap : (wrap dest).value.take (evHeaderSize + dest.size) =
    dest.bytes.take (evHeaderSize + dest.size) := by
  have hcopy := @value_copy ((dest.setType evTypeMultiValue).setSize
    (evHeaderSize + dest.size)) 0 (evHeaderSize + dest.size) dest.bytes (by omega)
      (length_wrapped hfits)
  rw [Nat.add_zero, List.take_zero, List.nil_append] at hcopy
  rw [wrap, hcopy]
  apply List.take_left'
  rw [List.length_take, Nat.min_eq_left (length_wrapped hfits)]

end

/-- What a destination holds after the values `vs` were added. -/
inductive Holds : TSuplaChannelExtendedValue → List TSuplaChannelExtendedValue → Prop
  | none {dest : TSuplaChannelExtendedValue} : dest.type = evTypeNone → Holds dest []
  | one {v : TSuplaChannelExtendedValue} : Addable v → Holds v [v]
  | many {dest : TSuplaChannelExtendedValue} {vs : List TSuplaChannelExtendedValue} :
      dest.type = evTypeMultiValue → vs ≠ [] → (∀ v ∈ vs, Addable v) →
        dest.size = (vs.map record).flatten.length → dest.size ≤ channelExtendedValueSize →
          dest.value.take dest.size = (vs.map record).flatten → Holds dest vs

/-- Appending a record to a multi value. -/
theorem addToMultiValue_spec {dest v : TSuplaChannelExtendedValue}
    {vs : List TSuplaChannelExtendedValue} (htype : dest.type = evTypeMultiValue)
    (hvs : ∀ v ∈ vs, Addable v) (hsize : dest.size = (vs.map record).flatten.length)
    (hle : dest.size ≤ channelExtendedValueSize)
    (hvalue : dest.value.take dest.size = (vs.map record).flatten) (hv : Addable v) :
    (addToMultiValue dest v).1 = true ∧ Holds (addToMultiValue dest v).2 (vs ++ [v]) ∨
      addToMultiValue dest v = (false, dest) ∧
        dest.size + (evHeaderSize + v.size) > channelExtendedValueSize := by
  have hfits := hv.fits
  have hsum : add32 dest.size (recordSize v) = dest.size + (evHeaderSize + v.size) := by
    rw [hv.recordSize]
    unfold channelExtendedValueSize evHeaderSize at *
    exact add32_of_lt (by omega)
  rw [addToMultiValue, hsum]
  by_cases hroom : dest.size + (evHeaderSize + v.size) > channelExtendedValueSize
  · rw [if_pos hroom]
    exact .inr ⟨rfl, hroom⟩
  · have hroom := Nat.le_of_not_lt hroom
    rw [if_neg (Nat.not_lt_of_le hroom), hv.recordSize]
    have hsrc : evHeaderSize + v.size ≤ v.bytes.length := by
      rw [v.length_bytes]
      omega
    have hheader := header_eq
      (@header_copy dest dest.size (evHeaderSize + v.size) v.bytes hroom hsrc)
    have hcopy := @value_copy dest dest.size (evHeaderSize + v.size) v.bytes hroom hsrc
    have hnew : dest.size + (evHeaderSize + v.size) = ((vs ++ [v]).map record).flatten.length := by
      rw [List.map_append, List.flatten_append, List.length_append, ← hsize, List.map_singleton,
        List.flatten_singleton, hv.length_record]
    have hsmall : dest.size + (evHeaderSize + v.size) < 2 ^ 32 :=
      Nat.lt_of_le_of_lt hroom (by decide)
    refine .inl ⟨rfl, .many ?_ (List.append_ne_nil_of_right_ne_nil _ (List.cons_ne_nil _ _)) ?_ ?_
      ?_ ?_⟩
    · rw [type_setSize, hheader.1, htype]
    · exact List.forall_mem_append.mpr ⟨hvs, List.forall_mem_singleton.mpr hv⟩
    · rw [size_setSize hsmall, hnew]
    · rw [size_setSize hsmall]
      exact hroom
    · have hfront : (dest.value.take dest.size ++ v.bytes.take (evHeaderSize + v.size)).length =
          dest.size + (evHeaderSize + v.size) := by
        rw [List.length_append, List.length_take, List.length_take, length_value,
          Nat.min_eq_left hle, Nat.min_eq_left hsrc]
      rw [size_setSize hsmall, value_setSize, hcopy, ← List.append_assoc, List.take_left' hfront,
        hvalue, List.map_append, List.flatten_append, List.map_singleton, List.flatten_singleton]
      rfl

theorem size_addToMultiValue_le {dest src : TSuplaChannelExtendedValue}
    (hdest : dest.size ≤ channelExtendedValueSize) :
    (addToMultiValue dest src).2.size ≤ channelExtendedValueSize := by
  rw [addToMultiValue]
  split
  · exact hdest
  · rename_i hroom
    have hle := Nat.le_of_not_lt hroom
    have hsmall : add32 dest.size (recordSize src) < 2 ^ 32 :=
      Nat.lt_of_le_of_lt hle (by decide)
    rw [size_setSize hsmall]
    exact hle

/-- What is added fits. -/
theorem size_srpcEvtoolValueAdd_le {dest src : TSuplaChannelExtendedValue}
    (hdest : dest.size ≤ channelExtendedValueSize) (hsrc : src.size ≤ channelExtendedValueSize) :
    (srpcEvtoolValueAdd dest src).2.size ≤ channelExtendedValueSize := by
  rw [srpcEvtoolValueAdd]
  split
  · exact hdest
  · split
    · exact hsrc
    · split
      · exact size_addToMultiValue_le hdest
      · simp only
        split
        · exact hdest
        · rename_i hroom
          rw [recordSize_le hdest, recordSize_le hsrc] at hroom
          rw [recordSize_le hdest]
          have hsum : add32 (evHeaderSize + dest.size) (evHeaderSize + src.size) =
              evHeaderSize + dest.size + (evHeaderSize + src.size) := by
            unfold channelExtendedValueSize evHeaderSize at *
            exact add32_of_lt (by omega)
          have hprev : evHeaderSize + dest.size ≤ channelExtendedValueSize := by omega
          apply size_addToMultiValue_le
          show (wrap dest).size ≤ _
          rw [(header_wrap hprev).2]
          exact hprev

/-- **One addition** appends the value or leaves the destination as it was. -/
theorem add_spec {dest v : TSuplaChannelExtendedValue} {vs : List TSuplaChannelExtendedValue}
    (h : Holds dest vs) (hv : Addable v) :
    (srpcEvtoolValueAdd dest v).1 = true ∧ Holds (srpcEvtoolValueAdd dest v).2 (vs ++ [v]) ∨
      srpcEvtoolValueAdd dest v = (false, dest) := by
  have hsrc : ¬ (v.type = evTypeNone ∨ v.size = 0) := by
    rintro (htype | hsize)
    · exact hv.some htype
    · exact absurd hv.pos (by omega)
  rw [srpcEvtoolValueAdd, if_neg hsrc]
  cases h with
  | none htype =>
    rw [if_pos htype]
    exact .inl ⟨rfl, .one hv⟩
  | one hdest =>
    rw [if_neg hdest.some, if_neg hdest.single]
    simp only [hdest.recordSize, hv.recordSize]
    have hfits := hdest.fits
    have hvfits := hv.fits
    have hsum : add32 (evHeaderSize + dest.size) (evHeaderSize + v.size) =
        evHeaderSize + dest.size + (evHeaderSize + v.size) := by
      unfold channelExtendedValueSize evHeaderSize at *
      exact add32_of_lt (by omega)
    rw [hsum]
    by_cases hroom : evHeaderSize + dest.size + (evHeaderSize + v.size) > channelExtendedValueSize
    · rw [if_pos hroom]
      exact .inr rfl
    · have hprev : evHeaderSize + dest.size ≤ channelExtendedValueSize := by omega
      have hheader := header_wrap hprev
      have hrecords : ([dest].map record).flatten = record dest := by
        rw [List.map_singleton, List.flatten_singleton]
      rw [if_neg hroom]
      rcases @addToMultiValue_spec _ v [dest] hheader.1 (List.forall_mem_singleton.mpr hdest)
        (by rw [hheader.2, hrecords, hdest.length_record]) (by rw [hheader.2]; omega)
        (by rw [hheader.2, value_wrap hprev, hrecords]; rfl) hv
        with hadded | ⟨-, hfull⟩
      · exact .inl hadded
      · rw [hheader.2] at hfull
        exact absurd hfull hroom
  | many htype _ hvs hsize hle hvalue =>
    rw [if_neg (by rw [htype]; decide), if_pos htype]
    rcases addToMultiValue_spec htype hvs hsize hle hvalue hv with hadded | ⟨hfull, -⟩
    · exact .inl hadded
    · exact .inr hfull

/-- The additions in a row: the destination, and the values for which 1 was returned. -/
def addAll (dest : TSuplaChannelExtendedValue) : List TSuplaChannelExtendedValue →
    TSuplaChannelExtendedValue × List TSuplaChannelExtendedValue
  | [] => (dest, [])
  | v :: vs =>
    let r := srpcEvtoolValueAdd dest v
    let rest := addAll r.2 vs
    (rest.1, if r.1 then v :: rest.2 else rest.2)

/-- **All additions**: the destination holds the values for which 1 was returned. -/
theorem addAll_holds (vs : List TSuplaChannelExtendedValue) :
    ∀ {dest : TSuplaChannelExtendedValue} {held : List TSuplaChannelExtendedValue},
      Holds dest held → (∀ v ∈ vs, Addable v) →
        Holds (addAll dest vs).1 (held ++ (addAll dest vs).2) := by
  induction vs with
  | nil =>
    intro dest held h _
    rw [addAll, List.append_nil]
    exact h
  | cons v vs ih =>
    intro dest held h hvs
    obtain ⟨hv, hvs⟩ := List.forall_mem_cons.mp hvs
    rw [addAll]
    rcases add_spec h hv with ⟨htrue, hadded⟩ | hfull
    · have hrest := ih hadded hvs
      simp only [htrue, if_true]
      rwa [List.append_assoc] at hrest
    · simp only [hfull, Bool.false_eq_true, if_false]
      exact ih h hvs

/-! ## Getting what was added -/

/-- A record has the header of its value. -/
theorem Addable.header_record {v : TSuplaChannelExtendedValue} (rest : List UInt8)
    (h : Addable v) : typeAt (record v ++ rest) = v.type ∧ sizeAt (record v ++ rest) = v.size := by
  have htake : (record v ++ rest).take evHeaderSize = v.bytes.take evHeaderSize := by
    rw [List.take_append_of_le_length (by rw [h.length_record]; omega), record, List.take_take,
      Nat.min_eq_left (Nat.le_add_right _ _)]
  rw [typeAt_take, sizeAt_take, htake, ← typeAt_take, ← sizeAt_take]
  exact ⟨rfl, rfl⟩

section
variable {dest v : TSuplaChannelExtendedValue}
  {vs before after : List TSuplaChannelExtendedValue}
  (hvs : ∀ v ∈ vs, Addable v) (hsize : dest.size = (vs.map record).flatten.length)
  (hle : dest.size ≤ channelExtendedValueSize)
  (hvalue : dest.value.take dest.size = (vs.map record).flatten)

include hvalue in
/-- Behind the values before it stands the record of a value. -/
theorem record_at (hsplit : vs = before ++ v :: after) :
    dest.value.drop (before.map record).flatten.length =
      record v ++ ((after.map record).flatten ++ dest.value.drop dest.size) := by
  have hall := List.take_append_drop dest.size dest.value
  rw [hvalue, hsplit, List.map_append, List.map_cons, List.flatten_append, List.flatten_cons,
    List.append_assoc, List.append_assoc] at hall
  exact (congrArg (List.drop _) hall).symm.trans List.drop_left

include hvs hsize hle hvalue

omit hvalue in
/-- A value that is added lies within the bytes in use. -/
theorem record_fits (hsplit : vs = before ++ v :: after) : Addable v ∧
    (before.map record).flatten.length + evHeaderSize + v.size ≤ declared dest ∧
      declared dest = dest.size := by
  have hdeclared : declared dest = dest.size := Nat.min_eq_left hle
  have hv : Addable v := hvs v (by rw [hsplit]; exact List.mem_append_right _ List.mem_cons_self)
  refine ⟨hv, ?_, hdeclared⟩
  rw [hdeclared, hsize, hsplit, List.map_append, List.map_cons, List.flatten_append,
    List.flatten_cons, List.length_append, List.length_append, hv.length_record]
  omega

/-- The values lie one after another. -/
theorem nestedStart_many (before : List TSuplaChannelExtendedValue) : ∀ after,
    vs = before ++ after →
      nestedStart dest before.length = some (before.map record).flatten.length := by
  induction before using List.reverseRecOn with
  | nil => exact fun _ _ => rfl
  | append_singleton before v ih =>
    intro after hsplit
    rw [List.append_assoc, List.singleton_append] at hsplit
    obtain ⟨hv, hfits, -⟩ := record_fits hvs hsize hle hsplit
    have hheader := hv.header_record ((after.map record).flatten ++ dest.value.drop dest.size)
    rw [← record_at hvalue hsplit] at hheader
    have hchecks : typeAt (dest.value.drop (before.map record).flatten.length) ≠ evTypeNone ∧
        sizeAt (dest.value.drop (before.map record).flatten.length) ≠ 0 ∧
          (before.map record).flatten.length + evHeaderSize +
            sizeAt (dest.value.drop (before.map record).flatten.length) ≤ declared dest := by
      rw [hheader.1, hheader.2]
      exact ⟨hv.some, Nat.ne_of_gt hv.pos, hfits⟩
    rw [List.length_append, List.length_singleton, nestedStart, ih _ hsplit, Option.bind_some,
      if_pos hchecks, hheader.2, List.map_append, List.flatten_append, List.length_append,
      List.map_singleton, List.flatten_singleton, hv.length_record, Nat.add_assoc]

/-- **A value that was added is found.** -/
theorem get_many {index : UInt16} {out : TSuplaChannelExtendedValue}
    (htype : dest.type = evTypeMultiValue) (hsplit : vs = before ++ v :: after)
    (hindex : index.toNat = before.length) : ∃ r, srpcEvtoolValueGet dest index out = some r ∧
      r.ok = true ∧ r.dest.bytes.take (evHeaderSize + v.size) = record v := by
  obtain ⟨hv, hfits, hdeclared⟩ := record_fits hvs hsize hle hsplit
  have hpos := hv.pos
  have hmax := declared_le dest
  have hat := record_at hvalue hsplit
  have hheader := hv.header_record ((after.map record).flatten ++ dest.value.drop dest.size)
  rw [← hat] at hheader
  have hstart := start_of_nested (nestedStart_many hvs hsize hle hvalue before _ hsplit)
  rw [← hindex] at hstart
  have ho : (before.map record).flatten.length < declared dest - evHeaderSize := by omega
  have hlen : add32 evHeaderSize (sizeAt (dest.value.drop (before.map record).flatten.length)) =
      evHeaderSize + v.size := by
    rw [hheader.2]
    exact hv.recordSize
  have hpasses : Passes dest (before.map record).flatten.length := by
    rw [Passes, hheader.1, hheader.2, add32_of_lt (a := v.size) (by omega),
      add32_of_lt (by omega), channelExtendedValueSize]
    exact ⟨hv.some, Nat.ne_of_gt hv.pos, by omega⟩
  obtain ⟨w, reads, hwalk, -, hends, -⟩ := @walk_declared dest index (by omega)
  rw [get_multi htype, hwalk, Option.map_some]
  cases w with
  | refused => exact absurd hpasses (hends _ hstart ho)
  | ended => exact absurd hpasses (hends _ hstart ho)
  | found o =>
    have hsame := hends.1
    rw [hstart] at hsame
    cases hsame
    refine ⟨_, rfl, rfl, ?_⟩
    have hsrc : evHeaderSize + v.size ≤
        (dest.value.drop (before.map record).flatten.length).length := by
      rw [hat, List.length_append, hv.length_record]
      omega
    have hbytes := @bytes_copy out 0 (evHeaderSize + v.size) _
      (by rw [Nat.zero_add]; exact Nat.add_le_add_left hv.fits _) hsrc
    rw [List.take_zero, List.nil_append, hat, List.take_left' hv.length_record] at hbytes
    show (out.copy 0 _ _).bytes.take (evHeaderSize + v.size) = record v
    rw [hlen, hat, hbytes, List.take_left' hv.length_record]

/-- Behind the last value nothing is found. -/
theorem get_many_none {index : UInt16} {out : TSuplaChannelExtendedValue}
    (htype : dest.type = evTypeMultiValue) (hne : vs ≠ []) (hindex : vs.length ≤ index.toNat) :
    ∃ r, srpcEvtoolValueGet dest index out = some r ∧ r.ok = false := by
  obtain ⟨v, after, rfl⟩ := List.exists_cons_of_ne_nil hne
  obtain ⟨hv, hfits, hdeclared⟩ := @record_fits dest v (v :: after) [] after hvs hsize hle rfl
  have hlast := start_of_nested
    (nestedStart_many hvs hsize hle hvalue _ [] (List.append_nil _).symm)
  rw [← hsize, ← hdeclared] at hlast
  have hbehind : ¬ (declared dest < declared dest - evHeaderSize ∧ Passes dest (declared dest)) :=
    fun h => absurd h.1 (Nat.not_lt_of_le (Nat.sub_le _ _))
  have hnone : start dest (declared dest - evHeaderSize) ((v :: after).length + 1) = none := by
    rw [start, hlast, Option.bind_some, if_neg hbehind]
  obtain ⟨w, reads, hwalk, -, hends, -⟩ := @walk_declared dest index (by omega)
  rw [get_multi htype, hwalk, Option.map_some]
  cases w with
  | refused => exact ⟨_, rfl, rfl⟩
  | ended =>
    have hzero : index ≠ 0 := by
      rintro rfl
      exact absurd hindex (Nat.not_succ_le_zero _)
    refine ⟨_, rfl, ?_⟩
    rw [answer, if_neg hzero]
  | found o =>
    obtain ⟨hstart, ho, -⟩ : start dest (declared dest - evHeaderSize) index.toNat = some o ∧ _ :=
      hends
    rcases Nat.eq_or_lt_of_le hindex with heq | hlt
    · rw [← heq, hlast] at hstart
      cases hstart
      exact absurd ho (Nat.not_lt_of_le (Nat.sub_le _ _))
    · rw [start_none hnone hlt] at hstart
      cases hstart

end

/-- The value that is got: its type, its size, and the bytes of `value` that are in use. -/
structure Gives (out v : TSuplaChannelExtendedValue) : Prop where
  type : out.type = v.type
  size : out.size = v.size
  value : out.value.take v.size = v.value.take v.size

theorem gives_of_record {out v : TSuplaChannelExtendedValue}
    (h : out.bytes.take (evHeaderSize + v.size) = record v) : Gives out v := by
  have hheader : out.bytes.take evHeaderSize = v.bytes.take evHeaderSize := by
    have htake := congrArg (List.take evHeaderSize) h
    rwa [record, List.take_take, List.take_take, Nat.min_eq_left (Nat.le_add_right _ _)] at htake
  have hvalue : ∀ bs : List UInt8, (bs.drop evHeaderSize).take v.size =
      (bs.take (evHeaderSize + v.size)).drop evHeaderSize := by
    intro bs
    rw [List.drop_take, Nat.add_sub_cancel_left]
  obtain ⟨htype, hsize⟩ := header_eq hheader
  refine ⟨htype, hsize, ?_⟩
  rw [value, hvalue, h, record, ← hvalue]
  rfl

/-- **The values that a destination holds** are found under their numbers, and no others. -/
theorem get_holds {dest : TSuplaChannelExtendedValue} {vs : List TSuplaChannelExtendedValue}
    (h : Holds dest vs) (index : UInt16) (out : TSuplaChannelExtendedValue) :
    ∃ r, srpcEvtoolValueGet dest index out = some r ∧ (r.ok = true ↔ index.toNat < vs.length) ∧
      ∀ v, vs[index.toNat]? = some v → Gives r.dest v := by
  cases h with
  | none htype =>
    refine ⟨⟨false, out, []⟩, ?_, ?_, ?_⟩
    · rw [srpcEvtoolValueGet, if_pos htype]
    · simp
    · simp
  | one hdest =>
    rw [srpcEvtoolValueGet, if_neg hdest.some, if_neg hdest.single]
    by_cases hzero : index = 0
    · subst hzero
      rw [if_pos rfl]
      refine ⟨_, rfl, ⟨fun _ => Nat.zero_lt_one, fun _ => rfl⟩, fun v hv => ?_⟩
      cases hv
      exact ⟨rfl, rfl, rfl⟩
    · have hpos : ¬ index.toNat < 1 := fun hlt => hzero (UInt16.toNat.inj (by
        rw [UInt16.toNat_zero]
        omega))
      rw [if_neg hzero]
      refine ⟨_, rfl, ⟨fun hok => (by cases hok), fun hlt => absurd hlt hpos⟩, fun v hv => ?_⟩
      exact absurd (List.getElem?_eq_some_iff.mp hv).1 hpos
  | many htype hne hvs hsize hle hvalue =>
    by_cases hlt : index.toNat < vs.length
    · have hsplit : vs = vs.take index.toNat ++ vs[index.toNat] :: vs.drop (index.toNat + 1) := by
        rw [← List.drop_eq_getElem_cons hlt, List.take_append_drop]
      have hindex : index.toNat = (vs.take index.toNat).length := by
        rw [List.length_take, Nat.min_eq_left hlt.le]
      obtain ⟨r, hget, hok, hbytes⟩ := get_many hvs hsize hle hvalue  htype hsplit hindex
      refine ⟨r, hget, ⟨fun _ => hlt, fun _ => hok⟩, fun v hv => ?_⟩
      rw [List.getElem?_eq_getElem hlt] at hv
      cases hv
      exact gives_of_record hbytes
    · obtain ⟨r, hget, hok⟩ := get_many_none hvs hsize hle hvalue  htype hne
        (Nat.le_of_not_lt hlt)
      refine ⟨r, hget, ⟨fun htrue => ?_, fun h => absurd h hlt⟩, fun v hv => ?_⟩
      · rw [hok] at htrue
        cases htrue
      · exact absurd (List.getElem?_eq_some_iff.mp hv).1 hlt

/-- **What was added is what is got**: an addition that returns 0 changes nothing, and behind all
additions the values for which 1 was returned are found under their numbers, and no others. -/
theorem value_get_added (dest : TSuplaChannelExtendedValue) (hdest : dest.type = evTypeNone)
    (vs : List TSuplaChannelExtendedValue) (hvs : ∀ v ∈ vs, Addable v) :
    (∀ v, Addable v → (srpcEvtoolValueAdd (addAll dest vs).1 v).1 = false →
      (srpcEvtoolValueAdd (addAll dest vs).1 v).2 = (addAll dest vs).1) ∧
    ∀ (index : UInt16) (out : TSuplaChannelExtendedValue), ∃ r,
      srpcEvtoolValueGet (addAll dest vs).1 index out = some r ∧
      (r.ok = true ↔ index.toNat < (addAll dest vs).2.length) ∧
      ∀ v, (addAll dest vs).2[index.toNat]? = some v → Gives r.dest v := by
  have hholds := addAll_holds vs (.none hdest) hvs
  rw [List.nil_append] at hholds
  refine ⟨fun v hv hfalse => ?_, fun index out => ?_⟩
  · rcases add_spec hholds hv with ⟨htrue, -⟩ | hfull
    · rw [htrue] at hfalse
      cases hfalse
    · rw [hfull]
  · exact get_holds hholds index out

/-- A value of the given type and size 1. -/
def smallValue (t : UInt8) : TSuplaChannelExtendedValue where
  bytes := [t, 1, 0, 0, 0, 7] ++ List.replicate 1023 0
  length_bytes := by
    rw [List.length_append, List.length_replicate]
    rfl

theorem smallValue_addable {t : UInt8} (hsome : t ≠ evTypeNone) (hsingle : t ≠ evTypeMultiValue) :
    Addable (smallValue t) :=
  ⟨hsome, hsingle, Nat.le_refl 1, (by decide : 1 ≤ channelExtendedValueSize)⟩

theorem value_get_added_two : ∃ r, srpcEvtoolValueGet
    (addAll (smallValue 0) [smallValue 10, smallValue 20]).1 1 (smallValue 0) = some r ∧
      r.ok = true ∧ Gives r.dest (smallValue 20) := by
  have hvs : ∀ v ∈ [smallValue 10, smallValue 20], Addable v := by
    intro v hv
    rcases List.mem_cons.mp hv with rfl | hv
    · exact smallValue_addable (by decide) (by decide)
    · rw [List.mem_singleton.mp hv]
      exact smallValue_addable (by decide) (by decide)
  have hadded : (addAll (smallValue 0) [smallValue 10, smallValue 20]).2 =
      [smallValue 10, smallValue 20] := rfl
  obtain ⟨r, hget, hok, hgives⟩ := (value_get_added (smallValue 0) rfl _ hvs).2 1 (smallValue 0)
  rw [hadded] at hok hgives
  exact ⟨r, hget, hok.mpr (by decide), hgives (smallValue 20) rfl⟩

end Srpc
