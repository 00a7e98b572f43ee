import SuplaCore.Client.RemoteUpdate
import SuplaCore.Client.Proof.Channels
import SuplaCore.Client.Proof.ObjContainer
import SuplaCore.Lib.Collect

/-!
# What a client knows while its channels change

`Inv`: what belongs to a data type is marked, or the client knows it once the pack that is being
built is accepted. Every step keeps it (`Inv.step`) but for three kinds, which `Steady` rules out: a
change between the copy and the clearing of the mark, a pack that `srpc` refuses, and a value that
is copied over another one.
-/

namespace Client.Channels

open Batch ObjContainer Sys

variable {version : Nat} {K W : Type}

/-! ## Knowing a channel -/

/-- What a client was told last of each channel. -/
structure Told (K W : Type) where
  channel : Int → Option K
  value : Int → Option W
  extendedValue : Int → Option ExtendedValue

namespace Told

def nothing : Told K W := ⟨fun _ => none, fun _ => none, fun _ => none⟩

def tell (t : DataType) (told : Told K W) (r : Record (K × W)) : Told K W :=
  match t, r with
  | .data1, .channel id content =>
    { told with
      channel := fun i => if i = id then some content.1 else told.channel i
      value := fun i => if i = id then some content.2 else told.value i }
  | .data2, .channel id content =>
    { told with value := fun i => if i = id then some content.2 else told.value i }
  | .data3, .extendedValue cev =>
    { told with
      extendedValue := fun i => if i = cev.id then some cev.value else told.extendedValue i }
  | _, _ => told

end Told

/-- What a client was told in the calls. -/
def told (msgs : List (Message (K × W))) : Told K W :=
  msgs.foldl (fun told m => m.records.foldl (Told.tell m.dataType) told) .nothing

/-- The client knows what belongs to the data type: what only `DATA1` tells, the value, the extended
value. -/
def Current (version : Nat) (t : DataType) (told : Told K W) (c : Channel (K × W)) : Prop :=
  match t with
  | .data1 => told.channel c.id = some c.content.1
  | .data2 => told.value c.id = some c.content.2
  | .data3 => told.extendedValue c.id = (c.protoGetExtendedValue version).map Cev.value

/-- A client is told of the second data type with the first: with a channel comes its value. -/
def Covers (t u : DataType) : Prop := u = t ∨ t = .data1 ∧ u = .data2

/-- There is a mark with which the client will be told of the data type. -/
def Pending (u : DataType) (o : Obj DataType (Channel (K × W))) : Prop :=
  ∃ t, Covers t u ∧ o.mark t = true

/-- The data types that a version knows. -/
def Supported (version : Nat) (t : DataType) : Prop := t = .data3 → version ≥ 10

/-- The call that is being prepared. -/
def Pc.building : Pc version K W → List (Message (K × W))
  | .idle => []
  | .look t _ _ data => (data.map (remote version t).send).toList
  | .copy t _ _ data => (data.map (remote version t).send).toList
  | .unmark t _ _ data => (data.map (remote version t).send).toList
  | .send t _ data => (data.map (remote version t).send).toList

/-- What the client was told last, or is told by the call that is being prepared. -/
def State.latest (s : State version K W) : Told K W := told (s.accepted ++ s.pc.building)

/-- What belongs to the data type is copied, and the mark is not cleared yet. -/
def State.Clearing (s : State version K W) (place : Nat) (u : DataType) : Prop :=
  ∃ t checkMore data, s.pc = .unmark t place checkMore data ∧ Covers t u

/-- `srpc` accepts what it is handed, nothing changes between its copy and the clearing of the mark,
and below version 9 only one value is copied before the call. -/
def Steady (s : State version K W) : Act K W → Prop
  | .thread accept =>
    match s.pc with
    | .send _ _ data => data.isSome → accept = true
    | .copy t _ _ data => t = .data2 → version < 9 → data.isNone
    | _ => True
  | .changeChannel place _ => ¬ s.Clearing place .data1
  | .changeValue place _ => ¬ s.Clearing place .data2
  | .changeExtendedValue place _ _ => ¬ s.Clearing place .data3
  | .mark _ _ => True

/-! ## Telling -/

theorem id_protoGetExtendedValue {c : Channel (K × W)} {cev : Cev}
    (h : c.protoGetExtendedValue version = some cev) : cev.id = c.id := by
  rw [Channel.protoGetExtendedValue] at h
  split at h
  · cases h
    rfl
  · split at h
    · cases h
      rfl
    · cases h

/-- The record for the third data type. -/
theorem dataFor_data3 {c : Channel (K × W)} {r : Record (K × W)}
    (h : c.dataFor version .data3 = some r) :
    ∃ cev, c.protoGetExtendedValue version = some cev ∧ r = .extendedValue cev := by
  rw [Channel.dataFor] at h
  split at h
  · obtain ⟨cev, hcev, rfl⟩ := Option.map_eq_some_iff.mp h
    exact ⟨cev, hcev, rfl⟩
  · cases h

section
variable {c : Channel (K × W)} {t u : DataType} {r : Record (K × W)}
  (h : c.dataFor version t = some r) (known : Told K W)
include h

theorem tell_current (hu : Covers t u) : Current version u (known.tell t r) c := by
  cases t with
  | data1 =>
    cases h
    rcases hu with rfl | ⟨-, rfl⟩
    · exact if_pos rfl
    · exact if_pos rfl
  | data2 =>
    cases h
    rcases hu with rfl | ⟨hfalse, -⟩
    · exact if_pos rfl
    · cases hfalse
  | data3 =>
    obtain ⟨cev, hcev, rfl⟩ := dataFor_data3 h
    rcases hu with rfl | ⟨hfalse, -⟩
    · show (if c.id = cev.id then _ else _) = _
      rw [if_pos (id_protoGetExtendedValue hcev).symm, hcev]
      rfl
    · cases hfalse

/-- What belongs to another data type stays as it was. -/
theorem tell_other (hu : ¬ Covers t u) (d : Channel (K × W)) :
    Current version u (known.tell t r) d ↔ Current version u known d := by
  cases t with
  | data1 =>
    cases h
    cases u with
    | data1 => exact absurd (.inl rfl) hu
    | data2 => exact absurd (.inr ⟨rfl, rfl⟩) hu
    | data3 => exact Iff.rfl
  | data2 =>
    cases h
    cases u with
    | data2 => exact absurd (.inl rfl) hu
    | data1 => exact Iff.rfl
    | data3 => exact Iff.rfl
  | data3 =>
    obtain ⟨cev, -, rfl⟩ := dataFor_data3 h
    cases u with
    | data3 => exact absurd (.inl rfl) hu
    | data1 => exact Iff.rfl
    | data2 => exact Iff.rfl

/-- What is known of another channel stays as it was. -/
theorem tell_other_id {d : Channel (K × W)} (hid : d.id ≠ c.id) :
    Current version u (known.tell t r) d ↔ Current version u known d := by
  by_cases hu : Covers t u
  · cases t with
    | data1 =>
      cases h
      rcases hu with rfl | ⟨-, rfl⟩
      · show (if d.id = c.id then _ else _) = _ ↔ _
        rw [if_neg hid]
        exact Iff.rfl
      · show (if d.id = c.id then _ else _) = _ ↔ _
        rw [if_neg hid]
        exact Iff.rfl
    | data2 =>
      cases h
      rcases hu with rfl | ⟨hfalse, -⟩
      · show (if d.id = c.id then _ else _) = _ ↔ _
        rw [if_neg hid]
        exact Iff.rfl
      · cases hfalse
    | data3 =>
      obtain ⟨cev, hcev, rfl⟩ := dataFor_data3 h
      rcases hu with rfl | ⟨hfalse, -⟩
      · show (if d.id = cev.id then _ else _) = _ ↔ _
        rw [if_neg (id_protoGetExtendedValue hcev ▸ hid)]
        exact Iff.rfl
      · cases hfalse
  · exact tell_other h known hu d

end

/-! ## The pack that is being built -/

/-- What the call that is being prepared tells. -/
def recordsOf (k : Remote (Channel (K × W)) (Message (K × W))) (data : Option k.Data) :
    List (Record (K × W)) :=
  (data.map k.send).toList.flatMap Message.records

theorem dataType_send (version : Nat) (t : DataType) :
    ∀ d, ((remote (V := K × W) version t).send d).dataType = t := by
  cases t with
  | data1 => exact fun _ => rfl
  | data2 =>
    by_cases hversion : version ≥ 9
    · rw [remote, if_pos hversion]
      exact fun _ => rfl
    · rw [remote, if_neg hversion]
      exact fun _ => rfl
  | data3 => exact fun _ => rfl

theorem told_append (msgs : List (Message (K × W))) {t : DataType}
    (data : Option (remote (V := K × W) version t).Data) :
    told (msgs ++ (data.map (remote version t).send).toList) =
      (recordsOf (remote version t) data).foldl (Told.tell t) (told msgs) := by
  rw [told, List.foldl_append, recordsOf]
  cases data with
  | none => rfl
  | some d =>
    show ((remote version t).send d).records.foldl (Told.tell ((remote version t).send d).dataType)
      _ = _
    rw [dataType_send, Option.map_some, Option.toList_some, List.flatMap_singleton]
    rfl

/-- What `get_data_for_remote` does to what the call tells. -/
structure Copies (version : Nat) (t : DataType) (k : Remote (Channel (K × W)) (Message (K × W))) :
    Prop where
  taken : ∀ c data, (k.getData c data).result = true →
    (t = .data2 → version < 9 → data.isNone) →
      ∃ r, c.dataFor version t = some r ∧
        recordsOf k (k.getData c data).data = recordsOf k data ++ [r]
  left : ∀ c data, (k.getData c data).result = false →
    recordsOf k (k.getData c data).data = recordsOf k data

/-- Copying to a pack. -/
theorem copies_put {β : Type} {maxCount : Nat} {t : DataType}
    {record : Channel (K × W) → Option β} {f : β → Record (K × W)}
    {getData : Channel (K × W) → Option (Pack β) → Fetch (Pack β)}
    {send : Pack β → Message (K × W)}
    (hget : ∀ c data, getData c data =
      ⟨(put maxCount record c data).1, (put maxCount record c data).2, true⟩)
    (hsend : ∀ p, (send p).records = p.items.map f)
    (hdata : ∀ c, c.dataFor version t = (record c).map f) :
    Copies version t ⟨Pack β, getData, send⟩ := by
  have hrecords : ∀ data : Option (Pack β), recordsOf ⟨Pack β, getData, send⟩ data =
      (itemsOf data).map f := by
    intro data
    cases data with
    | none => rfl
    | some p =>
      rw [recordsOf, Option.map_some, Option.toList_some, List.flatMap_singleton]
      exact hsend p
  constructor
  · intro c data hresult _
    have hput : (put maxCount record c data).1 = true := by
      rw [← hresult]
      exact (congrArg Fetch.result (hget c data)).symm
    obtain ⟨b, hb, hitems⟩ := put_taken hput
    refine ⟨f b, by rw [hdata, hb]; rfl, ?_⟩
    show recordsOf ⟨Pack β, getData, send⟩ (getData c data).data = _
    rw [hrecords, hrecords, hget, hitems, List.map_append]
    rfl
  · intro c data hresult
    have hput : (put maxCount record c data).1 = false := by
      rw [← hresult]
      exact (congrArg Fetch.result (hget c data)).symm
    show recordsOf ⟨Pack β, getData, send⟩ (getData c data).data = _
    rw [hrecords, hrecords, hget, put_left hput]

theorem copies_remote (version : Nat) (t : DataType) :
    Copies version t (remote (V := K × W) version t) := by
  have hpack : ∀ (call : Pack (Item (K × W)) → Message (K × W)) (t : DataType),
      (∀ p, (call p).records = p.items.map Item.record) →
      (∀ c : Channel (K × W), c.dataFor version t = some c.protoGet.record) →
        Copies version t ⟨_, getDatapackForRemote 20, fun p => call (setPackEol p)⟩ :=
    fun call t hcall hdata => copies_put (getDatapackForRemote_eq (by decide))
      (fun p => (hcall _).trans (records_setPackEol p)) hdata
  cases t with
  | data1 => exact hpack _ _ (fun _ => rfl) fun _ => rfl
  | data2 =>
    by_cases hversion : version ≥ 9
    · rw [remote, if_pos hversion]
      exact hpack _ _ (fun _ => rfl) fun _ => rfl
    · rw [remote, if_neg hversion]
      constructor
      · intro c data _ hnone
        have hdata : data = none :=
          Option.isNone_iff_eq_none.mp (hnone rfl (Nat.lt_of_not_le hversion))
        subst hdata
        exact ⟨_, rfl, rfl⟩
      · intro c data hresult
        cases hresult
  | data3 =>
    by_cases hversion : version ≥ 10
    · exact copies_put (fun c data =>
        (if_pos hversion).trans (getEvDatapackForRemote_eq version c data))
        (fun _ => rfl) fun c => if_pos hversion
    · have hget : ∀ c data, (remote (V := K × W) version .data3).getData c data =
          ⟨false, data, true⟩ := fun c data => if_neg hversion
      constructor
      · intro c data hresult _
        rw [hget] at hresult
        cases hresult
      · intro c data _
        rw [hget]

/-! ## Marks -/

section
variable {t u : DataType} {o : Obj DataType (Channel (K × W))}

theorem Pending.unmark (h : Pending u o) : Pending u (o.unmarkForRemoteUpdate t) ∨ Covers t u := by
  obtain ⟨v, hcovers, hmark⟩ := h
  by_cases hv : v = t
  · exact .inr (hv ▸ hcovers)
  · refine .inl ⟨v, hcovers, ?_⟩
    rw [mark_unmark, hmark, decide_eq_true hv]
    rfl

/-- Where the mark of the value is cleared, that of the channel stands for it. -/
theorem Pending.fold (h : Pending u o) :
    Pending u (if o.mark .data1 && o.mark .data2 then o.unmarkForRemoteUpdate .data2 else o) := by
  split
  · rename_i hboth
    rcases h.unmark (t := .data2) with hpending | hcovers
    · exact hpending
    · obtain rfl : u = .data2 := hcovers.resolve_right fun h => (by cases h.1)
      refine ⟨.data1, .inr ⟨rfl, rfl⟩, ?_⟩
      rw [mark_unmark, (Bool.and_eq_true_iff.mp hboth).1]
      rfl
  · exact h

theorem pending_mark (t : DataType) (o : Obj DataType (Channel (K × W))) :
    Pending t (markForRemoteUpdate t o) := by
  apply Pending.fold
  refine ⟨t, .inl rfl, ?_⟩
  show (o.mark t || decide (t = t)) = true
  rw [decide_eq_true rfl, Bool.or_true]

theorem Pending.mark (t : DataType) (h : Pending u o) : Pending u (markForRemoteUpdate t o) := by
  apply Pending.fold
  obtain ⟨v, hcovers, hmark⟩ := h
  refine ⟨v, hcovers, ?_⟩
  show (o.mark v || decide (v = t)) = true
  rw [hmark, Bool.true_or]

theorem content_mark (t : DataType) (o : Obj DataType (Channel (K × W))) :
    (markForRemoteUpdate t o).content = o.content := by
  rw [markForRemoteUpdate]
  split <;> rfl

end

/-! ## The invariant -/

structure Inv (s : State version K W) : Prop where
  nodup : (s.objs.map (·.content.id)).Nodup
  covered : ∀ o ∈ s.objs, ∀ t, Supported version t →
    Pending t o ∨ Current version t s.latest o.content
  copied : ∀ t place checkMore data, s.pc = .unmark t place checkMore data →
    ∃ o, s.objs[place]? = some o ∧ ∀ u, Covers t u → Current version u s.latest o.content

theorem building_next (t : DataType) (place : Nat) (result checkMore : Bool)
    (data : Option (remote (V := K × W) version t).Data) :
    (Pc.next t place result checkMore data).building =
      (data.map (remote version t).send).toList := by
  rw [Pc.next]
  split <;> rfl

theorem next_ne_unmark {t u : DataType} {place place' : Nat} {result checkMore checkMore' : Bool}
    {data : Option (remote (V := K × W) version t).Data}
    {data' : Option (remote (V := K × W) version u).Data} :
    Pc.next t place result checkMore data ≠ .unmark u place' checkMore' data' := by
  rw [Pc.next]
  split <;> exact fun h => (by cases h)

theorem building_afterUpdate (t : DataType) (result : Bool) :
    (Pc.afterUpdate t result : Pc version K W).building = [] := by
  cases result with
  | true => rfl
  | false => cases t <;> rfl

theorem afterUpdate_ne_unmark {t u : DataType} {place : Nat} {result checkMore : Bool}
    {data : Option (remote (V := K × W) version u).Data} :
    Pc.afterUpdate t result ≠ .unmark u place checkMore data := by
  cases result with
  | true => exact fun h => (by cases h)
  | false => cases t <;> exact fun h => (by cases h)

/-- The thread goes on, and what the client knows with the next call is as before. -/
theorem Inv.move {s : State version K W} (h : Inv s) {pc : Pc version K W}
    {accepted : List (Message (K × W))} (hlatest : told (accepted ++ pc.building) = s.latest)
    (hpc : ∀ t place checkMore data, pc ≠ .unmark t place checkMore data) :
    Inv ⟨s.objs, pc, accepted⟩ := by
  refine ⟨h.nodup, fun o ho t ht => ?_, fun t place checkMore data heq => ?_⟩
  · rcases h.covered o ho t ht with hpending | hcurrent
    · exact .inl hpending
    · refine .inr ?_
      show Current version t (told (accepted ++ pc.building)) o.content
      rw [hlatest]
      exact hcurrent
  · exact absurd heq (hpc t place checkMore data)

/-! ## The steps of the thread -/

section
variable {s : State version K W} {t : DataType} {place : Nat} {result checkMore : Bool}
  {data : Option (remote (V := K × W) version t).Data} (h : Inv s)
include h

theorem Inv.look (hpc : s.pc = .look t place result data) : Inv (s.look t place result data) := by
  have hlatest : told (s.accepted ++ (data.map (remote version t).send).toList) = s.latest := by
    rw [State.latest, hpc, Pc.building]
  rw [State.look]
  split
  · exact h.move hlatest fun _ _ _ _ heq => (by cases heq)
  · split
    · exact h.move hlatest fun _ _ _ _ heq => (by cases heq)
    · exact h.move hlatest fun _ _ _ _ heq => (by cases heq)

/-- The data of an object are taken. -/
theorem Inv.taken {o : Obj DataType (Channel (K × W))} (hobj : s.objs[place]? = some o)
    {r : Record (K × W)} (hr : o.content.dataFor version t = some r)
    (hlatest : told (s.accepted ++ (data.map (remote version t).send).toList) =
      s.latest.tell t r) : Inv { s with pc := .unmark t place checkMore data } := by
  refine ⟨h.nodup, fun p hp u hu => ?_, ?_⟩
  · rcases h.covered p hp u hu with hpending | hcurrent
    · exact .inl hpending
    · refine .inr ?_
      show Current version u (told (s.accepted ++ (data.map (remote version t).send).toList)) _
      rw [hlatest]
      by_cases hid : p.content.id = o.content.id
      · have heq : p = o :=
          List.inj_on_of_nodup_map h.nodup hp (List.mem_of_getElem? hobj) hid
        subst heq
        by_cases hcovers : Covers t u
        · exact tell_current hr _ hcovers
        · exact (tell_other hr _ hcovers _).mpr hcurrent
      · exact (tell_other_id hr _ hid).mpr hcurrent
  · intro u place' checkMore' data' heq
    cases heq
    refine ⟨o, hobj, fun u hcovers => ?_⟩
    show Current version u (told (s.accepted ++ (data.map (remote version t).send).toList)) _
    rw [hlatest]
    exact tell_current hr _ hcovers

theorem Inv.copy (hpc : s.pc = .copy t place result data)
    (hok : t = .data2 → version < 9 → data.isNone) : Inv (s.copy t place result data) := by
  have hlatest : told (s.accepted ++ (data.map (remote version t).send).toList) = s.latest := by
    rw [State.latest, hpc, Pc.building]
  rw [State.copy]
  split
  · exact h.move hlatest fun _ _ _ _ heq => (by cases heq)
  · rename_i o hobj
    simp only
    split
    · rename_i hresult
      obtain ⟨r, hr, hrecords⟩ := (copies_remote version t).taken o.content data hresult hok
      refine h.taken hobj hr ?_
      rw [← hlatest, told_append, told_append, hrecords, List.foldl_append]
      rfl
    · rename_i hresult
      refine h.move ?_ fun _ _ _ _ => next_ne_unmark
      rw [building_next, told_append,
        (copies_remote version t).left _ _ (Bool.eq_false_iff.mpr hresult), ← told_append]
      exact hlatest

/-- The mark of an object is cleared. -/
theorem Inv.unmark (hpc : s.pc = .unmark t place checkMore data) :
    Inv ⟨s.objs.modify place (·.unmarkForRemoteUpdate t), .next t place true checkMore data,
      s.accepted⟩ := by
  obtain ⟨o, hobj, hcopied⟩ := h.copied t place checkMore data hpc
  have hlatest : told (s.accepted ++ (Pc.next t place true checkMore data).building) =
      s.latest := by
    rw [building_next, State.latest, hpc, Pc.building]
  refine ⟨?_, fun p hp u hu => ?_, fun _ _ _ _ heq => absurd heq next_ne_unmark⟩
  · have hids : (s.objs.modify place (·.unmarkForRemoteUpdate t)).map (·.content.id) =
        s.objs.map (·.content.id) := Collect.map_modify fun _ => rfl
    exact hids.symm ▸ h.nodup
  · show _ ∨ Current version u (told (s.accepted ++ Pc.building _)) p.content
    rw [hlatest]
    rcases Collect.mem_modify hp with hp | ⟨q, hq, rfl⟩
    · exact h.covered p hp u hu
    · obtain rfl : o = q := Option.some.inj (hobj.symm.trans hq)
      rcases h.covered o (List.mem_of_getElem? hobj) u hu with hpending | hcurrent
      · exact hpending.unmark.imp_right (hcopied u)
      · exact .inr hcurrent

theorem Inv.send {accept : Bool} (hpc : s.pc = .send t result data)
    (hok : data.isSome → accept = true) :
    Inv { s with
      accepted := s.accepted ++ if accept then (data.map (remote version t).send).toList else []
      pc := (.afterUpdate t result : Pc version K W) } := by
  refine h.move ?_ fun _ _ _ _ => afterUpdate_ne_unmark
  rw [building_afterUpdate, List.append_nil, State.latest, hpc, Pc.building]
  cases data with
  | none =>
    rw [Option.map_none, Option.toList_none, ite_self]
  | some d => rw [if_pos (hok rfl)]

theorem Inv.threadStep {accept : Bool} (hok : Steady s (.thread accept)) :
    Inv (s.threadStep accept) := by
  rw [State.threadStep]
  rw [Steady] at hok
  cases hpc : s.pc with
  | idle =>
    refine h.move ?_ fun _ _ _ _ heq => (by cases heq)
    rw [State.latest, hpc]
    rfl
  | look t place result data => exact h.look hpc
  | copy t place result data =>
    rw [hpc] at hok
    exact h.copy hpc hok
  | unmark t place checkMore data => exact h.unmark hpc
  | send t result data =>
    rw [hpc] at hok
    exact h.send hpc hok

end

/-! ## The steps of the other threads -/

theorem Inv.change {s : State version K W} {place : Nat} {t : DataType}
    {f : Channel (K × W) → Channel (K × W)} (h : Inv s) (hid : ∀ c, (f c).id = c.id)
    (hkeep : ∀ u ≠ t, ∀ known c, Current version u known (f c) ↔ Current version u known c)
    (hclearing : s.Clearing place t →
      ∀ known c, Current version t known (f c) ↔ Current version t known c) :
    Inv (s.change place t f) := by
  have hcontent : ∀ o : Obj DataType (Channel (K × W)),
      (markForRemoteUpdate t { o with content := f o.content }).content = f o.content :=
    fun o => content_mark t _
  refine ⟨?_, fun p hp u hu => ?_, fun v place' checkMore data hpc => ?_⟩
  · show ((s.objs.modify place _).map _).Nodup
    rw [Collect.map_modify fun o : Obj DataType (Channel (K × W)) => by rw [hcontent, hid]]
    exact h.nodup
  · rcases Collect.mem_modify hp with hp | ⟨o, ho, rfl⟩
    · exact h.covered p hp u hu
    · by_cases hut : u = t
      · subst hut
        exact .inl (pending_mark u _)
      · rcases h.covered o (List.mem_of_getElem? ho) u hu with hpending | hcurrent
        · exact .inl (Pending.mark t hpending)
        · refine .inr ?_
          rw [hcontent]
          exact (hkeep u hut _ _).mpr hcurrent
  · obtain ⟨o, ho, hcopied⟩ := h.copied v place' checkMore data hpc
    show ∃ p, (s.objs.modify place _)[place']? = some p ∧ _
    rw [List.getElem?_modify, ho]
    by_cases hplace : place = place'
    · subst hplace
      refine ⟨_, congrArg some (if_pos rfl), fun u hcovers => ?_⟩
      rw [hcontent]
      by_cases hut : u = t
      · subst hut
        exact (hclearing ⟨v, checkMore, data, hpc, hcovers⟩ _ _).mpr (hcopied u hcovers)
      · exact (hkeep u hut _ _).mpr (hcopied u hcovers)
    · exact ⟨o, congrArg some (if_neg hplace), hcopied⟩

theorem Inv.step {s s' : State version K W} {a : Act K W} (hok : Steady s a) (h : Inv s)
    (hs : s.step a = some s') : Inv s' := by
  cases a with
  | thread accept =>
    cases hs
    exact h.threadStep hok
  | changeChannel place k =>
    cases hs
    refine h.change (fun _ => rfl) (fun u hu known c => ?_) fun hclearing => absurd hclearing hok
    cases u with
    | data1 => exact absurd rfl hu
    | data2 => exact Iff.rfl
    | data3 => exact Iff.rfl
  | changeValue place w =>
    cases hs
    refine h.change (fun _ => rfl) (fun u hu known c => ?_) fun hclearing => absurd hclearing hok
    cases u with
    | data1 => exact Iff.rfl
    | data2 => exact absurd rfl hu
    | data3 => exact Iff.rfl
  | changeExtendedValue place value meter =>
    cases hs
    refine h.change (fun _ => rfl) (fun u hu known c => ?_) fun hclearing => absurd hclearing hok
    cases u with
    | data1 => exact Iff.rfl
    | data2 => exact Iff.rfl
    | data3 => exact absurd rfl hu
  | mark place t =>
    cases hs
    exact h.change (fun _ => rfl) (fun _ _ _ _ => Iff.rfl) fun _ _ _ => Iff.rfl

theorem Inv.init {s : State version K W} (h : (machine version K W).init s) : Inv s := by
  obtain ⟨hnodup, hmarks, hpc, -⟩ := h
  refine ⟨hnodup, fun o ho t _ => .inl ?_, fun t place checkMore data heq => ?_⟩
  · by_cases ht : t = .data2
    · exact ⟨.data1, .inr ⟨rfl, ht⟩, hmarks o ho .data1⟩
    · exact ⟨t, .inl rfl, (hmarks o ho t).trans (decide_eq_true ht)⟩
  · rw [hpc] at heq
    cases heq

/-- **A client knows the channels** in every run that is `Steady`: what belongs to a data type is
marked, or the last of it that `srpc` accepted, or that the call being prepared holds, is
current. -/
theorem known_or_pending {s : State version K W} (h : Reach (machine version K W) Steady s)
    {o : Obj DataType (Channel (K × W))} (ho : o ∈ s.objs) {t : DataType}
    (ht : Supported version t) : Pending t o ∨ Current version t s.latest o.content :=
  (h.invariant (P := Inv) (fun _ => Inv.init) Inv.step).covered o ho t ht

/-- A client with one channel that was loaded. -/
def oneChannel : State 28 Unit Nat :=
  ⟨[⟨⟨1, ((), 0), none, none⟩, fun t => decide (t ≠ .data2)⟩], .idle, []⟩

theorem init_oneChannel : (machine 28 Unit Nat).init oneChannel :=
  ⟨List.nodup_singleton _, List.forall_mem_singleton.mpr fun _ => rfl, rfl, rfl⟩

/-- The channel is sent as it was loaded. -/
theorem known_oneChannel : ∃ s : State 28 Unit Nat, ∃ o ∈ s.objs,
    s.pc = .idle ∧ s.accepted ≠ [] ∧ (Pending .data2 o ∨ Current 28 .data2 s.latest o.content) := by
  have hinit : Reach (machine 28 Unit Nat) Steady oneChannel := .init init_oneChannel
  have hreach := ((((((hinit.act (.thread true) trivial rfl).act (.thread true) trivial rfl).act
    (.thread true) (fun h => by cases h) rfl).act (.thread true) trivial rfl).act
    (.thread true) trivial rfl).act (.thread true) (fun _ => rfl) rfl)
  exact ⟨_, _, List.mem_cons_self, rfl, List.cons_ne_nil _ _,
    known_or_pending hreach List.mem_cons_self fun h => by cases h⟩

/-- A value that changes between the copy of the channel and the clearing of its mark is missed. -/
theorem change_missed : ∃ s : State 28 Unit Nat, ∃ o ∈ s.objs,
    Reach (machine 28 Unit Nat) Any s ∧ s.pc.building = [] ∧ ¬ Pending .data2 o ∧
      ¬ Current 28 .data2 (told s.accepted) o.content := by
  have hrun : (machine 28 Unit Nat).run oneChannel [.thread true, .thread true, .thread true,
    .changeValue 0 5, .thread true, .thread true, .thread true] = some _ := rfl
  refine ⟨_, _, List.mem_cons_self, Reach.run (.init init_oneChannel) hrun, rfl, ?_, ?_⟩
  · rintro ⟨t, hcovers, hmark⟩
    rcases hcovers with rfl | ⟨rfl, -⟩
    · cases hmark
    · cases hmark
  · intro hcurrent
    cases hcurrent

end Client.Channels
